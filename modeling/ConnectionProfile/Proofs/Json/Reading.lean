import ConnectionProfile.Json.Encoding
import ConnectionProfile.Json.Reader
import ConnectionProfile.Proofs.Json.Layout
import ConnectionProfile.Proofs.Json.Quoted
import ConnectionProfile.Proofs.Json.Written
import ConnectionProfile.Proofs.Text.Utf8

/-!
# Documents read back

A reader that comes to a written document goes on behind it with the value complete. The layout may
put blanks anywhere between the tokens: blanks are no tokens, and so the reader does not see them.
-/

namespace ConnectionProfile.Json

-- ---------------------------------------------------------------------------
-- Tokens
-- ---------------------------------------------------------------------------

section
variable {c : CodePoint} {rest : Text}

theorem tokens_space (h : isSpace c = true) : tokens (c :: rest) = tokens rest := by
  rw [tokens, if_pos h]

theorem tokens_spaces {t : Text} (h : IsSpaces t) : tokens (t ++ rest) = tokens rest := by
  induction t with
  | nil => rfl
  | cons c t ih =>
    rw [List.cons_append, tokens_space (h c (List.mem_cons_self ..)),
      ih fun d hd => h d (List.mem_cons_of_mem _ hd)]

theorem tokens_mark {m : Token} (hs : isSpace c = false) (h : mark? c = some m) :
    tokens (c :: rest) = m :: tokens rest := by
  rw [tokens, if_neg (by simp [hs]), lexeme, h]

theorem tokens_openList (rest : Text) : tokens ("[" ++ rest) = .openList :: tokens rest :=
  tokens_mark rfl rfl

theorem tokens_closeList (rest : Text) : tokens ("]" ++ rest) = .closeList :: tokens rest :=
  tokens_mark rfl rfl

theorem tokens_openMap (rest : Text) : tokens ("\x7b" ++ rest) = .openMap :: tokens rest :=
  tokens_mark rfl rfl

theorem tokens_closeMap (rest : Text) : tokens ("\x7d" ++ rest) = .closeMap :: tokens rest :=
  tokens_mark rfl rfl

theorem tokens_comma (rest : Text) : tokens ("," ++ rest) = .comma :: tokens rest :=
  tokens_mark rfl rfl

theorem tokens_colon (rest : Text) : tokens (":" ++ rest) = .colon :: tokens rest :=
  tokens_mark rfl rfl

theorem tokens_quote (ascii : Bool) (t rest : Text) :
    tokens (quote ascii t ++ rest) = .text (readText ascii t) :: tokens rest := by
  obtain ⟨ps, hp, hj⟩ := pieces?_quoted ascii t rest
  have hm : mark? '"' = none := by decide
  rw [quote_append, tokens, if_neg (by decide), lexeme, hm]
  simp only [if_true, hp, hj]

theorem tokens_null (rest : Text) : tokens ("null" ++ rest) = .scalar .null :: tokens rest := by
  have hn : ("null" ++ rest : Text) = ('n' : CodePoint) :: ("ull" ++ rest) := rfl
  have ha : Text.after? ("null" ++ rest) "null" = some rest := Text.after?_eq_some.2 rfl
  have hw : word? ("null" ++ rest) = some (.null, rest) := by
    simp only [word?, words, List.findSome?_cons, ha, Option.map_some]
  have hm : mark? 'n' = none := by decide
  rw [hn] at hw
  rw [hn, tokens, if_neg (by decide), lexeme, hm, hw]
  simp only [if_neg (show ¬('n' : CodePoint) = '"' by decide)]

end

/-- A written value does not start like the end of a list. -/
theorem tokens_write (layout : Layout) (depth : Nat) (v : Value) (rest : Text) :
    ∃ m ms, tokens (write layout depth v ++ rest) = m :: ms ∧ m ≠ .closeList := by
  unfold write
  split
  · exact ⟨_, _, tokens_quote .., by simp⟩
  · exact ⟨_, _, tokens_openList ("]" ++ rest), by simp⟩
  · simp only [Layout.enclose, List.append_assoc]
    exact ⟨_, _, tokens_openList _, by simp⟩
  · exact ⟨_, _, tokens_openMap ("\x7d" ++ rest), by simp⟩
  · simp only [Layout.enclose, List.append_assoc]
    exact ⟨_, _, tokens_openMap _, by simp⟩
  · exact ⟨_, _, tokens_null rest, by simp⟩

-- ---------------------------------------------------------------------------
-- Runs of a reader
-- ---------------------------------------------------------------------------

namespace Reader

def run (r : Reader) (t : Text) : Except ReadError Reader := (tokens t).foldlM step r

theorem run_spaces {r : Reader} {t rest : Text} (h : IsSpaces t) :
    r.run (t ++ rest) = r.run rest := by
  rw [run, tokens_spaces h, run]

theorem run_of_tokens {r s : Reader} {m : Token} {t rest : Text}
    (ht : tokens t = m :: tokens rest) (hs : r.step m = .ok s) : r.run t = s.run rest := by
  rw [run, ht, List.foldlM_cons, hs]
  rfl

theorem run_mark {r s : Reader} {c : CodePoint} {m : Token} {rest : Text}
    (hc : isSpace c = false ∧ mark? c = some m) (hs : r.step m = .ok s) :
    r.run (c :: rest) = s.run rest := run_of_tokens (tokens_mark hc.1 hc.2) hs

theorem run_spacedMark {r s : Reader} {c : CodePoint} {m : Token} {t rest : Text}
    (ht : IsSpacedMark c t) (hc : isSpace c = false ∧ mark? c = some m) (hs : r.step m = .ok s) :
    r.run (t ++ rest) = s.run rest := by
  obtain ⟨before, after, rfl, hb, ha⟩ := ht
  rw [List.append_assoc, run_spaces hb, List.cons_append, run_mark hc hs, run_spaces ha]

/-- The first item of a list is read like any other value. -/
theorem run_firstItem (layout : Layout) (depth : Nat) (v : Value) (fs : List Frame) (rest : Text) :
    run (.firstItem fs) (write layout depth v ++ rest) =
      run (.value (.items [] :: fs)) (write layout depth v ++ rest) := by
  obtain ⟨m, ms, ht, hm⟩ := tokens_write layout depth v rest
  have hs : step (.firstItem fs) m = step (.value (.items [] :: fs)) m := by
    cases m with
    | closeList => exact absurd rfl hm
    | _ => rfl
  rw [run, run, ht, List.foldlM_cons, List.foldlM_cons, hs]

end Reader

theorem readText_of_isKeyword {t : Text} (ascii : Bool) (h : t.isKeyword = true) :
    readText ascii t = t := by
  rw [Text.isKeyword, Bool.and_eq_true] at h
  cases ascii with
  | true => exact Wide.joinPairs_of_isAscii h.1
  | false => rfl

theorem readText_of_isUnicode {t : Text} (ascii : Bool) (h : t.isUnicode = true) :
    readText ascii t = t := by
  cases ascii with
  | true => exact Wide.joinPairs_of_isUnicode h
  | false => rfl

theorem tokens_key {t : Text} (ascii : Bool) (h : t.isKeyword = true) (rest : Text) :
    tokens (quote ascii (Value.text t).plain ++ rest) = .text t :: tokens rest := by
  rw [Value.plain, tokens_quote, readText_of_isKeyword ascii h]

-- ---------------------------------------------------------------------------
-- Documents
-- ---------------------------------------------------------------------------

section
variable {nulls : Bool} {layout : Layout}

open Reader (run run_mark run_spaces run_spacedMark run_firstItem run_of_tokens)

mutual
theorem run_write (hl : layout.IsSpaced) : (v : Value) → v.IsDocument nulls →
    ∀ (depth : Nat) (fs : List Frame) (rest : Text),
      run (.value fs) (write layout depth v ++ rest) =
        run (.complete (v.mapTexts (readText layout.ascii)) fs) rest
  | .null, _, _, _, rest => run_of_tokens (tokens_null rest) rfl
  | .text t, _, _, _, rest => run_of_tokens (tokens_quote layout.ascii t rest) rfl
  | .list [], _, _, _, rest => by
    change run _ (('[' : CodePoint) :: ((']' : CodePoint) :: rest)) = _
    rw [run_mark (m := .openList) ⟨rfl, rfl⟩ rfl, run_mark (m := .closeList) ⟨rfl, rfl⟩ rfl]
    rfl
  | .list (x :: xs), h, depth, fs, rest => by
    change run _ (layout.enclose depth ['['] [']']
      (writeItems layout (depth + 1) (x :: xs)) ++ rest) = _
    rw [writeItems, enclose_cons, List.cons_append, List.append_assoc, List.append_assoc,
      List.append_assoc, run_mark (m := .openList) ⟨rfl, rfl⟩ rfl,
      run_spaces (hl.newline _), run_firstItem, run_write hl x h.1,
      run_writeItems hl xs h.2 _ (hl.separator _) (hl.finish _ _)]
    rfl
  | .map [], _, _, _, rest => by
    change run _ (('\x7b' : CodePoint) :: (('\x7d' : CodePoint) :: rest)) = _
    rw [run_mark (m := .openMap) ⟨rfl, rfl⟩ rfl, run_mark (m := .closeMap) ⟨rfl, rfl⟩ rfl]
    rfl
  | .map ((k, v) :: es), h, depth, fs, rest => by
    obtain ⟨hn, ⟨t, rfl, ht⟩, hv, hes⟩ := h
    change run _ (layout.enclose depth ['\x7b'] ['\x7d']
      (writeMembers layout (depth + 1) ((_, v) :: es)) ++ rest) = _
    rw [writeMembers, enclose_cons, List.cons_append, List.append_assoc, List.append_assoc,
      List.append_assoc, run_mark (m := .openMap) ⟨rfl, rfl⟩ rfl,
      run_spaces (hl.newline _), List.append_assoc, List.append_assoc,
      run_of_tokens (tokens_key _ ht _) rfl, run_spacedMark hl.key (m := .colon) ⟨rfl, rfl⟩ rfl,
      run_write hl v hv, run_writeMembers hl es hes _ (hl.separator _) (hl.finish _ _) _ _ [] _ _
        (by simpa [Entries.keys] using hn)]
    rfl

theorem run_writeItems (hl : layout.IsSpaced) : (xs : List Value) →
    Value.AreDocuments nulls xs → ∀ (depth : Nat) {sep finish : Text}, IsSpacedMark ',' sep →
      IsSpacedMark ']' finish → ∀ (x : Value) (before : List Value) (fs : List Frame) (rest : Text),
        run (.complete x (.items before :: fs))
            ((writeItems layout depth xs).flatMap (sep ++ ·) ++ (finish ++ rest)) =
          run (.complete (.list (before.reverse ++
            x :: Value.mapTextsItems (readText layout.ascii) xs)) fs) rest
  | [], _, _, _, _, _, hf, x, before, fs, rest => by
    rw [writeItems, List.flatMap_nil, List.nil_append, Value.mapTextsItems]
    apply run_spacedMark hf (m := .closeList) ⟨rfl, rfl⟩
    rw [Reader.step, List.reverse_cons]
  | y :: xs, h, depth, sep, finish, hs, hf, x, before, fs, rest => by
    rw [writeItems, List.flatMap_cons, List.append_assoc, List.append_assoc,
      run_spacedMark hs (m := .comma) ⟨rfl, rfl⟩ rfl, run_write hl y h.1,
      run_writeItems hl xs h.2 depth hs hf, List.reverse_cons, List.append_assoc]
    rfl

theorem run_writeMembers (hl : layout.IsSpaced) : (es : List Entry) →
    Value.AreMembers nulls es → ∀ (depth : Nat) {sep finish : Text}, IsSpacedMark ',' sep →
      IsSpacedMark '\x7d' finish → ∀ (k : Text) (v : Value) (before : List Entry)
        (fs : List Frame) (rest : Text), (Entries.keys (before ++ (.text k, v) :: es)).Nodup →
          run (.complete v (.members before k :: fs))
              ((writeMembers layout depth es).flatMap (sep ++ ·) ++ (finish ++ rest)) =
            run (.complete (.map (before ++
              (.text k, v) :: Value.mapTextsMembers (readText layout.ascii) es)) fs) rest
  | [], _, _, _, _, _, hf, k, v, before, fs, rest, hn => by
    have hk := Entries.notMem_keys_of_nodup hn
    rw [writeMembers, List.flatMap_nil, List.nil_append, Value.mapTextsMembers]
    apply run_spacedMark hf (m := .closeMap) ⟨rfl, rfl⟩
    rw [Reader.step, Entries.putText_of_notMem hk]
  | (l, w) :: es, h, depth, sep, finish, hs, hf, k, v, before, fs, rest, hn => by
    obtain ⟨⟨t, rfl, ht⟩, hw, hes⟩ := h
    have hk := Entries.notMem_keys_of_nodup hn
    rw [writeMembers, List.flatMap_cons]
    simp only [List.append_assoc]
    rw [run_spacedMark hs (m := .comma) ⟨rfl, rfl⟩ rfl, run_of_tokens (tokens_key _ ht _) rfl,
      run_spacedMark hl.key (m := .colon) ⟨rfl, rfl⟩ rfl, run_write hl w hw,
      Entries.putText_of_notMem hk,
      run_writeMembers hl es hes depth hs hf _ _ _ _ _ (by simpa [Entries.keys] using hn),
      List.append_assoc]
    rfl
end

/-- Reading gives back what was written, with its texts as a reader sees them. Blanks may follow. -/
theorem read_write_spaces (hl : layout.IsSpaced) {v : Value} (hv : v.IsDocument nulls) (depth : Nat)
    {gap : Text} (hg : IsSpaces gap) :
    read (write layout depth v ++ gap) = .ok (v.mapTexts (readText layout.ascii)) := by
  have h := run_write hl v hv depth [] gap
  have hr : read (write layout depth v ++ gap) =
      run (.value []) (write layout depth v ++ gap) >>= Reader.result := rfl
  have he : tokens gap = [] := by rw [← List.append_nil gap, tokens_spaces hg, tokens]
  rw [hr, h, run, he]
  rfl

theorem read_write (hl : layout.IsSpaced) {v : Value} (hv : v.IsDocument nulls) (depth : Nat) :
    read (write layout depth v) = .ok (v.mapTexts (readText layout.ascii)) := by
  rw [← List.append_nil (write layout depth v)]
  exact read_write_spaces hl hv depth fun _ hc => nomatch hc

end

-- ---------------------------------------------------------------------------
-- Octets
-- ---------------------------------------------------------------------------

/-- No byte order mark starts in ASCII, and only the eight bit encoding has no zeros there. -/
theorem detect_of_ascii {a b : UInt8} (bs : Octets) (ha : a ≠ 0 ∧ a < 0x80) (hb : b ≠ 0) :
    Encoding.detect (a :: b :: bs) = (.utf8, a :: b :: bs) := by
  have hz : Encoding.ofZeros (a :: b :: bs) = .utf8 := by
    rcases bs with _ | ⟨c, _ | ⟨d, bs⟩⟩ <;> simp [Encoding.ofZeros, ha.1, hb]
  have hm : ∀ mark ∈ Encoding.marks, ¬mark.1.isPrefixOf (a :: b :: bs) = true := by
    have h0 : (0 : UInt8) ≠ a := Ne.symm ha.1
    have h1 : (0xFE : UInt8) ≠ a := by rintro rfl; exact absurd ha.2 (by decide)
    have h2 : (0xFF : UInt8) ≠ a := by rintro rfl; exact absurd ha.2 (by decide)
    have h3 : (0xEF : UInt8) ≠ a := by rintro rfl; exact absurd ha.2 (by decide)
    simp [Encoding.marks, h0, h1, h2, h3]
  unfold Encoding.detect
  rw [List.find?_eq_none.2 hm, hz]

theorem encodeOne_of_isAscii {c : CodePoint} (h : c.isAscii = true) :
    Utf8.encodeOne c = [c.val.toUInt8] := by
  rw [Utf8.encodeOne]
  exact if_pos (by simpa [CodePoint.isAscii] using h)

/-- A text that starts in ASCII is read back from its octets. -/
theorem textOfOctets?_encode? {c d : CodePoint} {t : Text} {bs : Octets}
    (hc : c.isAscii = true ∧ c ≠ 0) (hd : d.isAscii = true ∧ d ≠ 0)
    (h : Utf8.encode? (c :: d :: t) = some bs) : textOfOctets? bs = some (c :: d :: t) := by
  have hu := Utf8.decode?_encode? h .passed
  unfold Utf8.encode? at h
  split at h
  case isFalse => cases h
  case isTrue =>
    cases h
    rw [List.flatMap_cons, List.flatMap_cons, encodeOne_of_isAscii hc.1,
      encodeOne_of_isAscii hd.1] at hu ⊢
    have hn {e : CodePoint} (he : e.isAscii = true ∧ e ≠ 0) :
        e.val.toUInt8 ≠ 0 ∧ e.val.toUInt8 < 0x80 := by
      have hlt : e.val < 0x80 := by simpa [CodePoint.isAscii] using he.1
      have h0 : e.val ≠ 0 := fun h0 => he.2 (Fin.ext h0)
      have hv : e.val.toUInt8.toNat = e.val := Utf8.toNat_toUInt8 (by omega)
      refine ⟨fun hz => h0 ?_, UInt8.lt_iff_toNat_lt.2 (by rw [hv]; exact hlt)⟩
      rw [← hv, hz]
      rfl
    have hb := detect_of_ascii (t.flatMap Utf8.encodeOne) (hn hc) (hn hd).1
    simp only [List.cons_append, List.nil_append] at hu ⊢
    simp only [textOfOctets?, hb, Encoding.decode?, hu]

/-- A written mapping that is not empty starts with its brace and a second ASCII character. -/
theorem write_map_start (layout : Layout) (depth : Nat) {es : List Entry} (h : es ≠ []) :
    ∃ d t, write layout depth (.map es) = ('\x7b' : CodePoint) :: d :: t ∧
      d.isAscii = true ∧ d ≠ 0 := by
  obtain ⟨⟨k, v⟩, es, rfl⟩ := List.exists_cons_of_ne_nil h
  have he := enclose_cons layout depth '\x7b' '\x7d'
    (quote layout.ascii k.plain ++ layout.keySeparator ++ write layout (depth + 1) v)
    (writeMembers layout (depth + 1) es)
  have hw : write layout depth (.map ((k, v) :: es)) = layout.enclose depth ['\x7b'] ['\x7d']
      (writeMembers layout (depth + 1) ((k, v) :: es)) := rfl
  rw [hw, writeMembers, he]
  cases hi : layout.indent with
  | none =>
    have hn : layout.newline (depth + 1) = [] := by rw [Layout.newline, hi]
    rw [hn]
    exact ⟨'"', _, rfl, rfl, by decide⟩
  | some step =>
    have hn : layout.newline (depth + 1) =
        ('\n' : CodePoint) :: (List.replicate (depth + 1) step).flatten := by
      rw [Layout.newline, hi]
      rfl
    rw [hn]
    exact ⟨'\n', _, rfl, rfl, by decide⟩

end ConnectionProfile.Json
