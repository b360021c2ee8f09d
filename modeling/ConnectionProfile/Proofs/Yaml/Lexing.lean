import ConnectionProfile.Proofs.Json.Written
import ConnectionProfile.Proofs.Yaml.Quoted
import ConnectionProfile.Yaml.Token.Lexer

/-!
# Steps of the lexer

A lexer is open when it stands at the margin or inside brackets, with no block collection around it
and no place where a key has to be. From there the next token is read without a look at what comes
before it.
-/

namespace ConnectionProfile.Yaml

/-- Spaces and line ends, which separate tokens. -/
def IsGap (t : Text) : Prop := ∀ c ∈ t, c = ' ' ∨ c = '\n'

instance (t : Text) : Decidable (IsGap t) := List.decidableBAll _ t

theorem isGap_nil : IsGap [] := fun _ hc => nomatch hc

theorem IsGap.append {t u : Text} (ht : IsGap t) (hu : IsGap u) : IsGap (t ++ u) := by
  intro c hc
  exact (List.mem_append.1 hc).elim (ht c) (hu c)

-- ---------------------------------------------------------------------------
-- Cursors
-- ---------------------------------------------------------------------------

namespace Cursor

theorem rest_next (c : Cursor) : c.next.rest = c.rest.drop 1 := by
  unfold next
  split
  · rename_i h
    simp [h]
  · rename_i h
    split
    · simp [h]
    · split <;> simp [h]

theorem rest_skip (n : Nat) (c : Cursor) : (c.skip n).rest = c.rest.drop n := by
  induction n generalizing c with
  | zero => rfl
  | succ n ih => rw [skip, ih, rest_next, List.drop_drop, Nat.add_comm]

theorem index_next {c : Cursor} (h : c.rest ≠ []) : c.next.index = c.index + 1 := by
  unfold next
  split
  · contradiction
  · split
    · rfl
    · split <;> rfl

theorem index_skip {n : Nat} {c : Cursor} (h : n ≤ c.rest.length) :
    (c.skip n).index = c.index + n := by
  induction n generalizing c with
  | zero => rfl
  | succ n ih =>
    have hne : c.rest ≠ [] := by
      intro h0
      simp [h0] at h
    rw [skip, ih (by rw [rest_next, List.length_drop]; omega), index_next hne]
    omega

theorem line_skip {t rest : Text} {c : Cursor} (h : c.rest = t ++ rest)
    (ht : ∀ d ∈ t, isBreak d = false) : (c.skip t.length).line = c.line := by
  induction t generalizing c with
  | nil => rfl
  | cons d t ih =>
    have hd := ht d (List.mem_cons_self ..)
    have hn : c.next.line = c.line := by
      unfold next
      rw [h]
      simp only [List.cons_append, hd, Bool.false_eq_true, if_false]
      split <;> rfl
    have hr : c.next.rest = t ++ rest := by rw [rest_next, h]; rfl
    rw [List.length_cons, skip, ih hr fun e he => ht e (List.mem_cons_of_mem _ he), hn]

theorem goTo_eq_skip {t rest : Text} {c : Cursor} (h : c.rest = t ++ rest) :
    c.goTo rest = c.skip t.length := by
  rw [goTo, h, List.length_append, Nat.add_sub_cancel]

end Cursor

namespace Lexer

-- ---------------------------------------------------------------------------
-- Between tokens
-- ---------------------------------------------------------------------------

/-- Inside `depth` brackets. With `keys` a key may come next. -/
structure Open (depth : Nat) (keys : Bool) (l : Lexer) : Prop where
  depth : l.outerKeys.length = depth
  optional : ∀ k, some k ∈ l.key :: l.outerKeys → k.required = false
  indent : l.indent = -1
  outer : l.outer = []
  keyAllowed : keys = true → l.keyAllowed = true
  unfinished : l.finished = false

/-- A code point that starts a token: neither blank nor break, nor the start of a comment. -/
structure Starts (c : CodePoint) : Prop where
  notBreak : isBreak c = false
  notSpace : c ≠ ' '
  notComment : c ≠ '#'
  notMark : c ≠ byteOrderMark

theorem gap_of_starts {c : CodePoint} {t : Text} (h : Starts c) :
    gap false (c :: t) = (0, false) := by
  simp [gap, h.notBreak, h.notSpace, h.notComment]

theorem gap_append {t u : Text} (ht : IsGap t) (hu : gap false u = (0, false)) :
    (gap false (t ++ u)).1 = t.length := by
  induction t with
  | nil => rw [List.nil_append, hu]; rfl
  | cons c t ih =>
    have ih := ih fun d hd => ht d (List.mem_cons_of_mem _ hd)
    obtain rfl | rfl := ht c (List.mem_cons_self ..)
    · simp +decide [gap, ih]
    · have hb : isBreak '\n' = true := by decide
      simp [gap, hb, ih]

section
variable {depth : Nat} {keys : Bool} {l : Lexer} {t u rest : Text}

theorem skipGap_eq (h : l.cursor.rest = t ++ u) (ht : IsGap t) (hu : gap false u = (0, false))
    (hm : u.head? ≠ some byteOrderMark) :
    ∃ b, l.skipGap =
      { l with cursor := l.cursor.skip t.length, keyAllowed := l.keyAllowed || b } := by
  have hp : l.cursor.peek ≠ some byteOrderMark := by
    rw [Cursor.peek, h]
    cases t with
    | nil => exact hm
    | cons c t =>
      intro hc
      cases hc
      exact absurd (ht _ (List.mem_cons_self ..)) (by decide)
  unfold skipGap
  simp only [hp, and_false, if_false, h, gap_append ht hu]
  exact ⟨_, rfl⟩

theorem Open.fresh (ho : l.Open depth keys) :
    Open depth keys { l with key := l.fresh l.key, outerKeys := l.outerKeys.map l.fresh } where
  depth := by rw [List.length_map, ho.depth]
  optional k hk := by
    apply ho.optional k
    rcases List.mem_cons.1 hk with hk | hk
    · rw [(Option.filter_eq_some_iff.1 hk.symm).1]
      exact List.mem_cons_self ..
    · obtain ⟨key, hkey, hk⟩ := List.mem_map.1 hk
      rw [(Option.filter_eq_some_iff.1 hk).1] at hkey
      exact List.mem_cons_of_mem _ hkey
  indent := ho.indent
  outer := ho.outer
  keyAllowed := ho.keyAllowed
  unfinished := ho.unfinished

theorem expireKeys_ok (ho : l.Open depth keys) :
    l.expireKeys =
      .ok { l with key := l.fresh l.key, outerKeys := l.outerKeys.map l.fresh } := by
  rw [expireKeys, if_neg]
  simp only [List.any_eq_true, Option.any_eq_true, Bool.and_eq_true, not_exists, not_and]
  intro key hkey k hk _ hr
  subst hk
  rw [ho.optional k hkey] at hr
  cases hr

theorem closeDeeper_eq (ho : l.Open depth keys) (column : Int) : l.closeDeeper column = l := by
  rw [closeDeeper, ho.outer, closeBlocks, ite_self]

/-- The next token is read behind the gap. -/
theorem readNext_of_gap (ho : l.Open depth keys) (ht : IsGap t) (hu : gap false u = (0, false))
    (hm : u.head? ≠ some byteOrderMark) (h : l.cursor.rest = t ++ u) :
    ∃ m, l.readNext = (match u with | [] => m.endStream | c :: _ => m.readAt c) ∧
      Open depth keys m ∧ m.cursor = l.cursor.skip t.length ∧ m.tokens = l.tokens ∧
      m.key = m.fresh l.key := by
  obtain ⟨b, hs⟩ := skipGap_eq h ht hu hm
  have hos : l.skipGap.Open depth keys := by
    rw [hs]
    exact ⟨ho.depth, ho.optional, ho.indent, ho.outer, fun hk => by simp [ho.keyAllowed hk],
      ho.unfinished⟩
  refine ⟨_, ?_, hos.fresh, by rw [hs], by rw [hs], by rw [hs]; rfl⟩
  have hp : l.skipGap.cursor.peek = u.head? := by
    simp [hs, Cursor.peek, Cursor.rest_skip, h]
  rw [readNext, expireKeys_ok hos]
  dsimp only [bind, Except.bind]
  -- Inside brackets the indentation closes nothing.
  rw [closeDeeper_eq hos.fresh]
  cases u <;> simp only [hp, List.head?_nil, List.head?_cons]

/-- Where a token starts it is read by its first code point. -/
theorem readNext_eq {c : CodePoint} (ho : l.Open depth keys) (ht : IsGap t) (hc : Starts c)
    (h : l.cursor.rest = t ++ c :: u) :
    ∃ m, l.readNext = m.readAt c ∧ Open depth keys m ∧ m.cursor = l.cursor.skip t.length ∧
      m.tokens = l.tokens ∧ m.key = m.fresh l.key :=
  readNext_of_gap ho ht (gap_of_starts hc) (by simpa using hc.notMark) h

end

-- ---------------------------------------------------------------------------
-- Keys and brackets
-- ---------------------------------------------------------------------------

section
variable {depth : Nat} {keys : Bool} {l : Lexer} {c : CodePoint} {rest : Text}

theorem clearKey_ok (ho : l.Open depth keys) :
    l.clearKey = .ok { l with key := none } ∧ Open depth keys { l with key := none } := by
  constructor
  · rw [clearKey, if_neg]
    intro h
    obtain ⟨k, hk, hr⟩ := (Option.any_eq_true ..).1 h
    rw [ho.optional k (by rw [hk]; exact List.mem_cons_self ..)] at hr
    cases hr
  · refine ⟨ho.depth, fun k hk => ho.optional k ?_, ho.indent, ho.outer, ho.keyAllowed,
      ho.unfinished⟩
    rcases List.mem_cons.1 hk with hk | hk
    · cases hk
    · exact List.mem_cons_of_mem _ hk

/-- A key that starts here, where none has to be. -/
def keyHere (l : Lexer) : KeyStart :=
  ⟨l.tokens.length, false, l.cursor.index, l.cursor.line, l.cursor.column⟩

theorem markKey_ok (ho : l.Open depth keys) :
    ∃ key, l.markKey = .ok { l with key } ∧ Open depth keys { l with key } ∧
      (keys = true → key = some l.keyHere) := by
  unfold markKey
  split
  case isTrue =>
    have hr : (!l.inFlow && decide (l.indent = (l.cursor.column : Int))) = false := by
      rw [ho.indent]
      simp
    obtain ⟨hc, hoc⟩ := clearKey_ok ho
    refine ⟨some l.keyHere, ?_, ?_, fun _ => rfl⟩
    · simp only [hc, hr]
      rfl
    · refine ⟨hoc.depth, fun k hk => ?_, hoc.indent, hoc.outer, hoc.keyAllowed, hoc.unfinished⟩
      rcases List.mem_cons.1 hk with hk | hk
      · cases hk
        rfl
      · exact hoc.optional k (List.mem_cons_of_mem _ hk)
  case isFalse h =>
    exact ⟨l.key, rfl, ho, fun hk => absurd (ho.keyAllowed hk) h⟩

theorem Open.inFlow (ho : l.Open (depth + 1) keys) : l.inFlow = true := by
  have hd := ho.depth
  cases hk : l.outerKeys with
  | nil =>
    rw [hk] at hd
    cases hd
  | cons _ _ => simp [Lexer.inFlow, hk]

theorem openFlow_ok (ho : l.Open depth keys) (tok : Token) :
    ∃ m, l.openFlow tok = .ok m ∧ Open (depth + 1) true m ∧ m.cursor = l.cursor.skip 1 ∧
      m.tokens = tok :: l.tokens := by
  obtain ⟨key, hm, ho, -⟩ := markKey_ok ho
  unfold openFlow
  rw [hm]
  refine ⟨_, rfl, ⟨?_, fun k hk => ?_, ho.indent, ho.outer, fun _ => rfl, ho.unfinished⟩, rfl, rfl⟩
  · exact congrArg (· + 1) ho.depth
  · rcases List.mem_cons.1 hk with hk | hk
    · cases hk
    · exact ho.optional k hk

theorem closeFlow_ok (ho : l.Open (depth + 1) keys) (tok : Token) :
    ∃ m, l.closeFlow tok = .ok m ∧ Open depth false m ∧ m.cursor = l.cursor.skip 1 ∧
      m.tokens = tok :: l.tokens := by
  obtain ⟨hc, ho⟩ := clearKey_ok ho
  have hd := ho.depth
  unfold closeFlow
  rw [hc]
  cases hk : l.outerKeys with
  | nil =>
    simp only [hk] at hd
    cases hd
  | cons key outerKeys =>
    simp only [hk, List.length_cons, Nat.add_right_cancel_iff] at hd
    refine ⟨{ l.take 1 tok with key, outerKeys, keyAllowed := false }, rfl, ⟨hd, fun k hmem => ?_,
      ho.indent, ho.outer, fun h => (nomatch h), ho.unfinished⟩, rfl, rfl⟩
    exact ho.optional k (List.mem_cons_of_mem _ (by rw [hk]; exact hmem))

theorem readComma_ok (ho : l.Open depth keys) :
    ∃ m, l.readComma = .ok m ∧ Open depth true m ∧ m.cursor = l.cursor.skip 1 ∧
      m.tokens = .flowEntry :: l.tokens := by
  obtain ⟨hc, ho⟩ := clearKey_ok ho
  unfold readComma
  rw [hc]
  exact ⟨_, rfl, ⟨ho.depth, ho.optional, ho.indent, ho.outer, fun _ => rfl, ho.unfinished⟩,
    rfl, rfl⟩

theorem isIndicator_of_ne {mark : CodePoint} (h : c ≠ mark) (t : Text) :
    isIndicator mark (c :: t) = false := by
  unfold isIndicator
  split
  · rename_i hc
    cases hc
    simp [h]
  · rfl

/-- What starts with a mark of flow collections is read by the mark alone. -/
theorem readAt_mark (h : l.cursor.rest = c :: rest) :
    (c = '[' → l.readAt c = l.openFlow .flowSequenceStart) ∧
      (c = '\x7b' → l.readAt c = l.openFlow .flowMappingStart) ∧
      (c = ']' → l.readAt c = l.closeFlow .flowSequenceEnd) ∧
      (c = '\x7d' → l.readAt c = l.closeFlow .flowMappingEnd) ∧
      (c = ',' → l.readAt c = l.readComma) ∧
      (c = '"' → l.readAt c = l.readWord (readQuoted true)) := by
  refine ⟨?_, ?_, ?_, ?_, ?_, ?_⟩ <;> rintro rfl <;>
    simp +decide [readAt, h, isIndicator_of_ne]

/-- Inside brackets a colon needs no gap after it. -/
theorem readAt_colon (ho : l.Open (depth + 1) keys)
    (h : l.cursor.rest = (':' : CodePoint) :: rest) :
    l.readAt ':' = l.readColon := by
  simp +decide [readAt, h, isIndicator_of_ne, ho.inFlow]

/-- The ASCII form of a text between quotation marks is one scalar. -/
theorem readQuoted_ok (ho : l.Open depth keys) {t : Text}
    (h : l.cursor.rest = Json.quote true t ++ rest) :
    ∃ key, l.readAt '"' = .ok
        { l with key, cursor := l.cursor.skip (Json.quote true t).length,
                 tokens := .scalar (Wide.halves t) false :: l.tokens, keyAllowed := false } ∧
      Open depth keys { l with key } ∧ (keys = true → key = some l.keyHere) := by
  obtain ⟨key, hm, hok, hk⟩ := markKey_ok ho
  have hq := h.trans (Json.quote_append true t rest)
  have hr : readQuoted true l.cursor.rest = .ok (.scalar (Wide.halves t) false, rest) := by
    rw [readQuoted, hq, List.drop_one, List.tail_cons, Quoting.read_quoted]
    rfl
  refine ⟨key, ?_, hok, hk⟩
  rw [(readAt_mark hq).2.2.2.2.2 rfl, readWord, hm]
  dsimp only [bind, Except.bind]
  rw [hr, ← Cursor.goTo_eq_skip h]
  rfl

/-- A colon after a possible key makes it one. -/
theorem readColon_ok (ho : l.Open (depth + 1) keys) {k : KeyStart} {tok : Token}
    {before : List Token} (hk : l.key = some k) (ht : l.tokens = tok :: before)
    (hb : k.token = before.length) :
    ∃ m, l.readColon = .ok m ∧ Open (depth + 1) false m ∧ m.cursor = l.cursor.skip 1 ∧
      m.tokens = .value :: tok :: .key :: before := by
  have hs : before.length + 1 - k.token = 1 := by omega
  have hi : l.insertKey k =
      { l with tokens := tok :: .key :: before, key := none, keyAllowed := false } := by
    simp [insertKey, ho.inFlow, hs, ht]
  refine ⟨(l.insertKey k).take 1 .value, by rw [readColon, hk], ?_, ?_, ?_⟩
  · rw [hi]
    refine ⟨ho.depth, fun k hk => ho.optional k ?_, ho.indent, ho.outer, fun h => (nomatch h),
      ho.unfinished⟩
    rcases List.mem_cons.1 hk with hk | hk
    · cases hk
    · exact List.mem_cons_of_mem _ hk
  · rw [hi]
    rfl
  · rw [hi]
    rfl

/-- The end of the text is a token of its own. -/
theorem readNext_end (ho : l.Open depth keys) (h : IsGap l.cursor.rest) :
    ∃ m, l.readNext = .ok m ∧ m.finished = true ∧ m.tokens = .streamEnd :: l.tokens := by
  obtain ⟨m, hn, hom, -, htokens, -⟩ :=
    readNext_of_gap ho h (u := []) rfl (fun h => (nomatch h)) (List.append_nil _).symm
  obtain ⟨hc, -⟩ := clearKey_ok hom
  have he : m.endStream = .ok
      { m.push .streamEnd with key := none, keyAllowed := false, finished := true } := by
    simp only [endStream, closeDeeper_eq hom, hc]
    rfl
  exact ⟨_, hn.trans he, rfl, congrArg (Token.streamEnd :: ·) htokens⟩

end

end Lexer

end ConnectionProfile.Yaml
