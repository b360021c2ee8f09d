import ConnectionProfile.Proofs.Json.Ascii
import ConnectionProfile.Proofs.Yaml.Lexing

/-!
# Texts of flow collections

`Lexes` says of a piece of text which tokens it makes, whatever follows it, and from which state of
the lexer to which. Pieces that follow each other make the tokens of both, so a text is lexed along
its structure.
-/

namespace ConnectionProfile.Yaml

namespace Lexer

/-- Some steps lead from one lexer to the other, with a code point consumed for each of them. -/
def Reaches (l m : Lexer) : Prop :=
  ∃ n, n + m.cursor.rest.length ≤ l.cursor.rest.length ∧
    ∀ fuel, run (n + fuel) l = run fuel m

theorem Reaches.refl (l : Lexer) : Reaches l l :=
  ⟨0, by omega, fun fuel => by rw [Nat.zero_add]⟩

theorem Reaches.trans {l m k : Lexer} (h₁ : Reaches l m) (h₂ : Reaches m k) : Reaches l k := by
  obtain ⟨n₁, hn₁, h₁⟩ := h₁
  obtain ⟨n₂, hn₂, h₂⟩ := h₂
  refine ⟨n₁ + n₂, by omega, fun fuel => ?_⟩
  rw [Nat.add_assoc, h₁, h₂]

theorem reaches_of_readNext {l m : Lexer} (h : l.readNext = .ok m) (hm : m.finished = false)
    (hr : m.cursor.rest.length < l.cursor.rest.length) : Reaches l m := by
  refine ⟨1, by omega, fun fuel => ?_⟩
  rw [Nat.add_comm, run, h]
  simp only [hm, Bool.false_eq_true, if_false]

end Lexer

open Lexer

/-- From inside `depth` brackets the piece `t` makes the tokens `ts` and leads to `depth'` brackets.
With `keys` a key may come before it, and with `keys'` after it. -/
def Lexes (depth : Nat) (keys : Bool) (t : Text) (ts : List Token) (depth' : Nat) (keys' : Bool) :
    Prop :=
  ∀ (l : Lexer) (gap rest : Text), l.Open depth keys → IsGap gap →
    l.cursor.rest = gap ++ (t ++ rest) →
    ∃ m gap', Reaches l m ∧ Open depth' keys' m ∧ IsGap gap' ∧ m.cursor.rest = gap' ++ rest ∧
      m.tokens = ts.reverse ++ l.tokens

namespace Lexes

variable {depth depth' depth'' : Nat} {keys keys' keys'' : Bool} {t u : Text} {ts us : List Token}

theorem gap (ht : IsGap t) : Lexes depth keys t [] depth keys := by
  intro l gap rest ho hg h
  exact ⟨l, gap ++ t, .refl l, ho, hg.append ht, by rw [h, List.append_assoc], rfl⟩

theorem append (h₁ : Lexes depth keys t ts depth' keys')
    (h₂ : Lexes depth' keys' u us depth'' keys'') :
    Lexes depth keys (t ++ u) (ts ++ us) depth'' keys'' := by
  intro l gap rest ho hg h
  rw [List.append_assoc] at h
  obtain ⟨m, gap', hr, ho, hg, h, hm⟩ := h₁ l gap (u ++ rest) ho hg h
  obtain ⟨k, gap'', hr', ho, hg, h, hk⟩ := h₂ m gap' rest ho hg h
  refine ⟨k, gap'', hr.trans hr', ho, hg, h, ?_⟩
  rw [hk, hm, List.reverse_append, List.append_assoc]

/-- A code point that is a token. -/
theorem mark {c : CodePoint} {tok : Token} (hc : Starts c)
    (h : ∀ (l : Lexer) (rest : Text), l.Open depth keys → l.cursor.rest = c :: rest →
      ∃ m, l.readAt c = .ok m ∧ Open depth' keys' m ∧ m.cursor = l.cursor.skip 1 ∧
        m.tokens = tok :: l.tokens) :
    Lexes depth keys [c] [tok] depth' keys' := by
  intro l gap rest ho hg hl
  obtain ⟨k, hn, hok, hcursor, htokens, -⟩ := readNext_eq ho hg hc hl
  have hk : k.cursor.rest = c :: rest := by
    rw [hcursor, Cursor.rest_skip, hl, List.drop_left]
    rfl
  obtain ⟨m, hm, hom, hcursor', htokens'⟩ := h k rest hok hk
  have hr : m.cursor.rest = rest := by rw [hcursor', Cursor.rest_skip, hk]; rfl
  refine ⟨m, [], reaches_of_readNext (hn.trans hm) hom.unfinished ?_, hom, isGap_nil, hr,
    by rw [htokens', htokens]; rfl⟩
  rw [hr, hl]
  simp
  omega

theorem openList : Lexes depth keys ['['] [.flowSequenceStart] (depth + 1) true :=
  mark (by constructor <;> decide) fun l rest ho h => by
    rw [(readAt_mark h).1 rfl]
    exact openFlow_ok ho _

theorem openMap : Lexes depth keys ['\x7b'] [.flowMappingStart] (depth + 1) true :=
  mark (by constructor <;> decide) fun l rest ho h => by
    rw [(readAt_mark h).2.1 rfl]
    exact openFlow_ok ho _

theorem closeList : Lexes (depth + 1) keys [']'] [.flowSequenceEnd] depth false :=
  mark (by constructor <;> decide) fun l rest ho h => by
    rw [(readAt_mark h).2.2.1 rfl]
    exact closeFlow_ok ho _

theorem closeMap : Lexes (depth + 1) keys ['\x7d'] [.flowMappingEnd] depth false :=
  mark (by constructor <;> decide) fun l rest ho h => by
    rw [(readAt_mark h).2.2.2.1 rfl]
    exact closeFlow_ok ho _

theorem comma : Lexes depth keys [','] [.flowEntry] depth true :=
  mark (by constructor <;> decide) fun l rest ho h => by
    rw [(readAt_mark h).2.2.2.2.1 rfl]
    exact readComma_ok ho

theorem starts_quote : Starts '"' := by constructor <;> decide

/-- What a quoted text makes of a lexer, with the possible key before it. -/
theorem readNext_quote {l : Lexer} {gap t rest : Text} (ho : l.Open depth keys) (hg : IsGap gap)
    (hl : l.cursor.rest = gap ++ (Json.quote true t ++ rest)) :
    ∃ m, l.readNext = .ok m ∧ Open depth false m ∧ m.cursor.rest = rest ∧
      m.tokens = .scalar (Wide.halves t) false :: l.tokens ∧
      (keys = true → ∃ k, m.key = some k ∧ k.token = l.tokens.length ∧ k.required = false ∧
        k.line = m.cursor.line ∧ m.cursor.index = k.index + (Json.quote true t).length) := by
  have hq := Json.quote_append true t rest
  obtain ⟨k, hn, hok, hcursor, htokens, -⟩ := readNext_eq ho hg starts_quote (hq ▸ hl)
  have hk : k.cursor.rest = Json.quote true t ++ rest := by
    rw [hcursor, Cursor.rest_skip, hl, List.drop_left]
  obtain ⟨key, hr, hom, hkey⟩ := readQuoted_ok hok hk
  refine ⟨_, hn.trans hr, ⟨hom.depth, hom.optional, hom.indent, hom.outer, fun h => (nomatch h),
    hom.unfinished⟩, ?_, by rw [htokens], fun hkeys => ?_⟩
  · simp only [Cursor.rest_skip, hk, List.drop_left]
  · refine ⟨k.keyHere, hkey hkeys, by rw [keyHere, htokens], rfl, ?_, ?_⟩
    · refine (Cursor.line_skip hk fun d hd => ?_).symm
      obtain ⟨hd, hd'⟩ := Json.isVisible_quote t d hd
      have hne : d ≠ '\n' := by rintro rfl; exact absurd hd (by decide)
      simp only [isBreak, Bool.or_eq_false_iff, decide_eq_false_iff_not]
      exact ⟨⟨⟨hne, by omega⟩, by omega⟩, by omega⟩
    · exact Cursor.index_skip (by rw [hk, List.length_append]; omega)

theorem scalar (t : Text) :
    Lexes depth keys (Json.quote true t) [.scalar (Wide.halves t) false] depth false := by
  intro l gap rest ho hg hl
  obtain ⟨m, hn, hom, hr, htokens, -⟩ := readNext_quote ho hg hl
  refine ⟨m, [], reaches_of_readNext hn hom.unfinished ?_, hom, isGap_nil, hr, htokens⟩
  rw [hr, hl, Json.quote_append]
  simp only [List.length_append, List.length_cons]
  omega

/-- A key is on one line, and the colon comes right after it. -/
theorem key {t : Text} (ht : t.isKeyword = true) :
    Lexes (depth + 1) true (Json.quote true t ++ [(':' : CodePoint)])
      [.key, .scalar t false, .value] (depth + 1) false := by
  intro l gap rest ho hg hl
  rw [List.append_assoc] at hl
  obtain ⟨m, hn, hom, hr, htokens, hkey⟩ := readNext_quote ho hg hl
  obtain ⟨k, hk, htoken, hrequired, hline, hindex⟩ := hkey rfl
  obtain ⟨n, hn', hon, hcursor, htokens', hfresh⟩ :=
    readNext_eq (t := []) hom isGap_nil (by constructor <;> decide) hr
  have hnr : n.cursor = m.cursor := hcursor
  have hnk : n.key = some k := by
    have hlength := Json.length_quote ht
    have he : n.isExpired k = false := by
      simp only [isExpired, hnr, hline, hindex, Bool.or_eq_false_iff, decide_eq_false_iff_not]
      exact ⟨fun h => h rfl, by omega⟩
    rw [hfresh, hk, fresh, Option.filter_some, he]
    rfl
  obtain ⟨o, ho', hoo, hocursor, hotokens⟩ :=
    readColon_ok hon hnk (htokens'.trans htokens) htoken
  have hor : o.cursor.rest = rest := by rw [hocursor, Cursor.rest_skip, hnr, hr]; rfl
  have hhalves : Wide.halves t = t := by
    rw [Text.isKeyword, Bool.and_eq_true] at ht
    exact Wide.halves_of_isAscii ht.1
  refine ⟨o, [], (reaches_of_readNext hn hom.unfinished ?_).trans
    (reaches_of_readNext (hn'.trans ?_) hoo.unfinished ?_), hoo, isGap_nil, hor, ?_⟩
  · rw [hr, hl, Json.quote_append]
    simp only [List.length_append, List.length_cons]
    omega
  · rw [readAt_colon hon (by rw [hnr]; exact hr), ho']
  · rw [hor, hr]
    exact Nat.lt_succ_self _
  · rw [hotokens, hhalves]
    rfl

end Lexes

/-- The tokens of a text that is lexed as a whole. -/
theorem tokens_of_lexes {t : Text} {ts : List Token} {keys : Bool}
    (h : Lexes 0 true t ts 0 keys) : tokens t = ts ++ [.streamEnd] := by
  have ho : Open 0 true (Lexer.start t) :=
    ⟨rfl, fun k hk => by simp [Lexer.start] at hk, rfl, rfl, fun _ => rfl, rfl⟩
  obtain ⟨l, gap, ⟨n, hn, hr⟩, hol, hg, hrest, htokens⟩ :=
    h (Lexer.start t) [] [] ho isGap_nil (by rw [List.append_nil]; rfl)
  rw [List.append_nil] at hrest
  obtain ⟨m, hm, hfinished, hmtokens⟩ := readNext_end hol (hrest ▸ hg)
  have hf : t.length + 1 = n + (t.length - n + 1) := by
    have hl : (Lexer.start t).cursor.rest = t := rfl
    rw [hl] at hn
    omega
  rw [tokens, hf, hr, run, hm]
  simp only [hfinished, if_true, hmtokens, htokens]
  simp [Lexer.start]

end ConnectionProfile.Yaml
