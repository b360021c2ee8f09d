import ConnectionProfile.Json.Printer
import ConnectionProfile.Proofs.Text.Wide

/-!
# Escapes of code points

Between quotation marks a code point is written in one of a few forms. `escaped_escapeOne` says
which they are and when each is taken, so that proofs about quoted texts split along them.
-/

namespace ConnectionProfile.Json

/-- The code points with an escape of their own, and the letter of the escape. -/
def shortEscapes : List (CodePoint × CodePoint) :=
  [('"', '"'), ('\\', '\\'), ('\n', 'n'), ('\r', 'r'), ('\t', 't'), ('\x0C', 'f'), ('\x08', 'b')]

theorem lt_of_mem_shortEscapes {c e : CodePoint} (h : (c, e) ∈ shortEscapes) : c.val < 0x7F := by
  have hv : shortEscapes.all (fun p => p.1.val < 0x7F) = true := rfl
  exact of_decide_eq_true (List.all_eq_true.1 hv _ h)

/-- The forms of a code point. -/
inductive Escaped (ascii : Bool) (c : CodePoint) : Text → Prop
  | short {e : CodePoint} (h : (c, e) ∈ shortEscapes) : Escaped ascii c ['\\', e]
  | control (h : c.val < 0x20) (hs : ∀ p ∈ shortEscapes, c ≠ p.1) :
      Escaped ascii c (escapeUnit c.val)
  | unit (ha : ascii = true) (h : 0x7F ≤ c.val) (hl : c.val < 0x10000) :
      Escaped ascii c (escapeUnit c.val)
  | pair (ha : ascii = true) (h : 0x10000 ≤ c.val) :
      Escaped ascii c (escapeUnit (Wide.high c).val ++ escapeUnit (Wide.low c).val)
  | plain (h : 0x20 ≤ c.val) (ha : ascii = true → c.val < 0x7F)
      (hs : ∀ p ∈ shortEscapes, c ≠ p.1) : Escaped ascii c [c]

theorem escaped_escapeOne (ascii : Bool) (c : CodePoint) :
    Escaped ascii c (escapeOne ascii c) := by
  unfold escapeOne
  split
  case isTrue h => rcases h with rfl | rfl <;> exact .short (by decide)
  iterate 5
    split
    case isTrue h => subst h; exact .short (by decide)
  rename_i hq hn hr ht hf hb
  have hs : ∀ p ∈ shortEscapes, c ≠ p.1 := by
    rw [not_or] at hq
    simp [shortEscapes, hq, hn, hr, ht, hf, hb]
  split
  case isTrue h => exact .control h hs
  split
  case isTrue h =>
    split
    case isTrue hl => exact .unit h.1 h.2 hl
    case isFalse hl => exact .pair h.1 (by omega)
  case isFalse hc h => exact .plain (by omega) (fun ha => Nat.lt_of_not_le fun hl => h ⟨ha, hl⟩) hs

end ConnectionProfile.Json
