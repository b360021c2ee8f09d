import ConnectionProfile.Number.Numeral
import Mathlib.Algebra.Group.Nat.Defs

/-!
# Digits in base sixteen
-/

namespace ConnectionProfile

theorem CodePoint.digitValue?_digitChar :
    ∀ n < 16, (CodePoint.ofChar (Nat.digitChar n)).digitValue? = some n := by
  decide

namespace Text

theorem hex_four (n : Nat) : hex 4 n =
    [CodePoint.ofChar (Nat.digitChar (n / 16 / 16 / 16 % 16)),
      CodePoint.ofChar (Nat.digitChar (n / 16 / 16 % 16)),
      CodePoint.ofChar (Nat.digitChar (n / 16 % 16)), CodePoint.ofChar (Nat.digitChar (n % 16))] :=
  rfl

theorem length_hex (width n : Nat) : (hex width n).length = width := by
  induction width generalizing n with
  | zero => rfl
  | succ width ih => rw [hex, List.length_append, ih, List.length_singleton]

/-- What a run of digits adds to the value of those before it. -/
theorem foldlM_hex {width n : Nat} (h : n < 16 ^ width) (before : Nat) :
    (hex width n).foldlM (fun n c => do
      let d ← c.digitValue?
      if d < 16 then some (n * 16 + d) else none) before = some (before * 16 ^ width + n) := by
  induction width generalizing n with
  | zero =>
    obtain rfl : n = 0 := by omega
    simp [hex]
  | succ width ih =>
    have hn : n / 16 < 16 ^ width := by
      rw [Nat.pow_succ] at h
      omega
    have hm : n % 16 < 16 := Nat.mod_lt n (by decide)
    rw [hex, List.foldlM_append, ih hn]
    simp only [Option.bind_eq_bind, Option.bind_some, List.foldlM_cons, List.foldlM_nil,
      CodePoint.digitValue?_digitChar _ hm, hm, if_true, Option.pure_def, Option.some.injEq]
    rw [Nat.pow_succ, ← Nat.mul_assoc]
    omega

theorem digits?_hex {width n : Nat} (hw : 0 < width) (h : n < 16 ^ width) :
    Numeral.digits? 16 (hex width n) = some n := by
  have hne : (hex width n).isEmpty = false := by
    rw [List.isEmpty_eq_false_iff, ne_eq, ← List.length_eq_zero_iff, length_hex]
    omega
  rw [Numeral.digits?, hne, if_neg (by decide), foldlM_hex h, Nat.zero_mul, Nat.zero_add]

theorem digits?_hex_four {n : Nat} (h : n < 0x10000) :
    Numeral.digits? 16 (hex 4 n) = some n := digits?_hex (by decide) h

end Text

end ConnectionProfile
