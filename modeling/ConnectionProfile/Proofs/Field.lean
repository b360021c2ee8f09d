import ConnectionProfile.Field
import ConnectionProfile.Proofs.Text.Utf8

/-!
# Texts in fields

A field of texts takes a text, whatever code points it has, and the octets of a text in UTF-8. The
octets of a text have no surrogates.
-/

namespace ConnectionProfile

namespace Value

/-- The value is the text, or the octets of the text. -/
inductive Says : Value → Text → Prop
  | text (t : Text) : Says (.text t) t
  | octets {bs : Octets} {t : Text} (h : Utf8.encode? t = some bs) : Says (.octets bs) t

/-- The text that octets say, and any other value as it is. -/
def decoded : Value → Value
  | .octets bs => ((Utf8.decode? .refused bs).map .text).getD (.octets bs)
  | v => v

theorem Says.decoded {v : Value} {t : Text} (h : v.Says t) : v.decoded = .text t := by
  cases h with
  | text => rfl
  | octets h => rw [Value.decoded, Utf8.decode?_eq_some.2 h, Option.map_some, Option.getD_some]

theorem Says.ne_null {v : Value} {t : Text} (h : v.Says t) : v ≠ .null := by
  cases h <;> exact nofun

end Value

namespace Field

theorem text_ok {v : Value} {t : Text} : text v = .ok t ↔ v.Says t := by
  constructor
  · intro h
    cases v with
    | text =>
      cases h
      exact .text t
    | octets bs =>
      rw [text] at h
      split at h
      · cases h
        exact .octets (Utf8.decode?_eq_some.1 ‹_›)
      · cases h
    | _ => cases h
  · intro h
    cases h with
    | text => rfl
    | octets h => rw [text, Utf8.decode?_eq_some.2 h]

theorem optional_text_some {v : Value} (h : v ≠ .null) :
    optional text (some v) = (text v).map some := by
  cases v with
  | null => exact absurd rfl h
  | _ => rfl

theorem optional_text_ok {v : Value} {o : Option Text} :
    optional text (some v) = .ok o ↔ v = .null ∧ o = none ∨ ∃ t, v.Says t ∧ o = some t := by
  by_cases hv : v = .null
  · subst hv
    have hn (t : Text) : ¬Value.null.Says t := fun h => h.ne_null rfl
    simp [optional, hn, eq_comm]
  · rw [optional_text_some hv]
    simp only [hv, false_and, false_or, ← text_ok]
    cases text v <;> simp [Except.map, eq_comm]

end Field

end ConnectionProfile
