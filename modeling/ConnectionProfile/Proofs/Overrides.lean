import ConnectionProfile.Overrides
import ConnectionProfile.Proofs.Value.Puts

/-!
# Laws of overrides

What is put back where it came from changes nothing, and so overrides that give no value leave a
document as it is.
-/

namespace ConnectionProfile

theorem Entries.putText_eq_self {key : Text} {v : Value} {es : List Entry}
    (h : get? key es = some v) : putText key v es = es :=
  put_eq_self (get?_eq_under? key es ▸ h)

namespace Overrides

theorem firstPresent_null (vs : List Value) : firstPresent (.null :: vs) = firstPresent vs := rfl

theorem firstPresent_singleton (v : Value) : firstPresent [v] = v := by
  cases v <;> rfl

theorem putPresent_stored (key : Text) (document : List Entry) :
    putPresent key (stored key document) document = document := by
  rw [putPresent, stored]
  cases h : Entries.get? key document with
  | none => rfl
  | some v =>
    rw [Option.getD_some, Entries.putText_eq_self h, ite_self]

theorem apply_none (document : List Entry) : none.apply .none document = document := by
  have hs (key : Text) : firstPresent [.null, stored key document] = stored key document := by
    rw [firstPresent_null, firstPresent_singleton]
  change putPresent Profile.identityKey (firstPresent [.null, stored Profile.identityKey document])
    (putPresent Profile.serverKey (firstPresent [.null, stored Profile.serverKey document])
      document) = document
  rw [hs, hs, putPresent_stored, putPresent_stored]

end Overrides

end ConnectionProfile
