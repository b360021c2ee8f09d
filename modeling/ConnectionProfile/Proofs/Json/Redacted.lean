import ConnectionProfile.Json.Reader
import ConnectionProfile.Proofs.Logged
import ConnectionProfile.Proofs.Value.Redacted

/-!
# Texts that are read alike

Texts with the same tokens, except for the texts that follow some keys, are read alike: with the
same error, or as values that are the same once they are redacted under these keys. The reader goes
the same way on both, in states that are redacted alike.
-/

namespace ConnectionProfile.Json

open Value (redactedUnder redactedMembers)

variable {p : Value → Bool}

/-- The tokens are the same, except for texts that follow a key in `p`. -/
inductive SameButUnder (p : Value → Bool) : List Token → List Token → Prop
  | nil : SameButUnder p [] []
  | cons (m : Token) {ms ns : List Token} (h : SameButUnder p ms ns) :
    SameButUnder p (m :: ms) (m :: ns)
  | under {k : Text} (hk : p (.text k) = true) (t u : Text) {ms ns : List Token}
    (h : SameButUnder p ms ns) :
    SameButUnder p (.text k :: .colon :: .text t :: ms) (.text k :: .colon :: .text u :: ns)

-- ---------------------------------------------------------------------------
-- Redacted readers
-- ---------------------------------------------------------------------------

/-- The collection that is still open, redacted as far as it was read. -/
def Frame.redacted (p : Value → Bool) : Frame → Frame
  | .items before => .items (before.map (Value.redacted p))
  | .members before key => .members (redactedMembers p before) key

/-- The value as it is redacted in the collection that it is part of. -/
def redactedIn (p : Value → Bool) : List Frame → Value → Value
  | .members _ k :: _, v => redactedUnder p (.text k) v
  | _, v => v.redacted p

theorem redactedIn_items (before : List Value) (fs : List Frame) (v : Value) :
    redactedIn p (.items before :: fs) v = v.redacted p := rfl

theorem redactedIn_members (before : List Entry) (k : Text) (fs : List Frame) (v : Value) :
    redactedIn p (.members before k :: fs) v = redactedUnder p (.text k) v := rfl

theorem Frame.redacted_redacted (f : Frame) : (f.redacted p).redacted p = f.redacted p := by
  cases f with
  | items before =>
    simp only [redacted, List.map_map, Function.comp_def, Value.redacted_redacted]
  | members before k => simp only [redacted, Value.redactedMembers_redactedMembers]

theorem map_redacted_redacted (fs : List Frame) :
    (fs.map (Frame.redacted p)).map (Frame.redacted p) = fs.map (Frame.redacted p) := by
  simp only [List.map_map, Function.comp_def, Frame.redacted_redacted]

theorem redactedIn_map (fs : List Frame) (v : Value) :
    redactedIn p (fs.map (Frame.redacted p)) v = redactedIn p fs v := by
  cases fs with
  | nil => rfl
  | cons f fs => cases f <;> rfl

/-- What is no text is redacted alike in every collection. -/
theorem redactedIn_eq {v : Value} (h : (v.redacted p).hidden = v.redacted p) (fs : List Frame) :
    redactedIn p fs v = v.redacted p := by
  cases fs with
  | nil => rfl
  | cons f fs =>
    cases f with
    | items before => rfl
    | members before k => rw [redactedIn, redactedUnder, h, ite_self]

theorem redactedIn_list (fs : List Frame) (xs : List Value) :
    redactedIn p fs (.list xs) = .list (xs.map (Value.redacted p)) := by
  have hr : Value.redacted p (.list xs) = .list (xs.map (Value.redacted p)) := by
    rw [Value.redacted, Value.redactedItems_eq_map]
  exact (redactedIn_eq (by rw [hr]; rfl) fs).trans hr

theorem redactedIn_entries (fs : List Frame) (es : List Entry) :
    redactedIn p fs (.map es) = .map (redactedMembers p es) := by
  have hr : Value.redacted p (.map es) = .map (redactedMembers p es) := by
    rw [Value.redacted]
  exact (redactedIn_eq (by rw [hr]; rfl) fs).trans hr

namespace Reader

def redacted (p : Value → Bool) : Reader → Reader
  | .value fs => .value (fs.map (Frame.redacted p))
  | .firstItem fs => .firstItem (fs.map (Frame.redacted p))
  | .firstKey fs => .firstKey (fs.map (Frame.redacted p))
  | .key before fs => .key (redactedMembers p before) (fs.map (Frame.redacted p))
  | .colon before k fs => .colon (redactedMembers p before) k (fs.map (Frame.redacted p))
  | .complete v fs => .complete (redactedIn p fs v) (fs.map (Frame.redacted p))

theorem start_redacted (fs : List Frame) (m : Token) :
    (start (fs.map (Frame.redacted p)) m).map (redacted p) = (start fs m).map (redacted p) := by
  cases m <;> simp only [start, Except.map, redacted, map_redacted_redacted, redactedIn_map]

/-- A step goes the same way from a redacted state. -/
theorem step_redacted (r : Reader) (m : Token) :
    ((r.redacted p).step m).map (redacted p) = (r.step m).map (redacted p) := by
  have hitems (before : List Value) : (before.map (Value.redacted p)).map (Value.redacted p) =
      before.map (Value.redacted p) := by
    simp only [List.map_map, Function.comp_def, Value.redacted_redacted]
  cases r with
  | value fs => exact start_redacted fs m
  | firstItem fs =>
    have hs := @start_redacted p (.items [] :: fs) m
    cases m with
    | closeList =>
      simp only [redacted, step, Except.map, map_redacted_redacted, redactedIn_map]
    | _ => exact hs
  | firstKey fs =>
    cases m with
    | closeMap =>
      simp only [redacted, step, Except.map, map_redacted_redacted, redactedIn_map]
    | text k => simp only [redacted, step, Except.map, map_redacted_redacted, redactedMembers]
    | _ => rfl
  | key before fs =>
    cases m with
    | text k =>
      simp only [redacted, step, Except.map, map_redacted_redacted,
        Value.redactedMembers_redactedMembers]
    | _ => rfl
  | colon before k fs =>
    cases m with
    | colon =>
      simp only [redacted, step, Except.map, List.map_cons, map_redacted_redacted,
        Frame.redacted, Value.redactedMembers_redactedMembers]
    | _ => rfl
  | complete v fs =>
    cases fs with
    | nil => cases m <;> rfl
    | cons f fs =>
      cases f with
      | items before =>
        cases m with
        | comma =>
          simp only [redacted, step, Except.map, List.map_cons, map_redacted_redacted,
            Frame.redacted, redactedIn_items, hitems, Value.redacted_redacted]
        | closeList =>
          simp only [redacted, step, Except.map, List.map_cons, map_redacted_redacted,
            Frame.redacted, redactedIn_list, redactedIn_items, hitems, List.map_reverse,
            Value.redacted_redacted]
        | _ => rfl
      | members before k =>
        cases m with
        | comma =>
          simp only [redacted, step, Except.map, List.map_cons, map_redacted_redacted,
            Frame.redacted, redactedIn_members, Value.redactedMembers_putText,
            Value.redactedUnder_redactedUnder, Value.redactedMembers_redactedMembers]
        | closeMap =>
          simp only [redacted, step, Except.map, List.map_cons, map_redacted_redacted,
            Frame.redacted, redactedIn_entries, redactedIn_members, Value.redactedMembers_putText,
            Value.redactedUnder_redactedUnder, Value.redactedMembers_redactedMembers]
        | _ => rfl

theorem step_congr {r s : Reader} (h : r.redacted p = s.redacted p) (m : Token) :
    (r.step m).map (redacted p) = (s.step m).map (redacted p) := by
  rw [← r.step_redacted, h, s.step_redacted]

/-- A key and the colon after it lead to the value under the key, if they lead anywhere. -/
theorem step_key {r s : Reader} {k : Text}
    (h : (r.step (.text k) >>= fun r => r.step .colon) = .ok s) :
    ∃ before fs, s = .value (.members before k :: fs) := by
  cases r with
  | firstKey fs =>
    cases h
    exact ⟨[], fs, rfl⟩
  | key before fs =>
    cases h
    exact ⟨before, fs, rfl⟩
  | value fs | firstItem fs => cases fs with
    | nil => cases h
    | cons f fs => cases f <;> cases h
  | colon before l fs => cases h
  | complete v fs => cases fs with
    | nil => cases h
    | cons f fs => cases f <;> cases h

/-- Readers in states that are redacted alike go the same way. -/
theorem run_congr {ms ns : List Token} (h : SameButUnder p ms ns) {r s : Reader}
    (hr : r.redacted p = s.redacted p) :
    (ms.foldlM step r).map (redacted p) = (ns.foldlM step s).map (redacted p) := by
  induction h generalizing r s with
  | nil => exact congrArg Except.ok hr
  | cons m h ih =>
    rw [List.foldlM_cons, List.foldlM_cons]
    exact Except.bind_congr_map (step_congr hr m) fun _ _ _ _ => ih
  | @under k hk t u ms ns h ih =>
    have hfold (t : Text) (ms : List Token) (r : Reader) :
        (.text k :: .colon :: .text t :: ms).foldlM step r =
          (r.step (.text k) >>= fun r => r.step .colon) >>= fun r =>
            r.step (.text t) >>= fun r => ms.foldlM step r := by
      simp only [List.foldlM_cons, bind_assoc]
    rw [hfold, hfold]
    refine Except.bind_congr_map
      (Except.bind_congr_map (step_congr hr _) fun _ _ _ _ hab => step_congr hab _) ?_
    -- both readers now wait for the value under the key, where every text is redacted alike
    intro r' s' hr' hs' h'
    obtain ⟨before, fs, rfl⟩ := step_key hr'
    obtain ⟨before', fs', rfl⟩ := step_key hs'
    refine ih ?_
    have hframes := Reader.value.inj h'
    have htext (t : Text) : redactedUnder p (.text k) (.text t) = .text [] := by
      rw [redactedUnder, if_pos hk]
      simp only [Value.redacted, Value.hidden]
    simp only [redacted, redactedIn_members, htext, hframes]

theorem result_redacted (r : Reader) :
    r.result.map (Value.redacted p) = (r.redacted p).result := by
  cases r with
  | complete v fs => cases fs <;> rfl
  | _ => rfl

end Reader

/-- Texts with the same tokens but for those under the keys are read alike. -/
theorem read_congr {t u : Text} (h : SameButUnder p (tokens t) (tokens u)) :
    (read t).map (Value.redacted p) = (read u).map (Value.redacted p) := by
  refine Except.bind_congr_map (Reader.run_congr h (r := .value []) rfl) fun r s _ _ hrs => ?_
  rw [Reader.result_redacted, Reader.result_redacted, hrs]

end ConnectionProfile.Json
