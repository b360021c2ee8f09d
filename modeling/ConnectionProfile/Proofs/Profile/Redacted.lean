import ConnectionProfile.Proofs.Json.Redacted
import ConnectionProfile.Proofs.Profile.Complaints
import ConnectionProfile.Proofs.Profile.TextErrors

/-!
# What decoding tells of tokens

Two documents that are the same once the texts under the keys of tokens are hidden, at any depth,
are decoded alike. The records are the same, too, apart from the values that they show: a document
that is no mapping, and the values that failed a check. A token can be part of such a value.
-/

namespace ConnectionProfile

open Credentials (isTokenKey)
open Overrides (stored)

-- ---------------------------------------------------------------------------
-- Values under a key
-- ---------------------------------------------------------------------------

section
variable {p : Value → Bool} {key : Text}

theorem Entries.get?_redactedMembers_of_neg (h : p (.text key) = false) (es : List Entry) :
    get? key (Value.redactedMembers p es) = (get? key es).map (Value.redacted p) := by
  have hu : Value.redactedUnder p (.text key) = Value.redacted p := by
    funext v
    rw [Value.redactedUnder, h, if_neg Bool.false_ne_true]
  rw [get?_redactedMembers, hu]

theorem Field.text_redacted (v : Value) : text (v.redacted p) = text v := by
  cases v <;> simp only [Value.redacted, text]

theorem Value.redactedUnder_of_error {v : Value} {fault : Fault} (h : Field.text v = .error fault)
    (k : Value) : redactedUnder p k v = v.redacted p := by
  have hh : (v.redacted p).hidden = v.redacted p := by
    cases v with
    | text t => cases h
    | _ => simp only [redacted, hidden]
  rw [redactedUnder, hh, ite_self]

theorem Field.required_text_redacted (o : Option Value) :
    required text (o.map (Value.redacted p)) = required text o := by
  cases o with
  | none => rfl
  | some v => exact text_redacted v

end

theorem Field.required_text_congr {f g : Value → Value} (h : ∀ v, text (f v) = text (g v))
    (o : Option Value) : required text (o.map f) = required text (o.map g) := by
  cases o with
  | none => rfl
  | some v => exact h v

theorem Field.optional_text_congr {f g : Value → Value} (hn : ∀ v, (f v).isNull = (g v).isNull)
    (h : ∀ v, text (f v) = text (g v)) (o : Option Value) :
    optional text (o.map f) = optional text (o.map g) := by
  cases o with
  | none => rfl
  | some v =>
    rw [Option.map_some, Option.map_some]
    by_cases hv : g v = .null
    · have hf : f v = .null := by rw [← Value.isNull_iff, hn, hv, Value.isNull]
      rw [hv, hf]
    · have hf : f v ≠ .null := by
        rwa [← Value.isNull_eq_false_iff, hn, Value.isNull_eq_false_iff]
      rw [optional_text_some hf, optional_text_some hv, h]

/-- What is complained of, with the value redacted. -/
def redactedComplaint (c : Problem × Option Value) : Problem × Option Value :=
  (c.1, c.2.map (Value.redacted isTokenKey))

-- ---------------------------------------------------------------------------
-- Pins
-- ---------------------------------------------------------------------------

namespace Pin

theorem isTokenKey_keyOf (field : Text) : isTokenKey (.text (keyOf field)) = false := by
  rw [keyOf]
  split <;> decide

theorem require_redacted {key : Text} (h : isTokenKey (.text key) = false) (entries : List Entry) :
    require key (Value.redactedMembers isTokenKey entries) =
      (require key entries).map (Value.redacted isTokenKey) := by
  rw [require, require, Entries.get?_redactedMembers_of_neg h]
  cases Entries.get? key entries <;> rfl

theorem check_redacted (hostname hash : Option Value) :
    check (hostname.map (Value.redacted isTokenKey)) (hash.map (Value.redacted isTokenKey)) =
      check hostname hash := by
  simp only [check, Field.required_text_redacted]

theorem decode_redacted (v : Value) : decode (v.redacted isTokenKey) = decode v := by
  cases v with
  | map entries =>
    have hn : isTokenKey (.text hostnameKey) = false := by decide
    have hh : isTokenKey (.text hashKey) = false := by decide
    have hc (v w : Value) : check (some (v.redacted isTokenKey)) (some (w.redacted isTokenKey)) =
        check (some v) (some w) := check_redacted (some v) (some w)
    simp only [Value.redacted, decode, require_redacted hn, require_redacted hh, Logged.bind_map,
      hc]
  | _ => simp only [Value.redacted, decode]

theorem complaints_redacted (entries : List Entry) :
    complaints (Value.redactedMembers isTokenKey entries) =
      (complaints entries).map redactedComplaint := by
  have hn : isTokenKey (.text hostnameKey) = false := by decide
  have hh : isTokenKey (.text hashKey) = false := by decide
  rw [complaints, complaints, Entries.get?_redactedMembers_of_neg hn,
    Entries.get?_redactedMembers_of_neg hh, check_redacted]
  cases check (Entries.get? hostnameKey entries) (Entries.get? hashKey entries) with
  | ok p => rfl
  | error problems =>
    rw [List.map_map]
    refine List.map_congr_left fun p _ => ?_
    rw [Entries.get?_redactedMembers_of_neg (isTokenKey_keyOf p.field)]
    rfl

theorem told_redacted (v : Value) :
    told (v.redacted isTokenKey) = (told v).map redactedComplaint := by
  cases v with
  | map entries =>
    have hd := decode_redacted (.map entries)
    rw [Value.redacted] at hd ⊢
    rw [told, told, hd, complaints_redacted]
    split <;> rfl
  | _ => simp only [Value.redacted, told, List.map_nil]

theorem toldOfFirst_redacted (vs : List Value) :
    toldOfFirst (vs.map (Value.redacted isTokenKey)) =
      (toldOfFirst vs).map redactedComplaint := by
  induction vs with
  | nil => rfl
  | cons v vs ih =>
    rw [List.map_cons, toldOfFirst, toldOfFirst, decode_redacted, told_redacted, ih]
    split <;> rfl

end Pin

-- ---------------------------------------------------------------------------
-- Credentials
-- ---------------------------------------------------------------------------

namespace Credentials

theorem require_redacted (field : FieldName) (fields : List Entry) :
    require field (Value.redactedMembers isTokenKey fields) =
      (require field fields).map (Value.redactedUnder isTokenKey (.text field.key)) := by
  rw [require, require, Entries.get?_redactedMembers]
  cases Entries.get? field.key fields <;> rfl

/-- The value of a field with the token hidden, if it is one. -/
def maskedUnder (field : FieldName) (v : Value) : Value :=
  if field = .accessToken ∨ field = .refreshToken then v.masked else v

theorem text_maskedUnder_redacted (field : FieldName) (v : Value) :
    Field.text (maskedUnder field (v.redacted isTokenKey)) = Field.text (maskedUnder field v) := by
  unfold maskedUnder
  split
  · rw [Value.text_masked, Value.text_masked, Field.text_redacted]
  · rw [Field.text_redacted]

theorem isNull_maskedUnder_redacted (field : FieldName) (v : Value) :
    (maskedUnder field (v.redacted isTokenKey)).isNull = (maskedUnder field v).isNull := by
  unfold maskedUnder
  split <;> simp only [Value.isNull_masked, Value.isNull_redacted]

theorem get?_maskFields_redacted (field : FieldName) (fields : List Entry) :
    Entries.get? field.key (maskFields (Value.redactedMembers isTokenKey fields)) =
      (Entries.get? field.key fields).map fun v => maskedUnder field (v.redacted isTokenKey) := by
  rw [get?_maskFields, Entries.get?_redactedMembers, Option.map_map]
  congr 1
  funext v
  simp only [Function.comp_apply, Value.redactedUnder, isTokenKey_key, maskedUnder]
  split
  · rw [Value.masked_hidden]
  · rfl

/-- With the tokens hidden, redacted fields are as good as the fields themselves. -/
theorem ofFields_maskFields_redacted (fields : List Entry) :
    ofFields (maskFields (Value.redactedMembers isTokenKey fields)) =
      ofFields (maskFields fields) := by
  have hg (field : FieldName) : Entries.get? field.key (maskFields fields) =
      (Entries.get? field.key fields).map (maskedUnder field) := get?_maskFields field fields
  have hr (field : FieldName) := Field.required_text_congr (text_maskedUnder_redacted field)
    (Entries.get? field.key fields)
  have ho (field : FieldName) := Field.optional_text_congr (isNull_maskedUnder_redacted field)
    (text_maskedUnder_redacted field) (Entries.get? field.key fields)
  simp only [ofFields, check, get?_maskFields_redacted, hg, hr, ho]

theorem ofFields_redacted (fields : List Entry) :
    (ofFields (Value.redactedMembers isTokenKey fields)).map masked =
      (ofFields fields).map masked := by
  rw [← ofFields_maskFields, ofFields_maskFields_redacted, ofFields_maskFields]

/-- Decoding sees no part of a field that is redacted. -/
theorem decode_redacted (v : Value) :
    (decode (v.redacted isTokenKey)).map masked = (decode v).map masked := by
  cases v with
  | map fields =>
    have hf := ofFields_redacted fields
    simp only [Value.redacted, decode, require_redacted, Logged.bind_map, Logged.map_bind]
    revert hf
    generalize ofFields (Value.redactedMembers isTokenKey fields) = x
    generalize ofFields fields = y
    intro hf
    cases x with
    | ok c =>
      cases y with
      | ok d => simp only [Logged.map_pure, Except.ok.inj hf]
      | error problems => cases hf
    | error problems =>
      cases y with
      | ok d => cases hf
      | error problems => rfl
  | _ => simp only [Value.redacted, decode]

theorem complaints_redacted (fields : List Entry) :
    complaints (Value.redactedMembers isTokenKey fields) =
      (complaints fields).map redactedComplaint := by
  have hf := ofFields_redacted fields
  rw [complaints, complaints]
  cases h : ofFields fields with
  | ok c =>
    cases h' : ofFields (Value.redactedMembers isTokenKey fields) with
    | ok d => rfl
    | error problems =>
      rw [h, h'] at hf
      cases hf
  | error problems =>
    cases h' : ofFields (Value.redactedMembers isTokenKey fields) with
    | ok d =>
      rw [h, h'] at hf
      cases hf
    | error problems' =>
      rw [h, h'] at hf
      cases hf
      rw [List.map_map]
      refine List.map_congr_left fun p hp => ?_
      obtain ⟨field, hfield, hv⟩ := mem_problems h hp
      rw [Function.comp_apply, redactedComplaint, hfield, Entries.get?_redactedMembers]
      congr 1
      exact Option.map_congr fun v hg => Value.redactedUnder_of_error (hv v hg) _

theorem told_redacted (v : Value) :
    told (v.redacted isTokenKey) = (told v).map redactedComplaint := by
  cases v with
  | map fields =>
    have hd := (Logged.map_eq_map.1 (decode_redacted (.map fields))).2
    rw [Value.redacted] at hd ⊢
    rw [told, told, complaints_redacted]
    obtain ⟨c, d, hc, hd, -⟩ | ⟨e, hc, hd⟩ := hd
    · rw [hc, hd]
      rfl
    · rw [hc, hd]
      cases e <;> rfl
  | _ => simp only [Value.redacted, told, List.map_nil]

end Credentials

-- ---------------------------------------------------------------------------
-- Profiles
-- ---------------------------------------------------------------------------

namespace Profile

section
variable (entries : List Entry)

theorem stored_redacted {key : Text} (h : isTokenKey (.text key) = false) :
    stored key (Value.redactedMembers isTokenKey entries) =
      (stored key entries).redacted isTokenKey := by
  rw [stored, stored, Entries.get?_redactedMembers_of_neg h]
  cases Entries.get? key entries with
  | none => simp only [Option.map_none, Option.getD_none, Value.redacted]
  | some v => rfl

theorem decodeServer_redacted :
    decodeServer (Value.redactedMembers isTokenKey entries) = decodeServer entries := by
  have hk : isTokenKey (.text serverKey) = false := by decide
  rw [decodeServer, decodeServer, Entries.get?_redactedMembers_of_neg hk]
  cases Entries.get? serverKey entries with
  | none => rfl
  | some v => cases v <;> simp only [Option.map_some, Value.redacted]

theorem decodeIdentity_redacted :
    decodeIdentity (Value.redactedMembers isTokenKey entries) = decodeIdentity entries := by
  have hk : isTokenKey (.text identityKey) = false := by decide
  rw [decodeIdentity, decodeIdentity, Entries.find?_eq, Entries.find?_eq, stored_redacted _ hk]
  cases stored identityKey entries <;> simp [Value.redacted]

theorem decodeCredentials_redacted :
    (decodeCredentials (Value.redactedMembers isTokenKey entries)).map
        (Option.map Credentials.masked) =
      (decodeCredentials entries).map (Option.map Credentials.masked) := by
  have hk : isTokenKey (.text credentialsKey) = false := by decide
  rw [decodeCredentials, decodeCredentials, Entries.find?_eq, Entries.find?_eq,
    stored_redacted _ hk]
  cases stored credentialsKey entries with
  | map fields =>
    have hx (v : Value) : ((Credentials.decode v).mapError DecodeError.credentials >>= fun c =>
        pure (some c)).map (Option.map Credentials.masked) =
          ((Credentials.decode v).map Credentials.masked).mapError DecodeError.credentials >>=
            fun c => pure (some c) := by
      rw [Logged.map_bind, ← Logged.map_mapError, Logged.bind_map]
      rfl
    have hd := Credentials.decode_redacted (.map fields)
    rw [Value.redacted] at hd ⊢
    simp only [reduceCtorEq, if_false, hx, hd]
  | _ => simp [Value.redacted]

theorem decodePinList_redacted (vs : List Value) :
    decodePinList (vs.map (Value.redacted isTokenKey)) = decodePinList vs := by
  induction vs with
  | nil => rfl
  | cons v vs ih => rw [List.map_cons, decodePinList, decodePinList, Pin.decode_redacted, ih]

theorem decodePins_redacted :
    decodePins (Value.redactedMembers isTokenKey entries) = decodePins entries := by
  have hk : isTokenKey (.text pinsKey) = false := by decide
  rw [decodePins, decodePins, Entries.find?_eq, Entries.find?_eq, stored_redacted _ hk]
  cases stored pinsKey entries with
  | list vs =>
    simp only [Value.redacted, Value.redactedItems_eq_map, reduceCtorEq, if_false,
      decodePinList_redacted]
  | _ => simp [Value.redacted]

theorem decodeParts_redacted :
    (decodeParts (.map (Value.redactedMembers isTokenKey entries))).map Parts.masked =
      (decodeParts (.map entries)).map Parts.masked := by
  have hp (es : List Entry) : (decodeParts (.map es)).map Parts.masked =
      decodeServer es >>= fun server => decodeIdentity es >>= fun identity =>
        (decodeCredentials es).map (Option.map Credentials.masked) >>= fun credentials =>
          decodePins es >>= fun pins => pure ⟨server, identity, credentials, pins⟩ := by
    simp only [decodeParts, requireMapping, Logged.pure_bind, Logged.map_bind, Logged.map_pure,
      Parts.masked, Logged.bind_map]
  rw [hp, hp, decodeServer_redacted, decodeIdentity_redacted, decodeCredentials_redacted,
    decodePins_redacted]

/-- Decoding sees no part of a mapping that is redacted. -/
theorem decode_redacted : (decode (.map (Value.redactedMembers isTokenKey entries))).map masked =
    (decode (.map entries)).map masked := by
  have hd (v : Value) : (decode v).map masked =
      ((decodeParts v).map Parts.masked).mapError .decode >>= fun parts =>
        (create (.text parts.server) (.ofTextOption parts.identity) parts.credentials
          parts.pins).mapError .invalid := by
    simp only [decode, ← Logged.map_mapError, Logged.bind_map, Logged.map_bind, Parts.masked,
      create_masked]
  rw [hd, hd, decodeParts_redacted]

theorem told_redacted : told (.map (Value.redactedMembers isTokenKey entries)) =
    (told (.map entries)).map redactedComplaint := by
  have hc : isTokenKey (.text credentialsKey) = false := by decide
  have hk : isTokenKey (.text pinsKey) = false := by decide
  have hitems (v : Value) : (v.redacted isTokenKey).items =
      v.items.map (Value.redacted isTokenKey) := by
    cases v with
    | list vs => rw [Value.redacted, Value.redactedItems_eq_map, Value.items, Value.items]
    | _ => simp only [Value.redacted, Value.items, List.map_nil]
  have hd := (Logged.map_eq_map.1 (decodeParts_redacted entries)).2
  rw [told, told, stored_redacted _ hc, stored_redacted _ hk, Credentials.told_redacted, hitems,
    Pin.toldOfFirst_redacted]
  obtain ⟨c, d, hc, hd, -⟩ | ⟨e, hc, hd⟩ := hd
  · rw [hc, hd]
    rfl
  · rw [hc, hd]
    cases e <;> rfl

end

-- ---------------------------------------------------------------------------
-- Shown values
-- ---------------------------------------------------------------------------

/-- The values that decoding shows: a document that is no mapping, if it can be written, or those that
fail a check. -/
def shown : Value → List (Option Value)
  | .map entries => (told (.map entries)).map Prod.snd
  | v => if v.isWritable then [some v] else []

theorem decode_of_not_mapping {v : Value} (h : ∀ entries, v ≠ .map entries) :
    (decode v).records = (if v.isWritable then
        [⟨.error, .profile, "Connection config is not a JSON object: " ++ v.quoted⟩] else []) ∧
      told v = [] ∧ shown v = if v.isWritable then [some v] else [] := by
  have hrecords (r : List Record) (e : Except Error Profile) (hd : decode v = ⟨r ++ [], e⟩) :
      (decode v).records = r := by
    rw [hd, List.append_nil]
  cases v with
  | map entries => exact absurd rfl (h entries)
  | _ => exact ⟨hrecords _ _ rfl, rfl, rfl⟩

/-- Complaints are the same if they are when they are redacted, and have the same values. -/
theorem eq_iff_of_map_redactedComplaint {cs ds : List (Problem × Option Value)}
    (h : cs.map redactedComplaint = ds.map redactedComplaint) :
    cs = ds ↔ cs.map Prod.snd = ds.map Prod.snd := by
  refine ⟨fun he => by rw [he], fun hs => ?_⟩
  have hf : cs.map Prod.fst = ds.map Prod.fst := by
    have hp := congrArg (List.map Prod.fst) h
    simpa only [List.map_map, Function.comp_def, redactedComplaint] using hp
  rw [← List.zip_unzip cs, ← List.zip_unzip ds, List.unzip_eq_map, List.unzip_eq_map, hf, hs]

/-- Decoding tells documents apart that are the same up to texts under the keys of tokens just if it
shows different values. -/
theorem decode_told_iff {v w : Value} (h : v.redacted isTokenKey = w.redacted isTokenKey) :
    (decode v).records = (decode w).records ∧ told v = told w ↔ shown v = shown w := by
  by_cases hv : ∃ es, v = .map es
  · obtain ⟨es, rfl⟩ := hv
    rw [Value.redacted] at h
    obtain ⟨fs, rfl, hfs⟩ := Value.redacted_eq_map h.symm
    have hd : (decode (.map es)).map masked = (decode (.map fs)).map masked := by
      rw [← decode_redacted es, ← decode_redacted fs, hfs]
    have ht : (told (.map es)).map redactedComplaint = (told (.map fs)).map redactedComplaint := by
      rw [← told_redacted es, ← told_redacted fs, hfs]
    rw [and_iff_right (Logged.map_eq_map.1 hd).1]
    exact eq_iff_of_map_redactedComplaint ht
  · have hv (es : List Entry) : v ≠ .map es := fun he => hv ⟨es, he⟩
    have hw (fs : List Entry) : w ≠ .map fs := by
      rintro rfl
      rw [Value.redacted] at h
      obtain ⟨es, rfl, -⟩ := Value.redacted_eq_map h
      exact hv es rfl
    obtain ⟨hrv, htv, hsv⟩ := decode_of_not_mapping hv
    obtain ⟨hrw, htw, hsw⟩ := decode_of_not_mapping hw
    have hwritable : v.isWritable = w.isWritable := by
      rw [← Value.isWritable_redacted v, h, Value.isWritable_redacted w]
    rw [hrv, hrw, htv, htw, hsv, hsw, and_iff_left rfl, hwritable]
    split
    · rw [List.singleton_inj, List.singleton_inj, Option.some_inj, Record.mk.injEq,
        ← Value.quoted_eq_iff h, List.append_right_inj]
      simp only [true_and]
    · simp only

-- ---------------------------------------------------------------------------
-- Texts
-- ---------------------------------------------------------------------------

/-- The values that reading a text shows. -/
def shownOfText (text : Value) : List (Option Value) :=
  match (readJson text).result with
  | .ok v => shown v
  | .error _ => []

theorem readJson_of_givenText {x : Value} {t : Text} (h : givenText? x = some t) :
    readJson x = readJson.ofRead "<JSONDecodeError>" (Json.read t) := by
  cases x with
  | text s => rw [← Option.some.inj h, readJson]
  | octets bs =>
    rw [givenText?] at h
    rw [readJson, h]
  | _ => cases h

/-- Two texts that are the same JSON but for texts under the keys of tokens, anywhere in it, are
told apart by the records of reading them just if these show different values. -/
theorem ofText_told_iff {x y : Value} {t u : Text} (hx : givenText? x = some t)
    (hy : givenText? y = some u)
    (h : Json.SameButUnder isTokenKey (Json.tokens t) (Json.tokens u)) :
    (ofText x).records = (ofText y).records ∧ toldOfText x = toldOfText y ↔
      shownOfText x = shownOfText y := by
  have hr := Json.read_congr h
  rw [ofText, ofText, toldOfText, toldOfText, shownOfText, shownOfText, readJson_of_givenText hx,
    readJson_of_givenText hy]
  cases ht : Json.read t with
  | error e =>
    cases hu : Json.read u with
    | error e' =>
      rw [ht, hu] at hr
      cases hr
      cases e <;> simp [readJson.ofRead]
    | ok w =>
      rw [ht, hu] at hr
      cases hr
  | ok v =>
    cases hu : Json.read u with
    | error e =>
      rw [ht, hu] at hr
      cases hr
    | ok w =>
      rw [ht, hu] at hr
      exact decode_told_iff (Except.ok.inj hr)

/-- The JSON text of a document with credentials that fail their check. -/
def withoutUserId (token : Text) : Text :=
  "\x7b" ++ (Json.quote false credentialsKey ++ (":" ++
    ("\x7b" ++ (Json.quote false "user_id" ++ (":" ++ ("null" ++ ("," ++
      (Json.quote false "home_server" ++ (":" ++ (Json.quote false "h" ++ ("," ++
        (Json.quote false "access_token" ++ (":" ++ (Json.quote false token ++ ("\x7d" ++
    ("," ++ (Json.quote false serverKey ++ (":" ++ (Json.quote false "http://a" ++
      "\x7d")))))))))))))))))))

theorem tokens_withoutUserId (token : Text) : Json.tokens (withoutUserId token) =
    [.openMap, .text credentialsKey, .colon, .openMap, .text "user_id", .colon, .scalar .null,
      .comma, .text "home_server", .colon, .text "h", .comma, .text "access_token", .colon,
      .text token, .closeMap, .comma, .text serverKey, .colon, .text "http://a", .closeMap] := by
  have he : Json.tokens "\x7d" = [.closeMap] :=
    (Json.tokens_closeMap []).trans (by rw [Json.tokens])
  simp only [withoutUserId, Json.tokens_openMap, Json.tokens_closeMap, Json.tokens_comma,
    Json.tokens_colon, Json.tokens_quote, Json.tokens_null, he, Json.readText, if_false,
    Bool.false_eq_true]

theorem read_withoutUserId (token : Text) : Json.read (withoutUserId token) =
    .ok (.map [(.text credentialsKey, .map [(.text "user_id", .null),
      (.text "home_server", .text "h"), (.text "access_token", .text token)]),
        (.text serverKey, .text "http://a")]) := by
  rw [Json.read, tokens_withoutUserId]
  rfl

/-- The user id is told of, and the token is not. -/
theorem ofText_told_iff_withoutUserId :
    (ofText (.text (withoutUserId "s"))).records = (ofText (.text (withoutUserId "t"))).records ∧
      toldOfText (.text (withoutUserId "s")) = toldOfText (.text (withoutUserId "t")) := by
  have hk : isTokenKey (.text "access_token") = true := by decide
  have h : Json.SameButUnder isTokenKey (Json.tokens (withoutUserId "s"))
      (Json.tokens (withoutUserId "t")) := by
    rw [tokens_withoutUserId, tokens_withoutUserId]
    iterate 12 refine .cons _ ?_
    refine .under hk _ _ ?_
    iterate 6 refine .cons _ ?_
    exact .nil
  refine (ofText_told_iff rfl rfl h).2 ?_
  have hs (token : Text) : shownOfText (.text (withoutUserId token)) = [some .null] := by
    rw [shownOfText, readJson, read_withoutUserId]
    rfl
  rw [hs, hs]

/-- The JSON text of a list with a token in it. -/
def listed (token : Text) : Text :=
  "[" ++ ("\x7b" ++ (Json.quote false "access_token" ++ (":" ++ (Json.quote false token ++
    ("\x7d" ++ "]")))))

theorem tokens_listed (token : Text) : Json.tokens (listed token) =
    [.openList, .openMap, .text "access_token", .colon, .text token, .closeMap, .closeList] := by
  have he : Json.tokens "]" = [.closeList] :=
    (Json.tokens_closeList []).trans (by rw [Json.tokens])
  simp only [listed, Json.tokens_openList, Json.tokens_openMap, Json.tokens_closeMap,
    Json.tokens_colon, Json.tokens_quote, he, Json.readText, if_false, Bool.false_eq_true]

/-- The token is part of a document that is shown. -/
theorem not_told_alike_listed :
    Json.SameButUnder isTokenKey (Json.tokens (listed "s")) (Json.tokens (listed "t")) ∧
      (ofText (.text (listed "s"))).records ≠ (ofText (.text (listed "t"))).records := by
  have hr (token : Text) :
      Json.read (listed token) = .ok (.list [.map [(.text "access_token", .text token)]]) := by
    rw [Json.read, tokens_listed]
    rfl
  have ht (token : Text) : (ofText (.text (listed token))).records = [⟨.error, .profile,
      "Connection config is not a JSON object: " ++
        Value.quoted (.list [.map [(.text "access_token", .text token)]])⟩] := by
    rw [ofText, readJson, hr]
    rfl
  constructor
  · rw [tokens_listed, tokens_listed]
    exact .cons _ (.cons _ (.under (by decide) _ _ (.cons _ (.cons _ .nil))))
  · rw [ht, ht]
    decide

end Profile

end ConnectionProfile
