import ConnectionProfile.Profile.Complaints
import ConnectionProfile.Stored

/-!
# Foreign errors

Some errors are raised by foreign code, which has its own words for them. In a record the name of the
error stands for the words; `ForeignCause` is what they are about.

Whether a rich handler can show a text is up to foreign code as well: it reads markup in the text.
-/

namespace ConnectionProfile

inductive ForeignCause where
  | unreadable (path : Path) (problem : ReadProblem)
  | unparsable (path : Path) (content : Octets)
  | credentials (complaints : List (Problem × Option Value))
  | pin (complaints : List (Problem × Option Value))
  /-- A value that has no keys, in the place of a mapping. -/
  | notMapping (v : Value)

/-- An error that is recorded by its name. -/
structure ForeignError where
  source : Source
  opening : Text
  name : Text
  cause : ForeignCause

namespace ForeignError

def record (e : ForeignError) : Record :=
  ⟨.error, e.source, e.opening ++ ("<" ++ e.name ++ ">")⟩

end ForeignError

/-- What is up to foreign code. -/
structure Console where
  words : ForeignCause → Text
  /-- Whether a rich handler can show a text. -/
  shows : Text → Bool

namespace Console

/-- A console without any words, which shows every text. -/
def lenient : Console := ⟨fun _ => [], fun _ => true⟩

/-- The text of a record with the words of the foreign error, if there is one and it is recorded
there. -/
def spoken (console : Console) (foreign : Option ForeignError) (record : Record) : Text :=
  match foreign with
  | some e => if record = e.record then e.opening ++ console.words e.cause else record.text
  | none => record.text

end Console

-- ---------------------------------------------------------------------------
-- Foreign errors of decoding
-- ---------------------------------------------------------------------------

def Credentials.foreign? : Value → Option ForeignError
  | .map fields =>
    match (decode (.map fields)).result with
    | .error .invalidFormat =>
      some ⟨.credentials, failureOpening, "ValidationError", .credentials (complaints fields)⟩
    | _ => none
  | v => some ⟨.credentials, failureOpening, "TypeError", .notMapping v⟩

def Pin.foreign? : Value → Option ForeignError
  | .map entries =>
    match (decode (.map entries)).result with
    | .error .invalidFormat =>
      some ⟨.pin, failureOpening, "ValidationError", .pin (complaints entries)⟩
    | _ => none
  | v => some ⟨.pin, failureOpening, "TypeError", .notMapping v⟩

/-- Of several pins the first that is bad. -/
def Pin.foreignOfFirst? : List Value → Option ForeignError
  | [] => none
  | v :: vs =>
    match (decode v).result with
    | .ok _ => foreignOfFirst? vs
    | .error _ => foreign? v

def Profile.foreign? (entries : List Entry) : Option ForeignError :=
  match (decodeParts (.map entries)).result with
  | .error (.credentials _) => Credentials.foreign? (Overrides.stored credentialsKey entries)
  | .error (.pin _) => Pin.foreignOfFirst? (Overrides.stored pinsKey entries).items
  | _ => none

end ConnectionProfile
