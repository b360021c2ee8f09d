import ConnectionProfile.Foreign
import ConnectionProfile.Log.Setup
import ConnectionProfile.Options.Help
import ConnectionProfile.Options
import ConnectionProfile.Overrides

/-!
# A run of the program

The arguments name a stored document and overrides. What both make is decoded and printed in its
normal form. A run is a function of the arguments, of the token in the environment and of the files
that can be read. A rich log has it depend on foreign code too, which words some errors, and which
cannot show every text.
-/

namespace ConnectionProfile

/-- A blank setting counts as an empty list. -/
def Setting.toValue : Setting Text → Value
  | .unset => .null
  | .blank => .list []
  | .given t => .text t

def Options.logStyle (o : Options) : LogStyle := if o.richLogs then .rich else .plain

/-- Why no document is printed. -/
inductive RunError where
  | load (path : Path) (cause : LoadError)
  | profile (cause : Profile.Error)
  | print (cause : Json.PrintError)
  | blankPin
  | blankLevel
  /-- A record that its handler cannot show. -/
  | badMarkup

namespace RunError

/-- What the log calls a problem with a file. -/
def problemName? : ReadProblem → Option Text
  | .missing => some "FileNotFoundError"
  | .isDirectory => some "IsADirectoryError"
  | .notDirectory => some "NotADirectoryError"
  | .forbidden => some "PermissionError"
  | .nameTooLong | .failed => some "OSError"
  | .zeroCharacter | .notEncodable => none

def faultName? : Yaml.Fault → Option Text
  | .malformed | .unclosed => some "YAMLError"
  | .notUnicode => some "UnicodeDecodeError"
  | _ => none

def unreadOpening (path : Path) : Text :=
  "Failed to read connection config " ++ path.toText ++ ": "

def unreadMessage (path : Path) (cause : Text) : Text :=
  unreadOpening path ++ ("<" ++ cause ++ ">")

def documentMessage (cause : Text) : Text := "Invalid connection config document: " ++ cause

/-- What the log says of an error. Of some errors nothing is said: they end the run at once. -/
def message? : RunError → Option Text
  | .load path (.unreadable problem) => (problemName? problem).map (unreadMessage path)
  | .load path (.yaml fault) => (faultName? fault).map (unreadMessage path)
  | .load path (.notMapping kind) => some (documentMessage (Stored.notMappingMessage path kind))
  | .profile (.decode cause) => some (documentMessage cause.message)
  | .profile (.invalid cause) => cause.message?.map ("Invalid connection config: " ++ ·)
  | .print _ | .blankPin | .blankLevel | .badMarkup => none

end RunError

namespace Options

def givenPins : Option (List (Option Pin)) → Except RunError (Option (List Pin))
  | none => .ok none
  | some pins =>
    if pins.all Option.isSome then .ok (some (pins.filterMap id)) else .error .blankPin

/-- No pin may be blank. -/
def overrides (o : Options) : Except RunError Overrides := do
  return {
    homeServer := o.homeServer.toValue
    identityServer := o.identityServer.toValue
    pins := ← givenPins o.pins
    userId := o.userId.toValue
    deviceId := o.deviceId.toValue
    accessToken := o.accessToken.toValue }

end Options

inductive Ending where
  | success
  | failure
  | usage (cause : Options.UsageError)
  /-- Nothing more was done, not even a record made. -/
  | abort (cause : RunError)

namespace Ending

/-- The status that the program exits with, if it comes to that. -/
def status? : Ending → Option Nat
  | .success => some 0
  | .failure => some 1
  | .usage _ => some 2
  | .abort _ => none

/-- What is told about an ending that no record tells. -/
def notice : Ending → Text
  | .success | .failure => []
  | .usage cause => Options.usage ++ Options.programName ++ ": error: " ++ cause.message ++ "\n"
  | .abort _ => Options.programName ++ ": aborted\n"

end Ending

structure Run where
  records : List Record
  output : Text
  ending : Ending

namespace Run

variable (read : Path → Except ReadProblem Octets)

/-- The document that the options name; without one an empty mapping. -/
def document : Setting Path → Logged RunError (List Entry)
  | .unset | .blank => pure []
  | .given path => do
    Logged.log .info .tool ("Loading connection config from " ++ path.toText)
    .ofExcept ((Stored.load read path).mapError (.load path))

/-- The document with the overrides. -/
def merged (o : Options) (token : Option Text) : Logged RunError (List Entry) := do
  let stored ← document read o.config
  let overrides ← Logged.ofExcept o.overrides
  return overrides.apply token stored

def ofMerged (entries : List Entry) : Logged RunError Profile := do
  let p ← (Profile.decode (.map entries)).mapError .profile
  Logged.log .debug .tool ("Resolved " ++ p.quoted)
  return p

/-- The profile that the document and the overrides make. -/
def resolve (o : Options) (token : Option Text) : Logged RunError Profile := do
  ofMerged (← merged read o token)

/-- The foreign error that the run records, if there is one. -/
def foreign? (o : Options) (token : Option Text) : Option ForeignError :=
  match (merged read o token).result with
  | .ok entries => Profile.foreign? entries
  | .error (.load path (.unreadable problem)) =>
    (RunError.problemName? problem).map fun name =>
      ⟨.tool, RunError.unreadOpening path, name, .unreadable path problem⟩
  | .error (.load path (.yaml fault)) => do
    let name ← RunError.faultName? fault
    let content ← (read path).toOption
    return ⟨.tool, RunError.unreadOpening path, name, .unparsable path content⟩
  | .error _ => none

/-- Two spaces a step, the keys in order. -/
def layout : Json.Layout := { indent := some "  ", itemSeparator := ",", sortKeys := true }

def render (p : Profile) : Except RunError Text := do
  return (← (p.toText layout).mapError .print) ++ "\n"

def resolved (o : Options) (token : Option Text) : Logged RunError Text := do
  .ofExcept (render (← resolve read o token))

/-- How a computation of the output ends, and the last record of one that fails. -/
def ofLogged (x : Logged RunError Text) : Run :=
  match x.result with
  | .ok output => ⟨x.records, output, .success⟩
  | .error e =>
    match e.message? with
    | some message => ⟨x.records ++ [⟨.error, .tool, message⟩], [], .failure⟩
    | none => ⟨x.records, [], .abort e⟩

/-- The run without the records that the log drops. -/
def keeping (t : Threshold) (r : Run) : Run := { r with records := r.records.filter t.keeps }

/-- Whether the handlers of a style can show a record. -/
def shows (console : Console) (foreign : Option ForeignError) : LogStyle → Record → Bool
  | .plain, _ => true
  | .rich, record => console.shows (console.spoken foreign record)

/-- The run up to the first record that cannot be shown. -/
def shownWhile (shows : Record → Bool) (r : Run) : Run :=
  match r.records.dropWhile shows with
  | [] => r
  | record :: _ => ⟨r.records.takeWhile shows ++ [record], [], .abort .badMarkup⟩

variable (console : Console)

/-- The log is set up first. A blank level ends the run before it starts. -/
def ofOptions (o : Options) (token : Option Text) : Run :=
  match o.logLevel with
  | none => ⟨[], [], .abort .blankLevel⟩
  | some level =>
    let setup := LogSetup.initial.configure (.level level) o.logStyle
    ((ofLogged (resolved read o token)).keeping setup.threshold).shownWhile
      (shows console (foreign? read o token) o.logStyle)

def ofArguments (arguments : List Text) (token : Option Text) : Run :=
  match Options.parse arguments with
  | .error cause => ⟨[], [], .usage cause⟩
  | .ok .help => ⟨[], Options.help, .success⟩
  | .ok (.options o) => ofOptions read console o token

def logText (r : Run) : Text :=
  r.records.flatMap fun record => record.level.name ++ ": " ++ record.text ++ "\n"

end Run

end ConnectionProfile
