import ConnectionProfile.Log
import ConnectionProfile.Path
import ConnectionProfile.Pin
import ConnectionProfile.Text.Classes

/-!
# Options of the command line

All arguments are options with at most one value. An option may be cut short as long as it stays
unique, and of an option that is given twice the last value counts; pins are gathered. Two hyphens
are no value: an option that they follow after an equals sign is blank.
-/

namespace ConnectionProfile

/-- What an option without a value of its own can be. -/
inductive Setting (α : Type) where
  | unset
  | blank
  | given (a : α)

structure Options where
  config : Setting Path
  homeServer : Setting Text
  identityServer : Setting Text
  /-- A pin that was left blank is `none`. -/
  pins : Option (List (Option Pin))
  userId : Setting Text
  deviceId : Setting Text
  accessToken : Setting Text
  /-- None if it was left blank. -/
  logLevel : Option Level
  richLogs : Bool

namespace Options

def initial : Options :=
  ⟨.unset, .unset, .unset, none, .unset, .unset, .unset, some .info, false⟩

inductive OptionName where
  | help
  | config
  | homeServer
  | identityServer
  | pin
  | userId
  | deviceId
  | accessToken
  | logLevel
  | richLogs
  deriving DecidableEq, Repr

/-- Every spelling of an option, in the order in which they are listed. -/
def spellings : List (Text × OptionName) :=
  [("-h", .help), ("--help", .help), ("--config", .config), ("--home-server-url", .homeServer),
    ("--identity-server-url", .identityServer), ("--pin", .pin), ("--user-id", .userId),
    ("--device-id", .deviceId), ("--access-token", .accessToken), ("--log-level", .logLevel),
    ("--rich-logs", .richLogs)]

namespace OptionName

/-- Flags take no value. -/
def isFlag : OptionName → Bool
  | .help | .richLogs => true
  | _ => false

/-- The name in error messages: all spellings. -/
def title (o : OptionName) : Text :=
  Text.joinWith "/" ((spellings.filter (·.2 = o)).map (·.1))

end OptionName

inductive UsageError where
  | ambiguous (argument : Text) (candidates : List Text)
  | missingValue (option : OptionName)
  | ignoredValue (option : OptionName) (value : Text)
  | badPin (value : Text)
  | badLevel (value : Text)
  | unrecognized (arguments : List Text)
  deriving DecidableEq

def levelChoices : List Level := [.debug, .info, .warning, .error]

namespace UsageError

def about (option : OptionName) (message : Text) : Text :=
  "argument " ++ option.title ++ ": " ++ message

def message : UsageError → Text
  | .ambiguous argument candidates =>
    "ambiguous option: " ++ argument ++ " could match " ++ Text.joinWith ", " candidates
  | .missingValue option => about option "expected one argument"
  | .ignoredValue option value => about option ("ignored explicit argument " ++ Quoted.text value)
  | .badPin value => about .pin ("invalid pin value: " ++ Quoted.text value)
  | .badLevel value =>
    about .logLevel ("invalid choice: " ++ Quoted.text value ++ " (choose from " ++
      Text.joinWith ", " (levelChoices.map fun l => Quoted.text l.name) ++ ")")
  | .unrecognized arguments => "unrecognized arguments: " ++ Text.joinWith " " arguments

end UsageError

/-- What an argument is on its own. -/
inductive Argument where
  /-- Not an option. -/
  | word (t : Text)
  /-- Two hyphens: only words follow. -/
  | border
  | option (name : OptionName) (value : Option Text)
  /-- The short spelling of the help flag with something after it. -/
  | helpCluster (rest : Text)
  /-- It looks like an option, but there is none. -/
  | unknown (t : Text)
  deriving DecidableEq

/-- A hyphen and a number. -/
def isNegativeNumber (t : Text) : Bool :=
  let isDigit (c : CodePoint) : Bool := c.asciiDigit.isAsciiDigit
  match t.withoutFinal '\n' with
  | [] => false
  | h :: u =>
    h = '-' && match Text.cut? '.' u with
      | none => u ≠ [] && u.all isDigit
      | some (whole, fraction) => whole.all isDigit && fraction ≠ [] && fraction.all isDigit

/-- An argument that is neither an option nor the start of one. -/
def unmatched (t : Text) : Argument :=
  if isNegativeNumber t || t.elem (' ' : CodePoint) then .word t else .unknown t

/-- An argument with two hyphens may leave out the end of an option's name. -/
def abbreviated (t : Text) : Except UsageError Argument :=
  let (lead, value) := match t.cut? '=' with
    | some (lead, value) => (lead, some value)
    | none => (t, none)
  match spellings.filter fun (s, _) => s.startsWith lead with
  | [] => .ok (unmatched t)
  | [(_, name)] => .ok (.option name value)
  | candidates => .error (.ambiguous t (candidates.map (·.1)))

def isLong (t : Text) : Bool := t.startsWith "--"

/-- What follows the short spelling of the help flag, directly or after an equals sign. -/
def helpTail? (t : Text) : Option Text := (t.after? "-h=").or (t.after? "-h")

/-- An argument that starts with a hyphen. -/
def classifyOption (t : Text) : Except UsageError Argument :=
  match spellings.lookup t with
  | some name => .ok (.option name none)
  | none =>
    if t.length = 1 then .ok (.word t)
    else match helpTail? t with
      | some rest => .ok (.helpCluster rest)
      | none =>
        match (t.cut? '=').bind fun (s, v) => (spellings.lookup s).map (·, v) with
        | some (name, value) => .ok (.option name (some value))
        | none => if isLong t then abbreviated t else .ok (unmatched t)

def classifyOne (t : Text) : Except UsageError Argument :=
  if t.startsWith "-" then classifyOption t else .ok (.word t)

/-- All arguments are looked at before any has an effect. -/
def classify : List Text → Except UsageError (List Argument)
  | [] => .ok []
  | t :: ts =>
    if t = "--" then .ok (.border :: ts.map .word)
    else do return (← classifyOne t) :: (← classify ts)

def addPin (o : Options) (p : Option Pin) : Options :=
  { o with pins := some (o.pins.getD [] ++ [p]) }

def setBlank (o : Options) : OptionName → Options
  | .config => { o with config := .blank }
  | .homeServer => { o with homeServer := .blank }
  | .identityServer => { o with identityServer := .blank }
  | .pin => o.addPin none
  | .userId => { o with userId := .blank }
  | .deviceId => { o with deviceId := .blank }
  | .accessToken => { o with accessToken := .blank }
  | .logLevel => { o with logLevel := none }
  | .help | .richLogs => o

/-- The effect of an option with its value. -/
def set (o : Options) (value : Text) : OptionName → Except UsageError Options
  | .config => .ok { o with config := .given (.ofText value) }
  | .homeServer => .ok { o with homeServer := .given value }
  | .identityServer => .ok { o with identityServer := .given value }
  | .pin =>
    match Pin.ofArgument? value with
    | some p => .ok (o.addPin p)
    | none => .error (.badPin value)
  | .userId => .ok { o with userId := .given value }
  | .deviceId => .ok { o with deviceId := .given value }
  | .accessToken => .ok { o with accessToken := .given value }
  | .logLevel =>
    match levelChoices.find? (·.name = value) with
    | some level => .ok { o with logLevel := level }
    | none => .error (.badLevel value)
  | .help | .richLogs => .ok o

/-- The effect of an option with what was written for its value. -/
def assign (o : Options) (value : Text) (name : OptionName) : Except UsageError Options :=
  if value = "--" then .ok (o.setBlank name) else o.set value name

inductive Parsed where
  | help
  | options (o : Options)

/-- Only the help flag itself may follow it in its argument, any number of times. -/
def checkCluster (rest : Text) : Except UsageError Unit :=
  let other := rest.dropWhile (· = ('h' : CodePoint))
  if rest ≠ [] ∧ other = [] then .ok () else .error (.ignoredValue .help other)

/-- Goes through the arguments. `extras` are those that belong to no option. -/
def run (o : Options) (extras : List Text) : List Argument → Except UsageError Parsed
  | [] => if extras = [] then .ok (.options o) else .error (.unrecognized extras)
  | .word t :: rest => run o (extras ++ [t]) rest
  | .border :: rest => run o (extras ++ [("--" : Text)]) rest
  | .unknown t :: rest => run o (extras ++ [t]) rest
  | .helpCluster tail :: _ => do
    checkCluster tail
    return .help
  | .option name (some value) :: rest =>
    if name.isFlag then .error (.ignoredValue name value)
    else do run (← o.assign value name) extras rest
  | .option name none :: rest =>
    match name with
    | .help => .ok .help
    | .richLogs => run { o with richLogs := true } extras rest
    | _ =>
      match rest with
      | .word value :: rest => do run (← o.assign value name) extras rest
      | _ => .error (.missingValue name)

def parse (arguments : List Text) : Except UsageError Parsed := do
  run initial [] (← classify arguments)

end Options

end ConnectionProfile
