import ConnectionProfile.Log.Threshold

/-!
# Setting up the log

The log has a threshold, and handlers that write the records. It is set up once: what comes after
the first time changes nothing.
-/

namespace ConnectionProfile

/-- How a handler writes records. -/
inductive LogStyle where
  | plain
  | rich
  deriving DecidableEq, Repr

namespace LogStyle

def handlerName : LogStyle → Text
  | .plain => "StreamHandler"
  | .rich => "RichHandler"

/-- The pattern of a line. -/
def pattern : LogStyle → Text
  | .plain => "%(asctime)s [%(name)s:%(filename)s:%(lineno)d] %(levelname)s: %(message)s"
  | .rich => "%(message)s"

/-- The pattern of times, if it is not the usual one. -/
def timePattern : LogStyle → Option Text
  | .plain => none
  | .rich => some "[%X]"

end LogStyle

structure LogSetup where
  threshold : Threshold
  handlers : List LogStyle
  deriving DecidableEq

namespace LogSetup

def initial : LogSetup := ⟨.level .warning, []⟩

def configure (s : LogSetup) (threshold : Threshold) (style : LogStyle) : LogSetup :=
  if s.handlers = [] then ⟨threshold, [style]⟩ else s

/-- Whether a name is refused even when it changes nothing. -/
def isRefused : Threshold.NameError → Bool
  | .notName | .unknown => true
  | .text | .part => false

/-- As `configure`, with a threshold by its name, which has to be that of a part of the log. -/
def configureNamed (s : LogSetup) (name : Value) (style : LogStyle) :
    Except Threshold.NameError LogSetup :=
  match Threshold.ofValue name with
  | .ok threshold => .ok (s.configure threshold style)
  | .error cause => if isRefused cause || s.handlers = [] then .error cause else .ok s

end LogSetup

end ConnectionProfile
