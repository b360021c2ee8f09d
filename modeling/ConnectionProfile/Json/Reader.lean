import ConnectionProfile.Json.Token

/-!
# Reading JSON

A reader walks the tokens once. It remembers the collections that are still open, and what may
come next.
-/

namespace ConnectionProfile.Json

inductive ReadError where
  | malformed
  | integerTooLong
  deriving DecidableEq, Repr

/-- A collection that is still open: what came before, the latest item first. -/
inductive Frame where
  | items (before : List Value)
  | members (before : List Entry) (key : Text)

inductive Reader where
  | value (frames : List Frame)
  | firstItem (frames : List Frame)
  | firstKey (frames : List Frame)
  | key (before : List Entry) (frames : List Frame)
  | colon (before : List Entry) (key : Text) (frames : List Frame)
  | complete (v : Value) (frames : List Frame)

namespace Reader

/-- A token where a value may start. -/
def start (frames : List Frame) : Token → Except ReadError Reader
  | .text t => .ok (.complete (.text t) frames)
  | .scalar v => .ok (.complete v frames)
  | .openList => .ok (.firstItem frames)
  | .openMap => .ok (.firstKey frames)
  | .longInteger => .error .integerTooLong
  | _ => .error .malformed

def step : Reader → Token → Except ReadError Reader
  | .value frames, t => start frames t
  | .firstItem frames, .closeList => .ok (.complete (.list []) frames)
  | .firstItem frames, t => start (.items [] :: frames) t
  | .firstKey frames, .closeMap => .ok (.complete (.map []) frames)
  | .firstKey frames, .text k => .ok (.colon [] k frames)
  | .key before frames, .text k => .ok (.colon before k frames)
  | .colon before k frames, .colon => .ok (.value (.members before k :: frames))
  | .complete v (.items before :: frames), .comma => .ok (.value (.items (v :: before) :: frames))
  | .complete v (.items before :: frames), .closeList =>
    .ok (.complete (.list (v :: before).reverse) frames)
  | .complete v (.members before k :: frames), .comma =>
    .ok (.key (Entries.putText k v before) frames)
  | .complete v (.members before k :: frames), .closeMap =>
    .ok (.complete (.map (Entries.putText k v before)) frames)
  | _, _ => .error .malformed

def result : Reader → Except ReadError Value
  | .complete v [] => .ok v
  | _ => .error .malformed

end Reader

def read (t : Text) : Except ReadError Value := do
  let reader ← (tokens t).foldlM Reader.step (.value [])
  reader.result

end ConnectionProfile.Json
