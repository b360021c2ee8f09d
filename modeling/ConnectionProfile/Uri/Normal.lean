import ConnectionProfile.Log
import ConnectionProfile.Profile.Invalid
import ConnectionProfile.Uri

/-!
# Normal URIs

A URI is stored without one final slash.
-/

namespace ConnectionProfile.Uri

/-- Takes one final slash away. What is left has to parse. -/
def normalize (kind uri : Text) : Logged InvalidProfile Text :=
  match uri.withoutFinal? '/' with
  | none => pure uri
  | some rest =>
    if parses rest then do
      Logged.log .debug .profile ("Removed trailing slash from " ++ kind ++ " URI " ++ uri)
      return rest
    else do
      Logged.log .error .profile
        ("Failed to parse " ++ kind ++ " URI after normalization: " ++ uri)
      Logged.fail (.unparsable kind uri)

end ConnectionProfile.Uri
