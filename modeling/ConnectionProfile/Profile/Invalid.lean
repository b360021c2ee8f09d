import ConnectionProfile.Value.Display

/-!
# Invalid profiles

Why two server addresses do not make a profile.
-/

namespace ConnectionProfile

inductive InvalidProfile where
  | homeServer (uri : Value)
  | identityServer (uri : Value)
  | unparsable (kind uri : Text)
  /-- The address cannot even be written, so that it cannot be said what is refused. -/
  | unwritable

/-- What is said of an address that is refused, if it can be written. -/
def InvalidProfile.message? : InvalidProfile → Option Text
  | .homeServer v => some ("Invalid home server URI: " ++ v.plain)
  | .identityServer v => some ("Invalid identity server URI: " ++ v.quoted)
  | .unparsable kind uri => some ("Invalid " ++ kind ++ " URI: " ++ uri)
  | .unwritable => none

end ConnectionProfile
