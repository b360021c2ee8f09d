import ConnectionProfile.Main
import ConnectionProfile.Session.Step
import ConnectionProfile.Proofs.Logged
import ConnectionProfile.Proofs.Logged.Checks
import ConnectionProfile.Proofs.Uri.FinalSlash
import ConnectionProfile.Proofs.Profile.Decoding
import ConnectionProfile.Proofs.Profile.Reload
import ConnectionProfile.Proofs.Json.Written
import ConnectionProfile.Proofs.Json.Quoted
import ConnectionProfile.Proofs.Json.Reading
import ConnectionProfile.Proofs.Json.Numerals
import ConnectionProfile.Proofs.Json.Parts
import ConnectionProfile.Proofs.Json.Printed
import ConnectionProfile.Proofs.Profile.Document
import ConnectionProfile.Proofs.Profile.TextCodec
import ConnectionProfile.Proofs.Yaml.Lexing
import ConnectionProfile.Proofs.Yaml.FlowText
import ConnectionProfile.Proofs.Yaml.Written
import ConnectionProfile.Proofs.Yaml.Loading
import ConnectionProfile.Proofs.Yaml.Parsed
import ConnectionProfile.Proofs.Yaml.Document
import ConnectionProfile.Proofs.Overrides
import ConnectionProfile.Proofs.Overrides.Merged
import ConnectionProfile.Proofs.Profile.Halves
import ConnectionProfile.Proofs.Run.Ending
import ConnectionProfile.Proofs.Run.Reprint
import ConnectionProfile.Proofs.Overrides.Precedence
import ConnectionProfile.Proofs.Profile.Fields
import ConnectionProfile.Proofs.Overrides.Replaced
import ConnectionProfile.Proofs.Profile.StoredText
import ConnectionProfile.Proofs.Run.Status
import ConnectionProfile.Proofs.Profile.Pins
import ConnectionProfile.Proofs.Session.Action
import ConnectionProfile.Proofs.Session.Effect
import ConnectionProfile.Proofs.Session.Atomic
import ConnectionProfile.Proofs.Session.History
import ConnectionProfile.Proofs.Session.Sharing
import ConnectionProfile.Proofs.Session.Pins
import ConnectionProfile.Proofs.Value.Members
import ConnectionProfile.Proofs.Profile.Masked
import ConnectionProfile.Proofs.Overrides.Masked
import ConnectionProfile.Proofs.Run.Tokens
import ConnectionProfile.Proofs.Profile.Addresses
import ConnectionProfile.Proofs.Session.Origin
import ConnectionProfile.Proofs.Session.Identity
import ConnectionProfile.Proofs.Profile.Records
import ConnectionProfile.Proofs.Run.Foreign
import ConnectionProfile.Proofs.Run.Outputs
import ConnectionProfile.Proofs.Json.Alike
import ConnectionProfile.Proofs.Profile.Hidden
import ConnectionProfile.Proofs.Session.Tokens
import ConnectionProfile.Proofs.Profile.Creation
import ConnectionProfile.Proofs.Profile.Decisions
import ConnectionProfile.Proofs.Session.Copies
import ConnectionProfile.Proofs.Json.Seams
import ConnectionProfile.Proofs.Json.LongIntegers
import ConnectionProfile.Proofs.Profile.TextErrors
import ConnectionProfile.Overrides.Shared
import ConnectionProfile.Proofs.Value.Puts
import ConnectionProfile.Proofs.Overrides.Changes
import ConnectionProfile.Proofs.Run.HomeServer
import ConnectionProfile.Proofs.Overrides.Frame
import ConnectionProfile.Proofs.Overrides.Shared
import ConnectionProfile.Proofs.Overrides.Again
import ConnectionProfile.Proofs.Profile.Forms
import ConnectionProfile.Proofs.Run.Canonical
import ConnectionProfile.Proofs.Profile.Rewording
import ConnectionProfile.Proofs.Profile.Redacted
import ConnectionProfile.Proofs.Pin
import ConnectionProfile.Proofs.Options.Gathered
