import ConnectionProfile.Text

/-!
# Help

What the program says about its options.
-/

namespace ConnectionProfile.Options

def programName : Text := "homeserver-config"

def usage : Text := Text.joinWith "\n" [
  "usage: homeserver-config [-h] [--config CONFIG]",
  "                         [--home-server-url HOME_SERVER_URL]",
  "                         [--identity-server-url IDENTITY_SERVER_URL]",
  "                         [--pin PINS] [--user-id USER_ID]",
  "                         [--device-id DEVICE_ID] [--access-token ACCESS_TOKEN]",
  "                         [--log-level \x7bDEBUG,INFO,WARNING,ERROR\x7d]",
  "                         [--rich-logs]",
  ""]

def details : Text := Text.joinWith "\n" [
  "",
  "Validate and normalize a homeserver connection config",
  "",
  "options:",
  "  -h, --help            show this help message and exit",
  "  --config CONFIG       Path to a stored connection config (JSON or YAML)",
  "                        (default: None)",
  "  --home-server-url HOME_SERVER_URL",
  "                        URL of the homeserver (default: None)",
  "  --identity-server-url IDENTITY_SERVER_URL",
  "                        URL of the identity server, defaults to the homeserver",
  "                        URL (default: None)",
  "  --pin PINS            Certificate pin as HOSTNAME=HASH, repeatable. Replaces",
  "                        pins from the config. (default: None)",
  "  --user-id USER_ID     User ID of the credentials (default: None)",
  "  --device-id DEVICE_ID",
  "                        Device ID of the credentials (default: None)",
  "  --access-token ACCESS_TOKEN",
  "                        Access token of the credentials. Also accepted in the",
  "                        HOMESERVER_ACCESS_TOKEN envvar. (default: None)",
  "  --log-level \x7bDEBUG,INFO,WARNING,ERROR\x7d",
  "                        Set the logging level (default: INFO)",
  "  --rich-logs           Enable rich colored logging output (default: False)",
  ""]

def help : Text := usage ++ details

end ConnectionProfile.Options
