import ConnectionProfile.Uri.Address
import ConnectionProfile.Value

/-!
# URIs

A server URI names one of two schemes. A URI parses when its authority part can be read; the
parts after it are free.
-/

namespace ConnectionProfile.Uri

def supportedSchemes : List Text := ["http", "https"]

/-- The scheme is the text before the first colon, in exactly this spelling. -/
def hasSupportedScheme : Value → Bool
  | .text t =>
    match t.cut? ':' with
    | some (scheme, _) => supportedSchemes.elem scheme
    | none => false
  | _ => false

/-- Control characters and the space are not part of a URI at its start. -/
def isLeadingNoise (c : CodePoint) : Bool := c.val ≤ 0x20

/-- Tabs and line ends are not part of a URI anywhere. -/
def isNoise (c : CodePoint) : Bool := c = '\t' || c = '\r' || c = '\n'

def clean (uri : Text) : Text := (uri.dropWhile isLeadingNoise).filter (!isNoise ·)

def isSchemeCharacter (c : CodePoint) : Bool :=
  c.isAsciiAlphanumeric || c = '+' || c = '-' || c = '.'

def isScheme (t : Text) : Bool :=
  match t with
  | [] => false
  | c :: _ => c.isAsciiLetter && t.all isSchemeCharacter

/-- What follows the scheme, if there is one. -/
def afterScheme (uri : Text) : Text :=
  match uri.cut? ':' with
  | some (scheme, rest) => if isScheme scheme then rest else uri
  | none => uri

def endsAuthority (c : CodePoint) : Bool := c = '/' || c = '?' || c = '#'

/-- The part between two slashes and the next slash, question mark or hash. -/
def authority (uri : Text) : Text :=
  match (afterScheme (clean uri)).after? "//" with
  | some rest => rest.takeWhile (!endsAuthority ·)
  | none => []

/-- Code points that turn into a delimiter when a host name is brought into its compatibility
form. -/
def hidesDelimiter (c : CodePoint) : Bool :=
  [0x2047, 0x2048, 0x2049, 0x2100, 0x2101, 0x2105, 0x2106, 0x2A74, 0xFE13, 0xFE16, 0xFE55, 0xFE56,
    0xFE5F, 0xFE6B, 0xFF03, 0xFF0F, 0xFF1A, 0xFF1F, 0xFF20].elem c.val

/-- A letter, its version in base sixteen, a dot and anything after it. -/
def isFutureAddress (version : Text) : Bool :=
  match version.cut? '.' with
  | some (digits, rest) => digits ≠ [] && digits.all CodePoint.isHexDigit && rest ≠ []
  | none => false

def isBracketedHost (host : Text) : Bool :=
  match host with
  | c :: rest => if c = 'v' then isFutureAddress rest else Address.isVersion6 host
  | [] => false

/-- What follows the last at sign. -/
def afterUser (authority : Text) : Text :=
  (authority.reverse.takeWhile (· ≠ ('@' : CodePoint))).reverse

/-- In an authority with brackets the host stands right after the user and in brackets, and only a
port may follow it. -/
def isBracketedAuthority (authority : Text) : Bool :=
  let server := afterUser authority
  match server.cut? '[' with
  | some (before, inside) =>
    let host := inside.takeWhile (· ≠ (']' : CodePoint))
    let port : Text := (inside.drop host.length).drop 1
    before = [] && (port = [] || port.startsWith ":") && isBracketedHost host
  | none => isBracketedHost (server.takeWhile (· ≠ (':' : CodePoint)))

def hasGoodBrackets (authority : Text) : Bool :=
  match authority.elem ('[' : CodePoint), authority.elem (']' : CodePoint) with
  | true, true => isBracketedAuthority authority
  | false, false => true
  | _, _ => false

/-- A URI parses unless its authority part holds a bad address or a hidden delimiter. -/
def parses (uri : Text) : Bool :=
  hasGoodBrackets (authority uri) && (authority uri).all (!hidesDelimiter ·)

end ConnectionProfile.Uri
