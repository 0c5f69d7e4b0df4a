import MediaVault.Http.Percent
import MediaVault.Text.Blank
import MediaVault.Url.Address
import MediaVault.Url.Domain

/-!
# Origins of URLs

The origin of a URL is its scheme, host and port.  The port is left out when
it is the usual one of the scheme.  Well-known schemes are read leniently:
slashes may lean either way and any number of them may precede the host.
-/

namespace MediaVault

/-- Why a text is no URL. -/
inductive UrlError where
  | emptyHost
  | invalidDomainName
  | invalidPort
  | invalidIpv4
  | invalidIpv6
  | invalidHostCharacter
  | relative
deriving Repr, DecidableEq

namespace UrlError

/-- The wording of a URL error. -/
def message : UrlError → String
  | emptyHost => "empty host"
  | invalidDomainName => "invalid international domain name"
  | invalidPort => "invalid port number"
  | invalidIpv4 => "invalid IPv4 address"
  | invalidIpv6 => "invalid IPv6 address"
  | invalidHostCharacter => "invalid domain character"
  | relative => "relative URL without a base"

end UrlError

/-- Scheme, host and port of a URL, if it has a host. -/
structure Url where
  scheme : String
  host : Option String
  port : Option Nat
deriving Repr, DecidableEq

namespace Url

/-- The usual ports of the well-known schemes. -/
def defaultPort? : String → Option Nat
  | "http" | "ws" => some 80
  | "https" | "wss" => some 443
  | "ftp" => some 21
  | _ => none

/-- Well-known schemes are read leniently. -/
def isSpecial (scheme : String) : Bool :=
  (defaultPort? scheme).isSome || scheme == "file"

/-- Outer spaces and control characters do not count, nor do tabs and line ends
anywhere. -/
def clean (s : List Char) : List Char :=
  (Text.stripBoth (fun c => c.toNat ≤ 0x20) s).filter fun c => c != '\t' && c != '\n' && c != '\r'

/-- A character of a scheme after the first. -/
def isSchemeChar (c : Char) : Bool :=
  c.isAlphanum || c == '+' || c == '-' || c == '.'

/-- The scheme in lower case and what follows its colon. -/
def splitScheme? (s : List Char) : Option (String × List Char) :=
  match s with
  | [] => none
  | c :: _ =>
    if c.isAlpha then
      match s.dropWhile isSchemeChar with
      | ':' :: rest => some (String.ofList (Text.lowerChars (s.takeWhile isSchemeChar)), rest)
      | _ => none
    else none

/-- A slash of either kind. -/
def isSlash (c : Char) : Bool :=
  c == '/' || c == '\\'

/-- A character that ends host and port. -/
def endsAuthority (special : Bool) (c : Char) : Bool :=
  c == '/' || c == '?' || c == '#' || (special && c == '\\')

/-- Cut a text after its last `@`. -/
def afterUserInfo (s : List Char) : List Char :=
  Text.lastPiece (· == '@') s

/-- Cut host from port at the first colon outside brackets. -/
def cutHost (inside : Bool) : List Char → List Char × Option (List Char)
  | [] => ([], none)
  | c :: rest =>
    if c = ':' && !inside then ([], some rest)
    else
      let inside := if c = '[' then true else if c = ']' then false else inside
      let cut := cutHost inside rest
      (c :: cut.1, cut.2)

/-- An IPv6 address in brackets. -/
def bracketed (s : List Char) : Except UrlError String :=
  if s.getLast? = some ']' then
    match Address.ipv6? (s.drop 1).dropLast with
    | some groups => .ok (Address.ipv6Text groups)
    | none => .error .invalidIpv6
  else .error .invalidIpv6

/-- The host of a well-known scheme: a domain or an address. -/
def specialHost (s : List Char) : Except UrlError String :=
  if s.head? = some '[' then bracketed s
  else
    match (Percent.decodeText? (String.ofList s)).bind fun d => Domain.toAscii? d.toList with
    | none => .error .invalidDomainName
    | some domain =>
      if domain.isEmpty then .error .emptyHost
      else if Address.endsInNumber domain then
        match Address.ipv4? domain with
        | some n => .ok (Address.ipv4Text n)
        | none => .error .invalidIpv4
      else .ok (String.ofList domain)

/-- Characters that no host may contain, whatever the scheme. -/
def isHostBreaker (c : Char) : Bool :=
  c.toNat == 0 || "\t\n\r #/:<>?@[\\]^|".toList.contains c

/-- The host of any other scheme, which keeps its spelling. -/
def opaqueHost (s : List Char) : Except UrlError String :=
  if s.head? = some '[' then bracketed s
  else if s.any isHostBreaker then .error .invalidHostCharacter
  else .ok (Percent.encode (fun c => 0x20 ≤ c.toNat && c.toNat < 0x7F) (String.ofList s))

/-- The digits of a port; a backslash ends them too. -/
def readPort (s : List Char) : Except UrlError (Option Nat) :=
  let digits := s.takeWhile (· != '\\')
  if digits.isEmpty then .ok none
  else
    match Text.appendDigits 65535 .tooLarge 0 digits with
    | .ok n => .ok (some n)
    | .error _ => .error .invalidPort

/-- Read user, host and port. -/
def ofAuthority (scheme : String) (authority : List Char) : Except UrlError Url := do
  let special := isSpecial scheme
  let hostAndPort := afterUserInfo authority
  let hasUser := hostAndPort.length + 1 < authority.length
  let cut := cutHost false hostAndPort
  if special && cut.1.isEmpty then throw .emptyHost
  let host ← if special then specialHost cut.1 else opaqueHost cut.1
  if host.toList.isEmpty && (cut.2.isSome || hasUser) then throw .emptyHost
  let port ← readPort (cut.2.getD [])
  pure
    { scheme := scheme
      host := if host.toList.isEmpty then none else some host
      port := if port = defaultPort? scheme then none else port }

/-- A drive letter in place of a host. -/
def isDrive : List Char → Bool
  | [c, d] => c.isAlpha && (d == ':' || d == '|')
  | _ => false

/-- The host of a file URL; the local machine counts as none. -/
def ofFile (rest : List Char) : Except UrlError Url := do
  let nowhere : Url := { scheme := "file", host := none, port := none }
  match rest with
  | a :: b :: rest =>
    if isSlash a && isSlash b then
      let written := rest.takeWhile fun c => !endsAuthority true c
      if written.isEmpty || isDrive written then pure nowhere
      else
        let host ← specialHost written
        pure { nowhere with host := if host = "localhost" then none else some host }
    else pure nowhere
  | _ => pure nowhere

/-- Read scheme, host and port of a URL. -/
def parse (s : List Char) : Except UrlError Url :=
  match splitScheme? (clean s) with
  | none => .error .relative
  | some (scheme, rest) =>
    if scheme = "file" then ofFile rest
    else if isSpecial scheme then
      ofAuthority scheme ((rest.dropWhile isSlash).takeWhile fun c => !endsAuthority true c)
    else
      match Text.dropLead? "//".toList rest with
      | some rest => ofAuthority scheme (rest.takeWhile fun c => !endsAuthority false c)
      | none => .ok { scheme := scheme, host := none, port := none }

end Url

/-- Why a text has no origin. -/
inductive OriginError where
  | invalid (raw : String) (error : UrlError)
  | noHost (raw : String)
deriving Repr, DecidableEq

namespace OriginError

/-- The causes, outermost first. -/
def chain : OriginError → List String
  | invalid raw error => ["invalid URL `" ++ raw ++ "`", error.message]
  | noHost raw => ["URL `" ++ raw ++ "` has no host"]

end OriginError

/-- Scheme, host and port of a URL; path and query are dropped, because a
signature binds the host alone. -/
def originOf (raw : String) : Except OriginError String :=
  match Url.parse (Text.trimChars raw.toList) with
  | .error error => .error (.invalid raw error)
  | .ok url =>
    match url.host with
    | none => .error (.noHost raw)
    | some host =>
      .ok (url.scheme ++ "://" ++ host ++
        match url.port with
        | some port => ":" ++ toString port
        | none => "")

end MediaVault
