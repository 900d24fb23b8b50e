import BlobFiles.Endpoint.Address
import BlobFiles.Endpoint.Domain

/-! # Web URLs

Whether a text is an absolute URL by the rules that browsers follow, and if not, why. Only the
scheme and the authority can be at fault; path, query and fragment always pass. The schemes of the
web need a host, which is a domain name or an address; other schemes take any host, or none.
-/
namespace BlobFiles.Endpoint

inductive UrlFault where
  | noScheme
  | emptyHost
  | port
  | ipv4
  | ipv6
  | domain
  | hostCharacter
  deriving DecidableEq, Repr

def UrlFault.message : UrlFault → String
  | .noScheme => "relative URL without a base"
  | .emptyHost => "empty host"
  | .port => "invalid port number"
  | .ipv4 => "invalid IPv4 address"
  | .ipv6 => "invalid IPv6 address"
  | .domain => "invalid international domain name"
  | .hostCharacter => "invalid domain character"

inductive SchemeKind where
  | web
  | file
  | other
  deriving DecidableEq, Repr

def SchemeKind.ofName (name : List Char) : SchemeKind :=
  let name := name.map Char.toLower
  if name = "file".toList then .file
  else if ["http", "https", "ws", "wss", "ftp"].any (·.toList = name) then .web
  else .other

/-- Control characters and spaces at the ends do not count, nor tabs and line ends anywhere. -/
def clean (text : List Char) : List Char :=
  let isEnd (c : Char) : Bool := c.toNat ≤ 0x20
  let inner := ((text.dropWhile isEnd).reverse.dropWhile isEnd).reverse
  inner.filter fun c => !(c = '\t' || c = '\n' || c = '\r')

def isSchemeChar (c : Char) : Bool := c.isAlphanum || c = '+' || c = '-' || c = '.'

/-- The scheme in front of the first colon, and what follows the colon. -/
def scheme? (text : List Char) : Option (SchemeKind × List Char) :=
  let name := text.takeWhile isSchemeChar
  match name, text.dropWhile isSchemeChar with
  | first :: _, ':' :: rest => if first.isAlpha then some (.ofName name, rest) else none
  | _, _ => none

def isSlash (kind : SchemeKind) (c : Char) : Bool := c = '/' || (c = '\\' && kind ≠ .other)

/-- The authority ends where the path, the query or the fragment begins. -/
def endsAuthority (kind : SchemeKind) (c : Char) : Bool := isSlash kind c || c = '?' || c = '#'

def bracketed? (host : List Char) : Option (List Char) :=
  match host with
  | '[' :: rest => some rest
  | _ => none

def checkBracketed (rest : List Char) : Except UrlFault Unit :=
  if rest.getLast? = some ']' && isIpv6 rest.dropLast then .ok () else .error .ipv6

def checkHost (host : List Char) : Except UrlFault Unit :=
  match bracketed? host with
  | some rest => checkBracketed rest
  | none =>
    match domain? host with
    | none => .error .domain
    | some [] => .error .emptyHost
    | some name => if endsInNumber name && !isIpv4 name then .error .ipv4 else .ok ()

/-- What may not stand in a host of any scheme. -/
def isHostBreak (c : Char) : Bool :=
  ['\x00', '\t', '\n', '\r', ' ', '#', '/', ':', '<', '>', '?', '@', '[', '\\', ']', '^',
    '|'].contains c

/-- A host of a scheme that the web does not know. -/
def checkAnyHost (host : List Char) : Except UrlFault Unit :=
  match bracketed? host with
  | some rest => checkBracketed rest
  | none =>
    if host.any isHostBreak then .error .hostCharacter else .ok ()

/-- The host in front of a colon outside brackets, and the colon with what follows. -/
def splitPort (inBrackets : Bool) : List Char → List Char × List Char
  | [] => ([], [])
  | c :: rest =>
    if c = ':' && !inBrackets then ([], c :: rest)
    else
      let inBrackets := c = '[' || (c ≠ ']' && inBrackets)
      let (host, port) := splitPort inBrackets rest
      (c :: host, port)

/-- A port is a number of 16 bits, or left out behind its colon. -/
def checkPort (port : List Char) : Except UrlFault Unit :=
  match port with
  | [] => .ok ()
  | _ :: rest =>
    let digits := rest.takeWhile Char.isDigit
    match rest.dropWhile Char.isDigit with
    | [] | '\\' :: _ => if valueOf 10 digits < 65536 then .ok () else .error .port
    | _ => .error .port

/-- The user information in front of the last `@`, and what follows it. -/
def splitUser (authority : List Char) : Option (List Char) × List Char :=
  let reversed := authority.reverse
  let host := (reversed.takeWhile (· ≠ '@')).reverse
  match reversed.dropWhile (· ≠ '@') with
  | [] => (none, host)
  | _ :: user => (some user.reverse, host)

def checkAuthority (kind : SchemeKind) (text : List Char) : Except UrlFault Unit := do
  let authority := text.takeWhile (!endsAuthority kind ·)
  let more := !(text.dropWhile (!endsAuthority kind ·)).isEmpty
  let (user, hostAndPort) := splitUser authority
  if user = some [] && hostAndPort.isEmpty && more then throw .emptyHost
  let (host, port) := splitPort false hostAndPort
  if host.isEmpty && (kind = .web || !port.isEmpty) then throw .emptyHost
  if kind = .web then checkHost host else checkAnyHost host
  checkPort port
  if host.isEmpty && user ≠ none && user ≠ some [] && user ≠ some [':'] then throw .emptyHost

/-- A letter with a colon or a bar, which names a drive. -/
def isDrive (host : List Char) : Bool :=
  match host with
  | [letter, mark] => letter.isAlpha && (mark = ':' || mark = '|')
  | _ => false

def checkFile (text : List Char) : Except UrlFault Unit :=
  match text with
  | a :: b :: rest =>
    if isSlash .file a && isSlash .file b then
      let host := rest.takeWhile (!endsAuthority .file ·)
      if host.isEmpty || isDrive host then .ok () else checkHost host
    else .ok ()
  | _ => .ok ()

def checkUrl (text : List Char) : Except UrlFault Unit :=
  match scheme? (clean text) with
  | none => .error .noScheme
  | some (.web, rest) => checkAuthority .web (rest.dropWhile (isSlash .web))
  | some (.file, rest) => checkFile rest
  | some (.other, '/' :: '/' :: rest) => checkAuthority .other rest
  | some (.other, _) => .ok ()

end BlobFiles.Endpoint
