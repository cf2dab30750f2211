import SourceAudit.Remote.Host
import SourceAudit.Text.Encoding

/-!
  Addresses of services: a scheme, what comes before the host, the host, the
  number of a socket, a path, a query and a fragment. Reading an address brings
  it into its normal form: small letters in scheme and host, no socket that is
  the usual one, no dots in the path, and all characters percent encoded that do
  not stand for themselves.
-/
namespace SourceAudit
namespace Remote

/-- An address in its normal form. -/
structure Address where
  scheme : Text := []
  user : Text := []
  host : Text := []
  socket : Option Int := none
  path : Text := []
  query : Option Text := none
  fragment : Option Text := none
  deriving DecidableEq, Repr

namespace Address

/-- Why a text is no address. -/
inductive Fault where
  | tooLong
  | unprintable (c : Char) (position : Nat)
  | host (f : Host.Fault)
  | socket (t : Text)
  | doubleSlash
  | colonFirst
  deriving DecidableEq, Repr

/-- How a fault is reported. -/
def Fault.message : Fault → String
  | tooLong => "URL too long"
  | unprintable c position =>
    "Invalid non-printable ASCII character in URL, " ++ String.ofList (Quoted.encode [c]) ++
      " at position " ++ toString position ++ "."
  | host f => f.message
  | socket t => "Invalid port: " ++ String.ofList (Quoted.encode t)
  | doubleSlash => "Relative URLs cannot have a path starting with '//'"
  | colonFirst => "Relative URLs cannot have a path starting with ':'"

/-- The most characters of an address. -/
def maxLength : Nat := 65536

/-- Characters of a fragment that stand for themselves. -/
def inFragment (c : Char) : Bool :=
  decide (0x20 < c.toNat) && decide (c.toNat < 0x7f) && !"\"<>`".toList.contains c

/-- Characters of a query that stand for themselves. -/
def inQuery (c : Char) : Bool :=
  decide (0x20 < c.toNat) && decide (c.toNat < 0x7f) && !"\"#<>".toList.contains c

/-- Characters of a path that stand for themselves. -/
def inPath (c : Char) : Bool := inQuery c && !"?`\x7b\x7d".toList.contains c

/-- Characters of what comes before the host that stand for themselves. -/
def inUser (c : Char) : Bool := inPath c && !"/;=@[\\]^|".toList.contains c

/-- A text up to the first of some characters, and the rest from there. -/
def upTo (stops : List Char) (t : Text) : Text × Text :=
  (t.takeWhile fun c => !stops.contains c, t.dropWhile fun c => !stops.contains c)

/-- The scheme of an address, and what follows the colon after it. -/
def schemeOf (t : Text) : Text × Text :=
  let part := fun (c : Char) => c.isAlphanum || c == '+' || c == '.' || c == '-'
  match t with
  | ':' :: rest => ([], rest)
  | c :: _ =>
    match t.dropWhile part with
    | ':' :: rest => if c.isAlpha then (t.takeWhile part, rest) else ([], t)
    | _ => ([], t)
  | [] => ([], [])

/-- What comes before the last sign for "at", if there is one, and what comes after it. -/
def userOf (t : Text) : Text × Text :=
  if t.contains '@' then
    (((t.reverse.dropWhile (· != '@')).drop 1).reverse, (t.reverse.takeWhile (· != '@')).reverse)
  else ([], t)

/-- The host at the start of a text and what follows it. Brackets reach to the last one that
closes; any other host reaches to a colon. -/
def hostOf (t : Text) : Text × Text :=
  match t with
  | '[' :: _ =>
    if t.contains ']' then
      ((t.reverse.dropWhile (· != ']')).reverse, (t.reverse.takeWhile (· != ']')).reverse)
    else upTo [':'] t
  | _ => upTo [':'] t

/-- The usual sockets of schemes. -/
def usualSockets : List (String × Int) :=
  [("ftp", 21), ("http", 80), ("https", 443), ("ws", 80), ("wss", 443)]

/-- The socket that a text stands for; none, if it is the usual one of the scheme. -/
def socketOf (scheme t : Text) : Except Fault (Option Int) :=
  let digits := match t with
    | ':' :: rest => rest
    | _ => t
  if digits.isEmpty then .ok none
  else
    match Number.whole digits with
    | .error _ => .error (.socket digits)
    | .ok n => .ok (if usualSockets.lookup (String.ofList scheme) == some n then none else some n)

/-- The parts of a path without single dots; two dots take the part before them away, but never
the root. -/
def withoutDots : (kept : List Text) → List Text → List Text
  | kept, [] => kept
  | kept, part :: rest =>
    if part == ['.'] then withoutDots kept rest
    else if part == ['.', '.'] then
      withoutDots (if kept == [[]] then kept else kept.dropLast) rest
    else withoutDots (kept ++ [part]) rest

/-- A path without parts that are dots. -/
def plainPath (t : Text) : Text := Text.joinWith ['/'] (withoutDots [] (t.splitOn '/'))

/-- Refuses paths of addresses that name neither a scheme nor a host. -/
def checkPath (t : Text) : Except Fault Unit :=
  match t with
  | '/' :: '/' :: _ => .error .doubleSlash
  | ':' :: _ => .error .colonFirst
  | _ => .ok ()

/-- What follows the first character of a text, if there is one. -/
def afterFirst : Text → Option Text
  | [] => none
  | _ :: rest => some rest

/-- The address that a text stands for. -/
def ofText (t : Text) : Except Fault Address := do
  if maxLength < t.length then throw .tooLong
  match t.findIdx? fun c => c.toNat < 0x20 || c.toNat == 0x7f with
  | some i => throw (.unprintable (t.getD i ' ') i)
  | none => pure ()
  let (scheme, rest) := schemeOf t
  let (authority, rest) := match rest with
    | '/' :: '/' :: rest => upTo ['/', '?', '#'] rest
    | _ => ([], rest)
  let (path, rest) := upTo ['?', '#'] rest
  let (query, fragment) := match rest with
    | '?' :: _ => upTo ['#'] rest
    | _ => ([], rest)
  let (user, place) := userOf authority
  let (host, socket) := hostOf place
  let host ← (Host.ofText host).mapError .host
  let socket ← socketOf scheme socket
  let relative := scheme.isEmpty && user.isEmpty && host.isEmpty && socket.isNone
  if relative then checkPath path
  return {
    scheme := scheme.map Char.toLower
    user := Percent.encode inUser user
    host := host
    socket := socket
    path := Percent.encode inPath (if relative then path else plainPath path)
    query := (afterFirst query).map (Percent.encode inQuery)
    fragment := (afterFirst fragment).map (Percent.encode inFragment) }

/-- Whether an address names a scheme and a host. -/
def isAbsolute (a : Address) : Bool := !a.scheme.isEmpty && !a.host.isEmpty

/-- Where something is posted that goes to an address: an address that is not absolute keeps its
path and query only, and starts at the root. -/
def resolved (a : Address) : Address :=
  if a.isAbsolute then a
  else { path := '/' :: a.path.dropWhile (· == '/'), query := a.query }

/-- The user, the host and the socket. -/
def authority (a : Address) : Text :=
  (if a.user.isEmpty then [] else a.user ++ ['@']) ++
    (if a.host.contains ':' then '[' :: a.host ++ [']'] else a.host) ++
    match a.socket with
    | some n => ':' :: (toString n).toList
    | none => []

/-- The text of an address. -/
def text (a : Address) : Text :=
  (if a.scheme.isEmpty then [] else a.scheme ++ [':']) ++
    (if a.authority.isEmpty then [] else '/' :: '/' :: a.authority) ++ a.path ++
    (match a.query with
      | some q => '?' :: q
      | none => []) ++
    match a.fragment with
    | some f => '#' :: f
    | none => []

/-- The name and the word before the host, as a proof of who asks. -/
def proof? (a : Address) : Option String :=
  let read := fun (t : Text) => (String.ofList (Utf8.decode (Percent.decode t))).toUTF8.toList
  let name := read (a.user.takeWhile (· != ':'))
  let word := read ((a.user.dropWhile (· != ':')).drop 1)
  if name.isEmpty && word.isEmpty then none
  else some ("Basic " ++ String.ofList (Base64.encode (name ++ ':'.toUInt8 :: word)))

end Address
end Remote
end SourceAudit
