import MetricFrames.Fault
import MetricFrames.Text.Base64
import MetricFrames.Text.Blank
import MetricFrames.Text.Digit
import MetricFrames.Text.LowerCase
import MetricFrames.Text.Quoted
import MetricFrames.Text.Utf8
import MetricFrames.Web.Form
import MetricFrames.Web.Host.Label
import MetricFrames.Web.Host.Number

/-!
# Authorities

The authority of an address names a host, perhaps with a port and with a user. Reading one checks
the host and writes it in ASCII; a port that the scheme implies is left out. A user with a password
authorizes requests that have no other authorization.
-/

namespace MetricFrames.Web

/-- What stands before and after the first character of a kind, if there is one. -/
def cutAt (c : Char) (s : List Char) : List Char × Option (List Char) :=
  match s.span (· != c) with
  | (head, []) => (head, none)
  | (head, _ :: rest) => (head, some rest)

/-! ### Escaping -/

/-- Characters of a query: visible ASCII, without quotes, angles and the number sign. -/
def isQueryChar (c : Char) : Bool :=
  32 < c.toNat && c.toNat < 127 && !(['"', '#', '<', '>'].contains c)

/-- Characters of a path: those of a query, without the question mark, braces and the accent. -/
def isPathChar (c : Char) : Bool :=
  isQueryChar c && !(['?', Char.ofNat 96, '\x7b', '\x7d'].contains c)

/-- Characters of a fragment. -/
def isFragmentChar (c : Char) : Bool :=
  32 < c.toNat && c.toNat < 127 && !(['"', '<', '>', Char.ofNat 96].contains c)

/-- Characters of a user: those of a path, without what separates parts. -/
def isUserChar (c : Char) : Bool := isPathChar c && !("/;=@[\\]^|".toList.contains c)

/-- Characters of a host name in ASCII. -/
def isHostChar (c : Char) : Bool :=
  isUnreserved c || "!$&'()*+,;=\"\x7b\x7d%|\\".toList.contains c || c == Char.ofNat 96

/-- Escapes the characters outside a class. -/
def escape (allowed : Char → Bool) (s : List Char) : List Char :=
  s.flatMap fun c => if allowed c then [c] else percentChar c

/-- The bytes that a text in ASCII with escapes stands for. -/
def unescape : List Char → List Nat
  | '%' :: a :: b :: s =>
    match Text.hexValue? a, Text.hexValue? b with
    | some high, some low => (high * 16 + low) :: unescape s
    | _, _ => '%'.toNat :: unescape (a :: b :: s)
  | c :: s => c.toNat :: unescape s
  | [] => []

/-! ### Hosts and ports -/

/-- A host, checked and in ASCII. Numbers are taken as they are, names in small letters. -/
def readHost (s : List Char) : Except Fault (List Char) :=
  let invalid (kind : String) : Except Fault (List Char) :=
    .error (.badAddress ("Invalid " ++ kind ++ ": " ++ String.ofList (Text.quoted s)))
  if Host.looksDotted s then
    if Host.isDotted s then .ok s else invalid "IPv4 address"
  else if s.head? = some '[' ∧ s.getLast? = some ']' then
    if Host.isColoned (s.drop 1).dropLast then .ok s else invalid "IPv6 address"
  else if s.all (·.toNat < 128) then .ok (escape isHostChar (s.map Char.toLower))
  else
    match Host.nameCode? (Text.lowerCase s) with
    | some code => .ok code
    | none => invalid "IDNA hostname"

/-- The value of digits of any script; single underscores may stand between them. -/
def digitsValue? (n : Nat) : List Char → Option Nat
  | [] => none
  | c :: s =>
    (Text.digitValue? c).bind fun d =>
      match s with
      | [] => some (n * 10 + d)
      | '_' :: s => digitsValue? (n * 10 + d) s
      | s => digitsValue? (n * 10 + d) s

/-- An integer as text, with blanks around it and a sign before it. -/
def integer? (s : List Char) : Option Int :=
  let s := Text.trim s
  let value? (digits : List Char) : Option Nat :=
    if Fault.maxDigits < (digits.filter (· != '_')).length then none else digitsValue? 0 digits
  match s with
  | '+' :: s => (value? s).map Int.ofNat
  | '-' :: s => (value? s).map fun n => -(n : Int)
  | s => (value? s).map Int.ofNat

/-- The port that a scheme implies. -/
def defaultPort (scheme : List Char) : Option Int :=
  if scheme = "http".toList || scheme = "ws".toList then some 80
  else if scheme = "https".toList || scheme = "wss".toList then some 443
  else if scheme = "ftp".toList then some 21
  else none

/-- A port, unless the scheme implies it. -/
def readPort (scheme port : List Char) : Except Fault (Option Int) :=
  if port.isEmpty then .ok none
  else
    match integer? port with
    | some n => .ok (if defaultPort scheme = some n then none else some n)
    | none => .error (.badAddress ("Invalid port: " ++ String.ofList (Text.quoted port)))

/-! ### Authorities -/

/-- A user, a host and a port, escaped. -/
structure Authority where
  user : List Char := []
  host : List Char := []
  port : Option Int := none

namespace Authority

/-- The text of an authority. -/
def text (a : Authority) : List Char :=
  (if a.user.isEmpty then [] else a.user ++ ['@']) ++ a.host ++
    ((a.port.map fun n => ':' :: (toString n).toList).getD [])

/-- Whether nothing is named. -/
def isEmpty (a : Authority) : Bool := a.text.isEmpty

/-- What stands before and after the last character of a kind, if there is one. -/
def cutAtLast (c : Char) (s : List Char) : Option (List Char × List Char) :=
  match cutAt c s.reverse with
  | (tail, some head) => some (head.reverse, tail.reverse)
  | (_, none) => none

/-- Cuts what follows the user into host and port. A host in brackets may hold colons. -/
def cutPort (s : List Char) : List Char × List Char :=
  let bracketed : Option (List Char × List Char) :=
    if s.head? = some '[' then (cutAtLast ']' s).map fun (head, tail) => (head ++ [']'], tail)
    else none
  let (host, rest) := bracketed.getD (s.span (· != ':'))
  (host, if rest.head? = some ':' then rest.drop 1 else rest)

/-- Reads an authority; the scheme is given as it was written. -/
def read (scheme s : List Char) : Except Fault Authority := do
  let (user, rest) := (cutAtLast '@' s).getD ([], s)
  let (host, port) := cutPort rest
  let host ← readHost host
  let port ← readPort scheme port
  return ⟨escape isUserChar user, host, port⟩

/-- The name and the password of the user. -/
def userParts (a : Authority) : List Char × List Char :=
  let (name, password) := cutAt ':' a.user
  let plain (s : List Char) : List Char := Text.charactersOf (unescape s)
  (plain name, plain (password.getD []))

/-- The authorization that the user and the password give, if there are any. -/
def authorization? (a : Authority) : Option String :=
  let (name, password) := a.userParts
  if name.isEmpty && password.isEmpty then none
  else
    let bytes := (name ++ ':' :: password).flatMap fun c =>
      (String.utf8EncodeChar c).map UInt8.toNat
    some ("Basic " ++ String.ofList (Text.base64 bytes))

end Authority
end MetricFrames.Web
