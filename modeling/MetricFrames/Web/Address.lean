import MetricFrames.Web.Authority

/-!
# Addresses

An address has a scheme, an authority, a path and perhaps a query and a fragment. Reading one
escapes what may not stand in an address and refuses control characters and parts that are too
long. A request goes to a path below a base address.
-/

namespace MetricFrames.Web

/-- The parts of an address, escaped. -/
structure Address where
  scheme : List Char
  authority : Authority
  path : List Char
  query : Option (List Char)
  fragment : Option (List Char)

namespace Address

/-- The longest address, or part of one. -/
def maxLength : Nat := 65536

/-- The text of an address. -/
def text (a : Address) : List Char :=
  (if a.scheme.isEmpty then [] else a.scheme ++ [':']) ++
    (if a.authority.isEmpty then [] else '/' :: '/' :: a.authority.text) ++ a.path ++
    ((a.query.map ('?' :: ·)).getD []) ++ ((a.fragment.map ('#' :: ·)).getD [])

/-! ### Checks -/

/-- The ASCII characters that cannot be shown. -/
def isControl (c : Char) : Bool := c.toNat < 32 || c.toNat == 127

/-- Refuses a text with a control character; `place` says where the text belongs. -/
def checkControls (place : String) (s : List Char) : Except Fault Unit :=
  match s.findIdx? isControl with
  | none => .ok ()
  | some i =>
    let c := (s.drop i).take 1
    .error (.badAddress ("Invalid non-printable ASCII character in URL" ++ place ++ ", " ++
      String.ofList (Text.quoted c) ++ " at position " ++ toString i ++ "."))

/-- Refuses a part that is too long or holds a control character. -/
def checkPart (name : String) (s : List Char) : Except Fault Unit :=
  if maxLength < s.length then
    .error (.badAddress ("URL component '" ++ name ++ "' too long"))
  else checkControls (" " ++ name ++ " component") s

/-- Refuses a whole address that is too long or holds a control character. -/
def checkWhole (s : List Char) : Except Fault Unit :=
  if maxLength < s.length then .error (.badAddress "URL too long") else checkControls "" s

/-! ### Reading -/

/-- The scheme at the start of an address, and what follows its colon. -/
def readScheme (s : List Char) : List Char × List Char :=
  match s.span fun c => c.isAlphanum || c == '+' || c == '.' || c == '-' with
  | (name, ':' :: rest) =>
    match name with
    | [] => ([], rest)
    | c :: _ => if c.isAlpha then (name, rest) else ([], s)
  | _ => ([], s)

/-- Resolves the segments `.` and `..` of a path. -/
def resolveDots (path : List Char) : List Char :=
  let segments := Text.splitAt '/' path
  let kept := segments.foldl (fun (kept : List (List Char)) segment =>
    if segment = ['.'] then kept
    else if segment = ['.', '.'] then
      (if kept = [] || kept = [[]] then kept else kept.dropLast)
    else kept ++ [segment]) []
  if segments.any (fun s => s = ['.'] || s = ['.', '.']) then Text.joinWith ['/'] kept else path

/-- Splits a text at its number sign and its question mark: path, query and fragment. -/
def readTail (s : List Char) : List Char × Option (List Char) × Option (List Char) :=
  let (front, fragment) := cutAt '#' s
  let (path, query) := cutAt '?' front
  (path, query, fragment)

/-- Refuses a path that would be read as something else. -/
def checkPath (absolute hasAuthority : Bool) (path : List Char) : Except Fault Unit :=
  if hasAuthority && !path.isEmpty && path.head? ≠ some '/' then
    .error (.badAddress "For absolute URLs, path must be empty or begin with '/'")
  else if !absolute && !hasAuthority then
    if path.take 2 = ['/', '/'] then
      .error (.badAddress "Relative URLs cannot have a path starting with '//'")
    else if path.head? = some ':' then
      .error (.badAddress "Relative URLs cannot have a path starting with ':'")
    else .ok ()
  else .ok ()

/-- The address of parts that are not escaped yet. -/
def ofParts (scheme authority path : List Char) (query fragment : Option (List Char)) :
    Except Fault Address := do
  let authority ← Authority.read scheme authority
  let scheme := scheme.map Char.toLower
  checkPath (!scheme.isEmpty) (!authority.isEmpty) path
  let path := if scheme.isEmpty && authority.isEmpty then path else resolveDots path
  return ⟨scheme, authority, escape isPathChar path, query.map (escape isQueryChar),
    fragment.map (escape isFragmentChar)⟩

/-- Reads an address. -/
def read (s : List Char) : Except Fault Address := do
  checkWhole s
  let (scheme, rest) := readScheme s
  match rest with
  | '/' :: '/' :: rest =>
    let (authority, rest) := rest.span fun c => c != '/' && c != '?' && c != '#'
    let (path, query, fragment) := readTail rest
    ofParts scheme authority path query fragment
  | _ =>
    let (path, query, fragment) := readTail rest
    ofParts scheme [] path query fragment

/-! ### Requests below a base address -/

/-- The path and query of an address; an empty path is the root. -/
def rawPath (a : Address) : List Char :=
  (if a.path.isEmpty then ['/'] else a.path) ++ ((a.query.map ('?' :: ·)).getD [])

/-- The address with another path and query; all its parts are read again. -/
def rebuilt (a : Address) (path : List Char) (query : Option (List Char)) :
    Except Fault Address := do
  checkPart "scheme" a.scheme
  checkPart "authority" a.authority.text
  checkPart "path" path
  checkPart "query" (query.getD [])
  checkPart "fragment" (a.fragment.getD [])
  ofParts a.scheme a.authority.text path query a.fragment

/-- The address with another path and query, which are given as one text. -/
def withRawPath (a : Address) (raw : List Char) : Except Fault Address :=
  let (path, query) := cutAt '?' raw
  a.rebuilt path query

/-- The address with another query, already encoded. -/
def withQuery (a : Address) (query : List Char) : Except Fault Address :=
  a.rebuilt a.path (some query)

/-- Reads a base address; its path gets a slash at the end. -/
def readBase (s : List Char) : Except Fault Address := do
  let a ← read s
  if a.rawPath.getLast? = some '/' then return a else a.withRawPath (a.rawPath ++ ['/'])

/-- The address without any parts. -/
def empty : Address := ⟨[], {}, [], none, none⟩

/-- The address of a path below a base address; a whole address stays as it is. -/
def below (base : Address) (path : List Char) : Except Fault Address := do
  let a ← read path
  if a.scheme.isEmpty || a.authority.host.isEmpty then
    base.withRawPath (base.rawPath ++ a.rawPath.dropWhile (· == '/'))
  else return a

/-- A reply counts only if the address that it comes from says what kind of address it is: its
first colon comes before its first slash, and something before that. -/
def checkKind (address : String) : Except Fault Unit :=
  match address.toList.span fun c => c != ':' && c != '/' with
  | (_ :: _, ':' :: _) => .ok ()
  | _ =>
    let s := address.toList
    let shown := if s.getLast? = some '#' then s.dropLast else s
    .error (.unknownKind (String.ofList (Text.quoted shown)))

end Address
end MetricFrames.Web
