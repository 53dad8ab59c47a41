import MigrationStatus.Connection.Host
/-!
The address of a database, taken apart.

An address is a scheme with a colon, and, behind two slashes, an authority: user information up to
the last `@`, a host, and a port. A path follows, and behind a question mark a query; a number sign
ends the address. The schemes of the web need a host, and take a backslash for a slash.
-/

namespace MigrationStatus.Connection

/-- Why a text is no address. -/
inductive AddressError where
  | withoutScheme
  | host (error : HostError)
  | port
  deriving DecidableEq, Repr

def AddressError.message : AddressError → String
  | .withoutScheme => "relative URL without a base"
  | .host error => error.message
  | .port => "invalid port number"

/-- The schemes, as far as they differ in what follows them. -/
inductive Scheme where
  | file
  /-- A scheme of the web, with the port that need not be named. -/
  | web (port : UInt16)
  | other
  deriving DecidableEq, Repr

/-- The parts of an address, as they are written. -/
structure Address where
  user : List Char
  password : Option (List Char)
  host : Option (List Char)
  port : Option UInt16
  /-- The path without the components that lead nowhere, and without those that lead back. -/
  path : List Char
  query : List Char
  deriving DecidableEq, Repr

namespace Address

/-! ### The text as a whole -/

/-- Whether a character is dropped from both ends of an address. -/
def isOuter (c : Char) : Bool := c.toNat ≤ 0x20

/-- Whether a character is dropped wherever it stands in an address. -/
def isDropped (c : Char) : Bool := c == '\t' || c == '\n' || c == '\r'

/-- The text of an address without what does not count. -/
def cleaned (text : List Char) : List Char :=
  let front := text.dropWhile isOuter
  ((front.reverse.dropWhile isOuter).reverse).filter fun c => !isDropped c

/-- Whether the character ends the path of an address. -/
def endsPath (c : Char) : Bool := c == '?' || c == '#'

/-- The schemes with rules of their own. -/
def knownSchemes : List (String × Scheme) :=
  [("file", .file), ("ftp", .web 21), ("http", .web 80), ("https", .web 443), ("ws", .web 80),
    ("wss", .web 443)]

/-- The scheme of an address, and what follows its colon. -/
def scheme? (text : List Char) : Option (Scheme × List Char) := do
  let (name, rest) ← Text.cut? [':'] text
  guard (name.head?.any Char.isAlpha &&
    name.all fun c => c.isAlphanum || "+-.".toList.contains c)
  return ((knownSchemes.lookup (String.ofList (name.map Char.toLower))).getD .other, rest)

/-- Whether a character is a slash for the scheme. -/
def Scheme.hasSlash (scheme : Scheme) (c : Char) : Bool :=
  c == '/' || (c == '\\' && scheme != .other)

/-- Whether a character ends the authority. -/
def endsAuthority (scheme : Scheme) (c : Char) : Bool := Scheme.hasSlash scheme c || endsPath c

/-! ### The authority -/

/-- The user information in front of the last `@` of an authority, and what follows it. Where
nothing stands in front of that, something has to follow in the authority. -/
def cutUser (scheme : Scheme) (text : List Char) :
    Except AddressError (List Char × List Char) :=
  let authority := text.takeWhile fun c => !endsAuthority scheme c
  if !authority.contains '@' then .ok ([], text)
  else
    let place := (authority.reverse.takeWhile (· != '@')).reverse
    let user := authority.take (authority.length - place.length - 1)
    let behind := text.drop (user.length + 1)
    if user.isEmpty && behind.head?.any (endsAuthority scheme) then .error (.host .empty)
    else .ok (user, behind)

/-- The name and the password of user information; an empty password is none. -/
def userParts (user : List Char) : List Char × Option (List Char) :=
  match Text.cut? [':'] user with
  | none => (user, none)
  | some (name, password) => (name, if password.isEmpty then none else some password)

/-- The host at the start of a text, up to a colon outside of brackets or the end of the
authority, and what follows it. -/
def cutHost (scheme : Scheme) (inBrackets : Bool) : List Char → List Char × List Char
  | [] => ([], [])
  | c :: rest =>
    if endsAuthority scheme c || (c == ':' && !inBrackets) then ([], c :: rest)
    else
      let still := if c == '[' then true else if c == ']' then false else inBrackets
      let (host, left) := cutHost scheme still rest
      (c :: host, left)

/-- The host that a text writes; nothing where it writes none. -/
def readHost (scheme : Scheme) (host : List Char) : Except AddressError (Option (List Char)) := do
  let found ←
    match scheme with
    | .other => (Host.verbatim host).mapError .host
    | .web _ => if host.isEmpty then throw (.host .empty) else (Host.named host).mapError .host
    | .file =>
      if host.isEmpty then pure []
      else do
        let name ← (Host.named host).mapError .host
        pure (if name == "localhost".toList then [] else name)
  return if found.isEmpty then none else some found

/-- The port at the start of a text, and what follows it. No digits, and the port that the scheme
stands for, are none. -/
def cutPort (scheme : Scheme) (text : List Char) :
    Except AddressError (Option UInt16 × List Char) :=
  let digits := text.takeWhile Char.isDigit
  let rest := text.drop digits.length
  let port := Text.valueIn 10 digits
  if 65535 < port || rest.head?.any fun c => !(c == '\\' || c == '/' || endsPath c) then
    .error .port
  else if digits.isEmpty || scheme == .web (UInt16.ofNat port) then .ok (none, rest)
  else .ok (some (UInt16.ofNat port), rest)

/-! ### The path -/

/-- The ways in which a percent sign and two digits write a point. -/
def encodedPoints : List (List Char) := ["%2e".toList, "%2E".toList]

/-- The component with its points written as points, if it holds nothing else. -/
def pointsOf (component : List Char) : List Char :=
  match component with
  | '%' :: '2' :: c :: rest =>
    if encodedPoints.contains ['%', '2', c] then '.' :: pointsOf rest else component
  | '.' :: rest => '.' :: pointsOf rest
  | other => other

/-- Whether the component is a letter with a colon or a bar, which no step back leads out of. -/
def isDrive (component : List Char) : Bool :=
  match component with
  | [letter, mark] => letter.isAlpha && (mark == ':' || mark == '|')
  | _ => false

/-- The components without the last one, unless that has to stay. -/
def stepBack (components : List (List Char)) : List (List Char) :=
  match components with
  | last :: next :: others => if isDrive last then components else next :: others
  | _ => components

/-- The components with one more; the last comes first. In a file's path that begins with a drive,
what is written right behind that is a component of its own. -/
def withComponent (scheme : Scheme) (components : List (List Char)) (component : List Char) :
    List (List Char) :=
  match component with
  | letter :: ':' :: c :: rest =>
    if scheme == .file && components == [[]] && letter.isAlpha then
      (c :: rest) :: [letter, ':'] :: components
    else component :: components
  | _ => component :: components

/-- The components with more of them, where one point stays at its place and two step back. -/
def withComponents (scheme : Scheme) (components : List (List Char)) :
    List (List Char) → List (List Char)
  | [] => components
  | component :: rest =>
    let points := pointsOf component
    if points == ['.'] || points == ['.', '.'] then
      let next := if points == ['.'] then components else stepBack components
      if rest.isEmpty then [] :: next else withComponents scheme next rest
    else withComponents scheme (withComponent scheme components component) rest

/-- The path at the start of a text, behind the components so far. -/
def readPath (scheme : Scheme) (components : List (List Char)) (text : List Char) : List Char :=
  let written := text.takeWhile fun c => !endsPath c
  let slashed := written.map fun c => if Scheme.hasSlash scheme c then '/' else c
  ['/'].intercalate (withComponents scheme components (slashed.splitOn '/')).reverse

/-- The path behind an authority. A path of the web begins with a slash, written or not. -/
def pathBehind (scheme : Scheme) (text : List Char) : List Char :=
  match text with
  | [] => if scheme == .other then [] else ['/']
  | c :: rest =>
    if scheme != .other then
      readPath scheme [[]] (if Scheme.hasSlash scheme c then rest else text)
    else if c == '/' then readPath scheme [] text
    else if endsPath c then []
    else readPath scheme [[]] text

/-! ### The whole -/

/-- The query of an address: what stands between a question mark and a number sign. -/
def queryOf (text : List Char) : List Char :=
  match text.dropWhile fun c => !endsPath c with
  | '?' :: query => query.takeWhile (· != '#')
  | _ => []

/-- The address without an authority. -/
def ofPath (path text : List Char) : Address :=
  { user := [], password := none, host := none, port := none, path, query := queryOf text }

/-- Reads what follows the two slashes. -/
def ofAuthority (scheme : Scheme) (text : List Char) : Except AddressError Address := do
  let (userText, place) ← cutUser scheme text
  let (user, password) := userParts userText
  let (hostText, behind) := cutHost scheme false place
  let host ← readHost scheme hostText
  if host.isNone && behind.head? == some ':' then throw (.host .empty)
  let (port, rest) ←
    match behind with
    | ':' :: digits => cutPort scheme digits
    | _ => pure (none, behind)
  if host.isNone && !(user.isEmpty && password.isNone) then throw (.host .empty)
  return { user, password, host, port, path := pathBehind scheme rest, query := queryOf rest }

/-- Reads what follows the scheme of a file. Two slashes announce a host, unless a drive stands in
its place. -/
def ofFile (text : List Char) : Except AddressError Address := do
  let slashes := (text.take 2).takeWhile (Scheme.hasSlash .file)
  if slashes.length < 2 then
    return ofPath (readPath .file (if slashes.isEmpty then [[]] else []) text) text
  let behind := text.drop 2
  let hostText := behind.takeWhile fun c => !endsAuthority .file c
  if isDrive hostText then return ofPath (readPath .file [[]] behind) text
  let host ← readHost .file hostText
  let rest := behind.drop hostText.length
  let path := if host.isNone then readPath .file [[]] rest else pathBehind .file rest
  return { ofPath path rest with host }

/-- The address that a text writes. -/
def ofChars (text : List Char) : Except AddressError Address :=
  match scheme? (cleaned text) with
  | none => .error .withoutScheme
  | some (.file, rest) => ofFile rest
  | some (.web port, rest) => ofAuthority (.web port) (rest.dropWhile (Scheme.hasSlash (.web port)))
  | some (.other, rest) =>
    match rest with
    | '/' :: '/' :: authority => ofAuthority .other authority
    | '/' :: path => .ok (ofPath (readPath .other [[]] path) path)
    | whole => .ok (ofPath (whole.takeWhile fun c => !endsPath c) whole)

def parse (text : String) : Except AddressError Address := ofChars text.toList

end Address

end MigrationStatus.Connection
