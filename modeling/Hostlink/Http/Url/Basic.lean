import Hostlink.Http.Url.Host

/-!
# URLs

A URL in parts, each in its normal spelling.  Reading accepts many spellings of one URL and writing
has only one.  Only absolute URLs are read.
-/

namespace Hostlink.Http

/-- Where a URL leads: a host with a port, and who asks. -/
structure Authority where
  username : String
  password : Option String
  host : String
  port : Option Nat
  deriving DecidableEq, Repr

/-- A URL. -/
structure Url where
  scheme : String
  authority : Option Authority
  /-- The path; it begins with a slash unless it has no structure. -/
  path : String
  query : Option String
  fragment : Option String
  deriving DecidableEq, Repr

namespace Authority

/-- The authority without the user's name and password. -/
def anonymous (a : Authority) : Authority := { a with username := "", password := none }

/-- The text before the host. -/
def writeUser (a : Authority) : String :=
  let password := a.password.getD ""
  if a.username.isEmpty && password.isEmpty then ""
  else a.username ++ (if password.isEmpty then "" else ":" ++ password) ++ "@"

/-- The text of an authority. -/
def write (a : Authority) : String :=
  a.writeUser ++ a.host ++ (a.port.map fun port => s!":{port}").getD ""

/-- The name and the password in the clear; `none` if the name is not text. -/
def credentials? (a : Authority) : Option (String × Option String) :=
  match Text.decodeUtf8 (Url.percentDecode a.username.toList) with
  | .error _ => none
  | .ok username =>
    let password := a.password.bind fun p =>
      (Text.decodeUtf8 (Url.percentDecode p.toList)).toOption
    if username.isEmpty && password.isNone then none else some (username, password)

end Authority

namespace Url

/-- The schemes with a fixed shape, with the port that each has unless another is given. -/
def specialSchemes : List (String × Option Nat) :=
  [("http", some 80), ("https", some 443), ("ws", some 80), ("wss", some 443), ("ftp", some 21),
    ("file", none)]

/-- Whether a scheme has a fixed shape. -/
def isSpecial (scheme : String) : Bool := specialSchemes.any (·.1 = scheme)

/-- The port that a scheme has unless another is given. -/
def defaultPort? (scheme : String) : Option Nat :=
  (specialSchemes.find? (·.1 = scheme)).bind (·.2)

/-! ## Writing -/

/-- A path that begins with two slashes looks like an authority and needs a mark if there is
none. -/
def pathMark (u : Url) : String :=
  if u.authority.isNone && ['/', '/'].isPrefixOf u.path.toList then "/." else ""

/-- The text of a URL. -/
def render (u : Url) : String :=
  u.scheme ++ ":" ++ (u.authority.map fun a => "//" ++ a.write).getD "" ++ u.pathMark
    ++ u.path
    ++ (u.query.map ("?" ++ ·)).getD ""
    ++ (u.fragment.map ("#" ++ ·)).getD ""

/-! ## Reading -/

/-- A character that is nothing but padding at the ends of a text. -/
def isPadding (c : Char) : Bool := c.toNat ≤ 0x20

/-- The text without padding at its ends and without the characters that break lines. -/
def strip (cs : List Char) : List Char :=
  let inner := ((cs.dropWhile isPadding).reverse.dropWhile isPadding).reverse
  inner.filter fun c => c ≠ '\t' && c ≠ '\n' && c ≠ '\r'

/-- Cuts at the first character of a class, which begins the second part. -/
def cutAt (stop : Char → Bool) (cs : List Char) : List Char × List Char :=
  (cs.takeWhile (fun c => !stop c), cs.dropWhile (fun c => !stop c))

/-- A character of a scheme after the first. -/
def inScheme (c : Char) : Bool := c.isAlphanum || c = '+' || c = '-' || c = '.'

/-- The scheme, and what comes after its colon. -/
def scheme? (cs : List Char) : Option (String × List Char) :=
  match cutAt (fun c => !inScheme c) cs with
  | (first :: more, ':' :: rest) =>
    if first.isAlpha then some (String.ofList ((first :: more).map Char.toLower), rest) else none
  | _ => none

/-- Whether a character ends a path. -/
def endsPath (c : Char) : Bool := c = '?' || c = '#'

/-- Whether a character ends the part of an authority that can name a user. -/
def endsAuthority (special : Bool) (c : Char) : Bool := isSlash special c || endsPath c

/-- The port that stands behind a host, if one does, and what follows it.  Nothing and the usual
port of the scheme are no port. -/
def readPort? (scheme : String) : List Char → Option (Option Nat × List Char)
  | ':' :: cs =>
    let digits := cs.takeWhile Char.isDigit
    let rest := cs.dropWhile Char.isDigit
    let port := Nat.ofDigitChars 10 digits 0
    if !(rest.head?.all fun c => isSlash true c || endsPath c) || 65535 < port then none
    else if digits.isEmpty || defaultPort? scheme = some port then some (none, rest)
    else some (some port, rest)
  | cs => some (none, cs)

/-- The text of a host, and what follows it.  A colon in square brackets does not end it. -/
def cutHost (special inBrackets : Bool) : List Char → List Char × List Char
  | [] => ([], [])
  | c :: rest =>
    if endsAuthority special c || (c = ':' && !inBrackets) then ([], c :: rest)
    else
      let inBrackets := if c = '[' then true else if c = ']' then false else inBrackets
      let (host, behind) := cutHost special inBrackets rest
      (c :: host, behind)

/-- The text up to the last occurrence of a character, and the text behind it. -/
def cutAtLast (mark : Char) (cs : List Char) : Option (List Char × List Char) :=
  if cs.contains mark then
    let behind := (cs.reverse.takeWhile (· ≠ mark)).reverse
    some (cs.take (cs.length - behind.length - 1), behind)
  else none

/-- The user that a text names, and the password. -/
def userOf (cs : List Char) : String × Option String :=
  let (name, rest) := cutAt (· = ':') cs
  let encode := percentEncode encodedInUserinfo
  match rest with
  | [] => (encode name, none)
  | _ :: password => (encode name, if password.isEmpty then none else some (encode password))

/-- Reads the user, if there is one; the second part is what follows.  Without a name in front of it
the sign behind a user needs a host. -/
def readUser? (special : Bool) (cs : List Char) : Option ((String × Option String) × List Char) :=
  let (front, back) := cutAt (endsAuthority special) cs
  match cutAtLast '@' front with
  | none => some (("", none), cs)
  | some (user, behind) =>
    if user.isEmpty && behind.isEmpty && !back.isEmpty then none
    else some (userOf user, behind ++ back)

/-- Reads an authority; the second part is what follows it. -/
def authority? (scheme : String) (cs : List Char) : Option (Authority × List Char) := do
  let special := isSpecial scheme
  let ((username, password), place) ← readUser? special cs
  let (hostText, rest) := cutHost special false place
  let named := !username.isEmpty || password.isSome
  if hostText.isEmpty && (special || named || rest.head? = some ':') then none
  else
    let host ← host? special hostText
    let (port, rest) ← readPort? scheme rest
    return (⟨username, password, host, port⟩, rest)

/-- The parts behind the path: a query after a question mark, a fragment after a hash sign. -/
def tailOf (special : Bool) (cs : List Char) : Option String × Option String :=
  let (queryText, fragmentText) := cutAt (· = '#') cs
  let query := match queryText with
    | '?' :: text => some (percentEncode (encodedInQuery special) text)
    | _ => none
  let fragment := match fragmentText with
    | '#' :: text => some (percentEncode encodedInFragment text)
    | _ => none
  (query, fragment)

/-- Takes one slash off the front. -/
def dropSlash (special : Bool) : List Char → List Char
  | [] => []
  | c :: rest => if isSlash special c then rest else c :: rest

/-- Reads what follows the two slashes before an authority.  Only where the scheme has no fixed
shape can a path be missing. -/
def ofAuthority? (scheme : String) (cs : List Char) : Option Url := do
  let special := isSpecial scheme
  let (authority, rest) ← authority? scheme cs
  let (pathText, tail) := cutAt endsPath rest
  let (query, fragment) := tailOf special tail
  let path :=
    if pathText.isEmpty && !special then ""
    else (readPath special false (dropSlash special pathText)).text
  return ⟨scheme, some authority, path, query, fragment⟩

/-- Reads a URL without an authority, for a scheme without a fixed shape. -/
def ofPath (scheme : String) (cs : List Char) : Url :=
  let (pathText, tail) := cutAt endsPath cs
  let (query, fragment) := tailOf false tail
  let path :=
    match pathText with
    | '/' :: rest => (readPath false false rest).text
    | text => percentEncode isControl text
  ⟨scheme, none, path, query, fragment⟩

/-- The URL of a file on a host, which is left out if the path begins with a drive. -/
def fileAt (host : String) (cs : List Char) : Url :=
  let (pathText, tail) := cutAt endsPath cs
  let (query, fragment) := tailOf true tail
  let path := readPath true true pathText
  let authority : Authority := ⟨"", none, if path.foundDrive then "" else host, none⟩
  ⟨"file", some authority, path.fileText, query, fragment⟩

/-- Reads what follows the two slashes before the host of a file.  A drive is no host, and a file on
this machine has an empty one. -/
def ofFileHost? (cs : List Char) : Option Url :=
  let (hostText, rest) := cutAt (endsAuthority true) cs
  if isDrive hostText then some (fileAt "" cs)
  else if hostText.isEmpty then some (fileAt "" rest)
  else do
    let host ← host? true hostText
    if host = "localhost" then return fileAt "" rest
    else return fileAt host (dropSlash true rest)

/-- Reads what follows the scheme of a file. -/
def ofFile? (cs : List Char) : Option Url :=
  match cs with
  | a :: b :: rest =>
    if isSlash true a && isSlash true b then ofFileHost? rest
    else some (fileAt "" (dropSlash true cs))
  | cs => some (fileAt "" (dropSlash true cs))

/-- Reads an absolute URL. -/
def ofString? (text : String) : Option Url := do
  let (scheme, rest) ← scheme? (strip text.toList)
  if scheme = "file" then ofFile? rest
  else if isSpecial scheme then ofAuthority? scheme (rest.dropWhile (isSlash true))
  else
    match rest with
    | '/' :: '/' :: rest => ofAuthority? scheme rest
    | rest => return ofPath scheme rest

/-! ## Parts -/

/-- Whether the URL names a host. -/
def hasHost (u : Url) : Bool :=
  match u.authority with
  | some a => !a.host.isEmpty
  | none => false

/-- The name and password that the URL carries, and the URL without them. -/
def takeCredentials (u : Url) : Option (String × Option String) × Url :=
  match u.authority with
  | none => (none, u)
  | some a =>
    match a.credentials? with
    | none => (none, u)
    | some credentials => (some credentials, { u with authority := some a.anonymous })

end Url
end Hostlink.Http
