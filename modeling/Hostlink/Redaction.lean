/-!
# Redaction of log fields

Fields that leave the process are scrubbed by their name: a path keeps its last component, a URL
loses its userinfo, query and fragment, and a field named after a credential is masked.  All
other fields pass unchanged.

The rules are stated on lists of characters; the functions on `String` apply them.
-/

namespace Hostlink.Redaction

/-- What stands in for a masked value. -/
def mask : String := "[REDACTED]"

/-- The words that mark a field as a credential, wherever they occur in its name. -/
def credentialWords : List String :=
  ["authorization", "cookie", "token", "password", "secret", "api_key"]

/-- Whether `word` occurs in `text` as a contiguous run. -/
def occursIn (word text : List Char) : Bool :=
  match text with
  | [] => word.isEmpty
  | _ :: rest => word.isPrefixOf text || occursIn word rest

/-- Whether a name contains a credential word in any ASCII letter case. -/
def isCredential (name : String) : Bool :=
  credentialWords.any fun word => occursIn word.toList (name.toList.map Char.toLower)

/-! ## Paths -/

/-- The characters that end a path component, on either family of systems. -/
def isSeparator (c : Char) : Bool := c = '/' || c = '\\'

/-- The part of a list behind the last element that satisfies `p`: all of it if there is none. -/
def afterLast (p : Char → Bool) (cs : List Char) : List Char :=
  (cs.reverse.takeWhile (!p ·)).reverse

/-- The last component of a path. -/
def fileName (path : String) : String :=
  String.ofList (afterLast isSeparator path.toList)

/-! ## URLs -/

/-- The characters that begin a query or a fragment. -/
def endsHierarchy (c : Char) : Bool := c = '?' || c = '#'

/-- Splits a text behind its first `://`; `none` if it has no such mark. -/
def splitScheme? (cs : List Char) : Option (List Char × List Char) :=
  match cs with
  | [] => none
  | c :: rest =>
    if [':', '/', '/'].isPrefixOf cs then some (cs.take 3, cs.drop 3)
    else (splitScheme? rest).map fun (scheme, tail) => (c :: scheme, tail)

/-- Drops the part of the authority up to its last `@`. -/
def dropUserinfo (cs : List Char) : List Char :=
  let authority := cs.takeWhile (· ≠ '/')
  if '@' ∈ authority then afterLast (· = '@') authority ++ cs.dropWhile (· ≠ '/') else cs

/-- Drops userinfo, query and fragment from the characters of a URL. -/
def scrubChars (cs : List Char) : List Char :=
  let base := cs.takeWhile (!endsHierarchy ·)
  match splitScheme? base with
  | some (scheme, rest) => scheme ++ dropUserinfo rest
  | none => dropUserinfo base

/-- Drops userinfo, query and fragment from a URL. -/
def scrubUrl (url : String) : String := String.ofList (scrubChars url.toList)

/-! ## Fields -/

/-- Takes away one pair of double quotes around a value, as diagnostics put them there. -/
def unquoteChars (cs : List Char) : List Char :=
  match cs with
  | '"' :: inner => if inner.getLast? = some '"' then inner.dropLast else cs
  | _ => cs

/-- A value without the quotes around it. -/
def unquote (value : String) : String := String.ofList (unquoteChars value.toList)

/-- The value of a field as it may leave the process. -/
def redactField (name value : String) : String :=
  if name = "path" then fileName (unquote value)
  else if name = "url" then scrubUrl (unquote value)
  else if isCredential name then mask
  else value

end Hostlink.Redaction
