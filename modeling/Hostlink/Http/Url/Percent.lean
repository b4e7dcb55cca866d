import Hostlink.Text.Utf8

/-!
# Percent encoding

Characters that would be misread at some place of a URL are written there as the percent forms of
their bytes.  Which ones these are depends on the place; characters beyond ASCII always are.
-/

namespace Hostlink.Http.Url

/-- The percent form of a byte. -/
def percentByte (b : UInt8) : List Char := '%' :: (Text.hexByte b).map Char.toUpper

/-- A control character. -/
def isControl (c : Char) : Bool := c.toNat < 0x20 || c.toNat = 0x7f

/-- The characters to encode in fragments. -/
def encodedInFragment (c : Char) : Bool := isControl c || c ∈ [' ', '"', '<', '>', '\x60']

/-- The characters to encode in paths. -/
def encodedInPath (c : Char) : Bool := encodedInFragment c || c ∈ ['#', '?', '\x7b', '\x7d']

/-- The characters to encode in names and passwords. -/
def encodedInUserinfo (c : Char) : Bool :=
  encodedInPath c || c ∈ ['/', ':', ';', '=', '@', '[', '\\', ']', '^', '|']

/-- The characters to encode in queries. -/
def encodedInQuery (special : Bool) (c : Char) : Bool :=
  isControl c || c ∈ [' ', '"', '#', '<', '>'] || (special && c = '\x27')

/-- The characters with those of a class encoded. -/
def percentEncodeChars (encoded : Char → Bool) (cs : List Char) : List Char :=
  cs.flatMap fun c =>
    if 0x80 ≤ c.toNat || encoded c then (Text.encodeUtf8 (String.singleton c)).flatMap percentByte
    else [c]

/-- The text with the characters of a class encoded. -/
def percentEncode (encoded : Char → Bool) (cs : List Char) : String :=
  String.ofList (percentEncodeChars encoded cs)

/-- The bytes of a text with its percent forms decoded; a percent sign without two digits stands
for itself. -/
def percentDecode : List Char → Bytes
  | [] => []
  | '%' :: high :: low :: rest =>
    match Text.parseHex? [high, low] with
    | some bytes => bytes ++ percentDecode rest
    | none => 0x25 :: percentDecode (high :: low :: rest)
  | c :: rest => Text.encodeUtf8 (String.singleton c) ++ percentDecode rest

end Hostlink.Http.Url
