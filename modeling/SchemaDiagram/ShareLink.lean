import SchemaDiagram.Bytes.Base64
import SchemaDiagram.Bytes.Percent

/-!
# Share links

A link carries the whole schema text: its UTF-8 bytes in base64, in the parameter `diagram` of the
query. Whoever opens the link needs no server to see the diagram. Links are written with the
standard variant of base64, whose three special symbols are escaped, and both variants are read.
-/

namespace SchemaDiagram.ShareLink

/-- The parameter that carries the text. -/
def parameter : List Char :=
  "diagram".toList

/-- Why a link carries no text. -/
inductive Fault where
  /-- There is no parameter of the right name. -/
  | missingParameter
  /-- Its value has a percent sign without two hexadecimal digits. -/
  | badEscape
  /-- Its value is not base64. -/
  | base64 (fault : Base64.Fault)
  /-- The bytes are not UTF-8. -/
  | utf8 (fault : Utf8.Fault)
deriving DecidableEq, Repr

/-- The message about a fault. -/
def Fault.message : Fault → String
  | missingParameter => "link has no diagram parameter"
  | badEscape => "malformed percent escape in diagram parameter"
  | base64 fault => "diagram parameter is not base64: " ++ fault.message
  | utf8 fault => "shared diagram is not UTF-8 text: " ++ fault.message

/-- A symbol of base64 as it stands in a link. -/
def escape (c : Char) : List Char :=
  if c = '+' then "%2B".toList
  else if c = '/' then "%2F".toList
  else if c = '=' then "%3D".toList
  else [c]

/-- The value of the parameter for a text. -/
def encodeText (text : List Char) : List Char :=
  (Base64.encode .standard (Utf8.encode text)).flatMap escape

/-- The link to a text at the given address. -/
def encode (origin text : String) : String :=
  String.ofList (origin.toList ++ '?' :: parameter ++ '=' :: encodeText text.toList)

/-- The query of a link: what stands between the first question mark and the fragment. -/
def query? (url : List Char) : Option (List Char) :=
  match (url.takeWhile (· != '#')).dropWhile (· != '?') with
  | _ :: query => some query
  | [] => none

/-- The value that a pair of the query gives to the parameter. -/
def valueOf? (pair : List Char) : Option (List Char) :=
  match pair.dropWhile (· != '=') with
  | _ :: value => if pair.takeWhile (· != '=') = parameter then some value else none
  | [] => none

/-- The value of the parameter in a link. -/
def value? (url : List Char) : Option (List Char) := do
  (((← query? url).splitOn '&').findSome? valueOf?)

/-- The bytes that base64 of either variant stands for. The fault is that of the standard one. -/
def decodeBase64 (s : List UInt8) : Except Fault (List UInt8) :=
  match Base64.decode .standard s, Base64.decode .urlSafe s with
  | .ok bytes, _ => .ok bytes
  | .error _, .ok bytes => .ok bytes
  | .error fault, .error _ => .error (.base64 fault)

/-- The text that a link carries. -/
def decode (url : String) : Except Fault String := do
  let some value := value? url.toList | .error .missingParameter
  let some raw := Percent.decode? value | .error .badEscape
  match Utf8.decode (← decodeBase64 raw) with
  | .ok text => .ok (String.ofList text)
  | .error fault => .error (.utf8 fault)

/-- The markup of a frame that shows the diagram of a link read-only. -/
def embedCode (link : String) : String :=
  "<iframe\n  src=\"" ++ link ++ "&embed=true\"\n  width=\"100%\"\n  height=\"500\"\n" ++
    "  frameborder=\"0\"\n  style=\"border-radius: 8px; border: 1px solid #333;\">\n</iframe>"

end SchemaDiagram.ShareLink
