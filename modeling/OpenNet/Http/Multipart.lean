import OpenNet.Error
import OpenNet.Foundation.Utf8

/-!
# Multipart forms

Model of `src/api/http/multipart.rs`: the builder of a buffered `multipart/form-data` body and
its encoder.  A random boundary is drawn when the form is made and again, up to eight times, as
long as a part contains it; the outcomes of the generator are the function `draws`.

`http::HeaderValue::from_str` is the parameter `headerValue`.
-/

namespace OpenNet.Http.Multipart

open Utf8

abbrev Bytes := List UInt8

/-- A part of a form. -/
inductive Part where
  | text (name value : String)
  | bytes (name : String) (filename : Option String) (value : Bytes)
  deriving DecidableEq, Repr

/-- A form: its boundary and parts. -/
structure Form where
  boundary : String
  parts : List Part
  deriving DecidableEq, Repr

/-! ## The boundary -/

/-- `BOUNDARY_BYTES` random bytes, or a failure of `getrandom::fill`. -/
abbrev Draw := Option (Vector UInt8 18)

def hexDigit (n : Nat) : Char :=
  if n < 10 then Char.ofNat (48 + n) else Char.ofNat (87 + n)

def hexByte (byte : UInt8) : List Char := [hexDigit (byte.toNat / 16), hexDigit (byte.toNat % 16)]

/-- `make_boundary`. -/
def makeBoundary : Draw → Option String
  | none => none
  | some bytes => some ("open-net-" ++ String.ofList (bytes.toList.flatMap hexByte))

/-- `new`. -/
def new (draw : Draw) : Form :=
  ⟨(makeBoundary draw).getD "open-net-boundary-fallback", []⟩

/-! ## The builder -/

def isControl (c : Char) : Bool :=
  decide (c.toNat < 0x20) || (decide (0x7f ≤ c.toNat) && decide (c.toNat < 0xa0))

/-- `validate_token`. -/
def validateToken (field value : String) : Except NetError String :=
  if value = "" || value.toList.any isControl then
    .error (.input field "multipart field name must not be empty or contain control characters")
  else .ok value

/-- `validate_filename`. -/
def validateFilename (value : String) : Except NetError String :=
  if value = "" || value.toList.any isControl || value.toList.contains '/' ||
      value.toList.contains '\\' then
    .error (.input "multipart.filename"
      "multipart filename must be a single non-empty path component")
  else .ok value

def Form.push (form : Form) (part : Part) : Form := { form with parts := form.parts ++ [part] }

/-- `text`. -/
def text (form : Form) (name value : String) : Except NetError Form := do
  let name ← validateToken "multipart.name" name
  return form.push (.text name value)

/-- `bytes`. -/
def bytes (form : Form) (name : String) (value : Bytes) : Except NetError Form := do
  let name ← validateToken "multipart.name" name
  return form.push (.bytes name none value)

/-- `file_bytes`. -/
def fileBytes (form : Form) (name filename : String) (value : Bytes) : Except NetError Form := do
  let name ← validateToken "multipart.name" name
  let filename ← validateFilename filename
  return form.push (.bytes name (some filename) value)

/-- `Multipart::file`, with what reading the path gave. -/
def file (form : Form) (name : String) (filename : Option String) (read : Option Bytes) :
    Except NetError Form :=
  match filename with
  | none => .error (.input "multipart.filename" "file path has no filename")
  | some filename => do
    let filename ← validateFilename filename
    match read with
    | none => .error ((NetError.withForeign .io "std::io::Error").withStage .requestBuild)
    | some value => fileBytes form name filename value

/-- A call of the builder. -/
inductive Call where
  | text (name value : String)
  | bytes (name : String) (value : Bytes)
  | fileBytes (name filename : String) (value : Bytes)
  | file (name : String) (filename : Option String) (read : Option Bytes)

def Call.apply (form : Form) : Call → Except NetError Form
  | .text name value => Multipart.text form name value
  | .bytes name value => Multipart.bytes form name value
  | .fileBytes name filename value => Multipart.fileBytes form name filename value
  | .file name filename read => Multipart.file form name filename read

def build : Form → List Call → Except NetError Form
  | form, [] => .ok form
  | form, call :: calls => do
    let form ← call.apply form
    build form calls

/-! ## The encoder -/

def holds (marker : Bytes) (haystack : Bytes) : Bool :=
  haystack.tails.any fun window => marker.isPrefixOf window

/-- The test of `self_contains_boundary` for one part. -/
def Part.containsBoundary (marker : Bytes) : Part → Bool
  | .text name value => holds marker (bytesOf name) || holds marker (bytesOf value)
  | .bytes name filename value =>
    holds marker (bytesOf name) || (filename.any fun filename => holds marker (bytesOf filename)) ||
      holds marker value

/-- `self_contains_boundary`. -/
def selfContainsBoundary (parts : List Part) (boundary : String) : Bool :=
  parts.any (Part.containsBoundary (bytesOf boundary))

/-- The loop that draws boundaries, `next` first; `left` attempts remain. -/
def chooseBoundary (draws : Nat → Draw) (parts : List Part) :
    Nat → Nat → String → Except NetError String
  | 0, _, boundary => .ok boundary
  | left + 1, next, boundary =>
    if selfContainsBoundary parts boundary then
      match makeBoundary (draws next) with
      | none => .error ((NetError.withForeign .io "getrandom::Error").withStage .requestBuild)
      | some boundary => chooseBoundary draws parts left (next + 1) boundary
    else .ok boundary

/-- `write_quoted`: quote and backslash are escaped. -/
def writeQuoted : List Char → Except NetError Bytes
  | [] => .ok []
  | character :: rest =>
    if character = '\r' || character = '\n' || character.toNat = 0 || isControl character then
      .error (.input "multipart.header" "multipart header value contains a control character")
    else do
      let escape := if character = '\\' || character = '"' then [0x5c] else []
      let later ← writeQuoted rest
      return escape ++ String.utf8EncodeChar character ++ later

/-- `write_disposition`. -/
def writeDisposition (name : String) (filename : Option String) : Except NetError Bytes := do
  let name ← writeQuoted name.toList
  let named := bytesOf "Content-Disposition: form-data; name=\"" ++ name ++ bytesOf "\""
  match filename with
  | none => return named ++ bytesOf "\r\n"
  | some filename =>
    let filename ← writeQuoted filename.toList
    return named ++ bytesOf "; filename=\"" ++ filename ++ bytesOf "\"" ++ bytesOf "\r\n"

/-- What stands between two delimiters. -/
def writePart : Part → Except NetError Bytes
  | .text name value => do
    let head ← writeDisposition name none
    return head ++ bytesOf "Content-Type: text/plain; charset=utf-8\r\n\r\n" ++ bytesOf value
  | .bytes name filename value => do
    let head ← writeDisposition name filename
    return head ++ bytesOf "Content-Type: application/octet-stream\r\n\r\n" ++ value

/-- The loop of `encode`. -/
def writeParts (boundary : Bytes) : List Part → Except NetError Bytes
  | [] => .ok []
  | part :: rest => do
    let written ← writePart part
    let later ← writeParts boundary rest
    return bytesOf "--" ++ boundary ++ bytesOf "\r\n" ++ written ++ bytesOf "\r\n" ++ later

/-- `encode`. -/
def encode (headerValue : String → Bool) (draws : Nat → Draw) (form : Form) :
    Except NetError (Bytes × String) := do
  let boundary ← chooseBoundary draws form.parts 8 0 form.boundary
  if selfContainsBoundary form.parts boundary then
    .error (.input "multipart.boundary" "multipart boundary collides with a part")
  else do
    let body ← writeParts (bytesOf boundary) form.parts
    let contentType := "multipart/form-data; boundary=" ++ boundary
    if headerValue contentType then
      return (body ++ bytesOf "--" ++ bytesOf boundary ++ bytesOf "--\r\n", contentType)
    else .error (.input "multipart.content-type" "invalid generated boundary")

end OpenNet.Http.Multipart
