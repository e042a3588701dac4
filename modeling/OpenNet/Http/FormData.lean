import Mathlib.Data.List.TakeWhile
import OpenNet.Foundation.Delimited
import OpenNet.Foundation.Utf8

/-!
# Reading a multipart form

A reader of `multipart/form-data` as RFC 2046 and RFC 7578 describe the format, to be compared
with the encoder.  It names nothing of the encoder.

* The content type names the boundary as a parameter, a token or a quoted string.
* A delimiter is a line break, two hyphens and the boundary; a delimiter at the very start needs
  no line break.  What precedes the first delimiter is the preamble, and a delimiter followed by
  two hyphens closes the body; without one the body is refused.
* The rest of a delimiter line is padding.  Header fields follow up to an empty line, with names
  of either case, and the content is everything after it.
* `Content-Disposition` must be `form-data` with a `name`; `filename` is optional.  In a quoted
  string a backslash stands for the byte after it.
-/

namespace OpenNet.Http.FormData

open Utf8

abbrev Bytes := List UInt8

def crlf : Bytes := [0x0d, 0x0a]
def hyphens : Bytes := [0x2d, 0x2d]

def isBlank (byte : UInt8) : Bool := byte == 0x20 || byte == 0x09

def lower (byte : UInt8) : UInt8 := if 0x41 ≤ byte && byte ≤ 0x5a then byte + 0x20 else byte

/-! ## Values with parameters -/

/-- A quoted string after its opening quote, and what follows it. -/
def quoted : Bytes → Option (Bytes × Bytes)
  | [] => none
  | byte :: rest =>
    if byte = 0x22 then some ([], rest)
    else if byte = 0x5c then
      match rest with
      | [] => none
      | escaped :: rest => (quoted rest).map fun (text, after) => (escaped :: text, after)
    else (quoted rest).map fun (text, after) => (byte :: text, after)

def isToken (byte : UInt8) : Bool := !(byte == 0x3b || isBlank byte)

def parameterValue : Bytes → Option (Bytes × Bytes)
  | [] => none
  | byte :: rest =>
    if byte = 0x22 then quoted rest
    else some ((byte :: rest).takeWhile isToken, (byte :: rest).dropWhile isToken)

def isAttribute (byte : UInt8) : Bool := byte != 0x3d

/-- A list of `; attribute=value`; each round consumes text. -/
def parameters : Nat → Bytes → Option (List (Bytes × Bytes))
  | 0, _ => none
  | fuel + 1, text =>
    match text.dropWhile isBlank with
    | [] => some []
    | byte :: rest =>
      if byte ≠ 0x3b then none
      else
        let text := rest.dropWhile isBlank
        match text.dropWhile isAttribute with
        | [] => none
        | _ :: value => do
          let (value, after) ← parameterValue value
          let later ← parameters fuel after
          some (((text.takeWhile isAttribute).map lower, value) :: later)

/-- A value before its parameters, in lower case, and the parameters. -/
def parameterised (text : Bytes) : Option (Bytes × List (Bytes × Bytes)) := do
  let parsed ← parameters (text.length + 1) (text.dropWhile isToken)
  some ((text.takeWhile isToken).map lower, parsed)

/-! ## Header fields -/

def takeLine : Bytes → Option (Bytes × Bytes)
  | [] => none
  | byte :: rest =>
    if byte = 0x0d ∧ rest.head? = some 0x0a then some ([], rest.drop 1)
    else (takeLine rest).map fun (line, after) => (byte :: line, after)

def isFieldName (byte : UInt8) : Bool := byte != 0x3a

def field (line : Bytes) : Option (Bytes × Bytes) :=
  match line.dropWhile isFieldName with
  | [] => none
  | _ :: value => some ((line.takeWhile isFieldName).map lower, value.dropWhile isBlank)

/-- The header fields up to the empty line, and the content after it. -/
def headerFields : Nat → Bytes → Option (List (Bytes × Bytes) × Bytes)
  | 0, _ => none
  | fuel + 1, text => do
    let (line, rest) ← takeLine text
    if line = [] then some ([], rest)
    else do
      let first ← field line
      let (later, content) ← headerFields fuel rest
      some (first :: later, content)

/-! ## Parts -/

structure FormPart where
  /-- The names of the header fields, in lower case and in order. -/
  fields : List Bytes
  name : Bytes
  filename : Option Bytes
  content : Bytes
  deriving DecidableEq, Repr

def bodyPart (text : Bytes) : Option FormPart := do
  let (padding, rest) ← takeLine text
  if padding.all isBlank then do
    let (fields, content) ← headerFields (rest.length + 1) rest
    let disposition ← fields.lookup (bytesOf "content-disposition")
    let (kind, parameters) ← parameterised disposition
    if kind = bytesOf "form-data" then do
      let name ← parameters.lookup (bytesOf "name")
      some ⟨fields.map Prod.fst, name, parameters.lookup (bytesOf "filename"), content⟩
    else none
  else none

def bodyParts : List Bytes → Option (List FormPart)
  | [] => none
  | text :: rest =>
    if hyphens.isPrefixOf text then some []
    else do
      let part ← bodyPart text
      let later ← bodyParts rest
      some (part :: later)

/-- Read a body by its content type. -/
def parse (contentType body : Bytes) : Option (List FormPart) := do
  let (kind, parameters) ← parameterised contentType
  if kind = bytesOf "multipart/form-data" then do
    let boundary ← parameters.lookup (bytesOf "boundary")
    bodyParts (Delimited.sections (crlf ++ hyphens ++ boundary) 0 (crlf ++ body)).2
  else none

/-! ## Reading what was written -/

theorem quoted_plain {bytes : Bytes} (hquote : 0x22 ∉ bytes) (hescape : 0x5c ∉ bytes)
    (text : Bytes) :
    quoted (bytes ++ text) = (quoted text).map fun (value, after) => (bytes ++ value, after) := by
  induction bytes with
  | nil => cases h : quoted text <;> simp [h]
  | cons byte bytes ih =>
    rw [List.mem_cons, not_or] at hquote hescape
    rw [List.cons_append, quoted.eq_def]
    simp only [Ne.symm hquote.1, Ne.symm hescape.1, if_false, ih hquote.2 hescape.2]
    cases quoted text <;> rfl

variable {line value rest : Bytes} {fuel : Nat} {later : List (Bytes × Bytes)}

theorem takeLine_append (h : 0x0d ∉ line) (rest : Bytes) :
    takeLine (line ++ (crlf ++ rest)) = some (line, rest) := by
  induction line with
  | nil => rfl
  | cons byte line ih =>
    rw [List.mem_cons, not_or] at h
    rw [List.cons_append, takeLine, if_neg (fun hcr => h.1 hcr.1.symm), ih h.2]
    rfl

theorem field_append {name : Bytes} (h : ∀ byte ∈ name, isFieldName byte) :
    field (name ++ 0x3a :: value) = some (name.map lower, value.dropWhile isBlank) := by
  have hstop : (0x3a :: value : Bytes).dropWhile isFieldName = 0x3a :: value := rfl
  have hempty : (0x3a :: value : Bytes).takeWhile isFieldName = [] := rfl
  rw [field, List.dropWhile_append_of_pos h, hstop, List.takeWhile_append_of_pos h, hempty,
    List.append_nil]

theorem headerFields_line {content : Bytes} {first : Bytes × Bytes} (hcr : 0x0d ∉ line)
    (hline : line ≠ []) (hfirst : field line = some first)
    (hlater : headerFields fuel rest = some (later, content)) :
    headerFields (fuel + 1) (line ++ (crlf ++ rest)) = some (first :: later, content) := by
  rw [headerFields, takeLine_append hcr]
  simp [hline, hfirst, hlater]

theorem parameters_end (fuel : Nat) : parameters (fuel + 1) [] = some [] := rfl

theorem parameters_cons {key text after : Bytes}
    (hkey : ∀ byte ∈ key, isAttribute byte ∧ isBlank byte = false)
    (hvalue : parameterValue text = some (value, after))
    (hlater : parameters fuel after = some later) :
    parameters (fuel + 1) (0x3b :: 0x20 :: (key ++ 0x3d :: text)) =
      some ((key.map lower, value) :: later) := by
  have hblank : (0x20 :: (key ++ 0x3d :: text)).dropWhile isBlank = key ++ 0x3d :: text := by
    rw [List.dropWhile_cons_of_pos rfl]
    cases key with
    | nil => rfl
    | cons byte key =>
      exact List.dropWhile_cons_of_neg (by simp [(hkey byte List.mem_cons_self).2])
  have hbytes : ∀ byte ∈ key, isAttribute byte := fun byte hbyte => (hkey byte hbyte).1
  have hstop : (0x3d :: text : Bytes).dropWhile isAttribute = 0x3d :: text := rfl
  have hempty : (0x3d :: text : Bytes).takeWhile isAttribute = [] := rfl
  rw [parameters, List.dropWhile_cons_of_neg (by decide)]
  simp only [ne_eq, not_true_eq_false, if_false, hblank, List.dropWhile_append_of_pos hbytes, hstop,
    List.takeWhile_append_of_pos hbytes, hempty, List.append_nil, hvalue, hlater,
    Option.bind_eq_bind, Option.bind_some]

theorem parameterised_append {kind : Bytes} {parsed : List (Bytes × Bytes)}
    (hkind : ∀ byte ∈ kind, isToken byte)
    (hparsed : parameters ((kind ++ 0x3b :: rest).length + 1) (0x3b :: rest) = some parsed) :
    parameterised (kind ++ 0x3b :: rest) = some (kind.map lower, parsed) := by
  have hstop : (0x3b :: rest : Bytes).dropWhile isToken = 0x3b :: rest := rfl
  have hempty : (0x3b :: rest : Bytes).takeWhile isToken = [] := rfl
  rw [parameterised, List.dropWhile_append_of_pos hkind, hstop, hparsed,
    List.takeWhile_append_of_pos hkind, hempty, List.append_nil]
  rfl

theorem parameterValue_token (hne : value ≠ [])
    (hvalue : ∀ byte ∈ value, isToken byte ∧ byte ≠ 0x22) :
    parameterValue value = some (value, []) := by
  cases value with
  | nil => exact absurd rfl hne
  | cons byte value =>
    have htoken : ∀ b ∈ byte :: value, isToken b := fun b hb => (hvalue b hb).1
    rw [parameterValue, if_neg (hvalue byte List.mem_cons_self).2,
      List.takeWhile_eq_self_iff.2 htoken, List.dropWhile_eq_nil_iff.mpr htoken]

end OpenNet.Http.FormData
