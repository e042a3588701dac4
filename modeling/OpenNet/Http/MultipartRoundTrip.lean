import OpenNet.Foundation.Fallible
import OpenNet.Http.FormData
import OpenNet.Http.Multipart

/-!
# A multipart form survives its encoding

What `encode` returns is read back, under the boundary its content type names, as exactly the parts
that were added.

A delimiter starts with a carriage return, and no other byte of it is one.  The header lines hold
none, because names with control characters are refused; the line breaks of the header are not
followed by a hyphen; and a content that does not hold the boundary cannot complete a delimiter,
not even together with what the encoder writes after it.
-/

namespace OpenNet.Http.Multipart

open Utf8 Delimited Fallible
open FormData (crlf hyphens quoted field parameterised bodyPart bodyParts headerFields FormPart)

/-! ## Boundaries -/

def boundaryCharacters : List Char := "0123456789abcdefghijklmnopqrstuvwxyz-".toList

/-- A boundary as the generator or the fallback makes it. -/
def Boundary (text : String) : Prop :=
  ∃ rest, text = "open-net-" ++ String.ofList rest ∧ ∀ c ∈ rest, c ∈ boundaryCharacters

theorem hexDigit_mem : ∀ n < 16, hexDigit n ∈ boundaryCharacters := by decide

variable {text : String} {parts : List Part} {form : Form} {byte : UInt8}
  {written kind boundary rest : Bytes}

theorem makeBoundary_boundary {draw : Draw} (h : makeBoundary draw = some text) :
    Boundary text := by
  cases draw with
  | none => cases h
  | some bytes =>
    obtain rfl := Option.some.inj h
    refine ⟨_, rfl, fun c hc => ?_⟩
    obtain ⟨byte, -, hdigit⟩ := List.mem_flatMap.mp hc
    have hbyte := byte.toNat_lt
    simp only [hexByte, List.mem_cons, List.not_mem_nil, or_false] at hdigit
    rcases hdigit with rfl | rfl
    · exact hexDigit_mem _ (by omega)
    · exact hexDigit_mem _ (by omega)

theorem new_boundary (draw : Draw) : Boundary (new draw).boundary := by
  cases h : makeBoundary draw with
  | none =>
    have hall : "boundary-fallback".toList.all (· ∈ boundaryCharacters) := by decide
    refine ⟨"boundary-fallback".toList, ?_, fun c hc => ?_⟩
    case refine_2 => exact of_decide_eq_true (List.all_eq_true.mp hall c hc)
    simp only [new, h, Option.getD_none]
    decide +kernel
  | some text => simpa only [new, h, Option.getD_some] using makeBoundary_boundary h

theorem chooseBoundary_boundary {draws : Nat → Draw} {chosen : String} :
    ∀ {left next : Nat} {boundary : String}, Boundary boundary →
      chooseBoundary draws parts left next boundary = .ok chosen → Boundary chosen
  | 0, _, _, hboundary, h => by
    obtain rfl := Except.ok.inj h
    exact hboundary
  | left + 1, next, boundary, hboundary, h => by
    rw [chooseBoundary] at h
    split at h
    · split at h
      · cases h
      next drawn hdrawn => exact chooseBoundary_boundary (makeBoundary_boundary hdrawn) h
    · obtain rfl := Except.ok.inj h
      exact hboundary

theorem boundaryCharacters_bytes : ∀ c ∈ boundaryCharacters, ∀ byte ∈ String.utf8EncodeChar c,
    FormData.isToken byte ∧ byte ≠ 0x22 ∧ byte ≠ 0x0d := by
  have hall : boundaryCharacters.all fun c => (String.utf8EncodeChar c).all fun byte =>
      FormData.isToken byte && byte != 0x22 && byte != 0x0d := by decide
  simpa [and_assoc] using hall

theorem Boundary.bytes (h : Boundary text) :
    ∀ byte ∈ bytesOf text, FormData.isToken byte ∧ byte ≠ 0x22 ∧ byte ≠ 0x0d := by
  obtain ⟨rest, rfl, hrest⟩ := h
  intro byte hbyte
  rw [bytesOf_append, List.mem_append] at hbyte
  rcases hbyte with hbyte | hbyte
  · exact (by decide +kernel : ∀ byte ∈ bytesOf "open-net-",
      FormData.isToken byte ∧ byte ≠ 0x22 ∧ byte ≠ 0x0d) byte hbyte
  rw [bytesOf_eq, String.toList_ofList, List.mem_flatMap] at hbyte
  obtain ⟨c, hc, hbyte⟩ := hbyte
  exact boundaryCharacters_bytes c (hrest c hc) byte hbyte

theorem Boundary.bytes_ne_nil (h : Boundary text) : bytesOf text ≠ [] := by
  obtain ⟨rest, rfl, -⟩ := h
  rw [bytesOf_append]
  intro hnil
  exact absurd (List.append_eq_nil_iff.mp hnil).1 (by decide +kernel)

/-! ## The builder -/

def Call.part : Call → Option Part
  | .text name value => some (.text name value)
  | .bytes name value => some (.bytes name none value)
  | .fileBytes name filename value => some (.bytes name (some filename) value)
  | .file name (some filename) (some value) => some (.bytes name (some filename) value)
  | .file _ _ _ => none

theorem validateToken_ok {field value name : String} (h : validateToken field value = .ok name) :
    name = value := by
  unfold validateToken at h
  split at h
  · cases h
  · exact (Except.ok.inj h).symm

theorem validateFilename_ok {value name : String} (h : validateFilename value = .ok name) :
    name = value := by
  unfold validateFilename at h
  split at h
  · cases h
  · exact (Except.ok.inj h).symm

variable {form' : Form} {after line marker : Bytes} {later : List (Bytes × Bytes)}
  {texts : List Bytes}

theorem fileBytes_ok {name filename : String} {value : Bytes}
    (h : fileBytes form name filename value = .ok form') :
    form' = form.push (.bytes name (some filename) value) := by
  obtain ⟨name', hname, h⟩ := bind_eq_ok.mp h
  obtain ⟨filename', hfilename, h⟩ := bind_eq_ok.mp h
  rw [← validateToken_ok hname, ← validateFilename_ok hfilename]
  exact (Except.ok.inj h).symm

theorem Call.apply_ok {call : Call} (h : call.apply form = .ok form') :
    ∃ part, call.part = some part ∧ form' = form.push part := by
  cases call with
  | text | bytes =>
    obtain ⟨name', hname, h⟩ := bind_eq_ok.mp h
    rw [validateToken_ok hname] at h
    exact ⟨_, rfl, (Except.ok.inj h).symm⟩
  | fileBytes name filename value => exact ⟨_, rfl, fileBytes_ok h⟩
  | file name filename read =>
    cases filename with
    | none => cases h
    | some filename =>
      obtain ⟨filename', hfilename, h⟩ := bind_eq_ok.mp h
      cases read with
      | none => cases h
      | some value =>
        rw [validateFilename_ok hfilename] at h
        exact ⟨_, rfl, fileBytes_ok h⟩

theorem build_ok :
    ∀ {calls : List Call} {start : Form}, build start calls = .ok form →
      form.boundary = start.boundary ∧ form.parts = start.parts ++ calls.filterMap Call.part
  | [], start, h => by
    obtain rfl := Except.ok.inj h
    exact ⟨rfl, by simp⟩
  | call :: calls, start, h => by
    obtain ⟨next, hnext, h⟩ := bind_eq_ok.mp h
    obtain ⟨part, hpart, rfl⟩ := Call.apply_ok hnext
    obtain ⟨hboundary, hparts⟩ := build_ok h
    refine ⟨hboundary, ?_⟩
    rw [hparts, List.filterMap_cons_some hpart]
    simp [Form.push]

/-! ## Quoting -/

theorem encodeChar_special {c : Char} (hmem : byte ∈ String.utf8EncodeChar c)
    (hascii : byte.toNat < 128) : c = Char.ofNat byte.toNat := by
  rw [(mem_encodeChar hmem hascii).1, Char.ofNat_toNat]

theorem writeQuoted_spec :
    ∀ {characters : List Char} {written : Bytes}, writeQuoted characters = .ok written →
      (0x0d ∉ written) ∧ ∀ rest, quoted (written ++ 0x22 :: rest) =
        some (characters.flatMap String.utf8EncodeChar, rest)
  | [], written, h => by
    obtain rfl := Except.ok.inj h
    refine ⟨List.not_mem_nil, fun rest => ?_⟩
    rw [List.nil_append]
    unfold quoted
    exact if_pos rfl
  | c :: characters, written, h => by
    rw [writeQuoted] at h
    split at h
    · cases h
    next hcontrol =>
    obtain ⟨later, hlater, h⟩ := bind_eq_ok.mp h
    obtain ⟨hcr, hquoted⟩ := writeQuoted_spec hlater
    obtain rfl := Except.ok.inj h
    have hbytes : 0x0d ∉ String.utf8EncodeChar c := by
      intro hmem
      have : c = '\r' := encodeChar_special hmem (by decide)
      simp [this] at hcontrol
    split
    next hspecial =>
      -- A quote or a backslash is a byte of its own, written after a backslash.
      have hchar : c = '\\' ∨ c = '"' := by simpa using hspecial
      have hone : ∃ byte, String.utf8EncodeChar c = [byte] := by
        rcases hchar with rfl | rfl
        · exact ⟨0x5c, rfl⟩
        · exact ⟨0x22, rfl⟩
      obtain ⟨byte, hbyte⟩ := hone
      rw [hbyte] at hbytes
      refine ⟨?_, fun rest => ?_⟩
      · rw [hbyte]
        simp only [List.mem_append, List.mem_singleton, not_or] at hbytes ⊢
        exact ⟨⟨by decide, hbytes⟩, hcr⟩
      · rw [hbyte, List.flatMap_cons, hbyte]
        show quoted (0x5c :: byte :: (later ++ 0x22 :: rest)) = _
        rw [quoted, if_neg (by decide), if_pos rfl, hquoted]
        rfl
    next hspecial =>
      have hchar : c ≠ '\\' ∧ c ≠ '"' := by simpa using hspecial
      have hquote : 0x22 ∉ String.utf8EncodeChar c :=
        fun hmem => hchar.2 (encodeChar_special hmem (by decide))
      have hescape : 0x5c ∉ String.utf8EncodeChar c :=
        fun hmem => hchar.1 (encodeChar_special hmem (by decide))
      refine ⟨?_, fun rest => ?_⟩
      · rw [List.nil_append, List.mem_append, not_or]
        exact ⟨hbytes, hcr⟩
      · rw [List.nil_append, List.append_assoc, FormData.quoted_plain hquote hescape, hquoted]
        rfl

/-! ## The header of a part -/

def dispositionParameters (name : String) (filename : Option String) : List (Bytes × Bytes) :=
  (bytesOf "name", bytesOf name) :: (filename.map fun f => (bytesOf "filename", bytesOf f)).toList

/-- A quoted parameter is read back, whatever is read after it. -/
theorem parameters_quoted {key text : Bytes} {fuel : Nat}
    (hkey : ∀ byte ∈ key, FormData.isAttribute byte ∧ FormData.isBlank byte = false)
    (hquoted : quoted (written ++ 0x22 :: after) = some (text, after))
    (hlater : FormData.parameters fuel after = some later) :
    FormData.parameters (fuel + 1) (0x3b :: 0x20 :: (key ++ 0x3d :: 0x22 :: (written ++
      0x22 :: after))) = some ((key.map FormData.lower, text) :: later) := by
  refine FormData.parameters_cons hkey ?_ hlater
  rw [FormData.parameterValue, if_pos rfl, hquoted]

theorem disposition_read {name : String}
    (hquoted : quoted (written ++ 0x22 :: after) = some (bytesOf name, after))
    (hlater : ∀ fuel ≥ 2, FormData.parameters fuel after = some later) : ∃ value,
      field (bytesOf "Content-Disposition: form-data; name=\"" ++ (written ++ 0x22 :: after)) =
          some (bytesOf "content-disposition", value) ∧ parameterised value =
          some (bytesOf "form-data", (bytesOf "name", bytesOf name) :: later) := by
  have hsplit : bytesOf "Content-Disposition: form-data; name=\"" =
      bytesOf "Content-Disposition" ++ 0x3a :: 0x20 ::
        (bytesOf "form-data" ++ 0x3b :: 0x20 :: (bytesOf "name" ++ [0x3d, 0x22])) := by
    decide +kernel
  refine ⟨bytesOf "form-data" ++ 0x3b :: 0x20 :: (bytesOf "name" ++ 0x3d :: 0x22 ::
    (written ++ 0x22 :: after)), ?_, ?_⟩
  · rw [hsplit]
    simp only [List.append_assoc, List.cons_append, List.nil_append]
    rw [FormData.field_append (by decide +kernel)]
    rfl
  · refine FormData.parameterised_append (by decide +kernel) ?_
    refine parameters_quoted (by decide +kernel) hquoted (hlater _ ?_)
    simp only [List.length_append, List.length_cons]
    omega

theorem writeDisposition_spec {name : String} {filename : Option String} {head : Bytes}
    (h : writeDisposition name filename = .ok head) :
    ∃ line value, head = line ++ crlf ∧ 0x0d ∉ line ∧ line.head? = some 0x43 ∧
      field line = some (bytesOf "content-disposition", value) ∧
      parameterised value = some (bytesOf "form-data", dispositionParameters name filename) := by
  obtain ⟨written, hwritten, h⟩ := bind_eq_ok.mp h
  obtain ⟨hcr, hquoted⟩ := writeQuoted_spec hwritten
  rw [← bytesOf_eq] at hquoted
  have hstart : 0x0d ∉ bytesOf "Content-Disposition: form-data; name=\"" := by decide +kernel
  have hfirst : ∀ rest, (bytesOf "Content-Disposition: form-data; name=\"" ++ rest).head? =
      some 0x43 := by
    intro rest
    rfl
  cases filename with
  | none =>
    obtain rfl := Except.ok.inj h
    obtain ⟨value, hfield, hvalue⟩ := disposition_read (hquoted [])
      (fun fuel hfuel => by
        obtain ⟨fuel, rfl⟩ : ∃ n, fuel = n + 1 := ⟨fuel - 1, by omega⟩
        exact FormData.parameters_end fuel)
    refine ⟨_, value, ?_, ?_, hfirst _, hfield, hvalue⟩
    · rw [List.append_assoc, List.append_assoc, List.append_assoc, List.append_assoc]
      rfl
    · simp only [List.mem_append, List.mem_singleton, not_or]
      exact ⟨hstart, hcr, by decide⟩
  | some filename =>
    obtain ⟨written', hwritten', h⟩ := bind_eq_ok.mp h
    obtain ⟨hcr', hquoted'⟩ := writeQuoted_spec hwritten'
    rw [← bytesOf_eq] at hquoted'
    obtain rfl := Except.ok.inj h
    obtain ⟨value, hfield, hvalue⟩ := disposition_read (hquoted _)
      (fun fuel hfuel => by
        obtain ⟨fuel, rfl⟩ : ∃ n, fuel = n + 2 := ⟨fuel - 2, by omega⟩
        exact parameters_quoted (by decide +kernel : ∀ byte ∈ bytesOf "filename",
          FormData.isAttribute byte ∧ FormData.isBlank byte = false) (hquoted' [])
          (FormData.parameters_end fuel))
    refine ⟨_, value, ?_, ?_, hfirst _, hfield, hvalue⟩
    · have hnext : bytesOf "; filename=\"" =
        0x3b :: 0x20 :: (bytesOf "filename" ++ [0x3d, 0x22]) := by
        decide +kernel
      have hquote : bytesOf "\"" = [0x22] := by decide +kernel
      have hbreak : bytesOf "\r\n" = crlf := by decide +kernel
      rw [hnext, hquote, hbreak]
      simp only [List.append_assoc, List.cons_append, List.nil_append]
    · simp only [List.mem_append, List.mem_cons, List.not_mem_nil, or_false, not_or]
      exact ⟨hstart, hcr, by decide, by decide, by decide, by decide +kernel, by decide, by decide,
        hcr', by decide⟩

/-! ## A part between two delimiters -/

namespace Part

def name : Part → String
  | .text name _ => name
  | .bytes name _ _ => name

def filename : Part → Option String
  | .text _ _ => none
  | .bytes _ filename _ => filename

def content : Part → Bytes
  | .text _ value => bytesOf value
  | .bytes _ _ value => value

/-- The part as a reader should see it, with two header fields. -/
def received (part : Part) : FormPart where
  fields := [bytesOf "content-disposition", bytesOf "content-type"]
  name := bytesOf part.name
  filename := part.filename.map bytesOf
  content := part.content

end Part

def layout (line kind content : Bytes) : Bytes :=
  line ++ (crlf ++ (kind ++ (crlf ++ (crlf ++ content))))

structure Header (part : Part) (line kind : Bytes) : Prop where
  line_cr : 0x0d ∉ line
  line_head : line.head? = some 0x43
  disposition : ∃ value, field line = some (bytesOf "content-disposition", value) ∧
    parameterised value =
      some (bytesOf "form-data", dispositionParameters part.name part.filename)
  kind_cr : 0x0d ∉ kind
  kind_head : kind.head? = some 0x43
  contentType : ∃ value, field kind = some (bytesOf "content-type", value)

theorem header_of (part : Part) {head end' type : Bytes}
    (hhead : writeDisposition part.name part.filename = .ok head)
    (hend : end' = kind ++ (crlf ++ crlf)) (hcr : 0x0d ∉ kind) (hfirst : kind.head? = some 0x43)
    (htype : field kind = some (bytesOf "content-type", type)) :
    ∃ line kind, head ++ end' ++ part.content = layout line kind part.content ∧
      Header part line kind := by
  obtain ⟨line, disposition, rfl, hline, hlinehead, hfield, hvalue⟩ := writeDisposition_spec hhead
  refine ⟨line, kind, ?_, hline, hlinehead, ⟨disposition, hfield, hvalue⟩, hcr, hfirst,
    ⟨type, htype⟩⟩
  rw [hend, layout]
  simp only [List.append_assoc]

variable {part : Part}

theorem writePart_spec (h : writePart part = .ok written) :
    ∃ line kind, written = layout line kind part.content ∧ Header part line kind := by
  cases part with
  | text name value =>
    obtain ⟨head, hhead, h⟩ := bind_eq_ok.mp h
    obtain rfl := Except.ok.inj h
    have htype : field (bytesOf "Content-Type: text/plain; charset=utf-8") =
        some (bytesOf "content-type", bytesOf "text/plain; charset=utf-8") := by decide +kernel
    exact header_of (.text name value) hhead (by decide +kernel) (by decide +kernel) rfl
      htype
  | bytes name filename value =>
    obtain ⟨head, hhead, h⟩ := bind_eq_ok.mp h
    obtain rfl := Except.ok.inj h
    have htype : field (bytesOf "Content-Type: application/octet-stream") =
        some (bytesOf "content-type", bytesOf "application/octet-stream") := by decide +kernel
    exact header_of (.bytes name filename value) hhead (by decide +kernel)
      (by decide +kernel) rfl htype

theorem ne_nil_of_head {bytes : Bytes} (h : bytes.head? = some byte) : bytes ≠ [] := by
  rintro rfl
  cases h

theorem dispositionParameters_filename (name : String) (filename : Option String) :
    (dispositionParameters name filename).lookup (bytesOf "filename") = filename.map bytesOf := by
  have hother : (bytesOf "filename" == bytesOf "name") = false := by decide +kernel
  cases filename with
  | none => simp [dispositionParameters, hother]
  | some filename => simp [dispositionParameters, List.lookup_cons, hother]

theorem Header.read (h : Header part line kind) :
    bodyPart (crlf ++ layout line kind part.content) = some part.received := by
  obtain ⟨value, hfield, hvalue⟩ := h.disposition
  obtain ⟨type, htype⟩ := h.contentType
  have hfields : headerFields ((layout line kind part.content).length + 1)
      (layout line kind part.content) = some ([(bytesOf "content-disposition", value),
        (bytesOf "content-type", type)], part.content) := by
    have hfuel : ∃ n, (layout line kind part.content).length = n + 2 :=
      ⟨(layout line kind part.content).length - 2, by simp [layout, crlf]; omega⟩
    obtain ⟨n, hn⟩ := hfuel
    rw [hn]
    exact FormData.headerFields_line h.line_cr (ne_nil_of_head h.line_head) hfield
      (FormData.headerFields_line h.kind_cr (ne_nil_of_head h.kind_head) htype rfl)
  have hpadding : FormData.takeLine (crlf ++ layout line kind part.content) =
      some ([], layout line kind part.content) :=
    FormData.takeLine_append List.not_mem_nil _
  unfold bodyPart
  simp only [hpadding, hfields, hvalue, Option.bind_eq_bind, Option.bind_some, List.all_nil,
    if_true, List.lookup_cons_self, dispositionParameters_filename, List.map_cons, List.map_nil]
  rw [dispositionParameters, List.lookup_cons_self]
  rfl

/-! ## No delimiter starts in a part -/

theorem holds_iff {haystack : Bytes} : holds marker haystack ↔ marker <:+: haystack := by
  unfold holds
  rw [List.any_eq_true, List.infix_iff_prefix_suffix]
  constructor
  · rintro ⟨window, hwindow, hmarker⟩
    exact ⟨window, List.isPrefixOf_iff_prefix.mp hmarker, (List.mem_tails _ _).mp hwindow⟩
  · rintro ⟨window, hmarker, hwindow⟩
    exact ⟨window, (List.mem_tails _ _).mpr hwindow, List.isPrefixOf_iff_prefix.mpr hmarker⟩

theorem Part.content_free (h : part.containsBoundary marker = false) :
    ¬ marker <:+: part.content := by
  intro hinside
  have hholds := holds_iff.mpr hinside
  cases part with
  | text | bytes =>
    rw [Part.containsBoundary, Bool.or_eq_false_iff] at h
    rw [Part.content, h.2] at hholds
    cases hholds

def delimiter (boundary : Bytes) : Bytes := 0x0d :: 0x0a :: 0x2d :: 0x2d :: boundary

/-- A line break that is not followed by two hyphens and the boundary. -/
theorem clear_break (h : ¬ (0x2d :: 0x2d :: boundary) <+: rest) :
    Clear (delimiter boundary) crlf rest := by
  have hreturn : Clear (delimiter boundary) [0x0d] (0x0a :: rest) := by
    intro front back hsplit hback hpre
    obtain rfl : back = [0x0d] := by
      cases front with
      | nil => exact hsplit.symm
      | cons byte front =>
        have : front ++ back = [] := by simpa using (List.cons.inj hsplit).2.symm
        exact absurd (List.append_eq_nil_iff.mp this).2 hback
    exact h (List.cons_prefix_cons.mp (List.cons_prefix_cons.mp hpre).2).2
  have hfeed : Clear (delimiter boundary) [0x0a] rest := Clear.of_head (by decide)
  exact hreturn.append hfeed

theorem not_prefix_of_head {part : Bytes} {other : UInt8} (h : rest.head? = some other)
    (hne : byte ≠ other) : ¬ (byte :: part) <+: rest := by
  intro hpre
  cases rest with
  | nil => cases h
  | cons first rest =>
    obtain rfl : first = other := by simpa using h
    exact hne (List.cons_prefix_cons.mp hpre).1

theorem head?_append_of_some {bytes : Bytes} (h : bytes.head? = some byte) :
    (bytes ++ rest).head? = some byte := by
  cases bytes with
  | nil => cases h
  | cons first bytes => exact h

theorem Header.free (h : Header part line kind) (hboundary : 0x0d ∉ boundary)
    (hcontent : ¬ boundary <:+: part.content) :
    Free (delimiter boundary) (crlf ++ layout line kind part.content) := by
  intro rest
  have honce : 0x0d ∉ (0x0a :: 0x2d :: 0x2d :: boundary) := by
    simp only [List.mem_cons, not_or]
    exact ⟨by decide, by decide, by decide, hboundary⟩
  have hmarker : ∀ text, text <:+: part.content → ¬ (0x2d :: 0x2d :: boundary) <+: text := by
    intro text htext hpre
    refine hcontent (List.IsInfix.trans ?_ htext)
    exact (List.suffix_append [0x2d, 0x2d] boundary).isInfix.trans hpre.isInfix
  -- From the end to the start: the content, the empty line, the second line, the first line.
  have hlast : Clear (delimiter boundary) part.content (delimiter boundary ++ rest) := by
    refine Clear.of_infix honce fun hinside => hcontent (List.IsInfix.trans ?_ hinside)
    exact (List.suffix_append [0x0d, 0x0a, 0x2d, 0x2d] boundary).isInfix
  have hempty : Clear (delimiter boundary) crlf
      (part.content ++ (delimiter boundary ++ rest)) :=
    clear_break (not_prefix_append (fun hmem => honce (List.mem_cons_of_mem _ hmem))
      (hmarker _ List.infix_rfl))
  have hsecond : Clear (delimiter boundary) crlf
      (crlf ++ part.content ++ (delimiter boundary ++ rest)) :=
    clear_break (not_prefix_of_head rfl (by decide))
  have hfirst : Clear (delimiter boundary) crlf
      (kind ++ (crlf ++ (crlf ++ part.content)) ++ (delimiter boundary ++ rest)) := by
    rw [List.append_assoc]
    exact clear_break (not_prefix_of_head (head?_append_of_some h.kind_head) (by decide))
  have hstart : Clear (delimiter boundary) crlf
      (layout line kind part.content ++ (delimiter boundary ++ rest)) := by
    rw [layout, List.append_assoc]
    exact clear_break (not_prefix_of_head (head?_append_of_some h.line_head) (by decide))
  exact hstart.append (.append (.of_head h.line_cr) (hfirst.append (.append (.of_head h.kind_cr)
    (hsecond.append (hempty.append hlast)))))

/-! ## The body -/

/-- What stands between two delimiters for a part. -/
def Laid (part : Part) (text : Bytes) : Prop :=
  ∃ line kind, text = crlf ++ layout line kind part.content ∧ Header part line kind

/-- The body, with a line break before it, is the closing delimiter after the parts, joined. -/
theorem writeParts_spec :
    ∀ {parts : List Part} {written : Bytes}, writeParts boundary parts = .ok written →
      ∃ texts : List Bytes,
        List.Forall₂ Laid parts texts ∧
        ∀ closing, crlf ++ (written ++ (hyphens ++ (boundary ++ closing))) =
          join (delimiter boundary) [] (texts ++ [closing])
  | [], written, h => by
    obtain rfl := Except.ok.inj h
    exact ⟨[], .nil, fun closing => rfl⟩
  | part :: parts, written, h => by
    obtain ⟨text, htext, h⟩ := bind_eq_ok.mp h
    obtain ⟨later, hlater, h⟩ := bind_eq_ok.mp h
    obtain rfl := Except.ok.inj h
    obtain ⟨line, kind, rfl, hheader⟩ := writePart_spec htext
    obtain ⟨texts, hall, hjoin⟩ := writeParts_spec hlater
    refine ⟨_ :: texts, .cons ⟨line, kind, rfl, hheader⟩ hall, fun closing => ?_⟩
    have hdashes : bytesOf "--" = hyphens := by decide +kernel
    have hbreak : bytesOf "\r\n" = crlf := by decide +kernel
    rw [hdashes, hbreak, List.cons_append, join, List.nil_append,
      join_of_ne_nil (List.append_ne_nil_of_right_ne_nil texts (List.cons_ne_nil closing [])),
      ← hjoin closing]
    simp only [List.append_assoc]
    rfl

theorem bodyParts_spec {closing : Bytes} (h : List.Forall₂ Laid parts texts) :
    bodyParts (texts ++ [hyphens ++ closing]) = some (parts.map Part.received) := by
  induction h with
  | nil => rfl
  | @cons part text parts texts hpart hall ih =>
    obtain ⟨line, kind, rfl, hheader⟩ := hpart
    have hopen : hyphens.isPrefixOf (crlf ++ layout line kind part.content) = false := rfl
    rw [List.cons_append, bodyParts, hopen]
    simp only [Bool.false_eq_true, if_false, hheader.read, ih, Option.bind_eq_bind,
      Option.bind_some, List.map_cons]

/-- No delimiter starts in what stands between two delimiters. -/
theorem texts_free (hcr : 0x0d ∉ boundary) (h : List.Forall₂ Laid parts texts)
    (hparts : ∀ part ∈ parts, part.containsBoundary boundary = false) :
    ∀ text ∈ texts, Free (delimiter boundary) text := by
  induction h with
  | nil => exact nofun
  | @cons part text parts texts hpart hall ih =>
    intro other hother
    rcases List.mem_cons.mp hother with rfl | hother
    · obtain ⟨line, kind, rfl, hheader⟩ := hpart
      exact hheader.free hcr (Part.content_free (hparts part List.mem_cons_self))
    · exact ih (fun part hmem => hparts part (List.mem_cons_of_mem _ hmem)) other hother

theorem closing_free (boundary : Bytes) : Free (delimiter boundary) (hyphens ++ crlf) := by
  intro rest
  have hbreak : Clear (delimiter boundary) crlf (delimiter boundary ++ rest) :=
    clear_break (not_prefix_of_head rfl (by decide))
  have hdashes : Clear (delimiter boundary) hyphens (crlf ++ (delimiter boundary ++ rest)) :=
    Clear.of_head (by decide)
  exact hdashes.append hbreak

theorem contentType_read {boundary : String} (h : Boundary boundary) :
    parameterised (bytesOf ("multipart/form-data; boundary=" ++ boundary)) =
      some (bytesOf "multipart/form-data", [(bytesOf "boundary", bytesOf boundary)]) := by
  have hsplit : bytesOf "multipart/form-data; boundary=" =
      bytesOf "multipart/form-data" ++ 0x3b :: 0x20 :: (bytesOf "boundary" ++ [0x3d]) := by
    decide +kernel
  have hvalue : FormData.parameterValue (bytesOf boundary) = some (bytesOf boundary, []) :=
    FormData.parameterValue_token h.bytes_ne_nil fun byte hbyte =>
      ⟨(h.bytes byte hbyte).1, (h.bytes byte hbyte).2.1⟩
  rw [bytesOf_append, hsplit]
  simp only [List.append_assoc, List.cons_append, List.nil_append]
  refine FormData.parameterised_append (by decide +kernel) ?_
  exact FormData.parameters_cons (by decide +kernel) hvalue (FormData.parameters_end _)

/-- **An encoded form is read back as the parts that were added**, in order, with names, file names
and contents, and with the two header fields the encoder writes. -/
theorem multipart_round_trip (headerValue : String → Bool) (draw : Draw) (draws : Nat → Draw)
    (calls : List Call) (form : Form) (body : Bytes) (contentType : String)
    (hbuild : build (new draw) calls = .ok form)
    (hencode : encode headerValue draws form = .ok (body, contentType)) :
    FormData.parse (bytesOf contentType) body =
      some ((calls.filterMap Call.part).map Part.received) := by
  obtain ⟨hsame, hparts⟩ := build_ok hbuild
  have hparts : form.parts = calls.filterMap Call.part := hparts
  obtain ⟨boundary, hchosen, h⟩ := bind_eq_ok.mp hencode
  have hboundary : Boundary boundary :=
    chooseBoundary_boundary (hsame ▸ new_boundary draw) hchosen
  split at h
  · cases h
  next hfree =>
  obtain ⟨written, hwritten, h⟩ := bind_eq_ok.mp h
  simp only [] at h
  split at h
  swap
  · cases h
  obtain ⟨rfl, rfl⟩ := Prod.mk.inj (Except.ok.inj h)
  obtain ⟨texts, hall, hjoin⟩ := writeParts_spec hwritten
  have hclosing : bytesOf "--\r\n" = hyphens ++ crlf := by decide +kernel
  have hdashes : bytesOf "--" = hyphens := by decide +kernel
  have hbody : crlf ++ (written ++ bytesOf "--" ++ bytesOf boundary ++ bytesOf "--\r\n") =
      join (delimiter (bytesOf boundary)) [] (texts ++ [hyphens ++ crlf]) := by
    rw [← hjoin, hclosing, hdashes]
    simp only [List.append_assoc]
  have hcr : 0x0d ∉ bytesOf boundary := fun hmem => (hboundary.bytes _ hmem).2.2 rfl
  have hsections : ∀ s ∈ [] :: (texts ++ [hyphens ++ crlf]),
      Free (delimiter (bytesOf boundary)) s := by
    have hclear : ∀ part ∈ form.parts, part.containsBoundary (bytesOf boundary) = false := by
      simpa [selfContainsBoundary] using hfree
    intro s hs
    rcases List.mem_cons.mp hs with rfl | hs
    · exact fun _ => Clear.nil
    rcases List.mem_append.mp hs with hs | hs
    · exact texts_free hcr hall hclear s hs
    · rw [List.mem_singleton.mp hs]
      exact closing_free _
  unfold FormData.parse
  simp only [contentType_read hboundary, Option.bind_eq_bind, Option.bind_some, if_true,
    List.lookup_cons_self]
  rw [hbody]
  show bodyParts (sections (delimiter (bytesOf boundary)) 0 _).2 = _
  have hdelimiter : delimiter (bytesOf boundary) ≠ [] := List.cons_ne_nil _ _
  rw [sections_join hdelimiter hsections, bodyParts_spec hall, hparts]

/-- A name that needs quoting, and a file that starts like a delimiter. -/
def sampleCalls : List Call :=
  [.text "a\"b" "x", .fileBytes "file" "c.bin" (bytesOf "\r\n--open-net")]

def sampleBody : Bytes :=
  bytesOf "--open-net-boundary-fallback\r\n" ++
    bytesOf "Content-Disposition: form-data; name=\"a\\\"b\"\r\n" ++
    bytesOf "Content-Type: text/plain; charset=utf-8\r\n\r\nx\r\n" ++
    bytesOf "--open-net-boundary-fallback\r\n" ++
    bytesOf "Content-Disposition: form-data; name=\"file\"; filename=\"c.bin\"\r\n" ++
    bytesOf "Content-Type: application/octet-stream\r\n\r\n\r\n--open-net\r\n" ++
    bytesOf "--open-net-boundary-fallback--\r\n"

theorem multipart_round_trip_run :
    FormData.parse (bytesOf "multipart/form-data; boundary=open-net-boundary-fallback")
        sampleBody = some ((sampleCalls.filterMap Call.part).map Part.received) :=
  multipart_round_trip (fun _ => true) none (fun _ => none) sampleCalls
    ⟨"open-net-boundary-fallback", sampleCalls.filterMap Call.part⟩ sampleBody _
    (by decide +kernel) (by decide +kernel)

end OpenNet.Http.Multipart
