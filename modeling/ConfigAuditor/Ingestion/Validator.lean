import ConfigAuditor.Errors
import ConfigAuditor.Library.PathText
import ConfigAuditor.SecurityModel

/-!
# What an upload is taken for

`app.ingestion.metadata` and `app.ingestion.validator`: the name an upload is shown under, and
the checks its bytes have to pass before they are stored.
-/
namespace ConfigAuditor.Ingestion

open Library PathText Text SecurityModel

/-- `IngestionError`, `IngestionInfrastructureError`, and what is not caught. -/
inductive IngestionError where
  | refused (code message : String)
  | infrastructure (code message : String)
  | uncaught (error : Error)
  deriving DecidableEq, Repr

/-- `CONTROL_CHARACTERS`. -/
def isControl (c : Char) : Bool := c.toNat < 32 || c.toNat == 127

def unnamed : String := "unnamed-upload"

/-- `normalize_filename`; `unquote` decodes the percent escapes. -/
def normalizeFilename (unquote : List Char → List Char) (filename : Option String) : String :=
  let given := if filename.getD "" = "" then unnamed else filename.getD ""
  let candidate := (unquote given.toList).map fun c => if c == '\\' then '/' else c
  let candidate := posixName (windowsName candidate)
  let candidate := stripList isSpace (candidate.map fun c => if isControl c then '_' else c)
  let candidate :=
    if [[], ['.'], ['.', '.']].contains candidate then unnamed.toList else candidate
  String.ofList (candidate.take 255)

/-- `normalize_mime_type`. -/
def normalizeMimeType (mimeType : Option String) : Option String :=
  mimeType.bind fun mimeType =>
    let plain := String.ofList (mimeType.toList.filter fun c => !isControl c)
    let normalized := (lower (strip plain)).toList.take 255
    if normalized.isEmpty then none else some (String.ofList normalized)

/-- `PurePath(filename).suffix.lower()`. -/
def extensionOf (filename : String) : String :=
  let name := posixName filename.toList
  match splitLast '.' name with
  | some (stem, suffix) =>
    if stem.isEmpty || suffix.isEmpty then "" else lower (String.ofList ('.' :: suffix))
  | none => ""

inductive ArtifactContentFamily where
  | text
  | json
  | xml
  | unknown
  deriving DecidableEq, Repr

structure ValidatedEvidence where
  contentFamily : ArtifactContentFamily
  evidenceType : ArtifactEvidenceType
  encoding : String
  validationIssues : List (List (String × String))
  deriving DecidableEq

/-- What a parser of the standard library makes of a text. -/
inductive Reading where
  | parsed
  | malformed
  | raised (error : Error)
  deriving DecidableEq, Repr

/-- `json.loads` and `ElementTree.fromstring`, and `str.upper`. -/
structure Readers where
  json : String → Reading
  xml : String → Reading
  upper : List Char → List Char

def byteOrderMark : ByteArray := ⟨#[0xef, 0xbb, 0xbf]⟩

def hasByteOrderMark (data : ByteArray) : Bool := data.extract 0 3 == byteOrderMark

/-- `data.decode("utf-8-sig")`. -/
def decodeUtf8Sig (data : ByteArray) : Option String :=
  String.fromUTF8? (if hasByteOrderMark data then data.extract 3 data.size else data)

/-- `_looks_binary`. -/
def looksBinary (text : String) : Bool :=
  if text.isEmpty then false
  else
    let disallowed := text.toList.countP fun c =>
      c.toNat < 32 && !(['\n', '\r', '\t', Char.ofNat 12].contains c)
    PyFloat.lt (PyFloat.round (1 / 100) false)
      (PyFloat.round ((disallowed : Rat) / (text.length : Rat)) false)

/-- `_classify_evidence`. -/
def classifyEvidence (text : String) (family : ArtifactContentFamily) (extension : String) :
    ArtifactEvidenceType :=
  let lowered := (lower text).toList
  let names (markers : List String) := markers.any fun marker => occursIn marker.toList lowered
  if family = .json ∨ family = .xml then .structuredExport
  else if [".cfg", ".conf", ".config"].contains extension then .configuration
  else if names ["show version", "software version", "software image version",
      "firmware version"] then .versionOutput
  else if names ["show inventory", "serial number", "hardware inventory"] then .inventoryOutput
  else if names ["show interface", "show route", "operational status"] then .operationalOutput
  else .unknownEvidence

/-- `if condition: raise IngestionError(code, message)`. -/
def refuseIf (condition : Bool) (code message : String) : Except IngestionError Unit :=
  if condition then .error (.refused code message) else .ok ()

def readAs (reading : Reading) (code message : String) : Except IngestionError Unit :=
  match reading with
  | .parsed => .ok ()
  | .malformed => .error (.refused code message)
  | .raised error => .error (.uncaught error)

/-- The decoded text of the bytes. -/
def decoded (data : ByteArray) : Except IngestionError String :=
  match decodeUtf8Sig data with
  | some text => .ok text
  | none => .error (.refused "invalid_encoding" "Uploaded evidence must use UTF-8 encoding")

/-- The family of a decoded text, when its parser takes it. -/
def familyOf (readers : Readers) (text extension : String) (mimeType : Option String) :
    Except IngestionError ArtifactContentFamily := do
  let stripped := text.toList.dropWhile isSpace
  let mime (types : List String) := mimeType.any types.contains
  if stripped.head? = some '\x7b' || stripped.head? = some '[' ||
      mime ["application/json", "text/json"] || extension == ".json" then
    readAs (readers.json text) "malformed_json" "Uploaded JSON is malformed"
    return .json
  else if stripped.head? = some '<' || mime ["application/xml", "text/xml"] ||
      extension == ".xml" then
    let upperText := readers.upper stripped
    refuseIf (occursIn "<!DOCTYPE".toList upperText || occursIn "<!ENTITY".toList upperText)
      "unsafe_xml" "XML DTD and entity declarations are not allowed"
    readAs (readers.xml text) "malformed_xml" "Uploaded XML is malformed"
    return .xml
  else return .text

/-- `validate_and_classify`. -/
def validateAndClassify (readers : Readers) (data : ByteArray) (filename : String)
    (mimeType : Option String) : Except IngestionError ValidatedEvidence := do
  refuseIf data.isEmpty "empty_file" "Uploaded evidence must not be empty"
  refuseIf (data.toList.contains 0) "unsupported_binary" "Uploaded evidence is not supported text"
  let text ← decoded data
  refuseIf (looksBinary text) "unsupported_binary" "Uploaded evidence is not supported text"
  let extension := extensionOf filename
  let family ← familyOf readers text extension mimeType
  return { contentFamily := family, evidenceType := classifyEvidence text family extension,
           encoding := if hasByteOrderMark data then "utf-8-sig" else "utf-8",
           validationIssues := [] }

/-- A name that means nothing to a file system. -/
structure PlainName (name : String) : Prop where
  not_empty : name ≠ ""
  not_dots : name ≠ "." ∧ name ≠ ".."
  short : name.length ≤ 255
  plain : ∀ c ∈ name.toList, c ≠ '/' ∧ c ≠ '\\' ∧ isControl c = false

/-- What is left when the ends are stripped was there. -/
theorem mem_stripList {drop : Char → Bool} {cs : List Char} {c : Char}
    (h : c ∈ stripList drop cs) : c ∈ cs := by
  rw [stripList, List.mem_reverse] at h
  have hreverse := List.mem_reverse.mp ((List.dropWhile_sublist _).subset h)
  exact (List.dropWhile_sublist _).subset hreverse

/-- A text that is no dot and no pair of dots is none when it is cut. -/
theorem take_ne_dots {cs : List Char} (h : [[], ['.'], ['.', '.']].contains cs = false) :
    cs.take 255 ≠ [] ∧ cs.take 255 ≠ ['.'] ∧ cs.take 255 ≠ ['.', '.'] := by
  have hout : cs ≠ [] ∧ cs ≠ ['.'] ∧ cs ≠ ['.', '.'] := by simpa using h
  by_cases hlong : cs.length ≤ 255
  · rwa [List.take_of_length_le hlong]
  · have hlength : (cs.take 255).length = 255 := by
      rw [List.length_take]
      omega
    refine ⟨?_, ?_, ?_⟩ <;> intro heq <;> rw [heq] at hlength <;> cases hlength

theorem unnamed_plain :
    unnamed.toList.all (fun c => c != '/' && c != '\\' && !isControl c) = true := by
  decide

/-- Every upload is shown under a plain name, whatever it is called. -/
theorem normalizeFilename_plain (unquote : List Char → List Char) (filename : Option String) :
    PlainName (normalizeFilename unquote filename) := by
  set given := if filename.getD "" = "" then unnamed else filename.getD "" with hgiven
  set candidate := stripList isSpace
    ((posixName (windowsName ((unquote given.toList).map fun c => if c == '\\' then '/' else c))).map
      fun c => if isControl c then '_' else c) with hcandidate
  set shown := if [[], ['.'], ['.', '.']].contains candidate then unnamed.toList else candidate
    with hshown
  have hname : (normalizeFilename unquote filename).toList = shown.take 255 := String.toList_ofList
  have hfree : [[], ['.'], ['.', '.']].contains shown = false := by
    by_cases hdots : [[], ['.'], ['.', '.']].contains candidate = true
    · rw [hshown, if_pos hdots]
      decide
    · rw [hshown, if_neg hdots]
      exact Bool.not_eq_true _ ▸ hdots
  have hplain : ∀ c ∈ shown, c ≠ '/' ∧ c ≠ '\\' ∧ isControl c = false := by
    intro c hc
    by_cases hdots : [[], ['.'], ['.', '.']].contains candidate = true
    · rw [hshown, if_pos hdots] at hc
      have hunnamed := List.all_eq_true.mp unnamed_plain c hc
      simpa [and_assoc] using hunnamed
    · rw [hshown, if_neg hdots] at hc
      obtain ⟨d, hd, rfl⟩ := List.mem_map.mp (mem_stripList hc)
      obtain ⟨hslash, hback⟩ := mem_windowsName (mem_posixName hd).1
      split
      · decide
      · rename_i hcontrol
        exact ⟨hslash, hback, Bool.not_eq_true _ ▸ hcontrol⟩
  obtain ⟨hne, hdot, hdots⟩ := take_ne_dots hfree
  refine ⟨?_, ⟨?_, ?_⟩, ?_, ?_⟩
  · rw [ne_eq, ← String.toList_inj, hname]
    exact hne
  · rw [ne_eq, ← String.toList_inj, hname]
    exact hdot
  · rw [ne_eq, ← String.toList_inj, hname]
    exact hdots
  · rw [← String.length_toList, hname, List.length_take]
    omega
  · rw [hname]
    exact fun c hc => hplain c (List.mem_of_mem_take hc)

/-- Bytes a text reader can take: some, UTF-8, and without a NUL. -/
structure IsText (data : ByteArray) : Prop where
  not_empty : data.isEmpty = false
  no_nul : (0 : UInt8) ∉ data.toList
  decodes : ∃ text, decodeUtf8Sig data = some text ∧ looksBinary text = false

@[simp] theorem refuseIf_eq_ok {condition : Bool} {code message : String} {u : Unit} :
    refuseIf condition code message = .ok u ↔ condition = false := by
  cases condition <;> simp [refuseIf]

theorem decoded_eq_ok {data : ByteArray} {text : String} :
    decoded data = .ok text ↔ decodeUtf8Sig data = some text := by
  unfold decoded
  cases decodeUtf8Sig data <;> simp

/-- An upload that is accepted is text. -/
theorem validateAndClassify_isText {readers : Readers} {data : ByteArray} {filename : String}
    {mimeType : Option String} {evidence : ValidatedEvidence}
    (h : validateAndClassify readers data filename mimeType = .ok evidence) : IsText data := by
  simp only [validateAndClassify, except_bind_eq_ok, refuseIf_eq_ok, decoded_eq_ok] at h
  obtain ⟨_, hsome, _, hnul, text, htext, _, hbinary, -⟩ := h
  exact ⟨hsome, by simpa using hnul, text, htext, hbinary⟩

end ConfigAuditor.Ingestion
