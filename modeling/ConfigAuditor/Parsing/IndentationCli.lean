import ConfigAuditor.Parsing.Tokenizer
import ConfigAuditor.Parsing.IRBuilder

/-!
# The indentation reader

`app.parsing.readers.indentation_cli`: configuration text whose nesting is given by
indentation, with comments, banners and certificate blocks.
-/
namespace ConfigAuditor.Parsing.IndentationCli

open Library IRBuilder

def readerId : String := "indentation_cli.v1"
def maxInputCharacters : Nat := 2 * 1024 * 1024
def maxSourceLines : Nat := 50000
def maxLineCharacters : Nat := 16 * 1024
def maxNodeCount : Nat := 20000
def maxDepth : Nat := 64
def maxOpaqueBlockLines : Nat := 4096

/-- `_bounded_lines`: the lines without their ends, and whether text was left out. -/
def boundedLines (content : List Char) : List (List Char) × Bool :=
  let bounded := content.take maxInputCharacters
  let all := Text.lines bounded
  let lines := (all.take maxSourceLines).map (Text.rstripChars ['\r', '\n'])
  (if !bounded.isEmpty && lines.isEmpty then [bounded] else lines,
    decide (bounded.length < content.length) || decide (maxSourceLines < all.length))

def lineCut (line : List Char) : Bool := maxLineCharacters < line.length

/-- The text part of `_bounded_line`. -/
def boundedLine (line : List Char) : List Char := line.take maxLineCharacters

/-- A pattern of words, the last one followed by white space or the end of the line. -/
def leadsWith (pattern : List String) (stripped : List Char) : Bool :=
  ((Text.words stripped).take pattern.length).map (·.map Text.foldCase) == pattern.map String.toList

/-- `BANNER_PREFIX`. -/
def isBanner (stripped : List Char) : Bool := leadsWith ["banner"] stripped

/-- `CERTIFICATE_CHAIN_PREFIX`. -/
def isCertificateChain (stripped : List Char) : Bool :=
  leadsWith ["crypto", "pki", "certificate", "chain"] stripped

/-- What stands after the first word of a line that starts with a word. -/
def afterWord (line : List Char) : List Char :=
  (line.dropWhile (!Text.isSpace ·)).dropWhile Text.isSpace

/-- `_banner_delimiter`: the delimiter, and what follows it in the line. -/
def bannerDelimiter (stripped : List Char) : Option (List Char) × List Char :=
  match afterWord (afterWord stripped) with
  | [] => (none, [])
  | '^' :: second :: rest => (some ['^', second], rest)
  | first :: rest => (some [first], rest)

/-- A block that is not read as statements, and the lines it takes after its first. -/
structure OpaqueScan where
  following : Nat
  rawText : List Char
  complete : Bool
  truncated : Bool

def opaqueText (lines : List (List Char)) : List Char :=
  ['\n'].intercalate (lines.map boundedLine)

/-- The loop both scans share: up to the line that ends the block, within bounds. -/
def scanBlock (ends : List Char → Bool) (first : List Char) (rest : List (List Char)) :
    OpaqueScan :=
  let window := rest.take (maxOpaqueBlockLines - 1)
  match window.findIdx? ends with
  | some i =>
    let block := first :: window.take (i + 1)
    { following := i + 1, rawText := opaqueText block, complete := true,
      truncated := block.any lineCut }
  | none =>
    { following := window.length, rawText := opaqueText (first :: window), complete := false,
      truncated := (first :: window).any lineCut || decide (window.length < rest.length) }

/-- `_scan_banner`, with the delimiter it found. -/
def scanBanner (first : List Char) (rest : List (List Char)) : OpaqueScan × Option (List Char) :=
  match bannerDelimiter (Text.stripList Text.isSpace first) with
  | (none, _) => (scanBlock (fun _ => false) first rest, none)
  | (some delimiter, remainder) =>
    if Text.occursIn delimiter remainder then
      ({ following := 0, rawText := boundedLine first, complete := true,
         truncated := lineCut first }, some delimiter)
    else (scanBlock (Text.occursIn delimiter) first rest, some delimiter)

/-- `_scan_certificate_block`. -/
def scanCertificateBlock (first : List Char) (rest : List (List Char)) : OpaqueScan :=
  scanBlock (fun line => Text.lower (String.ofList (Text.stripList Text.isSpace line)) == "quit")
    first rest

section Loop

variable (sha256 : String → String)

/-- The builder after a line, whether the tree is cut, and how many of the following
lines belong to the node; `none` stops the loop. -/
structure LineStep where
  builder : IRBuilder
  truncated : Bool
  following : Option Nat

def lineLimit (line : Nat) : ParseDiagnostic :=
  { code := "line_limit", message := "Source line exceeded the structural parsing line limit",
    sourceStart := some line, sourceEnd := some line }

def commentInput (stripped line : List Char) (number : Nat) : NodeInput :=
  { rawText := String.ofList (boundedLine line), command := none, arguments := [], indent := 0,
    sourceStart := number, sourceEnd := number, negated := false, kind := .comment,
    parseStatus := if lineCut line then .partialText else .parsed,
    comments := [String.ofList ((stripped.drop 1).dropWhile Text.isSpace)], forceRoot := true,
    canParent := false }

def readComment (stripped line : List Char) (number : Nat) (b : IRBuilder) (truncated : Bool) :
    LineStep :=
  let b := b.resetContext.addNode sha256 (commentInput stripped line number)
  { builder := if lineCut line then b.addDiagnostic (lineLimit number) else b,
    truncated := truncated || lineCut line, following := some 0 }

/-- The diagnostics of a banner or certificate block, and the step after it. -/
def finishBlock (scan : OpaqueScan) (unterminated limited : ParseDiagnostic) (number : Nat)
    (b : IRBuilder) (truncated : Bool) : LineStep :=
  let span (d : ParseDiagnostic) : ParseDiagnostic :=
    { d with sourceStart := some number, sourceEnd := some (number + scan.following) }
  let b := if scan.complete then b else b.addDiagnostic (span unterminated)
  { builder := if scan.truncated then b.addDiagnostic (span limited) else b,
    truncated := truncated || scan.truncated,
    following := if scan.complete then some scan.following else none }

def OpaqueScan.status (scan : OpaqueScan) : ParseStatus :=
  if scan.complete && !scan.truncated then .opaqueBlock else .partialText

def readBanner (line : List Char) (rest : List (List Char)) (number : Nat) (b : IRBuilder)
    (truncated : Bool) : LineStep :=
  let (scan, delimiter) := scanBanner line rest
  let arguments := (tokenizeStatement line).arguments
  let delimiter := (delimiter.map String.ofList).filter (!arguments.contains ·)
  finishBlock scan
    { code := "unterminated_banner",
      message := "Banner delimiter was not found within bounded input" }
    { code := "opaque_block_limit",
      message := "Opaque banner block exceeded structural parsing limits" }
    number
    (b.addNode sha256
      { rawText := String.ofList scan.rawText, command := some "banner",
        arguments := arguments ++ delimiter.toList, indent := (measureIndentation line).columns,
        sourceStart := number, sourceEnd := number + scan.following, negated := false,
        kind := .opaqueBlock, parseStatus := scan.status, canParent := false })
    truncated

def readCertificate (line : List Char) (rest : List (List Char)) (number : Nat) (b : IRBuilder)
    (truncated : Bool) : LineStep :=
  let scan := scanCertificateBlock line rest
  let statement := tokenizeStatement line
  finishBlock scan
    { code := "unterminated_opaque_block",
      message := "Opaque certificate block terminator was not found within bounded input" }
    { code := "opaque_block_limit",
      message := "Opaque certificate block exceeded structural parsing limits" }
    number
    (b.addNode sha256
      { rawText := String.ofList scan.rawText, command := statement.command,
        arguments := statement.arguments, indent := (measureIndentation line).columns,
        sourceStart := number, sourceEnd := number + scan.following,
        negated := statement.negated, kind := .opaqueBlock, parseStatus := scan.status,
        canParent := false })
    truncated

def mixedIndentation (line : Nat) : ParseDiagnostic :=
  { code := "mixed_indentation",
    message := "Mixed tabs and spaces were normalized to indentation columns",
    sourceStart := some line, sourceEnd := some line }

def readStatement (line : List Char) (number : Nat) (b : IRBuilder) (truncated : Bool) :
    LineStep :=
  let indentation := measureIndentation line
  let statement := tokenizeStatement (boundedLine line)
  let b := if indentation.mixed then b.addDiagnostic (mixedIndentation number) else b
  let b := if lineCut line then b.addDiagnostic (lineLimit number) else b
  { builder := b.addNode sha256
      { rawText := String.ofList (boundedLine line), command := statement.command,
        arguments := statement.arguments, indent := indentation.columns, sourceStart := number,
        sourceEnd := number, negated := statement.negated, kind := .statement,
        parseStatus :=
          if indentation.mixed || lineCut line then .partialText
          else if statement.command.isNone then .unresolved else .parsed }
    truncated := truncated || lineCut line, following := some 0 }

def nodeLimit (line : Nat) : ParseDiagnostic :=
  { code := "node_limit", message := "Configuration node count was bounded",
    sourceStart := some line }

/-- The body of the loop of `parse`. -/
def readLine (line : List Char) (rest : List (List Char)) (number : Nat) (b : IRBuilder)
    (truncated : Bool) : LineStep :=
  if b.nodeLimitReached then
    { builder := b.addDiagnostic (nodeLimit number), truncated := true, following := none }
  else
    let stripped := Text.stripList Text.isSpace line
    if stripped.isEmpty then { builder := b, truncated, following := some 0 }
    else if stripped.head? = some '!' then readComment sha256 stripped line number b truncated
    else if isBanner stripped then readBanner sha256 line rest number b truncated
    else if isCertificateChain stripped then readCertificate sha256 line rest number b truncated
    else readStatement sha256 line number b truncated

/-- The loop of `parse` over the lines from a number on; `skip` of them are read. -/
def readLines : List (List Char) → Nat → Nat → IRBuilder → Bool → IRBuilder × Bool
  | [], _, _, b, truncated => (b, truncated)
  | _ :: rest, number, skip + 1, b, truncated => readLines rest (number + 1) skip b truncated
  | line :: rest, number, 0, b, truncated =>
    let step := readLine sha256 line rest number b truncated
    match step.following with
    | none => (step.builder, step.truncated)
    | some skip => readLines rest (number + 1) skip step.builder step.truncated

def artifactByteLimit : ParseDiagnostic :=
  { code := "artifact_byte_limit",
    message := "Artifact content was truncated at the structural parsing byte limit" }

def inputLimit : ParseDiagnostic :=
  { code := "input_limit", message := "Configuration input exceeded structural parsing limits" }

/-- The builder `parse` starts with. -/
def initialBuilder (request : StructuralParseRequest) (contentTruncated : Bool) : IRBuilder :=
  { readerId, source := request.source, maxDepth, maxNodes := maxNodeCount,
    diagnostics := (if request.inputTruncated then [artifactByteLimit] else []) ++
      (if contentTruncated then [inputLimit] else []) }

/-- `IndentationCliReader.parse`. -/
def parse (request : StructuralParseRequest) : StructuralIR :=
  let (lines, contentTruncated) := boundedLines request.content.toList
  let (builder, truncated) := readLines sha256 lines 1 0 (initialBuilder request contentTruncated)
    (request.inputTruncated || contentTruncated)
  builder.build truncated

end Loop

section WellFormed

variable {sha256 : String → String} {source : ArtifactProvenance} {b : IRBuilder}

theorem inv_ite {p : Prop} [Decidable p] {b' : IRBuilder} (h : Inv sha256 readerId source b)
    (h' : Inv sha256 readerId source b') : Inv sha256 readerId source (if p then b' else b) := by
  split
  · exact h'
  · exact h

theorem inv_finishBlock (h : Inv sha256 readerId source b) (scan : OpaqueScan)
    (unterminated limited : ParseDiagnostic) (number : Nat) (truncated : Bool) :
    Inv sha256 readerId source (finishBlock scan unterminated limited number b truncated).builder := by
  unfold finishBlock
  cases scan.complete <;> cases scan.truncated
  · exact h.addDiagnostic _
  · exact (h.addDiagnostic _).addDiagnostic _
  · exact h
  · exact h.addDiagnostic _

theorem inv_readLine (h : Inv sha256 readerId source b) (line : List Char) (rest : List (List Char))
    {number : Nat} (hnumber : 1 ≤ number) (truncated : Bool) :
    Inv sha256 readerId source (readLine sha256 line rest number b truncated).builder := by
  unfold readLine
  split
  · exact h.addDiagnostic _
  dsimp only
  split
  · exact h
  split
  · have hadded : Inv sha256 readerId source (b.resetContext.addNode sha256
        (commentInput (Text.stripList Text.isSpace line) line number)) :=
      h.resetContext.addNode hnumber le_rfl
    exact inv_ite hadded (hadded.addDiagnostic _)
  split
  · exact inv_finishBlock (h.addNode hnumber (Nat.le_add_right _ _)) _ _ _ _ _
  split
  · exact inv_finishBlock (h.addNode hnumber (Nat.le_add_right _ _)) _ _ _ _ _
  · refine Inv.addNode ?_ hnumber le_rfl
    exact inv_ite (inv_ite h (h.addDiagnostic _)) ((inv_ite h (h.addDiagnostic _)).addDiagnostic _)

theorem inv_readLines (lines : List (List Char)) {number : Nat} (hnumber : 1 ≤ number)
    (skip : Nat) (h : Inv sha256 readerId source b) (truncated : Bool) :
    Inv sha256 readerId source (readLines sha256 lines number skip b truncated).1 := by
  induction lines generalizing number skip b truncated with
  | nil => exact h
  | cons line rest ih =>
    cases skip with
    | succ skip => exact ih (by omega) skip h truncated
    | zero =>
      have hstep := inv_readLine h line rest hnumber truncated
      simp only [readLines]
      split
      · exact hstep
      · exact ih (by omega) _ hstep _

/-- What `parse` builds comes from calls of the builder. -/
theorem parse_eq (sha256 : String → String) (request : StructuralParseRequest) :
    ∃ b truncated, Inv sha256 readerId request.source b ∧
      parse sha256 request = b.build truncated :=
  ⟨_, _, inv_readLines _ le_rfl _ (inv_empty _ _ _) _, rfl⟩

theorem parse_wellFormed {request : StructuralParseRequest}
    (hhash : HashesApart sha256 "irn_" (identityOf readerId) (parse sha256 request).nodes) :
    (parse sha256 request).WellFormed := by
  obtain ⟨b, truncated, hinv, hparse⟩ := parse_eq sha256 request
  rw [hparse] at hhash ⊢
  exact build_wellFormed hinv (by decide) hhash

theorem parse_provenance (request : StructuralParseRequest) :
    (parse sha256 request).source = request.source ∧
      (parse sha256 request).readerId = readerId ∧
      ∀ node ∈ (parse sha256 request).nodes, node.artifactId = request.source.artifactId := by
  obtain ⟨b, truncated, hinv, hparse⟩ := parse_eq sha256 request
  rw [hparse]
  exact build_provenance hinv truncated

end WellFormed

end ConfigAuditor.Parsing.IndentationCli
