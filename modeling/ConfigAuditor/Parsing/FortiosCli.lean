import ConfigAuditor.Parsing.Tokenizer
import ConfigAuditor.Parsing.IRBuilder

/-!
# The FortiOS reader

`app.parsing.readers.fortios_cli`: nesting is given by the commands `config`, `edit`,
`next` and `end`, not by indentation.
-/
namespace ConfigAuditor.Parsing.FortiosCli

open Library IRBuilder

def readerId : String := "fortios_cli.v1"
def maxInputCharacters : Nat := 2 * 1024 * 1024
def maxSourceLines : Nat := 50000
def maxLineCharacters : Nat := 16 * 1024
def maxDepth : Nat := 16
def maxNodes : Nat := 20000

/-- The local variables of the loop of `parse`. -/
structure State where
  configDepth : Nat := 0
  editDepth : Nat := 0
  inConfig : Bool := false
  inEdit : Bool := false
  deriving DecidableEq

section Loop

variable (sha256 : String → String)

/-- A statement, at an indentation of the reader's making. -/
def statement (raw : List Char) (number : Nat) (command : Option String)
    (arguments : List String) (indent : Nat) : NodeInput :=
  { rawText := String.ofList raw, command, arguments, indent,
    sourceStart := number, sourceEnd := number, negated := false, kind := .statement,
    parseStatus := .parsed }

/-- What a line is to the reader, given the blocks that are open. -/
def readTokens (tokens : TokenizedStatement) (raw : List Char) (number : Nat) (state : State) :
    State × NodeInput :=
  match tokens.command with
  | none =>
    (state, { statement raw number none [] 0 with
      negated := tokens.negated, parseStatus := .unresolved })
  | some command =>
    if command = "config" then
      let configDepth := if state.inConfig then 1 else 0
      ({ state with configDepth, inConfig := true, inEdit := false },
        statement raw number (some command) tokens.arguments configDepth)
    else if command = "edit" ∧ state.inConfig = true then
      let editDepth := state.configDepth + 1
      ({ state with editDepth, inEdit := true },
        statement raw number (some command) tokens.arguments editDepth)
    else if command = "next" ∧ state.inEdit = true then
      ({ state with inEdit := false },
        { statement raw number (some command) [] state.editDepth with canParent := false })
    else if command = "end" then
      ({ state with inConfig := false, inEdit := false },
        { statement raw number (some command) [] 0 with forceRoot := true, canParent := false })
    else if (command = "set" ∨ command = "unset") ∧ state.inConfig = true then
      (state, { statement raw number (some command) tokens.arguments
          (if state.inEdit then state.editDepth + 1 else state.configDepth + 1) with
        negated := command == "unset" })
    else
      (state, { statement raw number (some command) tokens.arguments 0 with
        negated := tokens.negated, parseStatus := .unresolved, canParent := false })

/-- The loop of `parse`. -/
def readLines : List (List Char) → Nat → State → IRBuilder → IRBuilder
  | [], _, _, b => b
  | line :: rest, number, state, b =>
    let raw := (Text.rstripChars ['\r', '\n'] line).take maxLineCharacters
    let stripped := Text.stripList Text.isSpace raw
    if stripped.isEmpty || stripped.head? = some '#' then readLines rest (number + 1) state b
    else
      let (state, input) := readTokens (tokenizeStatement stripped) raw number state
      readLines rest (number + 1) state (b.addNode sha256 input)

/-- `FortiosCliReader.parse`. -/
def parse (request : StructuralParseRequest) : StructuralIR :=
  let content := request.content.toList.take maxInputCharacters
  let lines := (Text.lines content).take maxSourceLines
  let truncated := request.inputTruncated ||
    decide (content.length < request.content.toList.length) ||
    decide (lines.length < content.count '\n')
  (readLines sha256 lines 1 {} { readerId, source := request.source, maxDepth, maxNodes }).build
    truncated

end Loop

section WellFormed

variable {sha256 : String → String} {source : ArtifactProvenance} {b : IRBuilder}

theorem readTokens_lines (tokens : TokenizedStatement) (raw : List Char) (number : Nat)
    (state : State) :
    (readTokens tokens raw number state).2.sourceStart = number ∧
      (readTokens tokens raw number state).2.sourceEnd = number := by
  unfold readTokens statement
  split
  · exact ⟨rfl, rfl⟩
  · split_ifs <;> exact ⟨rfl, rfl⟩

theorem inv_readLines (lines : List (List Char)) {number : Nat} (hnumber : 1 ≤ number)
    (state : State) (h : Inv sha256 readerId source b) :
    Inv sha256 readerId source (readLines sha256 lines number state b) := by
  induction lines generalizing number state b with
  | nil => exact h
  | cons line rest ih =>
    simp only [readLines]
    split
    · exact ih (by omega) state h
    · obtain ⟨hstart, hend⟩ := readTokens_lines
        (tokenizeStatement (Text.stripList Text.isSpace
          ((Text.rstripChars ['\r', '\n'] line).take maxLineCharacters)))
        ((Text.rstripChars ['\r', '\n'] line).take maxLineCharacters) number state
      exact ih (by omega) _ (h.addNode (by omega) (by omega))

/-- What `parse` builds comes from calls of the builder. -/
theorem parse_eq (sha256 : String → String) (request : StructuralParseRequest) :
    ∃ b truncated, Inv sha256 readerId request.source b ∧
      parse sha256 request = b.build truncated :=
  ⟨_, _, inv_readLines _ le_rfl _ (inv_empty _ _ _), rfl⟩

theorem parse_wellFormed {request : StructuralParseRequest}
    (hhash : HashesApart sha256 "irn_" (identityOf readerId) (parse sha256 request).nodes) :
    (parse sha256 request).WellFormed := by
  obtain ⟨b, truncated, hinv, hparse⟩ := parse_eq sha256 request
  rw [hparse] at hhash ⊢
  exact build_wellFormed hinv (by decide) hhash

/-- A statement read whole as `unset` is negated. -/
def UnsetNegated (node : ConfigNode) : Prop :=
  node.command = some "unset" → node.parseStatus = .parsed → node.negated = true

theorem readTokens_unset (tokens : TokenizedStatement) (raw : List Char) (number : Nat)
    (state : State) (hcommand : (readTokens tokens raw number state).2.command = some "unset")
    (hparsed : (readTokens tokens raw number state).2.parseStatus = .parsed) :
    (readTokens tokens raw number state).2.negated = true := by
  unfold readTokens statement at *
  cases hc : tokens.command with
  | none => simp [hc] at hcommand
  | some command =>
    simp only [hc] at hcommand hparsed ⊢
    split_ifs at hcommand hparsed ⊢ with hconfig hedit hnext hend hset
    all_goals simp_all

theorem unset_readLines (lines : List (List Char)) (number : Nat) (state : State)
    (h : ∀ d ∈ b.nodes, UnsetNegated d.node) :
    ∀ d ∈ (readLines sha256 lines number state b).nodes, UnsetNegated d.node := by
  induction lines generalizing number state b with
  | nil => exact h
  | cons line rest ih =>
    simp only [readLines]
    split
    · exact ih _ _ h
    · refine ih _ _ (addNode_forall (fun _ _ hkept => hkept) h fun hcommand hparsed => ?_)
      refine readTokens_unset _ _ _ _ hcommand ?_
      rcases place_status b _ with hstatus | hstatus
      · exact hstatus.symm.trans hparsed
      · exact absurd (hstatus.symm.trans hparsed) (by decide)

theorem unset_negated (request : StructuralParseRequest) :
    ∀ node ∈ (parse sha256 request).nodes, UnsetNegated node := by
  intro node hnode
  obtain ⟨d, hd, rfl⟩ := List.mem_map.mp hnode
  exact unset_readLines _ _ _ (by simp) d hd

end WellFormed

end ConfigAuditor.Parsing.FortiosCli
