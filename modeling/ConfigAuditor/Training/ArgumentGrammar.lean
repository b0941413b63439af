import ConfigAuditor.Training.Matcher

/-!
# The grammar of argument patterns

`matches` reads the argument patterns of a command in one pass, and an optional pattern takes its
token whenever the token stands there. Read as a grammar, the patterns match a prefix of the
arguments for some choice of which optional patterns are there. The pass finds such a choice
unless an optional pattern takes a token that the patterns after it need.
-/
namespace ConfigAuditor.Training.ArgumentGrammar

open Library SecurityModel Dsl Matcher

/-- The patterns that are there: some optional ones are left out. -/
inductive Chosen : List ArgumentPattern → List ArgumentPattern → Prop
  | nil : Chosen [] []
  | keep (pattern : ArgumentPattern) {patterns chosen : List ArgumentPattern}
      (h : Chosen patterns chosen) : Chosen (pattern :: patterns) (pattern :: chosen)
  | leave {pattern : ArgumentPattern} {patterns chosen : List ArgumentPattern}
      (hoptional : pattern.operation = .optional) (h : Chosen patterns chosen) :
      Chosen (pattern :: patterns) chosen

/-- One pattern that is there, on one argument. -/
def acceptToken (pattern : ArgumentPattern) (value : String) (captures : Captures) :
    Option Captures :=
  match pattern.operation with
  | .literal | .optional => if some value = pattern.value then some captures else none
  | .oneOf => if pattern.options.contains value then some captures else none
  | .capture =>
    match typed (.str value) (pattern.valueType.getD .string) with
    | .ok captured => some (Dict.set captures (pattern.name.getD "") captured)
    | .error _ => none

/-- The patterns match a prefix of the arguments position by position. -/
def matchPrefix : List ArgumentPattern → List String → Captures → Option Captures
  | [], _, captures => some captures
  | _ :: _, [], _ => none
  | pattern :: patterns, value :: rest, captures =>
    (acceptToken pattern value captures).bind (matchPrefix patterns rest)

/-- Some choice of the optional patterns matches, with these captures. -/
def Generates (patterns : List ArgumentPattern) (arguments : List String)
    (captures found : Captures) : Prop :=
  ∃ chosen, Chosen patterns chosen ∧ matchPrefix chosen arguments captures = some found

/-- Some choice of the optional patterns matches. -/
def Matchable (patterns : List ArgumentPattern) (arguments : List String) : Prop :=
  ∃ found, Generates patterns arguments [] found

/-- The argument patterns accept their grammar: what is captured is what a choice captures, and
a choice that matches is not missed. -/
structure AcceptsGrammar (definition : MappingDefinition) (node : ValidationNode) : Prop where
  sound : ∀ found, matchNode definition node = some found →
    Generates definition.structuralMatch.arguments node.arguments [] found
  complete : Matchable definition.structuralMatch.arguments node.arguments →
    ∃ found, matchNode definition node = some found

/-- No optional pattern takes an argument that the patterns after it can only do with. -/
def LeavesEnough : List ArgumentPattern → List String → Prop
  | [], _ => True
  | _ :: _, [] => True
  | pattern :: patterns, value :: rest =>
    if pattern.operation = .optional then
      if some value = pattern.value then
        (Matchable patterns (value :: rest) → Matchable patterns rest) ∧
          LeavesEnough patterns rest
      else LeavesEnough patterns (value :: rest)
    else (acceptToken pattern value []).isSome = true → LeavesEnough patterns rest

section Steps

variable {pattern : ArgumentPattern} {patterns : List ArgumentPattern} {value : String}
  {rest : List String} {captures found : Captures}

theorem acceptToken_optional (h : pattern.operation = .optional) :
    acceptToken pattern value captures =
      if some value = pattern.value then some captures else none := by
  unfold acceptToken
  rw [h]

/-- Whether a token is accepted does not depend on what was captured before. -/
theorem acceptToken_isSome (captures captures' : Captures) :
    (acceptToken pattern value captures).isSome = (acceptToken pattern value captures').isSome := by
  unfold acceptToken
  split
  · split <;> rfl
  · split <;> rfl
  · split <;> rfl
  · split <;> rfl

/-- The loop on an optional pattern. -/
theorem matchArguments_optional (h : pattern.operation = .optional) :
    matchArguments (pattern :: patterns) (value :: rest) captures =
      if some value = pattern.value then matchArguments patterns rest captures
      else matchArguments patterns (value :: rest) captures := by
  obtain ⟨operation, token, name, valueType, options⟩ := pattern
  subst h
  rfl

/-- The loop on a pattern that must be there. -/
theorem matchArguments_required (h : pattern.operation ≠ .optional) :
    matchArguments (pattern :: patterns) (value :: rest) captures =
      (acceptToken pattern value captures).bind (matchArguments patterns rest) := by
  obtain ⟨operation, token, name, valueType, options⟩ := pattern
  unfold acceptToken
  cases operation with
  | optional => exact absurd rfl h
  | literal =>
    show (if some value = token then matchArguments patterns rest captures else none) = _
    split <;> rfl
  | oneOf =>
    show (if options.contains value then matchArguments patterns rest captures else none) = _
    split <;> rfl
  | capture =>
    show (match typed (.str value) (valueType.getD .string) with
      | .ok captured => matchArguments patterns rest (Dict.set captures (name.getD "") captured)
      | .error _ => none) = _
    dsimp only
    cases typed (.str value) (valueType.getD .string) with
    | ok captured => rfl
    | error _ => rfl

theorem matchArguments_nil (h : pattern.operation = .optional) :
    matchArguments (pattern :: patterns) [] captures = matchArguments patterns [] captures := by
  obtain ⟨operation, token, name, valueType, options⟩ := pattern
  subst h
  rfl

theorem matchArguments_required_nil (h : pattern.operation ≠ .optional) :
    matchArguments (pattern :: patterns) [] captures = none := by
  obtain ⟨operation, token, name, valueType, options⟩ := pattern
  cases operation with
  | optional => exact absurd rfl h
  | literal | oneOf | capture => rfl

theorem generates_nil {arguments : List String} :
    Generates [] arguments captures found ↔ captures = found := by
  constructor
  · rintro ⟨chosen, hchosen, hmatch⟩
    cases hchosen
    exact Option.some.inj hmatch
  · rintro rfl
    exact ⟨[], .nil, rfl⟩

/-- The first pattern is there and accepts the first argument, or it is left out. -/
theorem generates_cons :
    Generates (pattern :: patterns) (value :: rest) captures found ↔
      (∃ next, acceptToken pattern value captures = some next ∧
        Generates patterns rest next found) ∨
      (pattern.operation = .optional ∧ Generates patterns (value :: rest) captures found) := by
  constructor
  · rintro ⟨chosen, hchosen, hmatch⟩
    cases hchosen with
    | keep _ h =>
      rw [matchPrefix, Option.bind_eq_some_iff] at hmatch
      obtain ⟨next, hnext, hmatch⟩ := hmatch
      exact .inl ⟨next, hnext, _, h, hmatch⟩
    | leave hoptional h => exact .inr ⟨hoptional, _, h, hmatch⟩
  · rintro (⟨next, hnext, chosen, h, hmatch⟩ | ⟨hoptional, chosen, h, hmatch⟩)
    · refine ⟨pattern :: chosen, .keep pattern h, ?_⟩
      rw [matchPrefix, hnext]
      exact hmatch
    · exact ⟨chosen, .leave hoptional h, hmatch⟩

/-- Without arguments every pattern is left out. -/
theorem generates_cons_nil :
    Generates (pattern :: patterns) [] captures found ↔
      pattern.operation = .optional ∧ Generates patterns [] captures found := by
  constructor
  · rintro ⟨chosen, hchosen, hmatch⟩
    cases hchosen with
    | keep _ h => cases hmatch
    | leave hoptional h => exact ⟨hoptional, _, h, hmatch⟩
  · rintro ⟨hoptional, chosen, h, hmatch⟩
    exact ⟨chosen, .leave hoptional h, hmatch⟩

end Steps

/-- A choice that matches does so whatever was captured before. -/
theorem generates_any (patterns : List ArgumentPattern) (arguments : List String)
    (captures captures' : Captures) (h : ∃ found, Generates patterns arguments captures found) :
    ∃ found, Generates patterns arguments captures' found := by
  induction patterns generalizing arguments captures captures' with
  | nil => exact ⟨captures', generates_nil.mpr rfl⟩
  | cons pattern patterns ih =>
    obtain ⟨found, h⟩ := h
    cases arguments with
    | nil =>
      obtain ⟨hoptional, h⟩ := generates_cons_nil.mp h
      obtain ⟨found', h'⟩ := ih [] captures captures' ⟨found, h⟩
      exact ⟨found', generates_cons_nil.mpr ⟨hoptional, h'⟩⟩
    | cons value rest =>
      obtain ⟨next, hnext, h⟩ | ⟨hoptional, h⟩ := generates_cons.mp h
      · have hsome : (acceptToken pattern value captures').isSome = true := by
          rw [acceptToken_isSome captures' captures, hnext]
          rfl
        obtain ⟨next', hnext'⟩ := Option.isSome_iff_exists.mp hsome
        obtain ⟨found', h'⟩ := ih rest next next' ⟨found, h⟩
        exact ⟨found', generates_cons.mpr (.inl ⟨next', hnext', h'⟩)⟩
      · obtain ⟨found', h'⟩ := ih (value :: rest) captures captures' ⟨found, h⟩
        exact ⟨found', generates_cons.mpr (.inr ⟨hoptional, h'⟩)⟩

theorem matchable_iff (patterns : List ArgumentPattern) (arguments : List String)
    (captures : Captures) :
    (∃ found, Generates patterns arguments captures found) ↔ Matchable patterns arguments :=
  ⟨generates_any patterns arguments captures [], generates_any patterns arguments [] captures⟩

/-- What the loop captures is what a choice captures. -/
theorem matchArguments_sound (patterns : List ArgumentPattern) (arguments : List String)
    (captures found : Captures) (h : matchArguments patterns arguments captures = some found) :
    Generates patterns arguments captures found := by
  induction patterns generalizing arguments captures with
  | nil => exact generates_nil.mpr (Option.some.inj h)
  | cons pattern patterns ih =>
    by_cases hoptional : pattern.operation = .optional
    · cases arguments with
      | nil =>
        rw [matchArguments_nil hoptional] at h
        exact generates_cons_nil.mpr ⟨hoptional, ih [] captures h⟩
      | cons value rest =>
        rw [matchArguments_optional hoptional] at h
        split at h
        · next htoken =>
          refine generates_cons.mpr (.inl ⟨captures, ?_, ih rest captures h⟩)
          rw [acceptToken_optional hoptional, if_pos htoken]
        · exact generates_cons.mpr (.inr ⟨hoptional, ih (value :: rest) captures h⟩)
    · cases arguments with
      | nil =>
        rw [matchArguments_required_nil hoptional] at h
        cases h
      | cons value rest =>
        rw [matchArguments_required hoptional, Option.bind_eq_some_iff] at h
        obtain ⟨next, hnext, h⟩ := h
        exact generates_cons.mpr (.inl ⟨next, hnext, ih rest next h⟩)

/-- The loop misses no choice that matches. -/
def Complete (patterns : List ArgumentPattern) (arguments : List String)
    (captures : Captures) : Prop :=
  Matchable patterns arguments → ∃ found, matchArguments patterns arguments captures = some found

theorem complete_optional {pattern : ArgumentPattern} {patterns : List ArgumentPattern}
    {value : String} {rest : List String} {captures : Captures}
    (hoptional : pattern.operation = .optional) (htoken : some value = pattern.value) :
    Complete (pattern :: patterns) (value :: rest) captures ↔
      (Matchable patterns (value :: rest) → Matchable patterns rest) ∧
        Complete patterns rest captures := by
  have htake : acceptToken pattern value [] = some [] := by
    rw [acceptToken_optional hoptional, if_pos htoken]
  have hmatchable : Matchable (pattern :: patterns) (value :: rest) ↔
      Matchable patterns rest ∨ Matchable patterns (value :: rest) := by
    simp only [Matchable, generates_cons, htake, Option.some.injEq, exists_eq_left', hoptional,
      true_and, exists_or]
  have hloop : matchArguments (pattern :: patterns) (value :: rest) captures =
      matchArguments patterns rest captures := by
    rw [matchArguments_optional hoptional, if_pos htoken]
  unfold Complete
  rw [hmatchable, hloop]
  constructor
  · intro h
    refine ⟨fun hleft => ?_, fun hrest => h (.inl hrest)⟩
    obtain ⟨found, hfound⟩ := h (.inr hleft)
    exact (matchable_iff _ _ captures).mp ⟨found, matchArguments_sound _ _ _ _ hfound⟩
  · rintro ⟨hgive, hcomplete⟩ (hrest | hleft)
    · exact hcomplete hrest
    · exact hcomplete (hgive hleft)

/-- The loop is complete exactly where every optional pattern leaves enough. -/
theorem complete_iff (patterns : List ArgumentPattern) (arguments : List String)
    (captures : Captures) :
    Complete patterns arguments captures ↔ LeavesEnough patterns arguments := by
  induction patterns generalizing arguments captures with
  | nil => exact iff_of_true (fun _ => ⟨captures, rfl⟩) trivial
  | cons pattern patterns ih =>
    cases arguments with
    | nil =>
      refine iff_of_true ?_ trivial
      rintro ⟨found, hgenerates⟩
      obtain ⟨hoptional, hgenerates⟩ := generates_cons_nil.mp hgenerates
      rw [matchArguments_nil hoptional]
      have henough : LeavesEnough patterns [] := by cases patterns <;> trivial
      exact (ih [] captures).mpr henough ⟨found, hgenerates⟩
    | cons value rest =>
      by_cases hoptional : pattern.operation = .optional
      · by_cases htoken : some value = pattern.value
        · rw [complete_optional hoptional htoken, LeavesEnough, if_pos hoptional, if_pos htoken,
            ih rest captures]
        · rw [LeavesEnough, if_pos hoptional, if_neg htoken, ← ih (value :: rest) captures]
          have htake : acceptToken pattern value [] = none := by
            rw [acceptToken_optional hoptional, if_neg htoken]
          have hmatchable : Matchable (pattern :: patterns) (value :: rest) ↔
              Matchable patterns (value :: rest) := by
            simp only [Matchable, generates_cons, htake, reduceCtorEq, false_and, exists_false,
              false_or, hoptional, true_and]
          unfold Complete
          rw [hmatchable, matchArguments_optional hoptional, if_neg htoken]
      · rw [LeavesEnough, if_neg hoptional]
        unfold Complete
        cases htake : acceptToken pattern value [] with
        | none =>
          refine iff_of_true ?_ nofun
          rintro ⟨found, hgenerates⟩
          obtain ⟨next, hnext, -⟩ | ⟨hleft, -⟩ := generates_cons.mp hgenerates
          · rw [htake] at hnext
            cases hnext
          · exact absurd hleft hoptional
        | some next =>
          have hsome : (acceptToken pattern value captures).isSome = true := by
            rw [acceptToken_isSome captures [], htake]
            rfl
          obtain ⟨next', hnext'⟩ := Option.isSome_iff_exists.mp hsome
          have hmatchable : Matchable (pattern :: patterns) (value :: rest) ↔
              Matchable patterns rest := by
            rw [← matchable_iff patterns rest next]
            simp only [Matchable, generates_cons, htake, Option.some.injEq, exists_eq_left',
              hoptional, false_and, or_false]
          rw [hmatchable, matchArguments_required hoptional, hnext']
          simp only [Option.isSome_some, true_implies]
          exact ih rest next'

/-- On a node that passes the other conditions, the argument patterns accept exactly their grammar
where every optional pattern leaves enough. -/
theorem accepts_grammar_iff (definition : MappingDefinition) (node : ValidationNode) :
    (matchesContext definition.structuralMatch node = true → AcceptsGrammar definition node) ↔
      (matchesContext definition.structuralMatch node = true →
        LeavesEnough definition.structuralMatch.arguments node.arguments) := by
  by_cases hcontext : matchesContext definition.structuralMatch node = true
  · have hloop : matchNode definition node =
        matchArguments definition.structuralMatch.arguments node.arguments [] := by
      rw [matchNode, if_pos hcontext]
    rw [← complete_iff _ _ []]
    constructor
    · intro h _ hmatchable
      rw [← hloop]
      exact (h hcontext).complete hmatchable
    · intro h _
      refine ⟨fun found hfound => ?_, fun hmatchable => ?_⟩
      · rw [hloop] at hfound
        exact matchArguments_sound _ _ _ _ hfound
      · rw [hloop]
        exact h hcontext hmatchable
  · exact iff_of_true (fun h => absurd h hcontext) (fun h => absurd h hcontext)

/-- `logging [on] on`. -/
def optionalFields : MappingFields where
  profileApplicability := { profileVersionIds := ["acme@1.0.0"] }
  structuralMatch :=
    { command := "logging",
      arguments := [{ operation := .optional, value := some "on" },
        { operation := .literal, value := some "on" }] }
  targetFieldId := "time.ntp.configured"
  valueExtraction := { operation := .booleanFromPresence, outputType := .boolean }
  scopeResolution := { strategy := .device }
  negationBehavior := .unsupported
  removalBehavior := .unsupported
  defaultBehavior := .unsupported

def optionalDefinition : MappingDefinition := ⟨optionalFields, by decide +kernel⟩

def optionalNode : ValidationNode where
  command := "logging"
  arguments := ["on"]

theorem optional_misses :
    ¬ ∀ (definition : MappingDefinition) (node : ValidationNode),
      matchesContext definition.structuralMatch node = true → AcceptsGrammar definition node := by
  intro h
  have hgrammar := h optionalDefinition optionalNode (by decide +kernel)
  have hmatchable : Matchable optionalFields.structuralMatch.arguments ["on"] :=
    ⟨[], _, .leave rfl (.keep _ .nil), by decide⟩
  obtain ⟨found, hfound⟩ := hgrammar.complete hmatchable
  have hmissed : matchNode optionalDefinition optionalNode = none := by decide +kernel
  rw [hmissed] at hfound
  cases hfound

end ConfigAuditor.Training.ArgumentGrammar
