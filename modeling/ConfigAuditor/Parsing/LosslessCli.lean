import ConfigAuditor.Library.Intervals
import ConfigAuditor.Parsing.IndentationCli
import ConfigAuditor.Parsing.Spans

/-!
# The indentation reader loses no line silently

The nodes of the reader take increasing, disjoint ranges of lines. Unless the tree is marked as
cut, every line that is not blank is in one of them, and the text of a node is the text of its
lines.
-/
namespace ConfigAuditor.Parsing.LosslessCli

open Library IRBuilder IndentationCli Spans

/-- A block takes the lines it says it takes: unless it is marked as cut, its text is theirs, and
a block without an end takes all lines there are. -/
structure ScanSound (first : List Char) (rest : List (List Char)) (scan : OpaqueScan) : Prop where
  following : scan.following ≤ rest.length
  text : scan.truncated = false →
    String.ofList scan.rawText = joinLines (first :: rest.take scan.following)
  ending : scan.truncated = false → scan.complete = false → scan.following = rest.length

theorem boundedLine_eq {line : List Char} (h : lineCut line = false) : boundedLine line = line := by
  simp only [lineCut, decide_eq_false_iff_not, Nat.not_lt] at h
  exact List.take_of_length_le h

theorem opaqueText_eq {lines : List (List Char)} (h : lines.any lineCut = false) :
    opaqueText lines = ['\n'].intercalate lines := by
  have hsame : lines.map boundedLine = lines := by
    conv_rhs => rw [← List.map_id lines]
    refine List.map_congr_left fun line hline => boundedLine_eq ?_
    simpa using List.any_eq_false.mp h line hline
  rw [opaqueText, hsame]

theorem scanBlock_sound (ends : List Char → Bool) (first : List Char) (rest : List (List Char)) :
    ScanSound first rest (scanBlock ends first rest) := by
  simp only [scanBlock]
  cases hend : (rest.take (maxOpaqueBlockLines - 1)).findIdx? ends with
  | some i =>
    have hlt : i < (rest.take (maxOpaqueBlockLines - 1)).length :=
      (List.findIdx?_eq_some_iff_getElem.mp hend).1
    rw [List.length_take] at hlt
    have htake : (rest.take (maxOpaqueBlockLines - 1)).take (i + 1) = rest.take (i + 1) := by
      rw [List.take_take, Nat.min_eq_left (by omega)]
    refine ⟨by simp only; omega, fun hcut => ?_, fun _ hcomplete => by cases hcomplete⟩
    simp only [htake] at hcut ⊢
    rw [opaqueText_eq hcut]
    rfl
  | none =>
    refine ⟨?_, fun hcut => ?_, fun hcut _ => ?_⟩
    · simp only [List.length_take]
      omega
    · simp only [Bool.or_eq_false_iff] at hcut
      have hall : rest.take (rest.take (maxOpaqueBlockLines - 1)).length =
          rest.take (maxOpaqueBlockLines - 1) := by
        rw [List.take_eq_take_iff, List.length_take]
        omega
      simp only [opaqueText_eq hcut.1, hall]
      rfl
    · simp only [Bool.or_eq_false_iff, decide_eq_false_iff_not] at hcut
      simp only [List.length_take] at hcut ⊢
      omega

theorem scanBanner_sound (first : List Char) (rest : List (List Char)) :
    ScanSound first rest (scanBanner first rest).1 := by
  unfold scanBanner
  split
  · exact scanBlock_sound _ first rest
  · split
    · refine ⟨Nat.zero_le _, fun hcut => ?_, fun _ hcomplete => by cases hcomplete⟩
      simp only at hcut
      simp [boundedLine_eq hcut, joinLines]
    · exact scanBlock_sound _ first rest

section Loop

variable {sha256 : String → String}

/-- What the reader does at a line: a blank line is passed over, any other gets a node that takes
it and some of the lines after it. -/
structure LineRead (line : List Char) (rest : List (List Char)) (number : Nat) (b : IRBuilder)
    (truncated : Bool) (step : LineStep) : Prop where
  maxNodes : step.builder.maxNodes = b.maxNodes
  kept : step.truncated = false → truncated = false
  passed : Spans.blank line = true → spans step.builder = spans b ∧ step.following = some 0
  node : Spans.blank line = false → ∃ count ≤ rest.length, ∃ rawText,
    spans step.builder = spans b ++ [⟨number, number + count, rawText⟩] ∧
      (step.following = some count ∨ step.following = none) ∧
      (step.truncated = false → rawText = joinLines (line :: rest.take count) ∧
        (step.following = none → count = rest.length))

theorem finishBlock_read {line : List Char} {rest : List (List Char)} {number : Nat}
    {b : IRBuilder} {truncated : Bool} {scan : OpaqueScan} {unterminated limited : ParseDiagnostic}
    {input : NodeInput} (hblank : Spans.blank line = false) (hroom : b.nodeLimitReached = false)
    (hscan : ScanSound line rest scan)
    (hspan : NodeInput.span input =
      ⟨number, number + scan.following, String.ofList scan.rawText⟩) :
    LineRead line rest number b truncated
      (finishBlock scan unterminated limited number (b.addNode sha256 input) truncated) := by
  have hspans : spans (finishBlock scan unterminated limited number (b.addNode sha256 input)
      truncated).builder = spans b ++ [⟨number, number + scan.following,
        String.ofList scan.rawText⟩] := by
    rw [← hspan, ← spans_addNode sha256 hroom]
    unfold finishBlock
    cases scan.complete <;> cases scan.truncated <;> rfl
  refine ⟨?_, fun h => ?_, fun h => absurd h (by simp [hblank]), fun _ => ?_⟩
  · have hnodes := maxNodes_addNode sha256 b input
    unfold finishBlock
    cases scan.complete <;> cases scan.truncated <;> exact hnodes
  · simp only [finishBlock, Bool.or_eq_false_iff] at h
    exact h.1
  · refine ⟨scan.following, hscan.following, _, hspans, ?_, fun h => ?_⟩
    · cases hcomplete : scan.complete <;> simp [finishBlock, hcomplete]
    · simp only [finishBlock, Bool.or_eq_false_iff] at h
      refine ⟨hscan.text h.2, fun hnone => hscan.ending h.2 ?_⟩
      cases hcomplete : scan.complete with
      | false => rfl
      | true => simp [finishBlock, hcomplete] at hnone

theorem joinLines_single (line : List Char) : joinLines [line] = String.ofList line := by
  simp [joinLines]

/-- A line with a node of its own. -/
theorem ownNode_read {line : List Char} {rest : List (List Char)} {number : Nat}
    {b b' : IRBuilder} {truncated : Bool} (hblank : Spans.blank line = false)
    (hnodes : b'.maxNodes = b.maxNodes)
    (hspans : spans b' = spans b ++ [⟨number, number, String.ofList (boundedLine line)⟩]) :
    LineRead line rest number b truncated
      { builder := b', truncated := truncated || lineCut line, following := some 0 } := by
  refine ⟨hnodes, fun h => ?_, fun h => absurd h (by simp [hblank]), fun _ => ?_⟩
  · simp only [Bool.or_eq_false_iff] at h
    exact h.1
  · refine ⟨0, Nat.zero_le _, _, hspans, .inl rfl, fun h => ⟨?_, fun hnone => by cases hnone⟩⟩
    simp only [Bool.or_eq_false_iff] at h
    rw [boundedLine_eq h.2, List.take_zero, joinLines_single]

theorem readStatement_read {line : List Char} {rest : List (List Char)} {b : IRBuilder}
    {truncated : Bool} (hblank : Spans.blank line = false) (hroom : b.nodeLimitReached = false)
    (number : Nat) :
    LineRead line rest number b truncated (readStatement sha256 line number b truncated) := by
  have hnoted : ∀ (p : Prop) [Decidable p] (d : ParseDiagnostic) (b : IRBuilder),
      spans (if p then b.addDiagnostic d else b) = spans b ∧
        (if p then b.addDiagnostic d else b).nodeLimitReached = b.nodeLimitReached ∧
        (if p then b.addDiagnostic d else b).maxNodes = b.maxNodes := by
    intro p _ d b
    split
    · exact ⟨rfl, rfl, rfl⟩
    · exact ⟨rfl, rfl, rfl⟩
  obtain ⟨hspans, hlimit, hnodes⟩ := hnoted ((measureIndentation line).mixed = true)
    (mixedIndentation number) b
  obtain ⟨hspans', hlimit', hnodes'⟩ := hnoted (lineCut line = true) (lineLimit number)
    (if (measureIndentation line).mixed = true then b.addDiagnostic (mixedIndentation number)
      else b)
  refine ownNode_read hblank ?_ ?_
  · rw [maxNodes_addNode, hnodes', hnodes]
  · rw [spans_addNode sha256 (by rw [hlimit', hlimit, hroom]), hspans', hspans]
    rfl

theorem readLine_read (sha256 : String → String) {b : IRBuilder} (hroom : b.nodeLimitReached = false) (line : List Char)
    (rest : List (List Char)) (number : Nat) (truncated : Bool) :
    LineRead line rest number b truncated (readLine sha256 line rest number b truncated) := by
  have hnodes := fun b input => maxNodes_addNode sha256 b input
  unfold readLine
  rw [if_neg (by simp [hroom])]
  dsimp only
  split
  · rename_i hempty
    refine ⟨rfl, id, fun _ => ⟨rfl, rfl⟩, fun h => ?_⟩
    rw [Spans.blank, hempty] at h
    cases h
  · rename_i hfull
    have hblank : Spans.blank line = false := by simpa [Spans.blank] using hfull
    split
    · refine ownNode_read hblank ?_ ?_
      · split
        · exact hnodes b.resetContext _
        · exact hnodes b.resetContext _
      · have hadded := spans_addNode sha256 (b := b.resetContext) hroom
          (commentInput (Text.stripList Text.isSpace line) line number)
        rw [spans_resetContext] at hadded
        split
        · rw [spans_addDiagnostic]
          exact hadded
        · exact hadded
    · split
      · exact finishBlock_read hblank hroom (scanBanner_sound line rest) rfl
      · split
        · exact finishBlock_read hblank hroom (scanBlock_sound _ line rest) rfl
        · exact readStatement_read hblank hroom number

/-- The spans come one after the other and end within the first `upto` lines. -/
structure Spanned (upto : Nat) (spans : List LineSpan) : Prop where
  increasing : spans.Pairwise fun s s' => s.last < s'.first
  within : ∀ s ∈ spans, 1 ≤ s.first ∧ s.first ≤ s.last ∧ s.last ≤ upto

/-- The spans have the texts of their lines and leave out only blank ones of the first `upto`. -/
structure Carried (all : List (List Char)) (upto : Nat) (spans : List LineSpan) : Prop where
  covered : ∀ i < upto, ∀ line, all[i]? = some line → Spans.blank line = false →
    ∃ s ∈ spans, s.covers (i + 1)
  text : ∀ s ∈ spans, s.rawText = joinLines ((all.drop (s.first - 1)).take (s.last + 1 - s.first))

theorem Spanned.mono {upto upto' : Nat} {spans : List LineSpan} (h : Spanned upto spans)
    (hle : upto ≤ upto') : Spanned upto' spans := by
  refine ⟨h.increasing, fun s hs => ?_⟩
  have hwithin := h.within s hs
  omega

theorem Spanned.append {upto : Nat} {spans : List LineSpan} (h : Spanned upto spans)
    (count : Nat) (rawText : String) :
    Spanned (upto + 1 + count) (spans ++ [⟨upto + 1, upto + 1 + count, rawText⟩]) := by
  constructor
  · refine List.pairwise_append.mpr ⟨h.increasing, List.pairwise_singleton _ _, ?_⟩
    intro s hs s' hs'
    obtain rfl := List.mem_singleton.mp hs'
    have hwithin := h.within s hs
    simp only
    omega
  · intro s hs
    rcases List.mem_append.mp hs with hs | hs
    · have hwithin := h.within s hs
      omega
    · obtain rfl := List.mem_singleton.mp hs
      simp only
      omega

/-- A blank line is carried by no span. -/
theorem Carried.passBlank {all : List (List Char)} {upto : Nat} {spans : List LineSpan}
    (h : Carried all upto spans) {line : List Char} (hline : all[upto]? = some line)
    (hblank : Spans.blank line = true) : Carried all (upto + 1) spans := by
  refine ⟨fun i hi other hother hfull => ?_, h.text⟩
  rcases Nat.lt_succ_iff_lt_or_eq.mp hi with hlt | rfl
  · exact h.covered i hlt other hother hfull
  · rw [hline, Option.some.injEq] at hother
    rw [← hother, hblank] at hfull
    cases hfull

/-- A span with the text of the next lines carries them. -/
theorem Carried.append {all : List (List Char)} {upto count : Nat} {spans : List LineSpan}
    (h : Carried all upto spans) {line : List Char} {rest : List (List Char)}
    (hdrop : all.drop upto = line :: rest) {rawText : String}
    (htext : rawText = joinLines (line :: rest.take count)) :
    Carried all (upto + 1 + count) (spans ++ [⟨upto + 1, upto + 1 + count, rawText⟩]) := by
  constructor
  · intro i hi other hother hfull
    by_cases hlt : i < upto
    · obtain ⟨s, hs, hcovers⟩ := h.covered i hlt other hother hfull
      exact ⟨s, List.mem_append_left _ hs, hcovers⟩
    · refine ⟨_, List.mem_append_right _ (List.mem_singleton_self _), ?_⟩
      simp only [LineSpan.covers]
      omega
  · intro s hs
    rcases List.mem_append.mp hs with hs | hs
    · exact h.text s hs
    · obtain rfl := List.mem_singleton.mp hs
      have hcount : upto + 1 + count + 1 - (upto + 1) = count + 1 := by omega
      simp only [Nat.add_sub_cancel, hcount, hdrop, List.take_succ_cons]
      exact htext

/-- The loop carries every line, unless it marks the tree as cut. -/
theorem readLines_carried (sha256 : String → String) (all lines : List (List Char)) (upto skip : Nat) (b : IRBuilder)
    (truncated : Bool) (hlines : all.drop upto = lines) (hupto : upto ≤ all.length)
    (hskip : skip ≤ lines.length) (hspanned : Spanned (upto + skip) (spans b))
    (hcarried : truncated = false → Carried all (upto + skip) (spans b)) :
    Spanned all.length (spans (readLines sha256 lines (upto + 1) skip b truncated).1) ∧
      ((readLines sha256 lines (upto + 1) skip b truncated).2 = false → truncated = false ∧
        Carried all all.length (spans (readLines sha256 lines (upto + 1) skip b truncated).1)) := by
  induction lines generalizing upto skip b truncated with
  | nil =>
    have hlength := congrArg List.length hlines
    rw [List.length_drop, List.length_nil] at hlength
    obtain rfl : skip = 0 := by simpa using hskip
    obtain rfl : upto = all.length := by omega
    exact ⟨hspanned, fun hcut => ⟨hcut, hcarried hcut⟩⟩
  | cons line rest ih =>
    have hlength := congrArg List.length hlines
    rw [List.length_drop, List.length_cons] at hlength
    have hrest : all.drop (upto + 1) = rest := by
      rw [← List.drop_drop, hlines, List.drop_one, List.tail_cons]
    have hline : all[upto]? = some line := by
      rw [← List.head?_drop, hlines, List.head?_cons]
    cases skip with
    | succ skip =>
      simp only [List.length_cons, Nat.add_le_add_iff_right] at hskip
      have hshift : upto + (skip + 1) = upto + 1 + skip := by omega
      rw [hshift] at hspanned hcarried
      exact ih (upto + 1) skip b truncated hrest (by omega) hskip hspanned hcarried
    | zero =>
      rw [Nat.add_zero] at hspanned hcarried
      simp only [readLines]
      cases hroom : b.nodeLimitReached with
      | true =>
        rw [readLine, if_pos hroom]
        refine ⟨?_, fun hcut => by cases hcut⟩
        rw [spans_addDiagnostic]
        exact hspanned.mono hupto
      | false =>
        obtain ⟨-, hkept, hpassed, hnode⟩ :=
          readLine_read sha256 hroom line rest (upto + 1) truncated
        cases hblank : Spans.blank line with
        | true =>
          obtain ⟨hspans, hfollowing⟩ := hpassed hblank
          rw [hfollowing]
          have hrun := ih (upto + 1) 0 _ _ hrest (by omega) (Nat.zero_le _)
            (hspans ▸ hspanned.mono (by omega))
            (fun hcut => hspans ▸ (hcarried (hkept hcut)).passBlank hline hblank)
          exact ⟨hrun.1, fun hcut => ⟨hkept (hrun.2 hcut).1, (hrun.2 hcut).2⟩⟩
        | false =>
          obtain ⟨count, hcount, rawText, hspans, hfollowing, htext⟩ := hnode hblank
          have hspanned' := hspanned.append count rawText
          rcases hfollowing with hfollowing | hfollowing
          · rw [hfollowing]
            have hrun := ih (upto + 1) count _ _ hrest (by omega) hcount (hspans ▸ hspanned')
              (fun hcut => hspans ▸ (hcarried (hkept hcut)).append hlines (htext hcut).1)
            exact ⟨hrun.1, fun hcut => ⟨hkept (hrun.2 hcut).1, (hrun.2 hcut).2⟩⟩
          · rw [hfollowing]
            refine ⟨?_, fun hcut => ?_⟩
            · rw [hspans]
              exact hspanned'.mono (by omega)
            · obtain ⟨hraw, hall⟩ := htext hcut
              have hend : all.length = upto + 1 + count := by
                rw [hall hfollowing]
                omega
              rw [hspans, hend]
              exact ⟨hkept hcut, (hcarried (hkept hcut)).append hlines hraw⟩

end Loop

theorem lines_ne_nil {content : List Char} (h : content ≠ []) : Text.lines content ≠ [] := by
  cases content with
  | nil => exact absurd rfl h
  | cons c rest =>
    unfold Text.lines
    split
    · exact List.cons_ne_nil _ _
    · split
      · exact List.cons_ne_nil _ _
      · exact List.cons_ne_nil _ _

/-- A text that is not cut is read line by line. -/
theorem boundedLines_eq {content : List Char} (h : (boundedLines content).2 = false) :
    (boundedLines content).1 = sourceLines content := by
  simp only [boundedLines, Bool.or_eq_false_iff, decide_eq_false_iff_not, Nat.not_lt] at h
  obtain ⟨hchars, hlines⟩ := h
  have hall : content.take maxInputCharacters = content := by
    rw [List.length_take] at hchars
    exact List.take_of_length_le (by omega)
  rw [hall] at hlines
  simp only [boundedLines, hall, List.take_of_length_le hlines]
  by_cases hempty : content = []
  · subst hempty
    rfl
  · rw [if_neg]
    · rfl
    · simp [hempty, lines_ne_nil hempty]

/-- Every line that is not blank is in one node, whose text is the text of its lines. -/
structure Lossless (content : List Char) (nodes : List ConfigNode) : Prop where
  covered : ∀ i line, (sourceLines content)[i]? = some line → Spans.blank line = false →
    ∃! node, node ∈ nodes ∧ node.sourceStart ≤ i + 1 ∧ i + 1 ≤ node.sourceEnd
  text : ∀ node ∈ nodes, node.rawText = joinLines
    (((sourceLines content).drop (node.sourceStart - 1)).take
      (node.sourceEnd + 1 - node.sourceStart))

/-- The indentation reader ends on every text. Its nodes take increasing, disjoint ranges of
lines, and unless the tree is marked as cut no line is lost or changed. -/
theorem parse_lossless (sha256 : String → String) (request : StructuralParseRequest) :
    (parse sha256 request).nodes.Pairwise (fun a b => a.sourceEnd < b.sourceStart) ∧
      (∀ node ∈ (parse sha256 request).nodes,
        1 ≤ node.sourceStart ∧ node.sourceStart ≤ node.sourceEnd) ∧
      ((parse sha256 request).truncated = false →
        Lossless request.content.toList (parse sha256 request).nodes) := by
  obtain ⟨hspanned, hcarried⟩ := readLines_carried sha256
    (boundedLines request.content.toList).1 (boundedLines request.content.toList).1 0 0
    (initialBuilder request (boundedLines request.content.toList).2)
    (request.inputTruncated || (boundedLines request.content.toList).2) rfl (Nat.zero_le _)
    (Nat.zero_le _) ⟨List.Pairwise.nil, by simp [spans, initialBuilder]⟩ fun _ =>
      ⟨fun i hi => absurd hi (Nat.not_lt_zero i), by simp [spans, initialBuilder]⟩
  have hnodes : (parse sha256 request).nodes.map spanOf = spans (readLines sha256
      (boundedLines request.content.toList).1 1 0
      (initialBuilder request (boundedLines request.content.toList).2)
      (request.inputTruncated || (boundedLines request.content.toList).2)).1 := spans_build _ _
  rw [← hnodes] at hspanned hcarried
  have hincreasing := List.pairwise_map.mp hspanned.increasing
  refine ⟨hincreasing, fun node hnode => ?_, fun htruncated => ?_⟩
  · have hwithin := hspanned.within _ (List.mem_map_of_mem hnode)
    exact ⟨hwithin.1, hwithin.2.1⟩
  · obtain ⟨hcut, hall⟩ := hcarried htruncated
    simp only [Bool.or_eq_false_iff] at hcut
    rw [boundedLines_eq hcut.2] at hall
    refine ⟨fun i line hline hblank => ?_, fun node hnode => hall.text _ (List.mem_map_of_mem hnode)⟩
    obtain ⟨hlt, -⟩ := List.getElem?_eq_some_iff.mp hline
    obtain ⟨span, hspan, hcovers⟩ := hall.covered i hlt line hline hblank
    obtain ⟨node, hnode, rfl⟩ := List.mem_map.mp hspan
    refine ⟨node, ⟨hnode, hcovers⟩, fun other hother => ?_⟩
    have hdisjoint : (parse sha256 request).nodes.Pairwise fun a b =>
        (a.sourceEnd : Int) < b.sourceStart := hincreasing.imp fun hlt => Int.ofNat_lt.mpr hlt
    have hline' := hother.2
    simp only [LineSpan.covers, spanOf] at hcovers
    exact Intervals.unique_of_disjoint hdisjoint hother.1 hnode (n := i + 1) (by omega) (by omega)

end ConfigAuditor.Parsing.LosslessCli
