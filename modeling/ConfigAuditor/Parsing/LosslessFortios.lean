import ConfigAuditor.Parsing.FortiosCli
import ConfigAuditor.Parsing.Spans

/-!
# Lines the FortiOS reader loses

The reader makes one node for each line that is neither blank nor a comment, in order, until
its tree is full. A line is lost or cut without a mark when it is too long, when the tree is
full, or when it stands behind the last line read and has no line feed.
-/
namespace ConfigAuditor.Parsing.LosslessFortios

open Library IRBuilder FortiosCli Spans

/-- A line that is neither blank nor a comment. -/
def significant (line : List Char) : Bool :=
  !((Text.stripList Text.isSpace line).isEmpty ||
    (Text.stripList Text.isSpace line).head? == some '#')

def cutLine (line : List Char) : List Char := line.take maxLineCharacters

/-- The spans of the lines that get a node, from a line number on. -/
def statements : List (List Char) → Nat → List LineSpan
  | [], _ => []
  | line :: rest, number =>
    if significant (cutLine line) then
      ⟨number, number, String.ofList (cutLine line)⟩ :: statements rest (number + 1)
    else statements rest (number + 1)

section Loop

variable {sha256 : String → String}

theorem readTokens_span (tokens : TokenizedStatement) (raw : List Char) (number : Nat)
    (state : State) :
    NodeInput.span (readTokens tokens raw number state).2 =
      ⟨number, number, String.ofList raw⟩ := by
  unfold readTokens statement
  split
  · rfl
  · split_ifs <;> rfl

/-- The tree holds the statements in their order, as many as it has room for. -/
theorem spans_readLines (lines : List (List Char)) (number : Nat) (state : State) (b : IRBuilder)
    (hroom : b.nodes.length ≤ b.maxNodes) :
    spans (readLines sha256 lines number state b) =
      (spans b ++ statements (lines.map (Text.rstripChars ['\r', '\n'])) number).take
        b.maxNodes := by
  induction lines generalizing number state b with
  | nil =>
    have hlength := length_spans b
    rw [readLines, List.map_nil, statements, List.append_nil, List.take_of_length_le (by omega)]
  | cons line rest ih =>
    rw [List.map_cons, statements]
    by_cases hline : significant (cutLine (Text.rstripChars ['\r', '\n'] line))
    · rw [if_pos hline]
      simp only [significant, Bool.not_eq_true'] at hline
      rw [readLines, if_neg (by simpa [cutLine] using hline)]
      have hlength := length_spans b
      dsimp only
      cases hlimit : b.nodeLimitReached with
      | true =>
        simp only [nodeLimitReached, decide_eq_true_eq] at hlimit
        have hfull : ∀ rest : List LineSpan, (spans b ++ rest).take b.maxNodes = spans b := by
          intro rest
          rw [List.take_append_of_le_length (by omega), List.take_of_length_le (by omega)]
        have hsame := spans_addNode_full sha256 (b := b) (by simpa [nodeLimitReached] using hlimit)
        have hnodes := length_spans (b.addNode sha256 (readTokens (tokenizeStatement
          (Text.stripList Text.isSpace (cutLine (Text.rstripChars ['\r', '\n'] line))))
          (cutLine (Text.rstripChars ['\r', '\n'] line)) number state).2)
        rw [hsame] at hnodes
        rw [hfull]
        refine (ih (number + 1) _ _ ?_).trans ?_
        · rw [maxNodes_addNode]
          exact hnodes ▸ hlength ▸ hroom
        · rw [maxNodes_addNode, hsame, hfull]
      | false =>
        have hspan := spans_addNode sha256 hlimit (readTokens (tokenizeStatement
          (Text.stripList Text.isSpace (cutLine (Text.rstripChars ['\r', '\n'] line))))
          (cutLine (Text.rstripChars ['\r', '\n'] line)) number state).2
        have hnodes := congrArg List.length hspan
        simp only [length_spans, List.length_append, List.length_singleton] at hnodes
        simp only [nodeLimitReached, decide_eq_false_iff_not, Nat.not_le] at hlimit
        refine (ih (number + 1) _ _ ?_).trans ?_
        · rw [maxNodes_addNode]
          exact hnodes.trans_le hlimit
        · rw [maxNodes_addNode]
          refine congrArg (List.take b.maxNodes) ?_
          refine (congrArg (· ++ _) hspan).trans ?_
          rw [readTokens_span, List.append_assoc]
          rfl
    · rw [if_neg hline]
      simp only [significant, Bool.not_eq_true', Bool.not_eq_false] at hline
      rw [readLines, if_pos (by simpa [cutLine] using hline)]
      exact ih (number + 1) state b hroom

end Loop

theorem mem_statements {lines : List (List Char)} {number : Nat} {span : LineSpan} :
    span ∈ statements lines number ↔ ∃ i line, lines[i]? = some line ∧
      significant (cutLine line) = true ∧
      span = ⟨number + i, number + i, String.ofList (cutLine line)⟩ := by
  induction lines generalizing number with
  | nil => simp [statements]
  | cons line rest ih =>
    have hrest : span ∈ statements rest (number + 1) ↔ ∃ i line', (line :: rest)[i + 1]? =
        some line' ∧ significant (cutLine line') = true ∧
        span = ⟨number + (i + 1), number + (i + 1), String.ofList (cutLine line')⟩ := by
      rw [ih]
      simp only [List.getElem?_cons_succ, Nat.add_assoc, Nat.add_comm 1]
    rw [statements]
    constructor
    · intro h
      split at h
      · rename_i hline
        rcases List.mem_cons.mp h with rfl | h
        · exact ⟨0, line, rfl, hline, rfl⟩
        · obtain ⟨i, hi⟩ := hrest.mp h
          exact ⟨i + 1, hi⟩
      · obtain ⟨i, hi⟩ := hrest.mp h
        exact ⟨i + 1, hi⟩
    · rintro ⟨i, line', hget, hline, rfl⟩
      cases i with
      | zero =>
        obtain rfl : line = line' := by simpa using hget
        rw [if_pos hline]
        exact List.mem_cons_self
      | succ i =>
        have hmem := hrest.mpr ⟨i, line', hget, hline, rfl⟩
        split
        · exact List.mem_cons_of_mem _ hmem
        · exact hmem

theorem statements_increasing (lines : List (List Char)) (number : Nat) :
    (statements lines number).Pairwise fun s s' => s.first < s'.first := by
  induction lines generalizing number with
  | nil => exact List.Pairwise.nil
  | cons line rest ih =>
    rw [statements]
    split
    · refine List.pairwise_cons.mpr ⟨fun span hspan => ?_, ih (number + 1)⟩
      obtain ⟨i, _, -, -, rfl⟩ := mem_statements.mp hspan
      simp only
      omega
    · exact ih (number + 1)

theorem length_statements (lines : List (List Char)) (number : Nat) :
    (statements lines number).length =
      (lines.filter fun line => significant (cutLine line)).length := by
  induction lines generalizing number with
  | nil => rfl
  | cons line rest ih =>
    rw [statements, List.filter_cons]
    split
    · rw [List.length_cons, List.length_cons, ih]
    · exact ih (number + 1)

/-- The first character that is no white space decides. -/
theorem significant_iff {line : List Char} :
    significant line = true ↔ ∃ c, line.find? (!Text.isSpace ·) = some c ∧ c ≠ '#' := by
  rw [significant, Bool.not_eq_true', Bool.or_eq_false_iff, ← Text.head?_stripList]
  cases Text.stripList Text.isSpace line with
  | nil => simp
  | cons c rest => simp

/-- What is significant of a cut line is significant of the line. -/
theorem significant_of_cut {line : List Char} (h : significant (cutLine line) = true) :
    significant line = true := by
  obtain ⟨c, hc, hne⟩ := significant_iff.mp h
  exact significant_iff.mpr ⟨c, (List.take_prefix _ _).find?_eq_some hc, hne⟩

/-- The reader marks its tree as cut: the text was cut before it, is longer than the reader
reads, or has more line feeds than it reads lines. -/
def MarkedCut (request : StructuralParseRequest) : Prop :=
  request.inputTruncated = true ∨ maxInputCharacters < request.content.toList.length ∨
    maxSourceLines < request.content.toList.count '\n'

/-- The lines fit the bounds of the reader. -/
structure WithinBounds (lines : List (List Char)) : Prop where
  lengths : ∀ line ∈ lines, significant line = true → line.length ≤ maxLineCharacters
  count : (lines.filter significant).length ≤ FortiosCli.maxNodes
  last : ∀ line ∈ lines.drop maxSourceLines, significant line = false

/-- Every line that is neither blank nor a comment is the text of one node. -/
def Represented (lines : List (List Char)) (nodes : List ConfigNode) : Prop :=
  ∀ i line, lines[i]? = some line → significant line = true →
    ∃ node ∈ nodes, node.rawText = String.ofList line ∧
      (node.sourceStart ≤ i + 1 ∧ i + 1 ≤ node.sourceEnd) ∧
      ∀ other ∈ nodes, other.sourceStart ≤ i + 1 → i + 1 ≤ other.sourceEnd → other = node

theorem truncated_iff (sha256 : String → String) (request : StructuralParseRequest) :
    (parse sha256 request).truncated = true ↔ MarkedCut request := by
  have hlines := Text.count_le_length_lines (request.content.toList.take maxInputCharacters)
  simp only [parse, build, Bool.or_eq_true, decide_eq_true_eq, MarkedCut, or_assoc]
  by_cases hlong : maxInputCharacters < request.content.toList.length
  · have hcut : (request.content.toList.take maxInputCharacters).length <
        request.content.toList.length := by
      rw [List.length_take]
      omega
    simp only [hlong, hcut, true_or, or_true]
  · have hall : request.content.toList.take maxInputCharacters = request.content.toList :=
      List.take_of_length_le (by omega)
    rw [hall] at hlines ⊢
    rw [List.length_take]
    simp only [hlong, lt_irrefl, false_or]
    refine or_congr_right ?_
    omega

section Run

variable {sha256 : String → String} {request : StructuralParseRequest}

/-- Of an uncut text the reader reads the first lines. -/
theorem spans_parse (h : ¬maxInputCharacters < request.content.toList.length) :
    (parse sha256 request).nodes.map spanOf =
      (statements ((sourceLines request.content.toList).take maxSourceLines) 1).take
        FortiosCli.maxNodes := by
  have hall : request.content.toList.take maxInputCharacters = request.content.toList :=
    List.take_of_length_le (by omega)
  have hspans := @spans_readLines sha256
    ((Text.lines request.content.toList).take maxSourceLines) 1 {}
    { readerId, source := request.source, maxDepth, maxNodes := FortiosCli.maxNodes }
    (Nat.zero_le _)
  rw [List.map_take] at hspans
  simp only [parse, hall]
  rw [spans_build, hspans]
  rfl

theorem read_line {lines : List (List Char)} {i : Nat} {line : List Char}
    (h : (lines.take maxSourceLines)[i]? = some line) : i < maxSourceLines ∧ lines[i]? = some line := by
  rw [List.getElem?_take] at h
  split at h
  · rename_i hlt
    exact ⟨hlt, h⟩
  · cases h

/-- A node of an uncut text is the statement of its line. -/
theorem node_statement (h : ¬maxInputCharacters < request.content.toList.length)
    {node : ConfigNode} (hnode : node ∈ (parse sha256 request).nodes) :
    ∃ i line, (sourceLines request.content.toList)[i]? = some line ∧ i < maxSourceLines ∧
      node.sourceStart = i + 1 ∧ node.sourceEnd = i + 1 ∧
      node.rawText = String.ofList (cutLine line) := by
  have hmem := List.mem_map_of_mem (f := spanOf) hnode
  rw [spans_parse h] at hmem
  obtain ⟨i, line, hget, -, hspan⟩ := mem_statements.mp (List.mem_of_mem_take hmem)
  obtain ⟨hlt, hline⟩ := read_line hget
  simp only [spanOf, LineSpan.mk.injEq] at hspan
  exact ⟨i, line, hline, hlt, by omega, by omega, hspan.2.2⟩

theorem nodes_increasing (h : ¬maxInputCharacters < request.content.toList.length) :
    (parse sha256 request).nodes.Pairwise fun a b => a.sourceStart < b.sourceStart := by
  have hincreasing := (statements_increasing
    ((sourceLines request.content.toList).take maxSourceLines) 1).sublist
      (List.take_sublist FortiosCli.maxNodes _)
  rw [← spans_parse h, List.pairwise_map] at hincreasing
  exact hincreasing

/-- A line that is represented is not longer than the reader reads. -/
theorem represented_length (h : ¬maxInputCharacters < request.content.toList.length)
    (hrepresented : Represented (sourceLines request.content.toList)
      (parse sha256 request).nodes) :
    ∀ line ∈ sourceLines request.content.toList, significant line = true →
      line.length ≤ maxLineCharacters := by
  intro line hline hsig
  obtain ⟨i, hi⟩ := List.mem_iff_getElem?.mp hline
  obtain ⟨node, hnode, htext, -⟩ := hrepresented i line hi hsig
  obtain ⟨_, source, -, -, -, -, hraw⟩ := node_statement h hnode
  rw [hraw] at htext
  rw [← String.ofList_inj.mp htext, cutLine, List.length_take]
  exact Nat.min_le_left _ _

/-- Within the bounds the statements that are read are the lines that are significant. -/
theorem length_statements_eq {lines : List (List Char)}
    (hlengths : ∀ line ∈ lines, significant line = true → line.length ≤ maxLineCharacters)
    (hlast : ∀ line ∈ lines.drop maxSourceLines, significant line = false) :
    (statements (lines.take maxSourceLines) 1).length = (lines.filter significant).length := by
  have hsame : (lines.take maxSourceLines).filter (fun line => significant (cutLine line)) =
      (lines.take maxSourceLines).filter significant := by
    refine List.filter_congr fun line hline => ?_
    cases hsig : significant line with
    | true =>
      rw [cutLine, List.take_of_length_le (hlengths line (List.mem_of_mem_take hline) hsig)]
      exact hsig
    | false =>
      by_contra hcut
      rw [significant_of_cut (by simpa using hcut)] at hsig
      cases hsig
  have hnone : (lines.drop maxSourceLines).filter significant = [] :=
    List.filter_eq_nil_iff.mpr fun line hline => by simp [hlast line hline]
  conv_rhs => rw [← List.take_append_drop maxSourceLines lines, List.filter_append, hnone,
    List.append_nil]
  rw [length_statements, hsame]

end Run

/-- Every line that is neither blank nor a comment is represented, or the tree is marked as cut,
exactly when the lines fit the bounds of the reader, or the text is one the reader marks. -/
theorem parse_represents_iff (sha256 : String → String) (request : StructuralParseRequest) :
    ((parse sha256 request).truncated = true ∨
        Represented (sourceLines request.content.toList) (parse sha256 request).nodes) ↔
      MarkedCut request ∨ WithinBounds (sourceLines request.content.toList) := by
  rw [truncated_iff]
  by_cases hmarked : MarkedCut request
  · simp only [hmarked, true_or]
  simp only [hmarked, false_or]
  have hshort : ¬maxInputCharacters < request.content.toList.length := fun hlong =>
    hmarked (.inr (.inl hlong))
  constructor
  · intro hrepresented
    have hlengths := represented_length hshort hrepresented
    have hlast : ∀ line ∈ (sourceLines request.content.toList).drop maxSourceLines,
        significant line = false := by
      intro line hline
      by_contra hsig
      obtain ⟨i, hi⟩ := List.mem_iff_getElem?.mp hline
      rw [List.getElem?_drop] at hi
      obtain ⟨node, hnode, -, hcovers, -⟩ := hrepresented _ line hi (by simpa using hsig)
      obtain ⟨j, -, -, hj, hstart, hend, -⟩ := node_statement hshort hnode
      omega
    refine ⟨hlengths, ?_, hlast⟩
    rw [← length_statements_eq hlengths hlast]
    by_contra hmore
    have hspans := @spans_parse sha256 _ hshort
    have hincreasing := statements_increasing
      ((sourceLines request.content.toList).take maxSourceLines) 1
    rw [← List.take_append_drop FortiosCli.maxNodes (statements _ 1), ← hspans,
      List.pairwise_append] at hincreasing
    cases hdrop : (statements ((sourceLines request.content.toList).take maxSourceLines) 1).drop
        FortiosCli.maxNodes with
    | nil => exact hmore (List.drop_eq_nil_iff.mp hdrop)
    | cons span rest =>
      have hmem : span ∈ statements _ 1 := List.mem_of_mem_drop (hdrop ▸ List.mem_cons_self)
      obtain ⟨i, line, hget, hsig, rfl⟩ := mem_statements.mp hmem
      obtain ⟨-, hline⟩ := read_line hget
      obtain ⟨node, hnode, -, hcovers, -⟩ :=
        hrepresented i line hline (significant_of_cut hsig)
      obtain ⟨j, -, -, -, hstart, hend, -⟩ := node_statement hshort hnode
      have hbefore := hincreasing.2.2 (spanOf node) (List.mem_map_of_mem hnode) _
        (hdrop ▸ List.mem_cons_self)
      simp only [spanOf] at hbefore
      omega
  · intro hbounds i line hi hsig
    have hread : i < maxSourceLines := by
      by_contra hge
      have hdropped : ((sourceLines request.content.toList).drop maxSourceLines)[i -
          maxSourceLines]? = some line := by
        rw [List.getElem?_drop, Nat.add_sub_cancel' (by omega)]
        exact hi
      rw [hbounds.last line (List.mem_of_getElem? hdropped)] at hsig
      cases hsig
    have hcut : cutLine line = line :=
      List.take_of_length_le (hbounds.lengths line (List.mem_of_getElem? hi) hsig)
    have hmem : (⟨1 + i, 1 + i, String.ofList line⟩ : LineSpan) ∈
        (parse sha256 request).nodes.map spanOf := by
      rw [spans_parse hshort, List.take_of_length_le
        ((length_statements_eq hbounds.lengths hbounds.last).trans_le hbounds.count)]
      refine mem_statements.mpr ⟨i, line, ?_, by rw [hcut, hsig], by rw [hcut]⟩
      rw [List.getElem?_take_of_lt hread, hi]
    obtain ⟨node, hnode, hspan⟩ := List.mem_map.mp hmem
    simp only [spanOf, LineSpan.mk.injEq] at hspan
    refine ⟨node, hnode, hspan.2.2, by omega, fun other hother hstart hend => ?_⟩
    obtain ⟨j, -, -, -, hfirst, hlast, -⟩ := node_statement hshort hother
    have hunique : ((parse sha256 request).nodes.map (·.sourceStart)).Nodup :=
      List.pairwise_map.mpr ((nodes_increasing hshort).imp fun hlt => hlt.ne)
    exact List.inj_on_of_nodup_map hunique hother hnode (by omega)

theorem sourceLines_word {c : Char} (hc : c ≠ '\n') (hc' : c ≠ '\r') (n : Nat) :
    sourceLines (List.replicate (n + 1) c) = [List.replicate (n + 1) c] := by
  have hlines : Text.lines (List.replicate (n + 1) c) = [List.replicate (n + 1) c] := by
    induction n with
    | zero => simp [Text.lines, hc]
    | succ n ih =>
      rw [List.replicate_succ, Text.lines, ih]
      simp [hc]
  have hstrip : Text.rstripChars ['\r', '\n'] (List.replicate (n + 1) c) =
      List.replicate (n + 1) c := by
    rw [Text.rstripChars, List.reverse_replicate, List.replicate_succ, List.dropWhile_cons_of_neg,
      ← List.replicate_succ, List.reverse_replicate]
    simp [hc, hc']
  rw [sourceLines, hlines, List.map_singleton, hstrip]

/-- A line that is one character longer than the reader reads. -/
def longRequest : StructuralParseRequest :=
  { content := String.ofList (List.replicate (maxLineCharacters + 1) 'a'),
    source := { artifactId := UUID.ofNat 1, snapshotId := none, sourceLabel := "fortigate.conf" } }

/-- The end of the line is lost, and the tree is not marked as cut. -/
theorem long_line_lost :
    ¬((parse (tabulated []) longRequest).truncated = true ∨
      Represented (sourceLines longRequest.content.toList)
        (parse (tabulated []) longRequest).nodes) := by
  have hcontent : longRequest.content.toList = List.replicate (maxLineCharacters + 1) 'a' :=
    String.toList_ofList
  have hshort : ¬maxInputCharacters < longRequest.content.toList.length := by
    rw [hcontent, List.length_replicate]
    decide
  rintro (hcut | hrepresented)
  · rw [truncated_iff] at hcut
    rcases hcut with hinput | hlong | hlines
    · cases hinput
    · exact hshort hlong
    · rw [hcontent, List.count_replicate, if_neg (by decide)] at hlines
      exact absurd hlines (by decide)
  · have hlength := represented_length hshort hrepresented
      (List.replicate (maxLineCharacters + 1) 'a') (by
        rw [hcontent, sourceLines_word (by decide) (by decide)]
        exact List.mem_singleton_self _) (by
        rw [significant_iff, List.replicate_succ]
        exact ⟨'a', List.find?_cons_of_pos (by decide), by decide⟩)
    rw [List.length_replicate] at hlength
    omega

end ConfigAuditor.Parsing.LosslessFortios
