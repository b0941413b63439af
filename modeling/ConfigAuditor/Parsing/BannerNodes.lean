import ConfigAuditor.Parsing.LosslessCli

/-!
# The banner nodes of the indentation reader

Which lines lie in an opaque banner node, read off the lines: a banner runs up to the line with
its delimiter, and a certificate chain up to its `quit`.
-/
namespace ConfigAuditor.Parsing.BannerNodes

open Library IRBuilder IndentationCli Spans LosslessCli

/-- A block of lines the reader does not read as statements. -/
inductive OpenBlock where
  | banner (delimiter : Option (List Char))
  | certificate

def OpenBlock.isBanner : OpenBlock → Bool
  | banner _ => true
  | certificate => false

def OpenBlock.ends : OpenBlock → List Char → Bool
  | banner none, _ => false
  | banner (some delimiter), line => Text.occursIn delimiter line
  | certificate, line =>
    Text.lower (String.ofList (Text.stripList Text.isSpace line)) == "quit"

/-- What a banner line leaves open: nothing when its delimiter comes twice. -/
def openedBanner (stripped : List Char) : Option OpenBlock :=
  match bannerDelimiter stripped with
  | (none, _) => some (.banner none)
  | (some delimiter, remainder) =>
    if Text.occursIn delimiter remainder then none else some (.banner (some delimiter))

/-- Which lines belong to banners. -/
def bannerMarks : Option OpenBlock → List (List Char) → List Bool
  | _, [] => []
  | none, line :: rest =>
    let stripped := Text.stripList Text.isSpace line
    if stripped.isEmpty || stripped.head? == some '!' then false :: bannerMarks none rest
    else if isBanner stripped then true :: bannerMarks (openedBanner stripped) rest
    else if isCertificateChain stripped then false :: bannerMarks (some .certificate) rest
    else false :: bannerMarks none rest
  | some block, line :: rest =>
    block.isBanner :: bannerMarks (if block.ends line then none else some block) rest

@[simp] theorem length_bannerMarks (state : Option OpenBlock) (lines : List (List Char)) :
    (bannerMarks state lines).length = lines.length := by
  induction lines generalizing state with
  | nil => simp [bannerMarks]
  | cons line rest ih =>
    cases state with
    | none =>
      simp only [bannerMarks]
      split
      · simp [ih]
      · split
        · simp [ih]
        · split
          · simp [ih]
          · simp [ih]
    | some block => simp [bannerMarks, ih]

/-- A block takes the lines up to the first that ends it. -/
theorem bannerMarks_block (block : OpenBlock) (lines : List (List Char)) :
    bannerMarks (some block) lines = match lines.findIdx? block.ends with
      | some i => List.replicate (i + 1) block.isBanner ++ bannerMarks none (lines.drop (i + 1))
      | none => List.replicate lines.length block.isBanner := by
  induction lines with
  | nil => rfl
  | cons line rest ih =>
    rw [bannerMarks, List.findIdx?_cons]
    cases hends : block.ends line with
    | true => simp
    | false =>
      simp only [Bool.false_eq_true, if_false, ih]
      cases rest.findIdx? block.ends with
      | none => simp [List.replicate_succ]
      | some i => simp [List.replicate_succ]

/-- An opaque node made of a banner. -/
def bannerNode (node : ConfigNode) : Bool :=
  node.kind == .opaqueBlock && node.command == some "banner"

/-- The lines of the banner nodes of a builder. -/
def bannerSpans (b : IRBuilder) : List LineSpan :=
  (b.nodes.filter (bannerNode ·.node)).map (spanOf ·.node)

/-- Marks from a line on, and the spans of banners from that line on, tell the same. -/
structure Marked (number : Nat) (marks : List Bool) (spans : List LineSpan) : Prop where
  covered : ∀ i, marks[i]? = some true ↔ ∃ s ∈ spans, s.covers (number + i)
  behind : ∀ s ∈ spans, number ≤ s.first

theorem Marked.pass {number count : Nat} {marks : List Bool} {spans : List LineSpan}
    (h : Marked (number + count) marks spans) :
    Marked number (List.replicate count false ++ marks) spans := by
  refine ⟨fun i => ?_, fun s hs => ?_⟩
  · by_cases hi : i < count
    · rw [List.getElem?_append_left (by simpa using hi), List.getElem?_replicate, if_pos hi]
      constructor
      · intro hmark
        cases hmark
      · rintro ⟨s, hs, hfirst, -⟩
        have hbehind := h.behind s hs
        omega
    · have hshift : number + count + (i - count) = number + i := by omega
      rw [List.getElem?_append_right (by simpa using hi), List.length_replicate, h.covered, hshift]
  · have hbehind := h.behind s hs
    omega

theorem Marked.block {number count : Nat} {marks : List Bool} {spans : List LineSpan}
    (h : Marked (number + (count + 1)) marks spans) (rawText : String) :
    Marked number (List.replicate (count + 1) true ++ marks)
      (⟨number, number + count, rawText⟩ :: spans) := by
  refine ⟨fun i => ?_, fun s hs => ?_⟩
  · by_cases hi : i < count + 1
    · rw [List.getElem?_append_left (by simpa using hi), List.getElem?_replicate, if_pos hi]
      refine ⟨fun _ => ⟨_, List.mem_cons_self, ?_⟩, fun _ => rfl⟩
      simp only [LineSpan.covers]
      omega
    · have hshift : number + (count + 1) + (i - (count + 1)) = number + i := by omega
      rw [List.getElem?_append_right (by simpa using hi), List.length_replicate, h.covered, hshift]
      constructor
      · rintro ⟨s, hs, hcovers⟩
        exact ⟨s, List.mem_cons_of_mem _ hs, hcovers⟩
      · rintro ⟨s, hs, hcovers⟩
        rcases List.mem_cons.mp hs with rfl | hs
        · simp only [LineSpan.covers] at hcovers
          omega
        · exact ⟨s, hs, hcovers⟩
  · rcases List.mem_cons.mp hs with rfl | hs
    · exact Nat.le_refl _
    · have hbehind := h.behind s hs
      omega

section Loop

variable {sha256 : String → String}

/-- A new node comes last, and the others stay the banners they are. -/
theorem bannerSpans_addNode {b : IRBuilder} (h : b.nodeLimitReached = false) (input : NodeInput) :
    bannerSpans (b.addNode sha256 input) = bannerSpans b ++
      if input.kind == .opaqueBlock && input.command == some "banner" then [NodeInput.span input]
      else [] := by
  obtain ⟨grow, hgrow, hsame⟩ := IRBuilder.grown_eq b.nodes (b.place input).stack.head?
    (b.draft sha256 input (b.place input)).node.nodeId
  have hold : ((b.nodes.map grow).filter (bannerNode ·.node)).map (spanOf ·.node) =
      bannerSpans b := by
    rw [bannerSpans, List.filter_map, List.map_map]
    have hkind : (fun d : NodeDraft => bannerNode d.node) ∘ grow = fun d => bannerNode d.node := by
      funext d
      obtain ⟨children, hchildren⟩ := hsame d
      rw [Function.comp_apply, hchildren]
      rfl
    have hspan : (fun d : NodeDraft => spanOf d.node) ∘ grow = fun d => spanOf d.node := by
      funext d
      obtain ⟨children, hchildren⟩ := hsame d
      rw [Function.comp_apply, hchildren]
      rfl
    rw [hkind, hspan]
  have hnew : bannerNode (b.draft sha256 input (b.place input)).node =
      (input.kind == .opaqueBlock && input.command == some "banner") := rfl
  rw [bannerSpans, IRBuilder.addNode, if_neg (by simp [h])]
  simp only [List.filter_append, List.map_append]
  rw [hgrow, hold, List.filter_singleton, hnew]
  cases input.kind == .opaqueBlock && input.command == some "banner" <;> rfl

/-- A certificate chain is no banner command. -/
theorem command_of_certificateChain {line : List Char}
    (h : isCertificateChain (Text.stripList Text.isSpace line) = true) :
    ((tokenizeStatement line).command == some "banner") = false := by
  obtain ⟨first, rest, hwords, hfirst⟩ : ∃ first rest,
      Text.words (Text.stripList Text.isSpace line) = first :: rest ∧
        first.map Text.foldCase = "crypto".toList := by
    rw [isCertificateChain, leadsWith, beq_iff_eq] at h
    cases hwords : Text.words (Text.stripList Text.isSpace line) with
    | nil => simp [hwords] at h
    | cons first rest =>
      rw [hwords] at h
      exact ⟨first, rest, rfl, (List.cons.inj h).1⟩
  obtain ⟨c, cs, rfl⟩ : ∃ c cs, first = c :: cs := by
    cases first with
    | nil => cases hfirst
    | cons c cs => exact ⟨c, cs, rfl⟩
  have hc : Text.lowerChar c = ['c'] := by
    have hfold : Text.foldCase c = 'c' := (List.cons.inj hfirst).1
    unfold Text.foldCase at hfold
    unfold Text.lowerChar
    split at hfold
    · rename_i hupper
      rw [if_pos hupper, hfold]
    · rename_i hupper
      split at hfold
      · cases hfold
      · rename_i hkelvin
        split at hfold
        · cases hfold
        · split at hfold
          · cases hfold
          · subst hfold
            decide
  have hlower : (Text.lower (String.ofList (c :: cs))).toList.head? = some 'c' := by
    simp [Text.lower, hc]
  have hne : ∀ text : String, text.toList.head? ≠ some 'c' →
      Text.lower (String.ofList (c :: cs)) ≠ text := by
    rintro _ htext rfl
    exact htext hlower
  rw [tokenizeStatement, tokens, hwords, List.map_cons]
  simp only
  rw [if_neg (hne "no" (by decide))]
  simpa using hne "banner" (by decide)

/-- What the reader does at a line, and the marks of the lines it takes. -/
structure LineMarked (line : List Char) (rest : List (List Char)) (number : Nat) (b : IRBuilder)
    (step : LineStep) : Prop where
  kept : step.truncated = false → ∃ mark count rawText,
    bannerSpans step.builder = bannerSpans b ++
      (if mark then [⟨number, number + count, rawText⟩] else []) ∧
    ((step.following = some count ∧ bannerMarks none (line :: rest) =
        List.replicate (count + 1) mark ++ bannerMarks none (rest.drop count)) ∨
      (step.following = none ∧ bannerMarks none (line :: rest) =
        List.replicate (count + 1) mark))

/-- A scan that is not cut ends at the first line that ends the block. -/
theorem scanBlock_findIdx? {ends : List Char → Bool} {first : List Char} {rest : List (List Char)}
    (hcut : (scanBlock ends first rest).truncated = false) :
    ((scanBlock ends first rest).complete = true ∧
      ∃ i, rest.findIdx? ends = some i ∧ (scanBlock ends first rest).following = i + 1) ∨
    ((scanBlock ends first rest).complete = false ∧
      rest.findIdx? ends = none ∧ (scanBlock ends first rest).following = rest.length) := by
  simp only [scanBlock] at hcut ⊢
  cases hend : (rest.take (maxOpaqueBlockLines - 1)).findIdx? ends with
  | some i =>
    refine .inl ⟨rfl, i, ?_, rfl⟩
    obtain ⟨hlt, hi, hbefore⟩ := List.findIdx?_eq_some_iff_getElem.mp hend
    rw [List.length_take] at hlt
    refine List.findIdx?_eq_some_iff_getElem.mpr ⟨by omega, ?_, fun j hj => ?_⟩
    · rw [List.getElem_take] at hi
      exact hi
    · have hother := hbefore j hj
      rw [List.getElem_take] at hother
      exact hother
  | none =>
    rw [hend] at hcut
    simp only [Bool.or_eq_false_iff, decide_eq_false_iff_not, List.length_take] at hcut
    have hall : rest.take (maxOpaqueBlockLines - 1) = rest :=
      List.take_of_length_le (by omega)
    rw [hall] at hend
    exact .inr ⟨rfl, hend, by rw [hall]⟩

/-- A block that is left open, from its first line on. -/
theorem openBlock_marked {line : List Char} {rest : List (List Char)} {number : Nat}
    {b : IRBuilder} {truncated : Bool} (block : OpenBlock)
    {unterminated limited : ParseDiagnostic} {input : NodeInput} (hroom : b.nodeLimitReached = false)
    (hkind : (input.kind == .opaqueBlock && input.command == some "banner") = block.isBanner)
    (hspan : NodeInput.span input = ⟨number, number + (scanBlock block.ends line rest).following,
      String.ofList (scanBlock block.ends line rest).rawText⟩)
    (hmarks : bannerMarks none (line :: rest) = block.isBanner :: bannerMarks (some block) rest) :
    LineMarked line rest number b (finishBlock (scanBlock block.ends line rest) unterminated
      limited number (b.addNode sha256 input) truncated) := by
  constructor
  intro hcut
  have hspans : bannerSpans (finishBlock (scanBlock block.ends line rest) unterminated limited
      number (b.addNode sha256 input) truncated).builder = bannerSpans b ++
        if block.isBanner then [⟨number, number + (scanBlock block.ends line rest).following,
          String.ofList (scanBlock block.ends line rest).rawText⟩] else [] := by
    rw [← hspan, ← hkind, ← bannerSpans_addNode hroom]
    unfold finishBlock
    cases (scanBlock block.ends line rest).complete <;>
      cases (scanBlock block.ends line rest).truncated <;> rfl
  simp only [finishBlock, Bool.or_eq_false_iff] at hcut
  refine ⟨block.isBanner, _, _, hspans, ?_⟩
  rw [hmarks, bannerMarks_block]
  rcases scanBlock_findIdx? hcut.2 with ⟨hcomplete, i, hi, hfollowing⟩ | ⟨hcomplete, hi, hfollowing⟩
  · refine .inl ⟨by simp [finishBlock, hcomplete], ?_⟩
    rw [hi, hfollowing]
    rfl
  · refine .inr ⟨by simp [finishBlock, hcomplete], ?_⟩
    rw [hi, hfollowing]
    rfl

/-- A line with a node of its own that is no banner. -/
theorem ownNode_marked {line : List Char} {rest : List (List Char)} {number : Nat}
    {b b' : IRBuilder} {truncated : Bool} (hspans : bannerSpans b' = bannerSpans b)
    (hmarks : bannerMarks none (line :: rest) = false :: bannerMarks none rest) :
    LineMarked line rest number b { builder := b', truncated, following := some 0 } :=
  ⟨fun _ => ⟨false, 0, "", by simp [hspans], .inl ⟨rfl, by simpa using hmarks⟩⟩⟩

theorem readLine_marked {b : IRBuilder} (hroom : b.nodeLimitReached = false) (line : List Char)
    (rest : List (List Char)) (number : Nat) (truncated : Bool) :
    LineMarked line rest number b (readLine sha256 line rest number b truncated) := by
  have hnoted : ∀ (p : Prop) [Decidable p] (d : ParseDiagnostic) (b : IRBuilder),
      bannerSpans (if p then b.addDiagnostic d else b) = bannerSpans b ∧
        (if p then b.addDiagnostic d else b).nodeLimitReached = b.nodeLimitReached := by
    intro p _ d b
    split <;> exact ⟨rfl, rfl⟩
  unfold readLine
  rw [if_neg (by simp [hroom])]
  dsimp only
  by_cases hempty : (Text.stripList Text.isSpace line).isEmpty = true
  · rw [if_pos hempty]
    exact ownNode_marked rfl (by simp [bannerMarks, hempty])
  rw [if_neg hempty]
  by_cases hcomment : (Text.stripList Text.isSpace line).head? = some '!'
  · rw [if_pos hcomment]
    refine ownNode_marked ?_ (by simp [bannerMarks, hcomment])
    obtain ⟨hsame, -⟩ := hnoted (lineCut line = true) (lineLimit number)
      (b.resetContext.addNode sha256 (commentInput (Text.stripList Text.isSpace line) line number))
    rw [hsame, bannerSpans_addNode (b := b.resetContext) hroom]
    simp [commentInput, bannerSpans, IRBuilder.resetContext]
  rw [if_neg hcomment]
  by_cases hbanner : isBanner (Text.stripList Text.isSpace line) = true
  · rw [if_pos hbanner]
    have hmarks : bannerMarks none (line :: rest) =
        true :: bannerMarks (openedBanner (Text.stripList Text.isSpace line)) rest := by
      simp [bannerMarks, hempty, hcomment, hbanner]
    unfold readBanner scanBanner
    unfold openedBanner at hmarks
    cases hdelimiter : bannerDelimiter (Text.stripList Text.isSpace line) with
    | mk delimiter remainder =>
      rw [hdelimiter] at hmarks
      cases delimiter with
      | none => exact openBlock_marked (.banner none) hroom rfl rfl hmarks
      | some delimiter =>
        by_cases hagain : Text.occursIn delimiter remainder = true
        · simp only [hagain, if_true] at hmarks ⊢
          constructor
          intro hcut
          refine ⟨true, 0, String.ofList (boundedLine line), ?_, .inl ⟨rfl, hmarks⟩⟩
          have hadded := @bannerSpans_addNode sha256 _ hroom
          simp only [finishBlock, if_true] at hcut ⊢
          split
          · exact hadded _
          · exact hadded _
        · simp only [hagain, if_false, Bool.false_eq_true] at hmarks ⊢
          exact openBlock_marked (.banner (some delimiter)) hroom rfl rfl hmarks
  rw [if_neg hbanner]
  by_cases hcertificate : isCertificateChain (Text.stripList Text.isSpace line) = true
  · rw [if_pos hcertificate]
    have hmarks : bannerMarks none (line :: rest) =
        false :: bannerMarks (some .certificate) rest := by
      simp [bannerMarks, hempty, hcomment, hbanner, hcertificate]
    have hscan : scanCertificateBlock line rest =
        scanBlock OpenBlock.certificate.ends line rest := rfl
    unfold readCertificate
    rw [hscan]
    refine openBlock_marked .certificate hroom ?_ rfl hmarks
    simp [command_of_certificateChain hcertificate, OpenBlock.isBanner]
  · rw [if_neg hcertificate]
    refine ownNode_marked ?_ (by simp [bannerMarks, hempty, hcomment, hbanner, hcertificate])
    obtain ⟨hspans, hlimit⟩ := hnoted ((measureIndentation line).mixed = true)
      (mixedIndentation number) b
    obtain ⟨hspans', hlimit'⟩ := hnoted (lineCut line = true) (lineLimit number)
      (if (measureIndentation line).mixed = true then b.addDiagnostic (mixedIndentation number)
        else b)
    rw [bannerSpans_addNode (by rw [hlimit', hlimit, hroom]), hspans', hspans]
    simp

theorem readLines_skip (lines : List (List Char)) (number skip : Nat) (b : IRBuilder)
    (truncated : Bool) : readLines sha256 lines number skip b truncated =
      readLines sha256 (lines.drop skip) (number + skip) 0 b truncated := by
  induction lines generalizing number skip with
  | nil => simp [readLines]
  | cons line rest ih =>
    cases skip with
    | zero => rfl
    | succ skip =>
      have hshift : number + (skip + 1) = number + 1 + skip := by omega
      rw [readLines, ih, List.drop_succ_cons, hshift]

/-- A run that ends uncut was never cut. -/
theorem truncated_of_readLines (lines : List (List Char)) (number skip : Nat) (b : IRBuilder)
    (truncated : Bool) (h : (readLines sha256 lines number skip b truncated).2 = false) :
    truncated = false := by
  induction lines generalizing number skip b truncated with
  | nil => exact h
  | cons line rest ih =>
    cases skip with
    | succ skip => exact ih _ _ _ _ h
    | zero =>
      have hstep : (readLine sha256 line rest number b truncated).truncated = false := by
        simp only [readLines] at h
        split at h
        · exact h
        · exact ih _ _ _ _ h
      cases hroom : b.nodeLimitReached with
      | true =>
        rw [readLine, if_pos hroom] at hstep
        cases hstep
      | false => exact (readLine_read sha256 hroom line rest number truncated).kept hstep

/-- The loop makes a banner node of every run of marked lines. -/
theorem readLines_marked (size : Nat) (lines : List (List Char)) (number : Nat) (b : IRBuilder)
    (truncated : Bool) (hsize : lines.length ≤ size)
    (hcut : (readLines sha256 lines number 0 b truncated).2 = false) :
    ∃ added, bannerSpans (readLines sha256 lines number 0 b truncated).1 = bannerSpans b ++ added ∧
      Marked number (bannerMarks none lines) added := by
  induction size generalizing lines number b truncated with
  | zero =>
    obtain rfl := List.length_eq_zero_iff.mp (Nat.le_zero.mp hsize)
    exact ⟨[], by simp [readLines], by simp [bannerMarks], by simp⟩
  | succ size ih =>
    cases lines with
    | nil => exact ⟨[], by simp [readLines], by simp [bannerMarks], by simp⟩
    | cons line rest =>
      simp only [readLines] at hcut ⊢
      have hstep : (readLine sha256 line rest number b truncated).truncated = false := by
        split at hcut
        · exact hcut
        · exact truncated_of_readLines _ _ _ _ _ hcut
      have hroom : b.nodeLimitReached = false := by
        by_contra hfull
        rw [Bool.not_eq_false] at hfull
        rw [readLine, if_pos hfull] at hstep
        cases hstep
      obtain ⟨mark, count, rawText, hspans, hrest⟩ :=
        (readLine_marked hroom line rest number truncated).kept hstep
      -- the lines of this step with the marks of those after it
      have hjoin : ∀ marks spans, Marked (number + (count + 1)) marks spans →
          Marked number (List.replicate (count + 1) mark ++ marks)
            ((if mark then [⟨number, number + count, rawText⟩] else []) ++ spans) := by
        intro marks spans h
        cases mark with
        | true => exact h.block rawText
        | false => exact h.pass
      rcases hrest with ⟨hfollowing, hmarks⟩ | ⟨hfollowing, hmarks⟩
      · rw [hfollowing] at hcut ⊢
        simp only at hcut ⊢
        rw [readLines_skip] at hcut ⊢
        have hshift : number + 1 + count = number + (count + 1) := by omega
        rw [hshift] at hcut ⊢
        obtain ⟨added, hadded, hmarked⟩ := ih (rest.drop count) _ _ _ (by
          rw [List.length_cons] at hsize
          rw [List.length_drop]
          omega) hcut
        refine ⟨_, ?_, hmarks ▸ hjoin _ _ hmarked⟩
        rw [hadded, hspans, List.append_assoc]
      · rw [hfollowing]
        refine ⟨_, hspans, ?_⟩
        have hmarked := hjoin [] [] ⟨by simp, by simp⟩
        rw [List.append_nil, List.append_nil] at hmarked
        rw [hmarks]
        exact hmarked

/-- A line lies in a banner node of a tree that is not cut exactly when it is marked. -/
theorem parse_banner {request : StructuralParseRequest}
    (hcut : (parse sha256 request).truncated = false) (i : Nat) :
    (bannerMarks none (sourceLines request.content.toList))[i]? = some true ↔
      ∃ node ∈ (parse sha256 request).nodes, bannerNode node = true ∧
        (spanOf node).covers (i + 1) := by
  generalize hstart : boundedLines request.content.toList = start at *
  have hrun : (readLines sha256 start.1 1 0 (initialBuilder request start.2)
      (request.inputTruncated || start.2)).2 = false := by
    rw [← hstart]
    exact hcut
  have hlines : start.1 = sourceLines request.content.toList := by
    have hlimits := truncated_of_readLines _ _ _ _ _ hrun
    rw [Bool.or_eq_false_iff] at hlimits
    rw [← hstart] at hlimits ⊢
    exact boundedLines_eq hlimits.2
  obtain ⟨added, hadded, hmarked⟩ := readLines_marked _ _ _ _ _ le_rfl hrun
  have hnodes : (parse sha256 request).nodes = (readLines sha256 start.1 1 0
      (initialBuilder request start.2) (request.inputTruncated || start.2)).1.nodes.map (·.node) := by
    rw [← hstart]
    rfl
  rw [hlines] at hmarked
  rw [hmarked.covered, Nat.add_comm 1 i, hnodes]
  have hspans : added = bannerSpans (readLines sha256 start.1 1 0 (initialBuilder request start.2)
      (request.inputTruncated || start.2)).1 := by
    rw [hadded]
    rfl
  rw [hspans, bannerSpans]
  constructor
  · rintro ⟨s, hs, hcovers⟩
    obtain ⟨draft, hdraft, rfl⟩ := List.mem_map.mp hs
    obtain ⟨hmem, hbanner⟩ := List.mem_filter.mp hdraft
    exact ⟨draft.node, List.mem_map_of_mem hmem, hbanner, hcovers⟩
  · rintro ⟨node, hnode, hbanner, hcovers⟩
    obtain ⟨draft, hdraft, rfl⟩ := List.mem_map.mp hnode
    exact ⟨_, List.mem_map_of_mem (List.mem_filter.mpr ⟨hdraft, hbanner⟩), hcovers⟩

end Loop

end ConfigAuditor.Parsing.BannerNodes
