import ConfigAuditor.Parsing.IRForest
import ConfigAuditor.Parsing.LosslessFortios

/-!
# Where the FortiOS reader keeps the nesting

A FortiOS program opens blocks with `config` and `edit` and closes them with `end` and `next`.
The reader counts two levels of `config` and knows no stack: after the `end` of a nested block
it takes all blocks for closed.
-/
namespace ConfigAuditor.Parsing.FortiosNesting

open Library IRBuilder FortiosCli LosslessFortios IRForest

/-! ## Programs -/

/-- What a statement does to the open blocks; `set` and `unset` assign. -/
inductive Keyword where
  | config
  | edit
  | next
  | finish
  | assign
  deriving DecidableEq

def keywordOf (tokens : TokenizedStatement) : Option Keyword :=
  match tokens.command with
  | none => none
  | some command =>
    if command = "config" then some .config
    else if command = "edit" then some .edit
    else if command = "next" then some .next
    else if command = "end" then some .finish
    else if command = "set" ∨ command = "unset" then some .assign
    else none

/-- The statements of some lines, from a line number on. -/
def program : List (List Char) → Nat → List (Nat × Option Keyword)
  | [], _ => []
  | line :: rest, number =>
    if significant (cutLine line) then
      (number, keywordOf (tokenizeStatement (Text.stripList Text.isSpace (cutLine line)))) ::
        program rest (number + 1)
    else program rest (number + 1)

/-- The statements the reader reads. -/
def readProgram (request : StructuralParseRequest) : List (Nat × Option Keyword) :=
  program ((Spans.sourceLines (request.content.toList.take maxInputCharacters)).take
    maxSourceLines) 1

inductive Block where
  | config
  | edit
  deriving DecidableEq

/-- The open blocks, innermost first, each with the line that opened it. -/
abbrev OpenBlocks := List (Block × Nat)

/-- The open blocks after a statement, `none` where it may not stand. -/
def nest (blocks : OpenBlocks) (line : Nat) (keyword : Option Keyword) : Option OpenBlocks :=
  match keyword, blocks with
  | some .config, blocks => some ((.config, line) :: blocks)
  | some .edit, (.config, l) :: rest => some ((.edit, line) :: (.config, l) :: rest)
  | some .next, (.edit, _) :: rest => some rest
  | some .finish, (.config, _) :: rest => some rest
  | some .assign, block :: rest => some (block :: rest)
  | _, _ => none

/-- Every statement may stand where it is. Blocks may be open at the end: a program that is cut
off is one, too. -/
def WellNested : OpenBlocks → List (Nat × Option Keyword) → Prop
  | _, [] => True
  | blocks, (line, keyword) :: rest =>
    ∃ blocks', nest blocks line keyword = some blocks' ∧ WellNested blocks' rest

/-- The node of a line has the innermost open block as its parent. -/
def Attached (nodes : List ConfigNode) (blocks : OpenBlocks) (line : Nat) : Prop :=
  ∀ node ∈ nodes, node.sourceStart = line →
    match blocks with
    | [] => node.parentId = none
    | (_, opened) :: _ =>
      ∃ parent ∈ nodes, parent.sourceStart = opened ∧ node.parentId = some parent.nodeId

/-- Statements whose nodes stand in a block; `next` and `end` close theirs. -/
def placed : Option Keyword → Bool
  | some .config | some .edit | some .assign => true
  | _ => false

/-- Every node of the program has the innermost open block as its parent. -/
def Nested (nodes : List ConfigNode) : OpenBlocks → List (Nat × Option Keyword) → Prop
  | _, [] => True
  | blocks, (line, keyword) :: rest =>
    (placed keyword = true → Attached nodes blocks line) ∧
      ∀ blocks', nest blocks line keyword = some blocks' → Nested nodes blocks' rest

/-- A `config` stands in no block or directly in an outermost `config`, and the `end` of a nested
block (`closed`) is followed by the `end` of the block around it. -/
def Supported : OpenBlocks → Bool → List (Nat × Option Keyword) → Prop
  | _, _, [] => True
  | blocks, closed, (line, keyword) :: rest =>
    (closed = true → keyword = some .finish) ∧ (keyword = some .config → blocks.length ≤ 1) ∧
      ∀ blocks', nest blocks line keyword = some blocks' →
        Supported blocks' (keyword == some .finish && !blocks'.isEmpty) rest

/-! ## What the reader does at a statement -/

/-- The reader's state after a statement, and the indentation, `force_root` and `can_parent` of
its node. -/
def move : Keyword → State → State × Nat × Bool × Bool
  | .config, state =>
    ({ state with configDepth := if state.inConfig then 1 else 0, inConfig := true, inEdit := false },
      if state.inConfig then 1 else 0, false, true)
  | .edit, state =>
    if state.inConfig then
      ({ state with editDepth := state.configDepth + 1, inEdit := true },
        state.configDepth + 1, false, true)
    else (state, 0, false, false)
  | .next, state =>
    if state.inEdit then ({ state with inEdit := false }, state.editDepth, false, false)
    else (state, 0, false, false)
  | .finish, state => ({ state with inConfig := false, inEdit := false }, 0, true, false)
  | .assign, state =>
    if state.inConfig then
      (state, if state.inEdit then state.editDepth + 1 else state.configDepth + 1, false, true)
    else (state, 0, false, false)

theorem readTokens_move {tokens : TokenizedStatement} {keyword : Keyword}
    (h : keywordOf tokens = some keyword) (raw : List Char) (number : Nat) (state : State) :
    (readTokens tokens raw number state).1 = (move keyword state).1 ∧
      (readTokens tokens raw number state).2.indent = (move keyword state).2.1 ∧
      (readTokens tokens raw number state).2.forceRoot = (move keyword state).2.2.1 ∧
      (readTokens tokens raw number state).2.canParent = (move keyword state).2.2.2 ∧
      (readTokens tokens raw number state).2.sourceStart = number := by
  refine ⟨?_, ?_, ?_, ?_, (readTokens_lines tokens raw number state).1⟩ <;>
  · unfold keywordOf at h
    cases hcommand : tokens.command with
    | none => simp [hcommand] at h
    | some command =>
      simp only [hcommand] at h
      split_ifs at h with hconfig hedit hnext hend hset
      all_goals
        obtain rfl := Option.some.inj h
        first
        | (subst hconfig; simp [readTokens, hcommand, move, statement])
        | (subst hedit; cases hin : state.inConfig <;>
            simp [readTokens, hcommand, move, statement, hin])
        | (subst hnext; cases hin : state.inEdit <;>
            simp [readTokens, hcommand, move, statement, hin])
        | (subst hend; simp [readTokens, hcommand, move, statement])
        | (cases hin : state.inConfig <;> rcases hset with rfl | rfl <;>
            simp [readTokens, hcommand, move, statement, hin])

/-- The reader's counters for the open blocks it keeps apart; `closed` after the `end` of a nested
block. -/
inductive Reads : OpenBlocks → Bool → State → Prop
  | top (c e : Nat) : Reads [] false ⟨c, e, false, false⟩
  | outer (l e : Nat) : Reads [(.config, l)] false ⟨0, e, true, false⟩
  | outerEdit (m l : Nat) : Reads [(.edit, m), (.config, l)] false ⟨0, 1, true, true⟩
  | inner (m l e : Nat) : Reads [(.config, m), (.config, l)] false ⟨1, e, true, false⟩
  | innerEdit (n m l : Nat) :
      Reads [(.edit, n), (.config, m), (.config, l)] false ⟨1, 2, true, true⟩
  | closed (l c e : Nat) : Reads [(.config, l)] true ⟨c, e, false, false⟩

/-- The statements the reader's counters can follow. -/
def Follows (blocks : OpenBlocks) (closed : Bool) (keyword : Keyword) : Prop :=
  (closed = true → keyword = .finish) ∧ (keyword = .config → blocks.length ≤ 1)

section Counters

variable {blocks blocks' : OpenBlocks} {closed : Bool} {state : State} {number : Nat}
  {keyword : Keyword}

/-- The counters keep up with every statement they can follow. -/
theorem Reads.move (h : Reads blocks closed state)
    (hnest : nest blocks number (some keyword) = some blocks')
    (hfollows : Follows blocks closed keyword) :
    Reads blocks' (keyword == .finish && !blocks'.isEmpty) (move keyword state).1 := by
  obtain ⟨hclosed, hconfig⟩ := hfollows
  cases h <;> cases keyword <;> simp [nest] at hnest hclosed hconfig <;> subst hnest <;>
    constructor

/-- A statement that stands in a block is indented by the number of the open blocks. -/
theorem Reads.indent (h : Reads blocks closed state)
    (hnest : nest blocks number (some keyword) = some blocks')
    (hfollows : Follows blocks closed keyword) (hplaced : placed (some keyword) = true) :
    FortiosNesting.move keyword state = ((FortiosNesting.move keyword state).1, blocks.length,
      false, true) := by
  obtain ⟨hclosed, hconfig⟩ := hfollows
  cases h <;> cases keyword <;> simp [nest, placed] at hnest hclosed hconfig hplaced <;> rfl

theorem Reads.indent_next (h : Reads blocks closed state)
    (hnest : nest blocks number (some .next) = some blocks')
    (hfollows : Follows blocks closed .next) :
    FortiosNesting.move .next state = ((FortiosNesting.move .next state).1, blocks'.length, false,
      false) ∧ blocks'.length + 1 = blocks.length ∧ 0 < blocks'.length := by
  obtain ⟨hclosed, -⟩ := hfollows
  cases h <;> simp [nest] at hnest hclosed <;> subst hnest <;>
    exact ⟨rfl, rfl, Nat.succ_pos _⟩

/-- After the `end` of a nested block, a statement goes to the root. -/
theorem Reads.indent_closed (h : Reads blocks true state)
    (hnest : nest blocks number (some keyword) = some blocks') (hkeyword : keyword ≠ .finish) :
    (FortiosNesting.move keyword state).2.1 = 0 ∧ placed (some keyword) = true ∧
      blocks ≠ [] := by
  cases h
  cases keyword <;> simp [nest] at hnest hkeyword <;> exact ⟨rfl, rfl, List.cons_ne_nil _ _⟩

/-- A `config` in more than one block goes to the outermost one. -/
theorem Reads.indent_config (h : Reads blocks false state) (hdeep : 1 < blocks.length) :
    (FortiosNesting.move .config state).2 = (1, false, true) := by
  cases h <;> simp at hdeep <;> rfl

theorem Reads.bounded (h : Reads blocks closed state) : blocks.length ≤ FortiosCli.maxDepth := by
  cases h <;> simp [FortiosCli.maxDepth]

end Counters

/-! ## The open nodes -/

/-- The open nodes of the open blocks. -/
def Chain : OpenBlocks → List NodeDraft → Prop
  | [], [] => True
  | (_, line) :: rest, d :: outer =>
    d.indent = rest.length ∧ d.node.depth = rest.length ∧ d.node.sourceStart = line ∧
      Chain rest outer
  | _, _ => False

/-- The open nodes are those of the open blocks and what stands in the innermost one. -/
def Stacked (blocks : OpenBlocks) (stack : List NodeDraft) : Prop :=
  ∃ inner outer, stack = inner ++ outer ∧ (∀ d ∈ inner, blocks.length ≤ d.indent) ∧
    Chain blocks outer

theorem Chain.length_eq {blocks : OpenBlocks} {outer : List NodeDraft} (h : Chain blocks outer) :
    outer.length = blocks.length := by
  induction blocks generalizing outer with
  | nil =>
    cases outer with
    | nil => rfl
    | cons d outer => exact h.elim
  | cons block rest ih =>
    cases outer with
    | nil => exact h.elim
    | cons d outer => rw [List.length_cons, List.length_cons, ih h.2.2.2]

theorem Chain.stacked {blocks : OpenBlocks} {outer : List NodeDraft} (h : Chain blocks outer) :
    Stacked blocks outer :=
  ⟨[], outer, rfl, fun _ hd => (List.not_mem_nil hd).elim, h⟩

/-- An indentation closes the blocks inside it. -/
theorem Chain.dropWhile {blocks : OpenBlocks} {outer : List NodeDraft} (h : Chain blocks outer)
    {n : Nat} (hn : n ≤ blocks.length) :
    Chain (blocks.drop (blocks.length - n)) (outer.dropWhile fun d => n ≤ d.indent) := by
  induction blocks generalizing outer with
  | nil =>
    cases outer with
    | nil =>
      rw [List.drop_nil]
      trivial
    | cons d outer => exact h.elim
  | cons block rest ih =>
    cases outer with
    | nil => exact h.elim
    | cons d outer =>
      obtain ⟨hindent, hdepth, hline, hrest⟩ := h
      rw [List.length_cons] at hn ⊢
      by_cases hle : n ≤ rest.length
      · rw [List.dropWhile_cons_of_pos (by simpa [hindent] using hle),
          show rest.length + 1 - n = (rest.length - n) + 1 by omega, List.drop_succ_cons]
        exact ih hrest hle
      · rw [List.dropWhile_cons_of_neg (by simpa [hindent] using hle),
          show rest.length + 1 - n = 0 by omega, List.drop_zero]
        exact ⟨hindent, hdepth, hline, hrest⟩

section Placing

variable {blocks : OpenBlocks} {b : IRBuilder} {input : NodeInput}

theorem place_root (h : input.indent = 0 ∨ input.forceRoot = true) :
    (b.place input).stack = [] := by
  have hroot : (input.forceRoot || input.indent == 0) = true := by
    rcases h with h | h <;> simp [h]
  simp only [IRBuilder.place, IRBuilder.placeByIndent, hroot, if_true, IRBuilder.boundDepth]

/-- A node goes below the blocks that are less indented. -/
theorem place_chain (h : Stacked blocks b.stack) (hbound : blocks.length ≤ b.maxDepth)
    (hforce : input.forceRoot = false) (hpos : input.indent = 0 → blocks = [])
    (hle : input.indent ≤ blocks.length) :
    Chain (blocks.drop (blocks.length - input.indent)) (b.place input).stack := by
  obtain ⟨inner, outer, hstack, hinner, hchain⟩ := h
  by_cases hzero : input.indent = 0
  · rw [place_root (.inl hzero), hpos hzero, List.drop_nil]
    trivial
  have hdrop : (b.placeByIndent input).stack = outer.dropWhile fun d => input.indent ≤ d.indent := by
    simp only [IRBuilder.placeByIndent, hforce, Bool.false_or, beq_iff_eq, hzero, if_false,
      hstack]
    rw [List.dropWhile_append, List.dropWhile_eq_nil_iff.mpr fun d hd => by
      simpa using hle.trans (hinner d hd)]
    rfl
  have hkept := hchain.dropWhile hle
  rw [← hdrop] at hkept
  unfold IRBuilder.place IRBuilder.boundDepth
  cases hplaced : (b.placeByIndent input).stack with
  | nil =>
    show Chain _ (b.placeByIndent input).stack
    exact hkept
  | cons parent rest =>
    rw [hplaced] at hkept
    have hdepth : parent.node.depth < b.maxDepth := by
      cases hblocks : blocks.drop (blocks.length - input.indent) with
      | nil => rw [hblocks] at hkept; exact hkept.elim
      | cons block more =>
        rw [hblocks] at hkept
        have hlength := congrArg List.length hblocks
        rw [List.length_drop, List.length_cons] at hlength
        rw [hkept.2.1]
        omega
    simp only [hdepth, if_true, hplaced]
    exact hkept

/-- A new node of a block, at the indentation of the block. -/
theorem chain_draft (sha256 : String → String) (h : Chain blocks (b.place input).stack)
    (hindent : input.indent = blocks.length) (block : Block) :
    Chain ((block, input.sourceStart) :: blocks)
      (b.draft sha256 input (b.place input) :: (b.place input).stack) := by
  refine ⟨hindent, ?_, rfl, h⟩
  cases hplaced : (b.place input).stack with
  | nil =>
    rw [hplaced] at h
    have hlength := h.length_eq
    simp [IRBuilder.draft, hplaced, ← hlength]
  | cons parent rest =>
    cases blocks with
    | nil => rw [hplaced] at h; exact h.elim
    | cons block outer =>
      rw [hplaced] at h
      simp [IRBuilder.draft, hplaced, h.2.1]

theorem draft_parent_nil (sha256 : String → String) (h : (b.place input).stack = []) :
    (b.draft sha256 input (b.place input)).node.parentId = none := by
  simp [IRBuilder.draft, h]

/-- The parent of a new node is the innermost open block. -/
theorem draft_parent (sha256 : String → String) {block : Block × Nat}
    (h : Chain (block :: blocks) (b.place input).stack) :
    ∃ parent ∈ (b.place input).stack, parent.node.sourceStart = block.2 ∧
      (b.draft sha256 input (b.place input)).node.parentId = some parent.node.nodeId := by
  cases hplaced : (b.place input).stack with
  | nil => rw [hplaced] at h; exact h.elim
  | cons parent rest =>
    rw [hplaced] at h
    exact ⟨parent, List.mem_cons_self, h.2.2.1, by simp [IRBuilder.draft, hplaced]⟩

end Placing

/-! ## One statement -/

/-- What every statement keeps of the nodes, whatever its keyword: open nodes are nodes, and all
come from the lines before. -/
structure Kept (number : Nat) (b : IRBuilder) : Prop where
  depth_eq : b.maxDepth = FortiosCli.maxDepth
  recorded : ∀ d ∈ b.stack, bare d.node ∈ b.nodes.map (bare ·.node)
  before : ∀ node ∈ b.nodes.map (bare ·.node), node.sourceStart < number

/-- The lines of the open blocks, innermost first, before a line. -/
def Opened (blocks : OpenBlocks) (number : Nat) : Prop :=
  (number :: blocks.map (·.2)).Pairwise (· > ·)

section Steps

variable {b : IRBuilder} {number : Nat} {input : NodeInput}

theorem Kept.succ (h : Kept number b) : Kept (number + 1) b :=
  ⟨h.depth_eq, h.recorded, fun node hnode => Nat.lt_succ_of_lt (h.before node hnode)⟩

theorem Kept.addNode (sha256 : String → String) (h : Kept number b)
    (hroom : b.nodeLimitReached = false) (hstart : input.sourceStart = number) :
    Kept (number + 1) (b.addNode sha256 input) := by
  have hbares := bare_addNode sha256 hroom input
  refine ⟨?_, ?_, ?_⟩
  · rw [← h.depth_eq]
    simp [IRBuilder.addNode, hroom]
  · intro d hd
    rw [hbares]
    have hplaced : ∀ d ∈ (b.place input).stack, bare d.node ∈ b.nodes.map (bare ·.node) :=
      fun d hd => h.recorded d ((place_suffix b input).subset hd)
    simp only [IRBuilder.addNode, hroom, Bool.false_eq_true, if_false] at hd
    split at hd
    · rcases List.mem_cons.mp hd with rfl | hd
      · exact List.mem_append_right _ (List.mem_singleton_self _)
      · exact List.mem_append_left _ (hplaced d hd)
    · exact List.mem_append_left _ (hplaced d hd)
  · rw [hbares]
    intro node hnode
    rcases List.mem_append.mp hnode with hnode | hnode
    · exact Nat.lt_succ_of_lt (h.before node hnode)
    · rw [List.mem_singleton.mp hnode]
      show input.sourceStart < number + 1
      omega

theorem stack_addNode (sha256 : String → String) (hroom : b.nodeLimitReached = false) :
    (b.addNode sha256 input).stack = if input.canParent then
      b.draft sha256 input (b.place input) :: (b.place input).stack else
      (b.place input).stack := by
  simp only [IRBuilder.addNode, hroom, Bool.false_eq_true, if_false]

variable {blocks blocks' : OpenBlocks} {closed : Bool} {state : State} {keyword : Keyword}

theorem Opened.nest (h : Opened blocks number) {keyword : Option Keyword}
    (hnest : nest blocks number keyword = some blocks') : Opened blocks' (number + 1) := by
  have hafter : ∀ {rest : OpenBlocks}, Opened rest number → Opened rest (number + 1) :=
    fun hrest => List.pairwise_cons.mpr ⟨fun l hl => Nat.lt_succ_of_lt
      ((List.pairwise_cons.mp hrest).1 l hl), (List.pairwise_cons.mp hrest).2⟩
  have htail : ∀ {block} {rest : OpenBlocks}, Opened (block :: rest) number → Opened rest number :=
    fun hrest => hrest.sublist (List.cons_sublist_cons.mpr (List.sublist_cons_self _ _))
  have hpush : ∀ block, Opened ((block, number) :: blocks) (number + 1) := by
    intro block
    refine List.pairwise_cons.mpr ⟨?_, h⟩
    intro l hl
    rcases List.mem_cons.mp hl with rfl | hl
    · exact Nat.lt_succ_self _
    · exact Nat.lt_succ_of_lt ((List.pairwise_cons.mp h).1 l hl)
  unfold FortiosNesting.nest at hnest
  split at hnest
  all_goals cases hnest
  · exact hpush _
  · exact hpush _
  · exact hafter (htail h)
  · exact hafter (htail h)
  · exact hafter h

/-- What the reader holds before a line: the counters, and the open nodes unless it has lost
them. -/
structure Agrees (blocks : OpenBlocks) (closed : Bool) (number : Nat) (state : State)
    (b : IRBuilder) : Prop where
  reads : Reads blocks closed state
  opened : Opened blocks number
  kept : Kept number b
  stacked : closed = false → Stacked blocks b.stack

/-- What a statement of a keyword asks of the builder. -/
structure Asks (keyword : Keyword) (state : State) (number : Nat) (input : NodeInput) : Prop where
  start : input.sourceStart = number
  indent : input.indent = (move keyword state).2.1
  forceRoot : input.forceRoot = (move keyword state).2.2.1
  canParent : input.canParent = (move keyword state).2.2.2

theorem Agrees.succ (h : Agrees blocks closed number state b) :
    Agrees blocks closed (number + 1) state b := by
  refine ⟨h.reads, ?_, h.kept.succ, h.stacked⟩
  obtain ⟨hnumber, hblocks⟩ := List.pairwise_cons.mp h.opened
  exact List.pairwise_cons.mpr ⟨fun l hl => Nat.lt_succ_of_lt (hnumber l hl), hblocks⟩

theorem Follows.open_of_placed (h : Follows blocks closed keyword)
    (hplaced : placed (some keyword) = true) : closed = false := by
  cases closed with
  | false => rfl
  | true =>
    rw [h.1 rfl] at hplaced
    cases hplaced

/-- A statement that stands in a block is placed below the open blocks. -/
theorem Agrees.place_placed (h : Agrees blocks closed number state b)
    (hasks : Asks keyword state number input)
    (hnest : FortiosNesting.nest blocks number (some keyword) = some blocks')
    (hfollows : Follows blocks closed keyword) (hplaced : placed (some keyword) = true) :
    input.indent = blocks.length ∧ input.canParent = true ∧
      Chain blocks (b.place input).stack := by
  have hmove := h.reads.indent hnest hfollows hplaced
  have hindent : input.indent = blocks.length := by rw [hasks.indent, hmove]
  have hforce : input.forceRoot = false := by rw [hasks.forceRoot, hmove]
  refine ⟨hindent, by rw [hasks.canParent, hmove], ?_⟩
  have hchain := place_chain (h.stacked (hfollows.open_of_placed hplaced))
    (h.reads.bounded.trans h.kept.depth_eq.ge) hforce
    (fun hzero => List.length_eq_zero_iff.mp (hindent ▸ hzero)) hindent.le
  rwa [hindent, Nat.sub_self, List.drop_zero] at hchain

/-- The reader keeps up with every statement its counters can follow. -/
theorem Agrees.addNode (sha256 : String → String) (h : Agrees blocks closed number state b)
    (hroom : b.nodeLimitReached = false) (hasks : Asks keyword state number input)
    (hnest : FortiosNesting.nest blocks number (some keyword) = some blocks')
    (hfollows : Follows blocks closed keyword) :
    Agrees blocks' (keyword == .finish && !blocks'.isEmpty) (number + 1) (move keyword state).1
      (b.addNode sha256 input) := by
  refine ⟨h.reads.move hnest hfollows, h.opened.nest hnest,
    h.kept.addNode sha256 hroom hasks.start, fun hopen => ?_⟩
  rw [stack_addNode sha256 hroom]
  -- a block is opened below the open ones, and a `set` stands inside them
  have hpush : ∀ block, placed (some keyword) = true → Stacked ((block, number) :: blocks)
      (b.draft sha256 input (b.place input) :: (b.place input).stack) ∧
      Stacked blocks (b.draft sha256 input (b.place input) :: (b.place input).stack) := by
    intro block hplaced
    obtain ⟨hindent, -, hchain⟩ := h.place_placed hasks hnest hfollows hplaced
    have hadded := chain_draft sha256 hchain hindent block
    rw [hasks.start] at hadded
    refine ⟨hadded.stacked, [_], _, rfl, fun d hd => ?_, hchain⟩
    rw [List.mem_singleton.mp hd]
    exact hindent.ge
  cases keyword with
  | config =>
    rw [hasks.canParent, h.reads.indent hnest hfollows rfl, if_pos rfl]
    obtain rfl := Option.some.inj hnest
    exact (hpush .config rfl).1
  | edit =>
    rw [hasks.canParent, h.reads.indent hnest hfollows rfl, if_pos rfl]
    cases blocks with
    | nil => cases hnest
    | cons block rest =>
      obtain ⟨⟨⟩ | ⟨⟩, line⟩ := block <;> cases hnest
      exact (hpush .edit rfl).1
  | assign =>
    rw [hasks.canParent, h.reads.indent hnest hfollows rfl, if_pos rfl]
    cases blocks with
    | nil => cases hnest
    | cons block rest =>
      obtain rfl := Option.some.inj hnest
      exact (hpush .config rfl).2
  | next =>
    obtain ⟨hmove, hlength, hpos⟩ := h.reads.indent_next hnest hfollows
    have hindent : input.indent = blocks'.length := by rw [hasks.indent, hmove]
    have hforce : input.forceRoot = false := by rw [hasks.forceRoot, hmove]
    have hclosed : closed = false := by
      cases closed with
      | false => rfl
      | true => cases hfollows.1 rfl
    rw [hasks.canParent, hmove, if_neg Bool.false_ne_true]
    have hchain := place_chain (h.stacked hclosed) (h.reads.bounded.trans h.kept.depth_eq.ge)
      hforce (fun hzero => by omega) (by omega)
    have htail : blocks.drop (blocks.length - input.indent) = blocks' := by
      rw [hindent, show blocks.length - blocks'.length = 1 by omega]
      cases blocks with
      | nil => cases hnest
      | cons block rest =>
        obtain ⟨⟨⟩ | ⟨⟩, line⟩ := block <;> cases hnest
        rfl
    rw [htail] at hchain
    exact hchain.stacked
  | finish =>
    have hempty : blocks' = [] := by simpa using hopen
    rw [hasks.canParent, place_root (.inr (hasks.forceRoot.trans rfl)), hempty]
    exact (show Chain [] [] from trivial).stacked

end Steps

/-! ## The parent of one statement -/

section Parents

variable {sha256 : String → String} {b : IRBuilder} {number : Nat} {input : NodeInput}
  {blocks blocks' : OpenBlocks} {closed : Bool} {state : State} {keyword : Keyword}
  {nodes later : List ConfigNode}

/-- The nodes of a text whose lines up to a line are read: those before it, its own, and those
after it. -/
structure Around (sha256 : String → String) (b : IRBuilder) (number : Nat) (input : NodeInput)
    (nodes later : List ConfigNode) : Prop where
  nodes_eq : nodes = b.nodes.map (bare ·.node) ++
    bare (b.draft sha256 input (b.place input)).node :: later
  start : input.sourceStart = number
  after : ∀ node ∈ later, number < node.sourceStart

theorem Around.of_start (h : Around sha256 b number input nodes later) (hkept : Kept number b)
    {node : ConfigNode} (hnode : node ∈ nodes) (hstart : node.sourceStart = number) :
    node = bare (b.draft sha256 input (b.place input)).node := by
  rw [h.nodes_eq, List.mem_append, List.mem_cons] at hnode
  rcases hnode with hbefore | rfl | hafter
  · exact absurd hstart (hkept.before node hbefore).ne
  · rfl
  · exact absurd hstart (h.after node hafter).ne'

theorem Around.attached (h : Around sha256 b number input nodes later) (hkept : Kept number b)
    (hchain : Chain blocks (b.place input).stack) : Attached nodes blocks number := by
  intro node hnode hstart
  rw [h.of_start hkept hnode hstart]
  cases blocks with
  | nil => exact draft_parent_nil sha256 (List.length_eq_zero_iff.mp hchain.length_eq)
  | cons block rest =>
    obtain ⟨parent, hparent, hopened, hid⟩ := draft_parent sha256 hchain
    refine ⟨bare parent.node, ?_, hopened, hid⟩
    rw [h.nodes_eq]
    exact List.mem_append_left _ (hkept.recorded parent ((place_suffix b input).subset hparent))

/-- The parent an attached node names comes from the line of the innermost block. -/
theorem Around.opened_of_attached (h : Around sha256 b number input nodes later)
    {block : Block × Nat} {rest : OpenBlocks} (hattached : Attached nodes (block :: rest) number) :
    ∃ parent ∈ nodes, parent.sourceStart = block.2 ∧
      (b.draft sha256 input (b.place input)).node.parentId = some parent.nodeId :=
  hattached (bare (b.draft sha256 input (b.place input)).node)
    (h.nodes_eq ▸ List.mem_append_right _ List.mem_cons_self) h.start

/-- The reader attaches a statement to the innermost open block exactly where its counters can
follow it. -/
theorem Around.attached_iff (h : Around sha256 b number input nodes later)
    (hagrees : Agrees blocks closed number state b) (hasks : Asks keyword state number input)
    (hnest : nest blocks number (some keyword) = some blocks')
    (hnodup : (nodes.map (·.nodeId)).Nodup) :
    (placed (some keyword) = true → Attached nodes blocks number) ↔
      Follows blocks closed keyword := by
  constructor
  · intro hattached
    have hclosed : closed = true → keyword = .finish := by
      rintro rfl
      by_contra hkeyword
      obtain ⟨hzero, hplaced, hblocks⟩ := hagrees.reads.indent_closed hnest hkeyword
      obtain ⟨block, rest, rfl⟩ := List.exists_cons_of_ne_nil hblocks
      obtain ⟨parent, -, -, hid⟩ := h.opened_of_attached (hattached hplaced)
      rw [draft_parent_nil sha256 (place_root (.inl (hasks.indent.trans hzero)))] at hid
      cases hid
    refine ⟨hclosed, ?_⟩
    rintro rfl
    by_contra hdeep
    have hopen : closed = false := by
      cases closed with
      | false => rfl
      | true => cases hclosed rfl
    subst hopen
    have hmove := hagrees.reads.indent_config (by omega)
    have hindent : input.indent = 1 := by rw [hasks.indent, hmove]
    have hforce : input.forceRoot = false := by rw [hasks.forceRoot, hmove]
    have hchain := place_chain (hagrees.stacked rfl)
      (hagrees.reads.bounded.trans hagrees.kept.depth_eq.ge) hforce (fun hzero => by omega)
      (by omega)
    -- the node goes to the outermost block, which is not the innermost
    obtain ⟨block, rest, rfl⟩ : ∃ block rest, blocks = block :: rest :=
      List.exists_cons_of_ne_nil fun hnil => by simp [hnil] at hdeep
    obtain ⟨outermost, hlast⟩ : ∃ outermost, rest.drop (rest.length - 1) = [outermost] := by
      refine List.length_eq_one_iff.mp ?_
      rw [List.length_drop]
      simp only [List.length_cons] at hdeep
      omega
    rw [hindent, List.length_cons, Nat.add_sub_cancel, show rest.length = rest.length - 1 + 1 by
      simp only [List.length_cons] at hdeep
      omega, List.drop_succ_cons, hlast] at hchain
    obtain ⟨top, htop, hline, htopid⟩ := draft_parent sha256 hchain
    obtain ⟨parent, hparent, hopened, hid⟩ := h.opened_of_attached (hattached rfl)
    have hrecorded : bare top.node ∈ nodes := by
      rw [h.nodes_eq]
      exact List.mem_append_left _
        (hagrees.kept.recorded top ((place_suffix b input).subset htop))
    have hsame : parent = bare top.node :=
      List.inj_on_of_nodup_map hnodup hparent hrecorded
        (Option.some.inj (hid.symm.trans htopid))
    have hbelow : outermost.2 < block.2 := by
      have hlines := (List.pairwise_cons.mp hagrees.opened).2
      rw [List.map_cons, List.pairwise_cons] at hlines
      refine hlines.1 _ (List.mem_map_of_mem ?_)
      exact List.mem_of_mem_drop (hlast ▸ List.mem_singleton_self _)
    have hequal : block.2 = outermost.2 := by rw [← hopened, hsame, ← hline]; rfl
    omega
  · intro hfollows hplaced
    exact h.attached hagrees.kept (hagrees.place_placed hasks hnest hfollows hplaced).2.2

end Parents

/-! ## All statements -/

section Run

variable {sha256 : String → String} {request : StructuralParseRequest}

/-- A line without a statement. -/
theorem readLines_skip {line : List Char}
    (h : significant (cutLine (Text.rstripChars ['\r', '\n'] line)) = false)
    (rest : List (List Char)) (number : Nat) (state : State) (b : IRBuilder) :
    readLines sha256 (line :: rest) number state b =
      readLines sha256 rest (number + 1) state b := by
  simp only [significant, Bool.not_eq_false'] at h
  rw [readLines, if_pos (by simpa [cutLine] using h)]

/-- What the reader makes of a line with a statement. -/
def readLine (line : List Char) (number : Nat) (state : State) : State × NodeInput :=
  readTokens (tokenizeStatement (Text.stripList Text.isSpace (cutLine line))) (cutLine line)
    number state

theorem readLines_statement {line : List Char}
    (h : significant (cutLine (Text.rstripChars ['\r', '\n'] line)) = true)
    (rest : List (List Char)) (number : Nat) (state : State) (b : IRBuilder) :
    readLines sha256 (line :: rest) number state b =
      readLines sha256 rest (number + 1)
        (readLine (Text.rstripChars ['\r', '\n'] line) number state).1
        (b.addNode sha256 (readLine (Text.rstripChars ['\r', '\n'] line) number state).2) := by
  simp only [significant, Bool.not_eq_true'] at h
  rw [readLines, if_neg (by simpa [cutLine] using h)]
  rfl

theorem readLines_full (lines : List (List Char)) (number : Nat) (state : State) {b : IRBuilder}
    (h : b.nodeLimitReached = true) : readLines sha256 lines number state b = b := by
  induction lines generalizing number state with
  | nil => rfl
  | cons line rest ih =>
    simp only [readLines, IRBuilder.addNode, h, if_true]
    split <;> exact ih _ _

/-- The lines to come add nodes that name them, and leave the others as they are. -/
theorem readLines_bare (lines : List (List Char)) (number : Nat) (state : State) (b : IRBuilder) :
    ∃ later, (readLines sha256 lines number state b).nodes.map (bare ·.node) =
      b.nodes.map (bare ·.node) ++ later ∧ ∀ node ∈ later, number ≤ node.sourceStart := by
  induction lines generalizing number state b with
  | nil => exact ⟨[], (List.append_nil _).symm, fun node hnode => by cases hnode⟩
  | cons line rest ih =>
    simp only [readLines]
    split
    · obtain ⟨later, hnodes, hlater⟩ := ih (number + 1) state b
      exact ⟨later, hnodes, fun node hnode => (Nat.le_succ _).trans (hlater node hnode)⟩
    · set read := readTokens _ _ number state with hread
      have hstart : read.2.sourceStart = number := (readTokens_lines _ _ _ _).1
      cases hroom : b.nodeLimitReached with
      | true =>
        rw [IRBuilder.addNode, if_pos hroom, readLines_full _ _ _ hroom]
        exact ⟨[], (List.append_nil _).symm, fun node hnode => by cases hnode⟩
      | false =>
        obtain ⟨later, hnodes, hlater⟩ := ih (number + 1) read.1 (b.addNode sha256 read.2)
        refine ⟨bare (b.draft sha256 read.2 (b.place read.2)).node :: later, ?_, ?_⟩
        · rw [hnodes, bare_addNode sha256 hroom, List.append_assoc]
          rfl
        · intro node hnode
          rcases List.mem_cons.mp hnode with rfl | hnode
          · exact hstart.ge
          · exact (Nat.le_succ _).trans (hlater node hnode)

theorem exists_around (rest : List (List Char)) {number : Nat} {b : IRBuilder} {input : NodeInput}
    (hroom : b.nodeLimitReached = false) (hstart : input.sourceStart = number) (state : State) :
    ∃ later, Around sha256 b number input ((readLines sha256 rest (number + 1) state
      (b.addNode sha256 input)).nodes.map (bare ·.node)) later := by
  obtain ⟨later, hnodes, hlater⟩ := readLines_bare rest (number + 1) state (b.addNode sha256 input)
  rw [bare_addNode sha256 hroom, List.append_assoc] at hnodes
  exact ⟨later, hnodes, hstart, hlater⟩

/-- A new node takes up the room of one. -/
theorem room_addNode (sha256 : String → String) {b : IRBuilder} (hroom : b.nodeLimitReached = false)
    (input : NodeInput) : b.maxNodes - b.nodes.length =
      (b.addNode sha256 input).maxNodes - (b.addNode sha256 input).nodes.length + 1 := by
  have hlength := congrArg List.length (bare_addNode sha256 hroom input)
  simp only [List.length_map, List.length_append, List.length_singleton] at hlength
  have hlimit : b.nodes.length < b.maxNodes := by
    simpa [IRBuilder.nodeLimitReached] using hroom
  rw [Spans.maxNodes_addNode, hlength]
  omega

theorem program_lines {lines : List (List Char)} {number : Nat} {statement : Nat × Option Keyword}
    (h : statement ∈ program lines number) : number ≤ statement.1 := by
  induction lines generalizing number with
  | nil => cases h
  | cons line rest ih =>
    unfold program at h
    split at h
    · rcases List.mem_cons.mp h with rfl | h
      · exact le_rfl
      · exact (Nat.le_succ _).trans (ih h)
    · exact (Nat.le_succ _).trans (ih h)

/-- Lines that no node names ask nothing of the nodes. -/
theorem nested_of_before {nodes : List ConfigNode} {statements : List (Nat × Option Keyword)}
    (h : ∀ node ∈ nodes, ∀ statement ∈ statements, node.sourceStart ≠ statement.1)
    (blocks : OpenBlocks) : Nested nodes blocks statements := by
  induction statements generalizing blocks with
  | nil => trivial
  | cons statement rest ih =>
    refine ⟨fun _ node hnode hstart => absurd hstart (h node hnode _ List.mem_cons_self), ?_⟩
    intro blocks' _
    exact ih (fun node hnode other hother =>
      h node hnode other (List.mem_cons_of_mem _ hother)) blocks'

/-- Whether the nodes keep the nesting, line by line. -/
theorem readLines_nested_iff (lines : List (List Char)) {number : Nat} {state : State}
    {b : IRBuilder} {blocks : OpenBlocks} {closed : Bool}
    (h : Agrees blocks closed number state b)
    (hwell : WellNested blocks (program (lines.map (Text.rstripChars ['\r', '\n'])) number))
    (hnodup : (((readLines sha256 lines number state b).nodes.map (bare ·.node)).map
      (·.nodeId)).Nodup) :
    Nested ((readLines sha256 lines number state b).nodes.map (bare ·.node)) blocks
        (program (lines.map (Text.rstripChars ['\r', '\n'])) number) ↔
      Supported blocks closed ((program (lines.map (Text.rstripChars ['\r', '\n']))
        number).take (b.maxNodes - b.nodes.length)) := by
  induction lines generalizing number state b blocks closed with
  | nil =>
    rw [List.map_nil, program, List.take_nil]
    exact Iff.rfl
  | cons line rest ih =>
    cases hsig : significant (cutLine (Text.rstripChars ['\r', '\n'] line)) with
    | false =>
      rw [readLines_skip hsig] at hnodup ⊢
      rw [List.map_cons, program, hsig, if_neg Bool.false_ne_true] at hwell ⊢
      exact ih h.succ hwell hnodup
    | true =>
      rw [List.map_cons, program, hsig, if_pos rfl] at hwell ⊢
      cases hroom : b.nodeLimitReached with
      | true =>
        have hzero : b.maxNodes - b.nodes.length = 0 := by
          simpa [IRBuilder.nodeLimitReached, Nat.sub_eq_zero_iff_le] using hroom
        rw [readLines_full _ _ _ hroom, hzero, List.take_zero]
        refine iff_of_true (nested_of_before (fun node hnode statement hstatement => ?_) _) trivial
        have hbefore := h.kept.before node hnode
        rcases List.mem_cons.mp hstatement with rfl | hstatement
        · exact hbefore.ne
        · exact (hbefore.trans (program_lines hstatement)).ne
      | false =>
        obtain ⟨blocks', hnest, hrest⟩ := hwell
        rw [readLines_statement hsig] at hnodup ⊢
        obtain ⟨keyword, hkeyword⟩ : ∃ keyword, keywordOf (tokenizeStatement
            (Text.stripList Text.isSpace (cutLine (Text.rstripChars ['\r', '\n'] line)))) =
              some keyword := by
          refine Option.ne_none_iff_exists'.mp fun hnone => ?_
          rw [hnone] at hnest
          cases hnest
        rw [hkeyword] at hnest ⊢
        obtain ⟨hstate, hindent, hforce, hparent, hstart⟩ := readTokens_move hkeyword
          (cutLine (Text.rstripChars ['\r', '\n'] line)) number state
        have hasks : Asks keyword state number
            (readLine (Text.rstripChars ['\r', '\n'] line) number state).2 :=
          ⟨hstart, hindent, hforce, hparent⟩
        have hmove : (readLine (Text.rstripChars ['\r', '\n'] line) number state).1 =
            (move keyword state).1 := hstate
        rw [hmove] at hnodup ⊢
        generalize (readLine (Text.rstripChars ['\r', '\n'] line) number state).2 = input at *
        obtain ⟨later, haround⟩ := exists_around rest hroom hasks.start (move keyword state).1
        rw [room_addNode sha256 hroom input, List.take_succ_cons]
        simp only [Nested, Supported, hnest, Option.some.injEq, forall_eq', Option.some_beq_some]
        rw [haround.attached_iff h hasks hnest hnodup, ← and_assoc]
        refine and_congr_right fun hfollows => ?_
        exact ih (h.addNode sha256 hroom hasks hnest hfollows) hrest hnodup

theorem nested_map_bare {nodes : List ConfigNode} {blocks : OpenBlocks}
    {statements : List (Nat × Option Keyword)} :
    Nested (nodes.map bare) blocks statements ↔ Nested nodes blocks statements := by
  have hattached : ∀ blocks line,
      Attached (nodes.map bare) blocks line ↔ Attached nodes blocks line := by
    intro blocks line
    have hexists : ∀ p : ConfigNode → Prop,
        (∃ node ∈ nodes.map bare, p node) ↔ ∃ node ∈ nodes, p (bare node) := by simp
    unfold Attached
    cases blocks <;> simp only [List.forall_mem_map, hexists] <;> exact Iff.rfl
  induction statements generalizing blocks with
  | nil => exact Iff.rfl
  | cons statement rest ih => simp only [Nested, hattached, ih]

theorem agrees_start (source : ArtifactProvenance) :
    Agrees [] false 1 {} { readerId, source, maxDepth, maxNodes } := by
  refine ⟨.top 0 0, List.pairwise_singleton _ _, ⟨rfl, ?_, ?_⟩, fun _ => ⟨[], [], rfl, ?_, trivial⟩⟩
  all_goals
    intro d hd
    cases hd

end Run

/-- The node of every statement of a well-nested program has the innermost open block as its
parent exactly when the reader's counters can follow the program. -/
theorem parse_nested_iff (sha256 : String → String) (request : StructuralParseRequest)
    (hwell : WellNested [] (readProgram request))
    (hhash : HashesApart sha256 "irn_" (identityOf readerId) (parse sha256 request).nodes) :
    Nested (parse sha256 request).nodes [] (readProgram request) ↔
      Supported [] false ((readProgram request).take FortiosCli.maxNodes) := by
  have hnodup := (parse_wellFormed hhash).nodup
  have hprogram : readProgram request = program (((Text.lines (request.content.toList.take
      maxInputCharacters)).take maxSourceLines).map (Text.rstripChars ['\r', '\n'])) 1 := by
    rw [List.map_take]
    rfl
  rw [hprogram] at hwell ⊢
  have hiff := @readLines_nested_iff sha256 _ _ _ _ _ _ (agrees_start request.source) hwell (by
    rw [List.map_map]
    simpa [parse, IRBuilder.build, Function.comp_def, bare] using hnodup)
  rw [show (fun d : NodeDraft => bare d.node) = bare ∘ (·.node) from rfl, ← List.map_map,
    nested_map_bare] at hiff
  exact hiff

/-! ## A block in an entry -/

instance decidableAttached (nodes : List ConfigNode) (blocks : OpenBlocks) (line : Nat) :
    Decidable (Attached nodes blocks line) :=
  match blocks with
  | [] => inferInstanceAs (Decidable
      (∀ node ∈ nodes, node.sourceStart = line → node.parentId = none))
  | (_, opened) :: _ => inferInstanceAs (Decidable
      (∀ node ∈ nodes, node.sourceStart = line →
        ∃ parent ∈ nodes, parent.sourceStart = opened ∧ node.parentId = some parent.nodeId))

instance decidableWellNested : ∀ blocks statements, Decidable (WellNested blocks statements)
  | _, [] => isTrue trivial
  | blocks, (line, keyword) :: rest =>
    have : ∀ blocks', Decidable (WellNested blocks' rest) := fun blocks' =>
      decidableWellNested blocks' rest
    inferInstanceAs (Decidable (∃ blocks' ∈ nest blocks line keyword, WellNested blocks' rest))

instance decidableNested (nodes : List ConfigNode) :
    ∀ blocks statements, Decidable (Nested nodes blocks statements)
  | _, [] => isTrue trivial
  | blocks, (line, keyword) :: rest =>
    have : ∀ blocks', Decidable (Nested nodes blocks' rest) := fun blocks' =>
      decidableNested nodes blocks' rest
    inferInstanceAs (Decidable ((placed keyword = true → Attached nodes blocks line) ∧
      ∀ blocks' ∈ nest blocks line keyword, Nested nodes blocks' rest))

instance decidableSupported :
    ∀ blocks closed statements, Decidable (Supported blocks closed statements)
  | _, _, [] => isTrue trivial
  | blocks, closed, (line, keyword) :: rest =>
    have : ∀ blocks', Decidable (Supported blocks'
        (keyword == some .finish && !blocks'.isEmpty) rest) := fun blocks' =>
      decidableSupported blocks' _ rest
    inferInstanceAs (Decidable ((closed = true → keyword = some .finish) ∧
      (keyword = some .config → blocks.length ≤ 1) ∧ ∀ blocks' ∈ nest blocks line keyword,
        Supported blocks' (keyword == some .finish && !blocks'.isEmpty) rest))

def source : ArtifactProvenance :=
  { artifactId := UUID.ofNat 1, snapshotId := none, sourceLabel := "fortios.conf" }

def ntpRequest : StructuralParseRequest :=
  { content := "config ntpserver\n edit 1\n  set server ntp1\n next\nend\n", source }

def ntpSha256 : String → String := tabulated
  [("00000000-0000-0000-0000-000000000001\x1ffortios_cli.v1\x1f1\x1f1\x1f1\x1f" ++
      "root\x1fconfig ntpserver",
      "e082072ecf6220ea033dc3f1002375d15a61a185474096249560f6a8614e6be6"),
    ("00000000-0000-0000-0000-000000000001\x1ffortios_cli.v1\x1f2\x1f2\x1f2\x1f" ++
      "irn_e082072ecf6220ea033dc3f1002375d1\x1f edit 1",
      "32e77d341656fec7ff097f5a580458d7bb8b9680561bb43d6de46bf8113add7c"),
    ("00000000-0000-0000-0000-000000000001\x1ffortios_cli.v1\x1f3\x1f3\x1f3\x1f" ++
      "irn_32e77d341656fec7ff097f5a580458d7\x1f  set server ntp1",
      "7e22f0e56919b0e2adc1219bd08983b396f5603c82a38601b0c7b8f7bce2345d"),
    ("00000000-0000-0000-0000-000000000001\x1ffortios_cli.v1\x1f4\x1f4\x1f4\x1f" ++
      "irn_e082072ecf6220ea033dc3f1002375d1\x1f next",
      "f66c489adb5c646080063bd7dc3a603299c8bf60ec4297c6543ac3602c6c8ee7"),
    ("00000000-0000-0000-0000-000000000001\x1ffortios_cli.v1\x1f5\x1f5\x1f5\x1f" ++
      "root\x1fend",
      "3b0256cc72e487204b9c3c5054eb787d7109ca0b225dee56baab975be0fd7935")]

theorem parse_nested_ntp :
    Nested (parse ntpSha256 ntpRequest).nodes [] (readProgram ntpRequest) :=
  (parse_nested_iff ntpSha256 ntpRequest (by decide +kernel)
    (hashesApart_of_nodup (by decide +kernel))).mpr (by decide +kernel)

/-- A block in an entry, and a setting of the entry after it. -/
def interfaceRequest : StructuralParseRequest :=
  { content := "config system interface\n edit port1\n  config ipv6\n  end\n" ++
      "  set vdom root\n next\nend\n", source }

def interfaceSha256 : String → String := tabulated
  [("00000000-0000-0000-0000-000000000001\x1ffortios_cli.v1\x1f1\x1f1\x1f1\x1f" ++
      "root\x1fconfig system interface",
      "738b066151184f50fe821832415e9aea436dbe5925dd60d58138526346ba7f6e"),
    ("00000000-0000-0000-0000-000000000001\x1ffortios_cli.v1\x1f2\x1f2\x1f2\x1f" ++
      "irn_738b066151184f50fe821832415e9aea\x1f edit port1",
      "fc09bcad4c9e4e0fc8e5c53682e1e5687573284f0bf46c21def969b4a7dac78c"),
    ("00000000-0000-0000-0000-000000000001\x1ffortios_cli.v1\x1f3\x1f3\x1f3\x1f" ++
      "irn_738b066151184f50fe821832415e9aea\x1f  config ipv6",
      "d0cff04ea3b60176f7c2fed876e61b15d8bd4b416783bf6a54afb651bd1c36b7"),
    ("00000000-0000-0000-0000-000000000001\x1ffortios_cli.v1\x1f4\x1f4\x1f4\x1f" ++
      "root\x1f  end",
      "41c5fbf332c8080044bf51bbba3f1b960e291b6b5dc8259ea8ddc4a7d842dd95"),
    ("00000000-0000-0000-0000-000000000001\x1ffortios_cli.v1\x1f5\x1f5\x1f5\x1f" ++
      "root\x1f  set vdom root",
      "94af49243a483dc4d20e4570c27ff39af6208e270f6752f48eeb87b5e807616a"),
    ("00000000-0000-0000-0000-000000000001\x1ffortios_cli.v1\x1f6\x1f6\x1f6\x1f" ++
      "root\x1f next",
      "332684ae5bd912d03bae91bc55d6a1bfeb52c2dd3dfc0ecb33be1e5fa86d3a76"),
    ("00000000-0000-0000-0000-000000000001\x1ffortios_cli.v1\x1f7\x1f7\x1f7\x1f" ++
      "root\x1fend",
      "d916932c062fd75fab3009643c526a5deabe2c2ce24f169752889d11ee0153c6")]

/-- The block of the entry becomes a block of the configuration around it, and the setting after
it loses its parent. -/
theorem interface_not_nested :
    WellNested [] (readProgram interfaceRequest) ∧
      HashesApart interfaceSha256 "irn_" (identityOf readerId)
        (parse interfaceSha256 interfaceRequest).nodes ∧
      ¬Nested (parse interfaceSha256 interfaceRequest).nodes [] (readProgram interfaceRequest) :=
  ⟨by decide +kernel, hashesApart_of_nodup (by decide +kernel), by decide +kernel⟩

end ConfigAuditor.Parsing.FortiosNesting
