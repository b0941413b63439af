import ConfigAuditor.Training.Publication

/-!
# The review of unresolved blocks

`update_review_status` consults a table of the allowed moves. `create_mapping` and
`publish_mapping` write the status of a block without it. Over any sequence of transactions the
reviews go along the allowed moves when no mapping is created for a block that is decided and no
mapping is published whose block was dismissed.
-/
namespace ConfigAuditor.Training.ReviewStatus

open Library Dsl Service

/-- The table of `update_review_status`. -/
def allowedStatus : UnresolvedReviewStatus → List UnresolvedReviewStatus
  | .openReview => [.underReview, .dismissed, .notActionable]
  | .underReview => [.dismissed, .notActionable]
  | .mapped | .dismissed | .notActionable => []

def asReviewed (status : UnresolvedReviewStatus) (block : ReviewBlock) : ReviewBlock :=
  { block with reviewStatus := status }

/-- `update_review_status`. -/
def updateReviewStatus (db : Database) (user : User) (blockId : UUID)
    (status : UnresolvedReviewStatus) : Except TrainingError Database :=
  match db.unresolvedById blockId user.organizationId with
  | none => .error (.notFound "Unresolved block not found")
  | some block =>
    if (allowedStatus block.reviewStatus).contains status then
      .ok { db with blocks :=
        Table.modify ReviewBlock.unresolvedBlockId db.blocks blockId (asReviewed status) }
    else .error (.conflict "Unresolved review transition is not allowed")

/-- A reviewer's decision, or a transaction on mappings. -/
inductive ReviewEvent where
  | review (user : User) (blockId : UUID) (status : UnresolvedReviewStatus)
  | workflow (event : Lifecycle.Event)

section Machine

variable (uuid5 : UUID → String → UUID) (sha256 : String → String)
  (manifestJson : List String → String)

def transact (db : Database) : ReviewEvent → Except TrainingError Database
  | .review user blockId status => updateReviewStatus db user blockId status
  | .workflow event => Lifecycle.transact uuid5 sha256 manifestJson db event

/-- A transaction that raises leaves the database as it is. -/
def step (db : Database) (event : ReviewEvent) : Database :=
  match transact uuid5 sha256 manifestJson db event with
  | .ok db' => db'
  | .error _ => db

/-- The database after a sequence of transactions. -/
def run : Database → List ReviewEvent → Database := Runs.run (step uuid5 sha256 manifestJson)

end Machine

/-- No move leads out of the status. -/
def isFinal (status : UnresolvedReviewStatus) : Bool :=
  status == .mapped || status == .dismissed || status == .notActionable

/-- One move of a review at most. -/
inductive Move (block : ReviewBlock) : ReviewEvent → UnresolvedReviewStatus → Prop
  | stay (event : ReviewEvent) : Move block event block.reviewStatus
  | take (event : ReviewEvent) (h : block.reviewStatus = .openReview) : Move block event .underReview
  | dismiss (event : ReviewEvent)
    (h : block.reviewStatus = .openReview ∨ block.reviewStatus = .underReview) :
    Move block event .dismissed
  | setAside (event : ReviewEvent)
    (h : block.reviewStatus = .openReview ∨ block.reviewStatus = .underReview) :
    Move block event .notActionable
  /-- By the publication of the mapping that is assigned to the block. -/
  | map {env : Environment} {user : User} {mappingVersionId packId packVersionId : UUID}
    (h : block.reviewStatus = .underReview)
    (hassigned : block.assignedMappingVersionId = some mappingVersionId) :
    Move block (.workflow (.publish env user mappingVersionId packId packVersionId)) .mapped

/-- A block before and after a transaction. -/
structure BlockStep (event : ReviewEvent) (block block' : ReviewBlock) : Prop where
  id : block'.unresolvedBlockId = block.unresolvedBlockId
  move : Move block event block'.reviewStatus

/-- Every block goes one move. -/
def BlocksStep (event : ReviewEvent) (db db' : Database) : Prop :=
  List.Forall₂ (BlockStep event) db.blocks db'.blocks

/-- A block after some transactions; a decision is kept. -/
structure Kept (block block' : ReviewBlock) : Prop where
  id : block'.unresolvedBlockId = block.unresolvedBlockId
  final : isFinal block.reviewStatus = true → block'.reviewStatus = block.reviewStatus

/-- Blocks as interpretation stores them. -/
structure Unreviewed (db : Database) : Prop where
  keys : (db.blocks.map (·.unresolvedBlockId)).Nodup
  unreviewed : ∀ block ∈ db.blocks, block.reviewStatus = .openReview ∧
    block.assignedMappingVersionId = none

/-- The block ids are a primary key, and a block with a mapping is no longer open. -/
structure Reviewable (db : Database) : Prop where
  keys : (db.blocks.map (·.unresolvedBlockId)).Nodup
  assigned : ∀ block ∈ db.blocks, block.assignedMappingVersionId.isSome = true →
    block.reviewStatus ≠ .openReview

/-- A mapping is not created for a decided block, and not published for a dismissed one. -/
def Respectful (db : Database) : ReviewEvent → Prop
  | .workflow (.create user input) => ∀ block ∈ db.blocks,
    input.unresolvedBlockId = some block.unresolvedBlockId →
    block.organizationId = user.organizationId → isFinal block.reviewStatus = false
  | .workflow (.publish _ user mappingVersionId _ _) => ∀ block ∈ db.blocks,
    block.organizationId = user.organizationId →
    block.assignedMappingVersionId = some mappingVersionId →
    block.reviewStatus ≠ .dismissed ∧ block.reviewStatus ≠ .notActionable
  | _ => True

section Blocks

variable {uuid5 : UUID → String → UUID} {sha256 : String → String}
  {manifestJson : List String → String} {env : Environment} {db db' : Database} {user : User}
  {event : ReviewEvent} {block block' : ReviewBlock}

theorem Move.kept {status : UnresolvedReviewStatus} (h : Move block event status)
    (hfinal : isFinal block.reviewStatus = true) : status = block.reviewStatus := by
  cases h with
  | stay => rfl
  | take _ hopen =>
    rw [hopen] at hfinal
    cases hfinal
  | dismiss _ hbefore | setAside _ hbefore =>
    obtain hopen | hunder := hbefore
    · rw [hopen] at hfinal
      cases hfinal
    · rw [hunder] at hfinal
      cases hfinal
  | map hunder =>
    rw [hunder] at hfinal
    cases hfinal

theorem unresolvedById_eq_some {blockId organizationId : UUID}
    (h : db.unresolvedById blockId organizationId = some block) :
    block ∈ db.blocks ∧ block.unresolvedBlockId = blockId ∧
      block.organizationId = organizationId := by
  obtain ⟨hfind, horganization⟩ := Option.filter_eq_some_iff.mp h
  obtain ⟨hmem, hid⟩ := Table.find?_eq_some hfind
  exact ⟨hmem, hid, by simpa using horganization⟩

theorem blocksStep_same (event : ReviewEvent) (h : db'.blocks = db.blocks) :
    BlocksStep event db db' := by
  unfold BlocksStep
  rw [h, List.forall₂_same]
  exact fun block _ => ⟨rfl, .stay event⟩

theorem blocksStep_map {f : ReviewBlock → ReviewBlock}
    (h : ∀ block ∈ db.blocks, BlockStep event block (f block))
    (hblocks : db'.blocks = db.blocks.map f) : BlocksStep event db db' := by
  unfold BlocksStep
  rw [hblocks, List.forall₂_map_right_iff, List.forall₂_same]
  exact h

/-- An update of the block with an id, found by that id. -/
theorem blocksStep_modify {blockId : UUID} {f : ReviewBlock → ReviewBlock}
    (hkeys : (db.blocks.map (·.unresolvedBlockId)).Nodup) (hmem : block ∈ db.blocks)
    (hid : block.unresolvedBlockId = blockId) (h : BlockStep event block (f block))
    (hblocks : db'.blocks = Table.modify ReviewBlock.unresolvedBlockId db.blocks blockId f) :
    BlocksStep event db db' := by
  refine blocksStep_map (fun other hother => ?_) hblocks
  by_cases hsame : other.unresolvedBlockId = blockId
  · obtain rfl := Table.eq_of_key hkeys hother hmem (hsame.trans hid.symm)
    rw [if_pos hsame]
    exact h
  · rw [if_neg hsame]
    exact ⟨rfl, .stay event⟩

theorem newMapping_blocks {input : NewMapping} (h : newMapping db user input = .ok db') :
    db'.blocks = db.blocks := by
  obtain ⟨rfl, -, -⟩ := Lifecycle.newMapping_spec h
  rfl

/-- The block as a mapping is drafted for it. -/
def asAssigned (mappingVersionId : UUID) (block : ReviewBlock) : ReviewBlock :=
  { block with reviewStatus := .underReview, assignedMappingVersionId := some mappingVersionId }

/-- A mapping is assigned to a block of the organization, if to any. -/
theorem createMapping_blocks {input : CreateInput} (h : createMapping db user input = .ok db') :
    db'.blocks = db.blocks ∨ ∃ block ∈ db.blocks,
      input.unresolvedBlockId = some block.unresolvedBlockId ∧
      block.organizationId = user.organizationId ∧
      db'.blocks = Table.modify ReviewBlock.unresolvedBlockId db.blocks block.unresolvedBlockId
        (asAssigned input.mappingVersionId) := by
  unfold createMapping at h
  obtain ⟨new, -, h⟩ := except_bind_eq_ok.mp h
  obtain ⟨drafted, hdrafted, h⟩ := except_bind_eq_ok.mp h
  have hblocks := newMapping_blocks hdrafted
  cases hinput : input.unresolvedBlockId with
  | none =>
    rw [hinput] at h
    obtain rfl := except_pure_eq_ok.mp h
    exact .inl hblocks
  | some blockId =>
    rw [hinput] at h
    cases hfind : drafted.unresolvedById blockId user.organizationId with
    | none =>
      simp only [hfind] at h
      cases h
    | some block =>
      simp only [hfind] at h
      obtain rfl := except_pure_eq_ok.mp h
      obtain ⟨hmem, rfl, horganization⟩ := unresolvedById_eq_some hfind
      rw [hblocks] at hmem
      refine .inr ⟨block, hmem, rfl, horganization, ?_⟩
      rw [← hblocks]
      rfl

/-- A suggestion is adopted for an unassigned block that is not decided. -/
theorem adoptSuggestion_blocks {blockId mappingVersionId mappingId : UUID} {token : String}
    (h : adoptSuggestion env db user blockId token mappingVersionId mappingId = .ok db') :
    ∃ block ∈ db.blocks, block.unresolvedBlockId = blockId ∧
      (block.reviewStatus = .openReview ∨ block.reviewStatus = .underReview) ∧
      db'.blocks = Table.modify ReviewBlock.unresolvedBlockId db.blocks blockId
        (asAssigned mappingVersionId) := by
  unfold adoptSuggestion at h
  obtain ⟨_, -, h⟩ := except_bind_eq_ok.mp h
  split at h
  · cases h
  next block hfind =>
  split at h
  · obtain ⟨suggestion, -, h⟩ := except_bind_eq_ok.mp h
    obtain ⟨_, hactionable, h⟩ := except_bind_eq_ok.mp h
    obtain ⟨drafted, hdrafted, h⟩ := except_bind_eq_ok.mp h
    obtain rfl := except_pure_eq_ok.mp h
    obtain ⟨hmem, hid, -⟩ := unresolvedById_eq_some hfind
    refine ⟨block, hmem, hid, ?_, ?_⟩
    · simp only [refuseIf_eq_ok, Bool.or_eq_false_iff, Bool.and_eq_false_iff,
        bne_eq_false_iff_eq] at hactionable
      exact hactionable.2
    · rw [← newMapping_blocks hdrafted]
      rfl
  · cases h
  · cases h

theorem supersedePrevious_blocks (db : Database) (organizationId mappingId : UUID) :
    (supersedePrevious db organizationId mappingId).blocks = db.blocks := by
  unfold supersedePrevious
  split <;> rfl

/-- The blocks a mapping is assigned to are marked at its publication. -/
theorem publishMapping_blocks {mappingVersionId packId packVersionId : UUID}
    (h : publishMapping sha256 manifestJson env db user mappingVersionId packId packVersionId =
      .ok db') :
    db'.blocks = (markMapped db user.organizationId mappingVersionId).blocks := by
  unfold publishMapping at h
  simp only [except_bind_eq_ok, refuseIf_eq_ok] at h
  obtain ⟨_, -, mapping, -, _, -, _, -, _, -, _, -, _, -, ⟨packed, pack⟩, hpack, h⟩ := h
  obtain ⟨hpacked, -⟩ := Lifecycle.packFor_spec hpack
  have hblocks : packed.blocks = db.blocks := by rw [hpacked]
  split at h
  · cases h
  · obtain rfl := except_pure_eq_ok.mp h
    unfold markMapped Database.modifyMapping
    dsimp only
    rw [supersedePrevious_blocks, hblocks]

/-- An edit, a validation or a decision leaves the blocks alone. -/
def LeavesBlocks : Lifecycle.Event → Prop
  | .create _ _ | .adopt _ _ _ _ _ _ | .publish _ _ _ _ _ => False
  | _ => True

theorem transact_blocks {event : Lifecycle.Event}
    (h : transact uuid5 sha256 manifestJson db (.workflow event) = .ok db')
    (hother : LeavesBlocks event) :
    db'.blocks = db.blocks := by
  cases event with
  | create | adopt | publish => exact hother.elim
  | update =>
    simp only [transact, Lifecycle.transact, updateMapping, except_bind_eq_ok, except_pure_eq_ok] at h
    obtain ⟨mapping, -, _, -, rfl⟩ := h
    rfl
  | requestValidation =>
    simp only [transact, Lifecycle.transact, requestValidation, except_bind_eq_ok] at h
    obtain ⟨mapping, -, _, -, _, -, _, -, _, -, h⟩ := h
    split at h
    · cases h
    · obtain rfl := except_pure_eq_ok.mp h
      rfl
  | executeValidation =>
    simp only [transact, Lifecycle.transact, executeValidation] at h
    split at h
    · simp only [except_bind_eq_ok, except_pure_eq_ok] at h
      obtain ⟨_, -, results, -, rfl⟩ := h
      rfl
    · cases h
  | approve =>
    simp only [transact, Lifecycle.transact, approveMapping, except_bind_eq_ok, except_pure_eq_ok] at h
    obtain ⟨_, -, mapping, -, _, -, _, -, _, -, rfl⟩ := h
    rfl
  | reject =>
    simp only [transact, Lifecycle.transact, rejectMapping, except_bind_eq_ok, except_pure_eq_ok] at h
    obtain ⟨_, -, mapping, -, _, -, rfl⟩ := h
    rfl

theorem updateReviewStatus_blocks {blockId : UUID} {status : UnresolvedReviewStatus}
    (h : updateReviewStatus db user blockId status = .ok db') :
    ∃ block ∈ db.blocks, block.unresolvedBlockId = blockId ∧
      status ∈ allowedStatus block.reviewStatus ∧
      db'.blocks = Table.modify ReviewBlock.unresolvedBlockId db.blocks blockId
        (asReviewed status) := by
  unfold updateReviewStatus at h
  split at h
  · cases h
  · next block hfind =>
    obtain ⟨hmem, hid, -⟩ := unresolvedById_eq_some hfind
    split at h
    · next hallowed =>
      obtain rfl := Except.ok.inj h
      exact ⟨block, hmem, hid, List.contains_iff_mem.mp hallowed, rfl⟩
    · cases h

/-- The table allows moves only. -/
theorem move_of_allowed {status : UnresolvedReviewStatus}
    (h : status ∈ allowedStatus block.reviewStatus) : Move block event status := by
  cases hstatus : block.reviewStatus with
  | openReview =>
    simp only [hstatus, allowedStatus, List.mem_cons, List.not_mem_nil, or_false] at h
    obtain rfl | rfl | rfl := h
    · exact .take event hstatus
    · exact .dismiss event (.inl hstatus)
    · exact .setAside event (.inl hstatus)
  | underReview =>
    simp only [hstatus, allowedStatus, List.mem_cons, List.not_mem_nil, or_false] at h
    obtain rfl | rfl := h
    · exact .dismiss event (.inr hstatus)
    · exact .setAside event (.inr hstatus)
  | mapped | dismissed | notActionable =>
    rw [hstatus] at h
    cases h

theorem isFinal_eq_false {status : UnresolvedReviewStatus} :
    isFinal status = false ↔ status = .openReview ∨ status = .underReview := by
  cases status <;> decide

/-- A block that is not decided is taken for a mapping. -/
theorem move_underReview (h : isFinal block.reviewStatus = false) :
    Move block event .underReview := by
  obtain hopen | hunder := isFinal_eq_false.mp h
  · exact .take event hopen
  · rw [← hunder]
    exact .stay event

/-- A publication moves the blocks under review that have the mapping. -/
theorem publish_move (hdb : Reviewable db) {mappingVersionId packId packVersionId : UUID}
    (hrespect : Respectful db (.workflow (.publish env user mappingVersionId packId packVersionId)))
    (hmem : block ∈ db.blocks) (horganization : block.organizationId = user.organizationId)
    (hassigned : block.assignedMappingVersionId = some mappingVersionId) :
    Move block (.workflow (.publish env user mappingVersionId packId packVersionId)) .mapped := by
  have hopen : block.reviewStatus ≠ .openReview :=
    hdb.assigned block hmem (by rw [hassigned]; rfl)
  obtain ⟨hdismissed, hactionable⟩ := hrespect block hmem horganization hassigned
  cases hstatus : block.reviewStatus with
  | openReview => exact absurd hstatus hopen
  | underReview => exact .map hstatus hassigned
  | mapped =>
    rw [← hstatus]
    exact .stay _
  | dismissed => exact absurd hstatus hdismissed
  | notActionable => exact absurd hstatus hactionable

theorem transact_blocksStep (hdb : Reviewable db) (hrespect : Respectful db event)
    (h : transact uuid5 sha256 manifestJson db event = .ok db') : BlocksStep event db db' := by
  cases event with
  | review user blockId status =>
    obtain ⟨block, hmem, hid, hallowed, hblocks⟩ := updateReviewStatus_blocks h
    exact blocksStep_modify hdb.keys hmem hid ⟨rfl, move_of_allowed hallowed⟩ hblocks
  | workflow event =>
    cases event with
    | create user input =>
      obtain hblocks | ⟨block, hmem, hinput, horganization, hblocks⟩ := createMapping_blocks h
      · exact blocksStep_same _ hblocks
      · have hopen := hrespect block hmem hinput horganization
        exact blocksStep_modify hdb.keys hmem rfl ⟨rfl, move_underReview hopen⟩ hblocks
    | adopt =>
      obtain ⟨block, hmem, hid, hstatus, hblocks⟩ := adoptSuggestion_blocks h
      have hopen := isFinal_eq_false.mpr hstatus
      exact blocksStep_modify hdb.keys hmem hid ⟨rfl, move_underReview hopen⟩ hblocks
    | publish env user mappingVersionId packId packVersionId =>
      refine blocksStep_map (fun block hmem => ?_) (publishMapping_blocks h)
      split
      · next hassigned =>
        exact ⟨rfl, publish_move hdb hrespect hmem hassigned.1 hassigned.2⟩
      · exact ⟨rfl, .stay _⟩
    | update | requestValidation | executeValidation | approve | reject =>
      exact blocksStep_same _ (transact_blocks h trivial)

/-- The block ids stay, and a block with a mapping is not opened again. -/
theorem reviewable_map {f : ReviewBlock → ReviewBlock} (hdb : Reviewable db)
    (hblocks : db'.blocks = db.blocks.map f)
    (hid : ∀ block, (f block).unresolvedBlockId = block.unresolvedBlockId)
    (hopen : ∀ block ∈ db.blocks, f block = block ∨ (f block).reviewStatus ≠ .openReview) :
    Reviewable db' where
  keys := by
    rw [hblocks, Table.map_keys fun block _ => hid block]
    exact hdb.keys
  assigned := by
    rw [hblocks, List.forall_mem_map]
    intro block hmem hassigned
    obtain hsame | hne := hopen block hmem
    · rw [hsame] at hassigned ⊢
      exact hdb.assigned block hmem hassigned
    · exact hne

theorem reviewable_modify {blockId : UUID} {f : ReviewBlock → ReviewBlock} (hdb : Reviewable db)
    (hblocks : db'.blocks = Table.modify ReviewBlock.unresolvedBlockId db.blocks blockId f)
    (hid : ∀ block, (f block).unresolvedBlockId = block.unresolvedBlockId)
    (hopen : ∀ block, (f block).reviewStatus ≠ .openReview) : Reviewable db' := by
  refine reviewable_map hdb hblocks (fun block => ?_) (fun block _ => ?_)
  · split
    · exact hid block
    · rfl
  · split
    · exact .inr (hopen block)
    · exact .inl rfl

theorem not_open_of_allowed {status : UnresolvedReviewStatus}
    (h : status ∈ allowedStatus block.reviewStatus) : status ≠ .openReview := by
  rintro rfl
  cases hstatus : block.reviewStatus <;> simp [hstatus, allowedStatus] at h

theorem transact_reviewable (hdb : Reviewable db)
    (h : transact uuid5 sha256 manifestJson db event = .ok db') : Reviewable db' := by
  have hsame : db'.blocks = db.blocks → Reviewable db' := by
    intro hblocks
    exact ⟨hblocks ▸ hdb.keys, hblocks ▸ hdb.assigned⟩
  cases event with
  | review user blockId status =>
    obtain ⟨block, -, -, hallowed, hblocks⟩ := updateReviewStatus_blocks h
    exact reviewable_modify hdb hblocks (fun _ => rfl) fun _ => not_open_of_allowed hallowed
  | workflow event =>
    cases event with
    | create user input =>
      obtain hblocks | ⟨block, -, -, -, hblocks⟩ := createMapping_blocks h
      · exact hsame hblocks
      · exact reviewable_modify hdb hblocks (fun _ => rfl) fun _ => nofun
    | adopt =>
      obtain ⟨block, -, -, -, hblocks⟩ := adoptSuggestion_blocks h
      exact reviewable_modify hdb hblocks (fun _ => rfl) fun _ => nofun
    | publish =>
      refine reviewable_map hdb (publishMapping_blocks h) (fun block => ?_) (fun block _ => ?_)
      · split <;> rfl
      · split
        · exact .inr nofun
        · exact .inl rfl
    | update | requestValidation | executeValidation | approve | reject =>
      exact hsame (transact_blocks h trivial)

/-- Every transaction, also one that is rolled back. -/
theorem step_reviewable (hdb : Reviewable db) (event : ReviewEvent) :
    Reviewable (step uuid5 sha256 manifestJson db event) := by
  unfold step
  split
  · next h => exact transact_reviewable hdb h
  · exact hdb

theorem step_blocksStep (hdb : Reviewable db) (hrespect : Respectful db event) :
    BlocksStep event db (step uuid5 sha256 manifestJson db event) := by
  unfold step
  split
  · next h => exact transact_blocksStep hdb hrespect h
  · exact blocksStep_same event rfl

end Blocks

section Runs

variable (uuid5 : UUID → String → UUID) (sha256 : String → String)
  (manifestJson : List String → String)

/-- Along a run every transaction moves every block one move at most, and decisions are kept to
the end. -/
structure DecisionsFinal (db : Database) (events : List ReviewEvent) : Prop where
  moves : ∀ first event rest, events = first ++ event :: rest →
    BlocksStep event (run uuid5 sha256 manifestJson db first)
      (run uuid5 sha256 manifestJson db (first ++ [event]))
  kept : ∀ first rest, events = first ++ rest →
    List.Forall₂ Kept (run uuid5 sha256 manifestJson db first).blocks
      (run uuid5 sha256 manifestJson db events).blocks

variable {uuid5 sha256 manifestJson} {db : Database}

theorem run_reviewable (hdb : Reviewable db) (events : List ReviewEvent) :
    Reviewable (run uuid5 sha256 manifestJson db events) := by
  have hstep : ∀ db event, Reviewable db → Reviewable (step uuid5 sha256 manifestJson db event) :=
    fun _ event h => step_reviewable h event
  exact Runs.run_invariant hstep hdb events

theorem Kept.trans {a b c : ReviewBlock} (hab : Kept a b) (hbc : Kept b c) : Kept a c where
  id := hbc.id.trans hab.id
  final h := by
    have hb := hab.final h
    rw [← hb] at h ⊢
    exact hbc.final h

theorem forall₂_kept_trans {a b c : List ReviewBlock} (hab : List.Forall₂ Kept a b)
    (hbc : List.Forall₂ Kept b c) : List.Forall₂ Kept a c := by
  induction hab generalizing c with
  | nil => exact hbc
  | cons hhead _ ih =>
    cases hbc with
    | cons hhead' htail => exact .cons (hhead.trans hhead') (ih htail)

/-- Where every step goes moves, the decisions of the start are kept. -/
theorem run_kept (events : List ReviewEvent)
    (hmoves : ∀ first event rest, events = first ++ event :: rest →
      BlocksStep event (run uuid5 sha256 manifestJson db first)
        (run uuid5 sha256 manifestJson db (first ++ [event]))) :
    List.Forall₂ Kept db.blocks (run uuid5 sha256 manifestJson db events).blocks := by
  induction events generalizing db with
  | nil => exact List.forall₂_same.mpr fun block _ => ⟨rfl, fun _ => rfl⟩
  | cons event rest ih =>
    have hfirst : List.Forall₂ Kept db.blocks (step uuid5 sha256 manifestJson db event).blocks :=
      (hmoves [] event rest rfl).imp fun _ _ h => ⟨h.id, h.move.kept⟩
    refine forall₂_kept_trans hfirst (ih fun first next rest' hrest => ?_)
    exact hmoves (event :: first) next rest' (congrArg (event :: ·) hrest)

/-- In every run from unreviewed blocks whose steps create no mapping for a decided block and
publish none for a dismissed one, the reviews go along the allowed moves and stay decided. -/
theorem decisions_final (db : Database) (hdb : Unreviewed db) (events : List ReviewEvent)
    (hrespect : ∀ first event rest, events = first ++ event :: rest →
      Respectful (run uuid5 sha256 manifestJson db first) event) :
    DecisionsFinal uuid5 sha256 manifestJson db events := by
  have hstart : Reviewable db := by
    refine ⟨hdb.keys, fun block hmem hassigned => ?_⟩
    rw [(hdb.unreviewed block hmem).2] at hassigned
    cases hassigned
  have hmoves : ∀ first event rest, events = first ++ event :: rest →
      BlocksStep event (run uuid5 sha256 manifestJson db first)
        (run uuid5 sha256 manifestJson db (first ++ [event])) := by
    intro first event rest hevents
    have hstep : run uuid5 sha256 manifestJson db (first ++ [event]) =
        step uuid5 sha256 manifestJson (run uuid5 sha256 manifestJson db first) event :=
      Runs.run_append _ db first [event]
    rw [hstep]
    exact step_blocksStep (run_reviewable hstart first) (hrespect first event rest hevents)
  refine ⟨hmoves, fun first rest hevents => ?_⟩
  rw [hevents]
  have happend : run uuid5 sha256 manifestJson db (first ++ rest) =
      run uuid5 sha256 manifestJson (run uuid5 sha256 manifestJson db first) rest :=
    Runs.run_append _ db first rest
  rw [happend]
  refine run_kept rest fun before event after hrest => ?_
  have hmove := hmoves (first ++ before) event after (by rw [hevents, hrest, List.append_assoc])
  rw [List.append_assoc] at hmove
  have hbefore : ∀ more, run uuid5 sha256 manifestJson db (first ++ more) =
      run uuid5 sha256 manifestJson (run uuid5 sha256 manifestJson db first) more :=
    Runs.run_append _ db first
  rw [← hbefore, ← hbefore]
  exact hmove

end Runs

def ntpBlock : ReviewBlock :=
  { unresolvedBlockId := Publication.drawnId 9,
    organizationId := Publication.acmeAdmin.organizationId,
    profileVersionId := some "acme@1.0.0", fingerprint := "9c1185a5c5e9fc54" }

/-- A mapping that is drafted for the block. -/
def ntpDraft : CreateInput :=
  { Publication.acmeInput Publication.ntpDefinition with
    unresolvedBlockId := some ntpBlock.unresolvedBlockId }

def draftEvent : ReviewEvent := .workflow (.create Publication.acmeAdmin ntpDraft)

def dismissEvent : ReviewEvent :=
  .review Publication.acmeAdmin ntpBlock.unresolvedBlockId .dismissed

theorem unreviewed_ntp : Unreviewed (.untrained [ntpBlock]) where
  keys := List.nodup_singleton _
  unreviewed := by
    intro block hmem
    rw [List.mem_singleton.mp hmem]
    exact ⟨rfl, rfl⟩

/-- The draft is validated and approved. -/
def approvalEvents : List ReviewEvent :=
  [.workflow (.requestValidation (Publication.acmeEnvironment 0) Publication.acmeAdmin
      (Publication.drawnId 3) (Publication.drawnId 5) none none),
    .workflow (.executeValidation (Publication.acmeEnvironment 0) (Publication.drawnId 5)
      (Publication.drawnId 3) Publication.acmeAdmin.organizationId),
    .workflow (.approve (Publication.acmeEnvironment 0) Publication.acmeAdmin
      (Publication.drawnId 3))]

def publishEvent : ReviewEvent :=
  .workflow (.publish (Publication.acmeEnvironment 0) Publication.acmeAdmin
    (Publication.drawnId 3) (Publication.drawnId 6) (Publication.drawnId 7))

def assignedBlock : ReviewBlock := asAssigned (Publication.drawnId 3) ntpBlock

section Mapped

variable {uuid5 : UUID → String → UUID} {sha256 : String → String}
  {manifestJson : List String → String}

theorem run_workflow (db : Database) (events : List Lifecycle.Event) :
    run uuid5 sha256 manifestJson db (events.map .workflow) =
      Lifecycle.run uuid5 sha256 manifestJson db events := by
  induction events generalizing db with
  | nil => rfl
  | cons event events ih => exact ih _

/-- The draft for the block is the draft of a database in which the block is assigned. -/
theorem step_draft : step uuid5 sha256 manifestJson (.untrained [ntpBlock]) draftEvent =
    step uuid5 sha256 manifestJson (.untrained [assignedBlock])
      (.workflow (.create Publication.acmeAdmin
        (Publication.acmeInput Publication.ntpDefinition))) := rfl

/-- The publication maps the block. -/
theorem run_publish : (run uuid5 sha256 manifestJson (.untrained [ntpBlock])
    (draftEvent :: approvalEvents ++ [publishEvent])).blocks =
      [{ assignedBlock with reviewStatus := .mapped }] := by
  have hevents : .workflow (.create Publication.acmeAdmin
      (Publication.acmeInput Publication.ntpDefinition)) :: (approvalEvents ++ [publishEvent]) =
        (Publication.acmePublication Publication.ntpDefinition).map .workflow := rfl
  obtain ⟨results, hrun, -⟩ := @Publication.run_publication uuid5 sha256 manifestJson
    (.untrained [assignedBlock]) _ _ _ _ Publication.ntp_publishable _ _ _ _ Publication.acme_pack
    Publication.untrained_free
  rw [List.cons_append, run, Runs.run_cons, step_draft, ← Runs.run_cons, ← run, hevents,
    run_workflow, Publication.acmePublication, hrun]
  have hmapped : (if assignedBlock.organizationId = Publication.acmeAdmin.organizationId ∧
      assignedBlock.assignedMappingVersionId = some (Publication.drawnId 3) then
        { assignedBlock with reviewStatus := .mapped } else assignedBlock) =
      { assignedBlock with reviewStatus := .mapped } := if_pos ⟨rfl, rfl⟩
  exact congrArg (fun block => [block]) hmapped

theorem run_leaves {events : List ReviewEvent}
    (hleaves : ∀ event ∈ events, ∃ workflow, event = .workflow workflow ∧ LeavesBlocks workflow)
    (db : Database) : (run uuid5 sha256 manifestJson db events).blocks = db.blocks := by
  induction events generalizing db with
  | nil => rfl
  | cons event events ih =>
    obtain ⟨⟨workflow, rfl, hevent⟩, hrest⟩ := List.forall_mem_cons.mp hleaves
    rw [run, Runs.run_cons]
    refine (ih hrest _).trans ?_
    unfold step
    split
    · next h => exact transact_blocks h hevent
    · rfl

/-- Between the draft and the publication the block stays assigned. -/
theorem run_approved : (run uuid5 sha256 manifestJson (.untrained [ntpBlock])
    (draftEvent :: approvalEvents)).blocks = [assignedBlock] := by
  have hleaves : ∀ event ∈ approvalEvents,
      ∃ workflow, event = .workflow workflow ∧ LeavesBlocks workflow := by
    simp only [approvalEvents, List.forall_mem_cons]
    exact ⟨⟨_, rfl, trivial⟩, ⟨_, rfl, trivial⟩, ⟨_, rfl, trivial⟩, by simp⟩
  rw [run, Runs.run_cons]
  exact run_leaves hleaves _

end Mapped

/-- The mapping of a block is published, and then a reviewer tries to dismiss the block. -/
theorem decisions_final_mapped :
    (run (fun _ _ => Publication.drawnId 0) id (fun _ => "") (.untrained [ntpBlock])
      (draftEvent :: approvalEvents ++ [publishEvent])).blocks =
        [{ assignedBlock with reviewStatus := .mapped }] ∧
    DecisionsFinal (fun _ _ => Publication.drawnId 0) id (fun _ => "") (.untrained [ntpBlock])
      (draftEvent :: approvalEvents ++ [publishEvent, dismissEvent]) := by
  have hrespect : Runs.Along (step (fun _ _ => Publication.drawnId 0) id (fun _ => ""))
      Respectful (.untrained [ntpBlock])
        (draftEvent :: approvalEvents ++ [publishEvent, dismissEvent]) := by
    refine Runs.along_append.mpr ⟨⟨fun block hmem _ _ => ?_, trivial, trivial, trivial, trivial⟩,
      fun block hmem _ _ => ?_, trivial, trivial⟩
    · rw [List.mem_singleton.mp hmem]
      rfl
    · have happroved : block ∈ [assignedBlock] := by
        rw [← @run_approved (fun _ _ => Publication.drawnId 0) id (fun _ => "")]
        exact hmem
      rw [List.mem_singleton.mp happroved]
      exact ⟨by simp [assignedBlock, asAssigned], by simp [assignedBlock, asAssigned]⟩
  exact ⟨run_publish, decisions_final _ unreviewed_ntp _ (Runs.along_at hrespect)⟩

theorem dismissed_block_reopened :
    ¬ ∀ (uuid5 : UUID → String → UUID) (sha256 : String → String)
      (manifestJson : List String → String) (db : Database) (events : List ReviewEvent),
      Unreviewed db → DecisionsFinal uuid5 sha256 manifestJson db events := by
  intro h
  have hfinal := h (fun _ _ => Publication.drawnId 0) id (fun _ => "") (.untrained [ntpBlock])
    [dismissEvent, draftEvent] unreviewed_ntp
  have hkept := hfinal.kept [dismissEvent] [draftEvent] rfl
  have hbefore : (run (fun _ _ => Publication.drawnId 0) id (fun _ => "") (.untrained [ntpBlock])
      [dismissEvent]).blocks = [asReviewed .dismissed ntpBlock] := by decide +kernel
  have hafter : (run (fun _ _ => Publication.drawnId 0) id (fun _ => "") (.untrained [ntpBlock])
      [dismissEvent, draftEvent]).blocks =
      [asAssigned (Publication.drawnId 3) ntpBlock] := by decide +kernel
  rw [hbefore, hafter] at hkept
  cases hkept with
  | cons hblock _ => cases hblock.final rfl

end ConfigAuditor.Training.ReviewStatus
