import ConfigAuditor.Audits.Lifecycle

/-!
# The versions of an audit

`version_refs` is written by three transactions, and one of them writes back what another has
read. A version that is pinned stays, and an audit completes only under versions it has pinned.
-/
namespace ConfigAuditor.Audits.Pins

open Library Processing Coordinator Workers Views Moves Lifecycle

def assessmentPacksKey : String := "assessment_pack_version_ids"

/-- What is pinned stays; only `pin_assessment` chooses its packs anew. -/
def PinsStay (refs refs' : List (String × PyValue)) : Prop :=
  ∀ key value, key ≠ assessmentPacksKey → value ≠ .none → Dict.get? refs key = some value →
    Dict.get? refs' key = some value

theorem PinsStay.refl (refs : List (String × PyValue)) : PinsStay refs refs :=
  fun _ _ _ _ h => h

theorem PinsStay.trans {first second third : List (String × PyValue)} (h : PinsStay first second)
    (h' : PinsStay second third) : PinsStay first third :=
  fun key value hkey hvalue hpinned => h' key value hkey hvalue (h key value hkey hvalue hpinned)

/-- References that agree with what is pinned are merged without a loss. -/
theorem pinsStay_merge {refs expected : List (String × PyValue)}
    (hagree : pinsAgree refs expected = true) : PinsStay refs (mergeRefs refs expected) := by
  intro key value _ hvalue hpinned
  refine Dict.get?_foldl_set hpinned fun entry hentry hkey => ?_
  have hsame := List.all_eq_true.mp hagree entry hentry
  simp only [hkey, hpinned, Option.getD_some, Bool.or_eq_true, beq_iff_eq] at hsame
  rcases hsame with hnone | hsame
  · exact absurd hnone hvalue
  · exact hsame.symm

theorem pinsStay_assess (refs : List (String × PyValue)) (packIds : PyValue) :
    PinsStay refs (Dict.set refs assessmentPacksKey packIds) := by
  intro key value hkey _ hpinned
  rw [Dict.get?_set, if_neg (Ne.symm hkey), hpinned]

/-- The rule packs that are pinned are not others than before. -/
theorem pinnedPacks_cases {refs : List (String × PyValue)} {expected : String} {packs : PyValue}
    (h : pinnedPacks refs expected = some packs) :
    (∃ ids, packs = .list ids ∧ .str expected ∈ ids) ∧
      ((Dict.get? refs rulePacksKey).getD .none = .none ∨
        (Dict.get? refs rulePacksKey).getD .none = packs) := by
  unfold pinnedPacks at h
  split at h
  next hnone =>
    obtain rfl := Option.some.inj h
    exact ⟨⟨_, rfl, by simp⟩, .inl hnone⟩
  next ids hids =>
    split at h
    next hmem =>
      obtain rfl := Option.some.inj h
      exact ⟨⟨ids, rfl, by simpa using hmem⟩, .inr hids⟩
    next => cases h
  next => cases h

theorem pinCompliance_stay {audit audit' : Audit} {expected policyId : String}
    (h : pinCompliance audit expected policyId = some audit') :
    PinsStay audit.versionRefs audit'.versionRefs := by
  obtain ⟨packs, hpacks, -, hpolicy, rfl⟩ := pinCompliance_cases h
  obtain ⟨-, hsame⟩ := pinnedPacks_cases hpacks
  apply pinsStay_merge
  simp only [pinsAgree, List.all_cons, List.all_nil, Bool.and_true, Bool.and_eq_true,
    Bool.or_eq_true, beq_iff_eq]
  exact ⟨hsame, hpolicy⟩

/-- The audit is pinned to the profile it was resolved to, and to a knowledge pack. -/
structure Versioned (audit : Audit) (profileVersionId : String) (pack : UUID) : Prop where
  profile : Dict.get? audit.profileResolution "profile_version_id" = some (.str profileVersionId)
  pinned : ∀ entry ∈ expectedRefs profileVersionId pack,
    Dict.get? audit.versionRefs entry.1 = some entry.2

/-- The audit is pinned to rule packs and to a policy. -/
structure Evaluable (audit : Audit) : Prop where
  rulePacks : ∃ id ids, Dict.get? audit.versionRefs rulePacksKey = some (.list ids) ∧ .str id ∈ ids
  policy : ∃ policyId, Dict.get? audit.versionRefs policyKey = some (.str policyId)

/-- Every version that the evaluation depends on is pinned. -/
def FullyPinned (audit : Audit) : Prop :=
  (∃ profileVersionId pack, Versioned audit profileVersionId pack) ∧ Evaluable audit

/-- What is pinned at a position of the coordinator. -/
def PinsAt (audit : Audit) : Position → Prop
  | .checkpoint profileVersionId pack next =>
    next ≠ .parsing → Versioned audit profileVersionId pack
  | .working profileVersionId pack stage => Versioned audit profileVersionId pack ∧
    (stage = .evaluating → Evaluable audit)
  | .finalizing _ => FullyPinned audit
  | _ => True

/-- An audit that has completed has all its versions. -/
def Complete (audit : Audit) : Prop :=
  isTerminal audit.status = true → audit.status ≠ .failed → FullyPinned audit

theorem complete_of_unfinished {audit : Audit} (h : Unfinished audit) : Complete audit := by
  intro hended
  rw [not_terminal_of_unfinished h] at hended
  cases hended

theorem versioned_of_pinVersions {audit audit' : Audit} {profileVersionId : String} {pack : UUID}
    {stage : AuditProcessingStage}
    (h : write audit (.pinVersions profileVersionId pack stage) = some audit') :
    PinsStay audit.versionRefs audit'.versionRefs ∧ Versioned audit' profileVersionId pack := by
  simp only [write] at h
  split at h
  next hguard =>
    obtain ⟨-, hprofile, hagree⟩ := hguard
    obtain rfl := Option.some.inj h
    refine ⟨pinsStay_merge hagree, hprofile, fun entry hentry => ?_⟩
    simp only [expectedRefs, List.mem_cons, List.not_mem_nil, or_false] at hentry
    rcases hentry with rfl | rfl | rfl <;>
      simp [mergeRefs, expectedRefs, Dict.get?_set, knowledgePackKey]
  next => cases h

theorem Versioned.of_stay {audit audit' : Audit} {profileVersionId : String} {pack : UUID}
    (h : Versioned audit profileVersionId pack)
    (hprofile : audit'.profileResolution = audit.profileResolution)
    (hstay : PinsStay audit.versionRefs audit'.versionRefs) :
    Versioned audit' profileVersionId pack := by
  refine ⟨by rw [hprofile, h.profile], fun entry hentry => ?_⟩
  have hpinned := h.pinned entry hentry
  simp only [expectedRefs, List.mem_cons, List.not_mem_nil, or_false] at hentry
  rcases hentry with rfl | rfl | rfl <;>
    exact hstay _ _ (by simp [assessmentPacksKey, knowledgePackKey]) (by simp) hpinned

theorem evaluable_of_pinCompliance {audit audit' : Audit} {expected policyId : String}
    (h : pinCompliance audit expected policyId = some audit') : Evaluable audit' := by
  obtain ⟨packs, hpacks, -, -, rfl⟩ := pinCompliance_cases h
  obtain ⟨⟨ids, rfl, hmem⟩, -⟩ := pinnedPacks_cases hpacks
  exact ⟨⟨expected, ids, by simp [mergeRefs, Dict.get?_set, rulePacksKey, policyKey], hmem⟩,
    ⟨policyId, by simp [mergeRefs, Dict.get?_set]⟩⟩

section Transaction

variable {record record' : Record} {position position' : Position}

/-- What a transaction does to the versions. -/
structure Pinning (record record' : Record) (position' : Position) : Prop where
  stay : PinsStay record.audit.versionRefs record'.audit.versionRefs
  here : PinsAt record'.audit position'
  complete : Complete record'.audit

theorem pins_same (hcomplete : Complete record.audit) (hat : PinsAt record.audit position') :
    Pinning record record position' := ⟨.refl _, hat, hcomplete⟩

theorem pinsAt_resolvedAt (audit : Audit) (resolution : List (String × PyValue)) :
    PinsAt audit (resolvedAt resolution) := by
  unfold resolvedAt
  split <;> trivial

theorem pinsAt_pinnedResolution {audit audit' : Audit}
    (h : pinnedResolution audit = some position) : PinsAt audit' position := by
  simp only [pinnedResolution] at h
  split at h
  · rw [← Option.some.inj h]
    trivial
  · split at h
    · rw [← Option.some.inj h]
      exact pinsAt_resolvedAt audit' audit.profileResolution
    · cases h

theorem pinsAt_caught (h : PinsAt record.audit position) : PinsAt record.audit position.caught := by
  cases position <;> first | exact h | trivial

/-- A failed audit keeps its versions. -/
theorem finalizeFailure_pins {stage : Option AuditProcessingStage} {now : Int} {audit : Audit}
    (hproper : Proper record) (h : finalizeFailure record.audit stage now = some audit)
    (hat : PinsAt audit position') : Pinning record { record with audit } position' := by
  have hprocessing := finalizeFailure_processing h
  obtain ⟨-, haudit⟩ := finalizeFailure_eq (hproper.processing hprocessing).2 h
  refine ⟨?_, hat, fun _ hfailed => absurd ?_ hfailed⟩
  · rw [haudit]
    exact .refl _
  · rw [haudit]

section Positions

variable {c : Computed} {profileVersionId : String} {pack : UUID}

theorem called_pins (hqueued : record.audit.status = .queued)
    (h : proceed record c .called = some (record', position')) :
    Pinning record record' position' := by
  obtain ⟨audit, hwrite, heq⟩ := Option.map_eq_some_iff.mp h
  obtain ⟨rfl, rfl⟩ := Prod.mk.inj heq
  rw [write, if_pos (.inl hqueued)] at hwrite
  obtain rfl := Option.some.inj hwrite
  exact ⟨.refl _, trivial, complete_of_unfinished (.inr rfl)⟩

theorem identifying_pins (hstage : InStage record.audit .identifying)
    (h : proceed record c .identifying = some (record', position')) :
    Pinning record record' position' := by
  simp only [proceed, write, Option.map_some] at h
  split at h
  · obtain ⟨rfl, rfl⟩ := Prod.mk.inj (Option.some.inj h)
    exact ⟨.refl _, pinsAt_resolvedAt _ _, complete_of_unfinished (.inr hstage.1)⟩
  · cases h

theorem pinning_pins (hcomplete : Complete record.audit)
    (h : proceed record c (.pinning profileVersionId) = some (record', position')) :
    Pinning record record' position' := by
  simp only [proceed] at h
  split at h
  · obtain ⟨rfl, rfl⟩ := Prod.mk.inj (Option.some.inj h)
    exact pins_same hcomplete trivial
  · obtain ⟨rfl, rfl⟩ := Prod.mk.inj (Option.some.inj h)
    exact pins_same hcomplete trivial

/-- A checkpoint pins the versions that the work of its stage depends on. -/
theorem checkpoint_pins {next : Checkpoint} (hproper : Proper record)
    (hstage : InStage record.audit (stageBefore next))
    (hversioned : next ≠ .parsing → Versioned record.audit profileVersionId pack)
    (h : proceed record c (.checkpoint profileVersionId pack next) = some (record', position')) :
    Pinning record record' position' := by
  have hlives := (proceed_checkpoint_lives hproper hstage h).expects
  cases next with
  | evaluating =>
    obtain ⟨audit, hpinned, heq⟩ := Option.map_eq_some_iff.mp h
    obtain ⟨rfl, rfl⟩ := Prod.mk.inj heq
    have hstay := pinCompliance_stay hpinned
    have hprofile : audit.profileResolution = record.audit.profileResolution := by
      obtain ⟨packs, -, -, -, rfl⟩ := pinCompliance_cases hpinned
      rfl
    exact ⟨hstay, ⟨(hversioned (by decide)).of_stay hprofile hstay,
      fun _ => evaluable_of_pinCompliance hpinned⟩,
      complete_of_unfinished (unfinished_of_expects hlives rfl)⟩
  | _ =>
    obtain ⟨audit, hwrite, heq⟩ := Option.map_eq_some_iff.mp h
    obtain ⟨rfl, rfl⟩ := Prod.mk.inj heq
    obtain ⟨hstay, hversioned'⟩ := versioned_of_pinVersions hwrite
    exact ⟨hstay, ⟨hversioned', fun he => by cases he⟩,
      complete_of_unfinished (unfinished_of_expects hlives rfl)⟩

theorem working_pins {stage : Checkpoint} (hstage : InStage record.audit stage.stage)
    (hversioned : Versioned record.audit profileVersionId pack)
    (hevaluable : stage = .evaluating → Evaluable record.audit)
    (h : proceed record c (.working profileVersionId pack stage) = some (record', position')) :
    Pinning record record' position' := by
  have hopen : Complete record.audit := complete_of_unfinished hstage.unfinished
  cases stage with
  | evaluating =>
    simp only [proceed, if_pos hstage.1] at h
    obtain ⟨rfl, rfl⟩ := Prod.mk.inj (Option.some.inj h)
    have hfull : FullyPinned record.audit :=
      ⟨⟨profileVersionId, pack, hversioned⟩, hevaluable rfl⟩
    cases hcoverage : c.coverage with
    | none => exact ⟨.refl _, hfull, hopen⟩
    | some coverage =>
      obtain ⟨-, ⟨hpacks, hpolicy⟩⟩ := hfull
      exact ⟨.refl _, ⟨⟨profileVersionId, pack, ⟨hversioned.profile, hversioned.pinned⟩⟩,
        ⟨hpacks, hpolicy⟩⟩, complete_of_unfinished (.inr hstage.1)⟩
  | _ =>
    obtain ⟨rfl, rfl⟩ := Prod.mk.inj (Option.some.inj h)
    exact pins_same hopen fun _ => hversioned

theorem finalizing_pins {findings : List Finding} (hstage : InStage record.audit .evaluating)
    (hfull : FullyPinned record.audit)
    (h : proceed record c (.finalizing findings) = some (record', position')) :
    Pinning record record' position' := by
  simp only [proceed, write, if_pos hstage.1, Option.map_some] at h
  obtain ⟨rfl, rfl⟩ := Prod.mk.inj (Option.some.inj h)
  obtain ⟨⟨profileVersionId, pack, hversioned⟩, hpacks, hpolicy⟩ := hfull
  exact ⟨.refl _, trivial, fun _ _ => ⟨⟨profileVersionId, pack,
    ⟨hversioned.profile, hversioned.pinned⟩⟩, ⟨hpacks, hpolicy⟩⟩⟩

theorem failingAt_pins {stage : Option AuditProcessingStage} (hproper : Proper record)
    (hcomplete : Complete record.audit)
    (h : proceed record c (.failingAt stage) = some (record', position')) :
    Pinning record record' position' := by
  obtain ⟨rfl, rfl⟩ := Prod.mk.inj (Option.some.inj h)
  cases hfailed : finalizeFailure record.audit stage c.now with
  | none => exact pins_same hcomplete trivial
  | some audit => exact finalizeFailure_pins hproper hfailed trivial

end Positions

theorem proceed_pins {c : Computed} (hproper : Proper record) (hexpects : Expects record position)
    (hcomplete : Complete record.audit) (hat : PinsAt record.audit position)
    (h : proceed record c position = some (record', position')) : Pinning record record' position' := by
  cases position with
  | called => exact called_pins hexpects h
  | begun =>
    obtain ⟨next, hnext, heq⟩ := Option.map_eq_some_iff.mp h
    obtain ⟨rfl, rfl⟩ := Prod.mk.inj heq
    exact pins_same hcomplete (pinsAt_pinnedResolution hnext)
  | identifying => exact identifying_pins hexpects h
  | rejected =>
    obtain ⟨audit, hfailed, heq⟩ := Option.map_eq_some_iff.mp h
    obtain ⟨rfl, rfl⟩ := Prod.mk.inj heq
    exact finalizeFailure_pins hproper hfailed trivial
  | pinning profileVersionId => exact pinning_pins hcomplete h
  | pinRead profileVersionId refs =>
    obtain ⟨hstage, hread⟩ := hexpects
    obtain ⟨rfl, rfl⟩ := Prod.mk.inj (Option.some.inj h)
    refine ⟨?_, trivial, complete_of_unfinished (.inr hstage.1)⟩
    rw [pinAssessment, ← hread]
    exact pinsStay_assess _ _
  | loading profileVersionId =>
    obtain ⟨rfl, rfl⟩ := Prod.mk.inj (Option.some.inj h)
    exact pins_same hcomplete fun hne => absurd rfl hne
  | checkpoint profileVersionId pack next => exact checkpoint_pins hproper hexpects hat h
  | working profileVersionId pack stage =>
    obtain ⟨hversioned, hevaluable⟩ := hat
    exact working_pins hexpects hversioned hevaluable h
  | finalizing findings =>
    obtain ⟨hstage, -⟩ := hexpects
    exact finalizing_pins hstage hat h
  | failingAt stage => exact failingAt_pins hproper hcomplete h
  | failing | returned | raised =>
    obtain ⟨rfl, rfl⟩ := Prod.mk.inj (Option.some.inj h)
    exact pins_same hcomplete trivial

theorem advance_pins {outcome : Outcome} (hproper : Proper record)
    (hexpects : Expects record position) (hcomplete : Complete record.audit)
    (hat : PinsAt record.audit position)
    (h : advance record position outcome = (record', position')) :
    Pinning record record' position' := by
  cases outcome with
  | proceeds computed =>
    rw [advance] at h
    cases hproceed : proceed record computed position with
    | none =>
      rw [hproceed] at h
      obtain ⟨rfl, rfl⟩ := Prod.mk.inj h
      exact pins_same hcomplete (pinsAt_caught hat)
    | some result =>
      rw [hproceed] at h
      exact proceed_pins hproper hexpects hcomplete hat (hproceed.trans (congrArg some h))
  | declared =>
    obtain ⟨rfl, rfl⟩ := Prod.mk.inj h
    exact pins_same hcomplete (pinsAt_caught hat)
  | undeclared =>
    obtain ⟨rfl, rfl⟩ := Prod.mk.inj h
    split
    · exact pins_same hcomplete hat
    · exact pins_same hcomplete trivial

end Transaction

/-- The versions of an audit and of its handler. -/
def PinnedView (v : View) : Prop :=
  ∀ audit, v.audit = some audit → Complete audit ∧ ∀ auditId organizationId position,
    v.handler = some (.running auditId organizationId position) → PinsAt audit position

/-- What a move does to the versions of an audit that is there. -/
def PinsOnward (v v' : View) : Prop :=
  ∀ audit, v.audit = some audit → ∃ audit', v'.audit = some audit' ∧
    PinsStay audit.versionRefs audit'.versionRefs

theorem pinsOnward_same {v v' : View} (haudit : v'.audit = v.audit) : PinsOnward v v' :=
  fun audit h => ⟨audit, haudit.trans h, .refl _⟩

/-- Nothing runs for the audit that could write to it. -/
theorem pinnedView_idle {v v' : View} (h : PinnedView v) (haudit : v'.audit = v.audit)
    (hidle : ∀ auditId organizationId position,
      v'.handler = some (.running auditId organizationId position) → v'.handler = v.handler ∨
        position = .called) : PinnedView v' := by
  intro audit hthere
  obtain ⟨hcomplete, hrunning⟩ := h audit (haudit ▸ hthere)
  refine ⟨hcomplete, fun auditId organizationId position hhandler => ?_⟩
  rcases hidle auditId organizationId position hhandler with hsame | rfl
  · exact hrunning auditId organizationId position (hsame ▸ hhandler)
  · trivial

theorem pinnedView_new {audit : Audit} {findings : List Finding} {job : Option Jobs.Job}
    (hnew : isTerminal audit.status = false) : PinnedView ⟨some audit, findings, job, none⟩ := by
  intro other hother
  obtain rfl := Option.some.inj hother
  refine ⟨fun hended => ?_, fun _ _ _ hhandler => by cases hhandler⟩
  rw [hnew] at hended
  cases hended

theorem pins_move {event : Event} {v v' : View} (hmove : Move event v v') (hstanding : Standing v)
    (h : PinnedView v) : PinnedView v' ∧ PinsOnward v v' := by
  cases hmove with
  | still => exact ⟨h, pinsOnward_same rfl⟩
  | created hdraft =>
    exact ⟨pinnedView_new (by rw [hdraft]; rfl), fun audit haudit => by cases haudit⟩
  | submitted hdraft hqueued =>
    refine ⟨pinnedView_new rfl, fun audit haudit => ?_⟩
    obtain rfl := Option.some.inj haudit
    exact ⟨_, rfl, .refl _⟩
  | reevaluated haudit hqueued =>
    exact ⟨pinnedView_new (by rw [haudit]; rfl), fun audit haudit => by cases haudit⟩
  | claimed hqueued =>
    exact ⟨pinnedView_idle h rfl (fun _ _ _ hhandler => by cases hhandler), pinsOnward_same rfl⟩
  | renewed hrow =>
    exact ⟨pinnedView_idle h rfl (fun _ _ _ _ => .inl rfl), pinsOnward_same rfl⟩
  | recovered hrow =>
    exact ⟨pinnedView_idle h rfl (fun _ _ _ _ => .inl rfl), pinsOnward_same rfl⟩
  | settled hresult hjob hrow =>
    exact ⟨pinnedView_idle h rfl (fun _ _ _ hhandler => by cases hhandler), pinsOnward_same rfl⟩
  | @entered outcome audit findings job =>
    refine ⟨pinnedView_idle h rfl fun auditId organizationId position hhandler => .inr ?_,
      pinsOnward_same rfl⟩
    have hentry := Option.some.inj hhandler
    unfold entry at hentry
    split at hentry
    · split at hentry
      · cases hentry
      · injection hentry with _ _ hposition
        exact hposition.symm
    · cases hentry
  | @advanced outcome record record' position position' hadvance job =>
    obtain ⟨hproper, -, -, -, hexpects⟩ := hstanding.handler
    obtain ⟨hcomplete, hrunning⟩ := h record.audit rfl
    have hpins := advance_pins hproper hexpects hcomplete (hrunning _ _ position rfl) hadvance
    refine ⟨fun audit haudit => ?_, fun audit haudit => ?_⟩
    · obtain rfl := Option.some.inj haudit
      refine ⟨hpins.complete, fun auditId organizationId other hhandler => ?_⟩
      injection Option.some.inj hhandler with _ _ hposition
      exact hposition ▸ hpins.here
    · obtain rfl := Option.some.inj haudit
      exact ⟨record'.audit, rfl, hpins.stay⟩
  | crashed =>
    exact ⟨pinnedView_idle h rfl (fun _ _ _ hhandler => by cases hhandler), pinsOnward_same rfl⟩

/-- The world is sound, and so are its versions. -/
def Versions (w : World) : Prop := Sound w ∧ ∀ auditId, PinnedView (view w auditId)

theorem versions_initial (db : Creation.Database) : Versions (World.initial db) :=
  ⟨sound_initial db, fun _ _ haudit => by cases haudit⟩

theorem versions_step (sha256 : String → String) {w : World} (h : Versions w) (event : Event) :
    Versions (step sha256 w event) ∧
      ∀ auditId, PinsOnward (view w auditId) (view (step sha256 w event) auditId) := by
  have hmoves := (stepped_step sha256 h.1.linked event).moves
  exact ⟨⟨sound_step sha256 h.1 event,
      fun auditId => (pins_move (hmoves auditId) (h.1.standing auditId) (h.2 auditId)).1⟩,
    fun auditId => (pins_move (hmoves auditId) (h.1.standing auditId) (h.2 auditId)).2⟩

theorem versions_run (sha256 : String → String) (db : Creation.Database) (events : List Event) :
    Versions (Runs.run (step sha256) (World.initial db) events) := by
  have hstep : ∀ w event, Versions w → Versions (step sha256 w event) :=
    fun w event h => (versions_step sha256 h event).1
  exact Runs.run_invariant hstep (versions_initial db) events

/-- The versions of an audit in one state are those it has in another. -/
def Keeps (auditId : UUID) (w w' : World) : Prop := PinsOnward (view w auditId) (view w' auditId)

theorem Keeps.refl (auditId : UUID) (w : World) : Keeps auditId w w := pinsOnward_same rfl

theorem Keeps.trans {auditId : UUID} {first second third : World} (h : Keeps auditId first second)
    (h' : Keeps auditId second third) : Keeps auditId first third := by
  intro audit haudit
  obtain ⟨audit', haudit', hstay⟩ := h audit haudit
  obtain ⟨audit'', haudit'', hstay'⟩ := h' audit' haudit'
  exact ⟨audit'', haudit'', hstay.trans hstay'⟩

/-- From every reachable state on, whatever the interleaving: a version that is pinned in the row
of an audit stays the one it is, although `pin_assessment` writes back references that it read
in an earlier statement. -/
theorem pins_stay (sha256 : String → String) (db : Creation.Database) (before after : List Event) :
    let w := Runs.run (step sha256) (World.initial db) before
    let w' := Runs.run (step sha256) w after
    ∀ audit ∈ w.audits, ∃ audit' ∈ w'.audits, audit'.auditId = audit.auditId ∧
      ∀ key value, key ≠ "assessment_pack_version_ids" → value ≠ .none →
        Dict.get? audit.versionRefs key = some value →
          Dict.get? audit'.versionRefs key = some value := by
  intro w w' audit haudit
  have hversions : Versions w := versions_run sha256 db before
  have hstep : ∀ w event, Versions w → Versions (step sha256 w event) ∧
      Keeps audit.auditId w (step sha256 w event) := by
    intro w event h
    exact ⟨(versions_step sha256 h event).1, (versions_step sha256 h event).2 audit.auditId⟩
  have hkeeps : Keeps audit.auditId w w' :=
    Runs.run_relates (Keeps.refl _) (fun _ _ _ => Keeps.trans) hstep hversions after
  obtain ⟨audit', haudit', hstay⟩ := hkeeps audit (view_audit hversions.1.linked haudit)
  obtain ⟨hmem, hid⟩ := Table.find?_eq_some haudit'
  exact ⟨audit', hmem, hid, hstay⟩

/-- In every state of every run a completed audit has pinned every version that its evaluation
depends on, and the profile it has pinned is the one it was resolved to. -/
theorem completed_audits_pinned (sha256 : String → String) (db : Creation.Database)
    (events : List Event) :
    let w := Runs.run (step sha256) (World.initial db) events
    ∀ audit ∈ w.audits, isTerminal audit.status = true → audit.status ≠ .failed →
      FullyPinned audit := by
  intro w audit haudit hended hfailed
  have hversions : Versions w := versions_run sha256 db events
  exact (hversions.2 audit.auditId audit (view_audit hversions.1.linked haudit)).1 hended hfailed

/-- The finished audit is pinned to its profile, its packs and its policy. -/
theorem completed_audits_pinned_finished : FullyPinned finishedRow :=
  completed_audits_pinned id readyTables finishedAudit finishedRow (by decide +kernel) rfl
    (by decide)

end ConfigAuditor.Audits.Pins
