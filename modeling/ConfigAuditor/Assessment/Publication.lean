import ConfigAuditor.Assessment.Catalog
import ConfigAuditor.Assessment.Service
import ConfigAuditor.Library.Runs

/-!
# Publishing a catalog

`publish_runtime_catalog` and `import_external_catalog` add one pack with its obligations.
The rows that exist, pinned or not, stay as they are.
-/
namespace ConfigAuditor.Assessment.Publication

open Library ProfileResolution Compliance.RuntimeRules Assessment.Model Catalog Service

/-- What a publication draws: the ids of its rows, the clock and the base name of the file. -/
structure Drawn where
  packId : UUID
  obligationId : Nat → UUID
  now : Int
  filename : String

/-- The rows a publication adds; the keys are unique, as are a version of a pack and the key of
an obligation in its pack. -/
def insertCatalog (catalogs : Catalogs) (pack : AssessmentPackVersion)
    (obligations : List AssessmentObligation) : Except Error Catalogs := do
  raiseIf (catalogs.packs.any fun other =>
      other.assessmentPackVersionId == pack.assessmentPackVersionId ||
        (other.organizationId == pack.organizationId && other.packKey == pack.packKey &&
          other.version == pack.version)) .integrity
  raiseIf (!decide ((obligations.map (·.assessmentObligationId)).Nodup) ||
    obligations.any fun o => catalogs.obligations.any fun other =>
      other.assessmentObligationId == o.assessmentObligationId) .integrity
  raiseIf (!decide ((obligations.map (·.obligationKey)).Nodup)) .integrity
  return { catalogs with
    packs := catalogs.packs ++ [pack], obligations := catalogs.obligations ++ obligations }

def applicabilityTo (profileVersionIds : List String) : Payload :=
  [("profile_version_ids", .list (profileVersionIds.map .str))]

/-- The pack of a tenant-published catalog. -/
def runtimePackRow (organizationId : UUID) (catalog : RuntimeCatalog) (drawn : Drawn) :
    AssessmentPackVersion :=
  { assessmentPackVersionId := drawn.packId, organizationId := some organizationId,
    packKey := catalog.packKey, family := catalog.family, name := catalog.name,
    version := catalog.version, profileVersionIds := catalog.profileVersionIds,
    sourceMetadata :=
      [("official_source_url", .str catalog.sourceUrl), ("source_sha256", .str catalog.sourceDigest),
        ("source_version", .str catalog.sourceVersion), ("import_filename", .str drawn.filename),
        ("import_mode", .str "runtime_validated_json")],
    sourceVersionLabel := catalog.sourceVersion, contentDigest := catalog.sourceDigest,
    applicability := applicabilityTo catalog.profileVersionIds,
    publishedAt := some drawn.now, createdAt := drawn.now }

def runtimeObligationRow (catalog : RuntimeCatalog) (drawn : Drawn) (index : Nat)
    (o : RuntimeObligation) : AssessmentObligation :=
  { assessmentObligationId := drawn.obligationId index, assessmentPackVersionId := drawn.packId,
    obligationKey := o.obligationKey, title := o.title, frameworkVersion := catalog.sourceVersion,
    sourceUrl := catalog.sourceUrl, sourceDigest := catalog.sourceDigest, controlId := o.controlId,
    severity := o.severity, scope := o.scope, profileVersionIds := some o.profileVersionIds,
    assessmentMethod := o.assessmentMethod, implementationStatus := o.implementationStatus,
    evaluatorRuleId := o.evaluatorRuleId, policyParameters := o.policyParameters }

/-- The evaluators of an automatic obligation are looked up once more. -/
def checkEvaluator (rules : List RuntimeRuleVersion) (organizationId : UUID)
    (o : RuntimeObligation) : Except Error Unit :=
  if o.assessmentMethod = .automatic then do
    let _ ← runtimeRule (runtimeRuleFor rules organizationId) (o.evaluatorRuleId.getD "")
      o.profileVersionIds
    return ()
  else .ok ()

/-- `publish_runtime_catalog`. -/
def publishRuntimeCatalog (profileFor : UUID → String → Except Error (Option ProfileManifest))
    (catalogs : Catalogs) (organizationId : UUID) (catalog : RuntimeCatalog) (drawn : Drawn) :
    Except Error Catalogs := do
  catalog.profileVersionIds.forM (checkProfile (profileFor organizationId))
  catalog.obligations.forM (checkEvaluator catalogs.rules organizationId)
  raiseIf (catalogs.packs.any fun pack =>
      pack.organizationId == some organizationId && pack.packKey == catalog.packKey &&
        pack.version == catalog.version)
    (importError "Runtime catalog pack version is already published")
  insertCatalog catalogs (runtimePackRow organizationId catalog drawn)
    (catalog.obligations.mapIdx (runtimeObligationRow catalog drawn))

structure ExternalControl where
  controlId : String
  title : String
  severity : String
  scope : String
  implementationStatus : ImplementationStatus

/-- A parsed CIS or ISO catalog. -/
structure ExternalCatalog where
  framework : String
  catalogId : String
  name : String
  sourceVersion : String
  sourceUrl : String
  sourceDigest : String
  profileVersionIds : List String
  controls : List ExternalControl

def externalPackKey (catalog : ExternalCatalog) : String :=
  "external." ++ catalog.framework ++ "." ++ catalog.catalogId

/-- The next version of a pack of the organization. -/
def nextPackVersion (packs : List AssessmentPackVersion) (organizationId : UUID)
    (packKey : String) : Int :=
  ((packs.filter fun pack =>
    pack.organizationId == some organizationId && pack.packKey == packKey).map
      (·.version)).foldl max 0 + 1

/-- The pack of an imported catalog. -/
def externalPackRow (packs : List AssessmentPackVersion) (organizationId : UUID)
    (catalog : ExternalCatalog) (drawn : Drawn) : AssessmentPackVersion :=
  { assessmentPackVersionId := drawn.packId, organizationId := some organizationId,
    packKey := externalPackKey catalog,
    family := if catalog.framework = "cis" then "CIS Benchmark" else "ISO/IEC 27001 Alignment",
    name := catalog.name, version := nextPackVersion packs organizationId (externalPackKey catalog),
    profileVersionIds := catalog.profileVersionIds,
    sourceMetadata :=
      [("official_source_url", .str catalog.sourceUrl), ("source_sha256", .str catalog.sourceDigest),
        ("source_version", .str catalog.sourceVersion), ("import_filename", .str drawn.filename),
        ("import_mode", .str "external_manual_only")],
    sourceVersionLabel := catalog.sourceVersion, contentDigest := catalog.sourceDigest,
    applicability := applicabilityTo catalog.profileVersionIds,
    publishedAt := some drawn.now, createdAt := drawn.now }

def externalObligationRow (catalog : ExternalCatalog) (drawn : Drawn) (index : Nat)
    (control : ExternalControl) : AssessmentObligation :=
  { assessmentObligationId := drawn.obligationId index, assessmentPackVersionId := drawn.packId,
    obligationKey := control.controlId, title := control.title,
    frameworkVersion := catalog.sourceVersion, sourceUrl := catalog.sourceUrl,
    sourceDigest := catalog.sourceDigest, controlId := control.controlId,
    severity := control.severity, scope := control.scope,
    profileVersionIds := some catalog.profileVersionIds, assessmentMethod := .manual,
    implementationStatus := control.implementationStatus, evaluatorRuleId := none,
    policyParameters := [] }

/-- `import_external_catalog`, on a catalog that was parsed. -/
def importExternalCatalog (catalogs : Catalogs) (organizationId : UUID)
    (catalog : ExternalCatalog) (drawn : Drawn) : Except Error Catalogs :=
  insertCatalog catalogs (externalPackRow catalogs.packs organizationId catalog drawn)
    (catalog.controls.mapIdx (externalObligationRow catalog drawn))

/-- A request to publish; a catalog that does not parse adds nothing. -/
inductive Request
  | publish (organizationId : UUID) (catalog : RuntimeCatalog) (drawn : Drawn)
  | importExternal (organizationId : UUID) (catalog : ExternalCatalog) (drawn : Drawn)

def perform (profileFor : UUID → String → Except Error (Option ProfileManifest))
    (catalogs : Catalogs) : Request → Except Error Catalogs
  | .publish organizationId catalog drawn =>
    publishRuntimeCatalog profileFor catalogs organizationId catalog drawn
  | .importExternal organizationId catalog drawn =>
    importExternalCatalog catalogs organizationId catalog drawn

/-- A request that fails is rolled back. -/
def serve (profileFor : UUID → String → Except Error (Option ProfileManifest))
    (catalogs : Catalogs) (request : Request) : Catalogs :=
  (perform profileFor catalogs request).toOption.getD catalogs

/-- Packs and obligations have identities of their own, a version of a pack of an organization is
one pack, and each obligation is one of a pack. -/
structure Consistent (catalogs : Catalogs) : Prop where
  packs : (catalogs.packs.map (·.assessmentPackVersionId)).Nodup
  versions : catalogs.packs.Pairwise fun a b => a.organizationId = b.organizationId →
    a.packKey = b.packKey → a.version ≠ b.version
  obligations : (catalogs.obligations.map (·.assessmentObligationId)).Nodup
  owned : ∀ o ∈ catalogs.obligations, ∃ pack ∈ catalogs.packs,
    o.assessmentPackVersionId = pack.assessmentPackVersionId

/-- The obligations of a pack. -/
def obligationsOf (catalogs : Catalogs) (pack : AssessmentPackVersion) :
    List AssessmentObligation :=
  catalogs.obligations.filter (·.assessmentPackVersionId = pack.assessmentPackVersionId)

/-- The packs there were stay, each with the obligations it had, and so do the rules. -/
structure Keeps (catalogs catalogs' : Catalogs) : Prop where
  packs : catalogs.packs <+: catalogs'.packs
  obligations : ∀ pack ∈ catalogs.packs, obligationsOf catalogs' pack = obligationsOf catalogs pack
  rules : catalogs'.rules = catalogs.rules

section Kept

variable {profileFor : UUID → String → Except Error (Option ProfileManifest)}
  {catalogs catalogs' : Catalogs} {organizationId : UUID} {drawn : Drawn}

theorem Keeps.refl (catalogs : Catalogs) : Keeps catalogs catalogs :=
  ⟨List.prefix_refl _, fun _ _ => rfl, rfl⟩

theorem Keeps.trans (first second third : Catalogs) (h : Keeps first second)
    (h' : Keeps second third) : Keeps first third := by
  refine ⟨h.packs.trans h'.packs, fun pack hpack => ?_, h'.rules.trans h.rules⟩
  rw [h'.obligations pack (h.packs.subset hpack), h.obligations pack hpack]

/-- A pack that is added has identities and a version of its own. -/
theorem insertCatalog_keeps {pack : AssessmentPackVersion} {obligations : List AssessmentObligation}
    (hpack : ∀ o ∈ obligations, o.assessmentPackVersionId = pack.assessmentPackVersionId)
    (hs : Consistent catalogs) (h : insertCatalog catalogs pack obligations = .ok catalogs') :
    Consistent catalogs' ∧ Keeps catalogs catalogs' := by
  simp only [insertCatalog, except_bind_eq_ok, except_pure_eq_ok, raiseIf_eq_ok] at h
  obtain ⟨_, hfree, _, hids, _, -, rfl⟩ := h
  have hnew : ∀ other ∈ catalogs.packs,
      other.assessmentPackVersionId ≠ pack.assessmentPackVersionId ∧
        (other.organizationId = pack.organizationId → other.packKey = pack.packKey →
          other.version ≠ pack.version) := by
    intro other hother
    have hdiffers := List.any_eq_false.mp hfree other hother
    simpa using hdiffers
  obtain ⟨hnodup, hapart⟩ := Bool.or_eq_false_iff.mp hids
  refine ⟨⟨?_, ?_, ?_, ?_⟩, List.prefix_append _ _, fun other hother => ?_, rfl⟩
  · rw [List.map_append, List.nodup_append]
    refine ⟨hs.packs, List.nodup_singleton _, fun id hid id' hid' => ?_⟩
    obtain ⟨other, hother, rfl⟩ := List.mem_map.mp hid
    obtain rfl := List.mem_singleton.mp hid'
    exact (hnew other hother).1
  · rw [List.pairwise_append]
    refine ⟨hs.versions, List.pairwise_singleton _ _, fun other hother added hadded => ?_⟩
    obtain rfl := List.mem_singleton.mp hadded
    exact (hnew other hother).2
  · rw [List.map_append, List.nodup_append]
    refine ⟨hs.obligations, by simpa using hnodup, fun id hid id' hid' => ?_⟩
    obtain ⟨other, hother, rfl⟩ := List.mem_map.mp hid
    obtain ⟨o, ho, rfl⟩ := List.mem_map.mp hid'
    have hdiffers := List.any_eq_false.mp (Bool.eq_false_iff.mpr (List.any_eq_false.mp hapart o ho))
      other hother
    simpa using hdiffers
  · intro o ho
    rcases List.mem_append.mp ho with hold | hadded
    · obtain ⟨other, hother, hid⟩ := hs.owned o hold
      exact ⟨other, List.mem_append_left _ hother, hid⟩
    · exact ⟨pack, List.mem_append_right _ List.mem_cons_self, hpack o hadded⟩
  · -- the obligations that are added are those of the new pack
    have hnone : obligations.filter
        (·.assessmentPackVersionId = other.assessmentPackVersionId) = [] := by
      refine List.filter_eq_nil_iff.mpr fun o ho => ?_
      rw [decide_eq_true_eq, hpack o ho]
      exact fun hsame => (hnew other hother).1 hsame.symm
    rw [obligationsOf, List.filter_append, hnone, List.append_nil, obligationsOf]

theorem publishRuntimeCatalog_keeps {catalog : RuntimeCatalog} (hs : Consistent catalogs)
    (h : publishRuntimeCatalog profileFor catalogs organizationId catalog drawn = .ok catalogs') :
    Consistent catalogs' ∧ Keeps catalogs catalogs' := by
  simp only [publishRuntimeCatalog, except_bind_eq_ok] at h
  obtain ⟨_, -, _, -, _, -, hinsert⟩ := h
  refine insertCatalog_keeps (fun o ho => ?_) hs hinsert
  obtain ⟨index, hindex, rfl⟩ := List.mem_mapIdx.mp ho
  rfl

theorem importExternalCatalog_keeps {catalog : ExternalCatalog} (hs : Consistent catalogs)
    (h : importExternalCatalog catalogs organizationId catalog drawn = .ok catalogs') :
    Consistent catalogs' ∧ Keeps catalogs catalogs' := by
  refine insertCatalog_keeps (fun o ho => ?_) hs h
  obtain ⟨index, hindex, rfl⟩ := List.mem_mapIdx.mp ho
  rfl

theorem serve_keeps (catalogs : Catalogs) (request : Request) (hs : Consistent catalogs) :
    Consistent (serve profileFor catalogs request) ∧
      Keeps catalogs (serve profileFor catalogs request) := by
  cases hrun : perform profileFor catalogs request with
  | error error =>
    rw [serve, hrun]
    exact ⟨hs, .refl catalogs⟩
  | ok catalogs' =>
    rw [serve, hrun]
    cases request with
    | publish organizationId catalog drawn => exact publishRuntimeCatalog_keeps hs hrun
    | importExternal organizationId catalog drawn => exact importExternalCatalog_keeps hs hrun

end Kept

/-- A published pack stays what it is: whatever organizations publish and import after it, its row
and its obligations are the same, and the rows keep identities and versions of their own. -/
theorem published_packs_stay (profileFor : UUID → String → Except Error (Option ProfileManifest))
    (catalogs : Catalogs) (requests : List Request) (hs : Consistent catalogs) :
    Consistent (Runs.run (serve profileFor) catalogs requests) ∧
      Keeps catalogs (Runs.run (serve profileFor) catalogs requests) := by
  have hstep : ∀ s request, Consistent s →
      Consistent (serve profileFor s request) ∧ Keeps s (serve profileFor s request) :=
    fun _ _ hinv => serve_keeps _ _ hinv
  exact ⟨Runs.run_invariant (fun s request hinv => (hstep s request hinv).1) hs requests,
    Runs.run_relates Keeps.refl Keeps.trans hstep hs requests⟩

/-- A catalog of one control. -/
def manualCatalog (controlId : String) : ExternalCatalog where
  framework := "cis"
  catalogId := "ios"
  name := "CIS Cisco IOS"
  sourceVersion := "1.0"
  sourceUrl := "https://example.test/cis"
  sourceDigest := "0123456789abcdef0123456789abcdef"
  profileVersionIds := ["cisco.ios_xe.17@1.0.0"]
  controls := [{ controlId, title := "Require SSH", severity := "high", scope := "device",
                 implementationStatus := .manual }]

def drawnAt (n : Nat) : Drawn where
  packId := UUID.ofNat n
  obligationId := fun index => UUID.ofNat (n + index)
  now := 0
  filename := "cis.json"

/-- The catalogs after a first import. -/
def importedOnce : Catalogs :=
  serve (fun _ _ => .ok none) { packs := [], obligations := [], rules := [] }
    (.importExternal (UUID.ofNat 1) (manualCatalog "1.1") (drawnAt 10))

/-- A second import is version 2, one with a row id that is taken fails, and another organization
starts at version 1. -/
theorem published_packs_stay_imports :
    (Runs.run (serve fun _ _ => .ok none) importedOnce
        [.importExternal (UUID.ofNat 1) (manualCatalog "1.2") (drawnAt 20),
          .importExternal (UUID.ofNat 1) (manualCatalog "1.3") (drawnAt 20),
          .importExternal (UUID.ofNat 2) (manualCatalog "1.4") (drawnAt 30)]).packs.map
        (·.version) = [1, 2, 1] ∧
      Keeps importedOnce (Runs.run (serve fun _ _ => .ok none) importedOnce
        [.importExternal (UUID.ofNat 1) (manualCatalog "1.2") (drawnAt 20),
          .importExternal (UUID.ofNat 1) (manualCatalog "1.3") (drawnAt 20),
          .importExternal (UUID.ofNat 2) (manualCatalog "1.4") (drawnAt 30)]) := by
  have hempty : Consistent { packs := [], obligations := [], rules := [] } :=
    ⟨List.nodup_nil, List.Pairwise.nil, List.nodup_nil, List.forall_mem_nil _⟩
  have honce : Consistent importedOnce := (serve_keeps _ _ hempty).1
  exact ⟨by decide +kernel, (published_packs_stay _ importedOnce _ honce).2⟩

end ConfigAuditor.Assessment.Publication
