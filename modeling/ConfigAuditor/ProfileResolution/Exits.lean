import ConfigAuditor.ProfileResolution.Resolver

/-!
# The exits of profile resolution

What each part of `resolve_profile` returns: the matches of the runtime manifests one by one, the
result for the matches, the result for a platform and its version.
-/
namespace ConfigAuditor.ProfileResolution

open Library SecurityModel

section Distinct

variable {α : Type} [DecidableEq α] {items : List α}

theorem dedup_eq_singleton {a : α} : items.dedup = [a] ↔ items ≠ [] ∧ ∀ b ∈ items, b = a := by
  constructor
  · intro h
    refine ⟨?_, ?_⟩
    · rintro rfl
      cases h
    · intro b hb
      rw [← List.mem_dedup, h, List.mem_singleton] at hb
      exact hb
  · rintro ⟨hne, hall⟩
    rw [List.eq_replicate_of_mem hall]
    exact List.replicate_dedup (List.length_pos_iff.mpr hne).ne'

theorem mem_of_dedup_eq {a b : α} {rest : List α} (h : items.dedup = a :: b :: rest) :
    a ∈ items ∧ b ∈ items ∧ a ≠ b := by
  have hnodup := List.nodup_dedup items
  rw [h] at hnodup
  refine ⟨?_, ?_, ?_⟩
  · rw [← List.mem_dedup, h]
    exact List.mem_cons_self
  · rw [← List.mem_dedup, h]
    exact List.mem_cons_of_mem a List.mem_cons_self
  · rintro rfl
    exact (List.nodup_cons.mp hnodup).1 List.mem_cons_self

theorem dedup_of_ne {a b : α} (ha : a ∈ items) (hb : b ∈ items) (hne : a ≠ b) :
    ∃ x y rest, items.dedup = x :: y :: rest := by
  rw [← List.mem_dedup] at ha hb
  match h : items.dedup with
  | [] =>
    rw [h] at ha
    cases ha
  | [x] =>
    rw [h, List.mem_singleton] at ha hb
    exact absurd (ha.trans hb.symm) hne
  | x :: y :: rest => exact ⟨x, y, rest, rfl⟩

end Distinct

variable (p : Platform) {documents : List EvidenceDocument} {findings : List Finding}

/-- The match of a manifest and a document, where reading the version raises nothing. -/
def matchOf (manifest : DeviceManifest) (document : EvidenceDocument) : Option RuntimeMatch :=
  ((runtimeMatch p manifest document).toOption).join

/-- A match is a match of the manifest it was looked for with. -/
theorem runtimeMatch_eq_some {manifest : DeviceManifest} {document : EvidenceDocument}
    {found : RuntimeMatch} (h : runtimeMatch p manifest document = .ok (some found)) :
    found.manifest = manifest ∧ found.document = document ∧
      runtimeVersion p manifest document = some found.version ∧
      manifest.versionConstraint.accepts found.version = .ok true := by
  unfold runtimeMatch at h
  cases hversion : runtimeVersion p manifest document with
  | none =>
    rw [hversion] at h
    cases h
  | some version =>
    rw [hversion] at h
    simp only [except_bind_eq_ok] at h
    obtain ⟨accepted, haccepted, h⟩ := h
    cases accepted with
    | false => cases h
    | true =>
      simp only [if_true, except_pure_eq_ok, Option.some.injEq] at h
      subst h
      exact ⟨rfl, rfl, rfl, haccepted⟩

theorem runtimeMatch_error {manifest : DeviceManifest} {document : EvidenceDocument}
    {error : Error} (h : runtimeMatch p manifest document = .error error) :
    error = .python .valueError := by
  unfold runtimeMatch at h
  split at h
  · cases h
  · next version hversion =>
    cases haccepts : manifest.versionConstraint.accepts version with
    | error e =>
      rw [haccepts] at h
      rw [← Except.error.inj h]
      exact VersionConstraint.accepts_error haccepts
    | ok accepted =>
      rw [haccepts] at h
      cases accepted <;> cases h

/-- The turns of the loops. -/
def turns (documents : List EvidenceDocument) (manifests : List DeviceManifest) :
    List (DeviceManifest × EvidenceDocument) :=
  manifests.flatMap fun manifest => documents.map fun document => (manifest, document)

def turn (p : Platform) : DeviceManifest × EvidenceDocument → Except Error (Option RuntimeMatch) :=
  fun (manifest, document) => runtimeMatch p manifest document

theorem runtimeMatches_eq (manifests : List DeviceManifest) :
    runtimeMatches p documents manifests =
      ((turns documents manifests).mapM (turn p)).map (·.filterMap id) := by
  unfold runtimeMatches
  cases h : (turns documents manifests).mapM (turn p) with
  | error e =>
    change ((turns documents manifests).mapM (turn p) >>= _) = _
    rw [h]
    rfl
  | ok found =>
    change ((turns documents manifests).mapM (turn p) >>= _) = _
    rw [h]
    rfl

/-- The matches, manifest by manifest. -/
theorem runtimeMatches_eq_ok {manifests : List DeviceManifest} {found : List RuntimeMatch}
    (h : runtimeMatches p documents manifests = .ok found) :
    found = manifests.flatMap fun manifest => documents.filterMap (matchOf p manifest) := by
  rw [runtimeMatches_eq] at h
  cases hturns : (turns documents manifests).mapM (turn p) with
  | error e =>
    rw [hturns] at h
    cases h
  | ok results =>
    rw [hturns] at h
    have hresults : results = (turns documents manifests).map fun pair =>
        matchOf p pair.1 pair.2 := by
      have hmap := mapM_map (g := id) (k := fun pair => matchOf p pair.1 pair.2) hturns
        fun pair result hresult => by
          rw [matchOf]
          change turn p pair = _ at hresult
          rw [show runtimeMatch p pair.1 pair.2 = .ok result from hresult]
          rfl
      rw [← hmap, List.map_id]
    have hfound : results.filterMap id = found := Except.ok.inj h
    rw [← hfound, hresults, List.filterMap_map, turns, List.filterMap_flatMap]
    congr 1
    funext manifest
    rw [List.filterMap_map]
    rfl

/-- The version a document of the right type with all tokens has. -/
theorem runtimeVersion_eq_some {manifest : DeviceManifest} {document : EvidenceDocument}
    {version : String} (htokens : manifest.detectionTokens ≠ [])
    (htype : document.evidenceType ∈ manifest.acceptedEvidenceTypes)
    (hall : ∀ token ∈ manifest.detectionTokens, Text.occursIn (p.caseFold token.toList)
      (p.caseFold document.text.toList) = true)
    (hfound : (Regex.search p.isWord runtimeVersionPattern
      (document.text.toList.take (maxLineCharacters * maxLinesPerArtifact))).map (·.group 1) =
      some version) :
    runtimeVersion p manifest document = some version := by
  have hempty : manifest.detectionTokens.isEmpty = false := List.isEmpty_eq_false_iff.mpr htokens
  have htypes : manifest.acceptedEvidenceTypes.contains document.evidenceType = true :=
    List.contains_iff_mem.mpr htype
  unfold runtimeVersion
  rw [hempty, htypes, List.all_eq_true.mpr hall]
  exact hfound

/-- What is matched is a manifest of the list, and it accepts the version that was read. -/
theorem mem_runtimeMatches {manifests : List DeviceManifest} {found : List RuntimeMatch}
    (h : runtimeMatches p documents manifests = .ok found) {matched : RuntimeMatch}
    (hmem : matched ∈ found) :
    matched.manifest ∈ manifests ∧ matched.document ∈ documents ∧
      runtimeVersion p matched.manifest matched.document = some matched.version ∧
      matched.manifest.versionConstraint.accepts matched.version = .ok true := by
  rw [runtimeMatches_eq_ok p h] at hmem
  obtain ⟨manifest, hmanifest, hmem⟩ := List.mem_flatMap.mp hmem
  obtain ⟨document, hdocument, hmatch⟩ := List.mem_filterMap.mp hmem
  rw [matchOf, Option.join_eq_some_iff, toOption_eq_some] at hmatch
  obtain ⟨rfl, rfl, hversion, haccepts⟩ := runtimeMatch_eq_some p hmatch
  exact ⟨hmanifest, hdocument, hversion, haccepts⟩

theorem resolveRuntimeManifest_error {manifests : List DeviceManifest}
    {signals : List EvidenceSignal} {error : Error}
    (h : runtimeMatches p documents manifests = .error error) :
    resolveRuntimeManifest p documents manifests signals = .error (.raised error) := by
  unfold resolveRuntimeManifest
  rw [h]
  rfl

/-- The result for matches of several profiles or versions. -/
def ambiguousRuntime (signals : List EvidenceSignal) : ProfileResolutionResult :=
  { supportingSignals := signals, confidence := .unresolved, resolutionStatus := .ambiguous,
    unresolvedReasons := ["Multiple compatible runtime profile manifests were detected"] }

/-- What the result of a match says of its manifest. -/
structure OfMatch (matched : RuntimeMatch) (result : ProfileResolutionResult) : Prop where
  status : result.resolutionStatus = .resolved
  vendor : result.vendor = some matched.manifest.vendor
  os : result.os = some matched.manifest.os
  osVersion : result.osVersion = some matched.version
  profileId : result.selectedProfileId = some matched.manifest.profileId
  profileVersionId : result.selectedProfileVersionId = some matched.manifest.profileVersionId
  conflicts : result.conflicts = []

theorem runtimeResult_eq_ok {signals : List EvidenceSignal} {matched : RuntimeMatch}
    {result : ProfileResolutionResult} (h : runtimeResult signals matched = .ok result) :
    matched.manifest.deviceClasses ≠ [] ∧ OfMatch matched result := by
  unfold runtimeResult at h
  dsimp only at h
  split at h
  · cases h
  · next deviceClass rest hclasses =>
    cases h
    refine ⟨?_, rfl, rfl, rfl, rfl, rfl, rfl, rfl⟩
    rw [hclasses]
    exact List.cons_ne_nil deviceClass rest

theorem exists_runtimeResult (signals : List EvidenceSignal) {matched : RuntimeMatch}
    (h : matched.manifest.deviceClasses ≠ []) :
    ∃ result, runtimeResult signals matched = .ok result := by
  unfold runtimeResult
  dsimp only
  split
  · next hnone => exact absurd hnone h
  · exact ⟨_, rfl⟩

/-- The result for the matches that were found. -/
def matchesResult (signals : List EvidenceSignal) :
    List RuntimeMatch → Except ResolverError (Option ProfileResolutionResult)
  | [] => .ok none
  | first :: rest =>
    if rest.all fun item => item.key == first.key then (runtimeResult signals first).map some
    else .ok (some (ambiguousRuntime signals))

theorem resolveRuntimeManifest_ok {manifests : List DeviceManifest}
    {signals : List EvidenceSignal} {found : List RuntimeMatch}
    (h : runtimeMatches p documents manifests = .ok found) :
    resolveRuntimeManifest p documents manifests signals = matchesResult signals found := by
  unfold resolveRuntimeManifest
  rw [h]
  cases found with
  | nil => rfl
  | cons first rest =>
    simp only [matchesResult]
    change (if _ then _ else _) = _
    split
    · cases runtimeResult signals first <;> rfl
    · rfl

/-- What is decided for a platform with at most one version. -/
def identifiedResult (findings : List Finding) (documents : List EvidenceDocument)
    (runtimeManifests : List DeviceManifest) (vendor os : String) (version : Option String) :
    Except ResolverError ProfileResolutionResult :=
  let model := firstValue (modelsOf findings)
  let (productFamily, deviceClass) := classifyHardware p model
  let confidence : ResolutionConfidence :=
    if (identitiesOf findings).any (·.signal.strength == .strongest) then .high else .medium
  match resolveRuntimeManifest p documents runtimeManifests (signalsOf findings) with
  | .error e => .error e
  | .ok runtime =>
    match runtime.filter fun found => found.vendor == some vendor && found.os == some os with
    | some found => .ok found
    | none =>
      resolveBuiltIn (familyOf vendor os productFamily deviceClass) vendor os version model
        (firstValue (serialsOf findings)) (signalsOf findings) confidence

theorem resolveIdentified_one {runtimeManifests : List DeviceManifest} {vendor os : String}
    {version : Option String}
    (h : (versionsOf (identitiesOf findings)).dedup = version.toList) :
    resolveIdentified p findings documents runtimeManifests vendor os =
      identifiedResult p findings documents runtimeManifests vendor os version := by
  unfold resolveIdentified identifiedResult
  dsimp only
  rw [h]
  cases version <;>
  · simp only [Option.toList]
    cases resolveRuntimeManifest p documents runtimeManifests (signalsOf findings) with
    | error e => rfl
    | ok runtime =>
      dsimp only [bind, Except.bind]
      generalize Option.filter _ runtime = chosen
      cases chosen <;> rfl

theorem resolveIdentified_many {runtimeManifests : List DeviceManifest} {vendor os : String}
    {first second : String} {rest : List String}
    (h : (versionsOf (identitiesOf findings)).dedup = first :: second :: rest) :
    resolveIdentified p findings documents runtimeManifests vendor os =
      .ok (versionConflict vendor os findings) := by
  unfold resolveIdentified
  dsimp only
  rw [h]

section Exit

variable (findings) (documents) (runtimeManifests : List DeviceManifest)

/-- The matches of the runtime manifests, all of one profile and version. -/
structure OneMatch (first : RuntimeMatch) (rest : List RuntimeMatch) : Prop where
  matches_eq : runtimeMatches p documents runtimeManifests = .ok (first :: rest)
  one : ∀ item ∈ rest, item.key = first.key

/-- The one platform that explicit evidence names, and the version if it names one. -/
structure Named (vendor os : String) (version : Option String) : Prop where
  keys : identityKeys (identitiesOf findings) = [(vendor, os)]
  versions : (versionsOf (identitiesOf findings)).dedup = version.toList

/-- Every identity names the platform, and the version where it names one. -/
theorem Named.agree {findings : List Finding} {vendor os : String} {version : Option String}
    (hnamed : Named findings vendor os version) {item : Identity}
    (hitem : item ∈ identitiesOf findings) :
    item.vendor = vendor ∧ item.os = os ∧ ∀ text, item.version = some text → version = some text := by
  have hkey := (dedup_eq_singleton.mp hnamed.keys).2 (item.vendor, item.os)
    (List.mem_map_of_mem (f := fun item : Identity => (item.vendor, item.os)) hitem)
  refine ⟨(Prod.mk.inj hkey).1, (Prod.mk.inj hkey).2, ?_⟩
  intro text htext
  have hmem : text ∈ (versionsOf (identitiesOf findings)).dedup :=
    List.mem_dedup.mpr (List.mem_filterMap.mpr ⟨item, hitem, htext⟩)
  rw [hnamed.versions, Option.mem_toList] at hmem
  exact hmem

/-- The ways a decision is reached. -/
inductive Exit : ProfileResolutionResult → Prop
  | platforms (first second : String × String) (rest : List (String × String))
      (hkeys : identityKeys (identitiesOf findings) = first :: second :: rest) :
      Exit (platformConflict findings)
  | versions (vendor os first second : String) (rest : List String)
      (hkeys : identityKeys (identitiesOf findings) = [(vendor, os)])
      (hversions : (versionsOf (identitiesOf findings)).dedup = first :: second :: rest) :
      Exit (versionConflict vendor os findings)
  | namedRuntime (vendor os : String) (version : Option String) (first : RuntimeMatch)
      (rest : List RuntimeMatch) (result : ProfileResolutionResult)
      (hnamed : Named findings vendor os version)
      (hmatch : OneMatch p documents runtimeManifests first rest)
      (hvendor : first.manifest.vendor = vendor) (hos : first.manifest.os = os)
      (hresult : runtimeResult (signalsOf findings) first = .ok result) : Exit result
  | builtIn (vendor os : String) (version model serialNumber : Option String) (family : Family)
      (confidence : ResolutionConfidence) (result : ProfileResolutionResult)
      (hnamed : Named findings vendor os version)
      (hresult : resolveBuiltIn family vendor os version model serialNumber (signalsOf findings)
        confidence = .ok result) : Exit result
  | runtime (first : RuntimeMatch) (rest : List RuntimeMatch) (result : ProfileResolutionResult)
      (hnone : identitiesOf findings = [])
      (hmatch : OneMatch p documents runtimeManifests first rest)
      (hresult : runtimeResult (signalsOf findings) first = .ok result) : Exit result
  | ambiguous (hnone : identitiesOf findings = []) : Exit (ambiguousRuntime (signalsOf findings))
  | unidentified (unavailableCount : Nat) (hnone : identitiesOf findings = []) :
      Exit (resolveUnidentified p findings documents unavailableCount)

end Exit

/-- What the runtime manifests contribute. -/
theorem resolveRuntimeManifest_eq_some {manifests : List DeviceManifest}
    {signals : List EvidenceSignal} {result : ProfileResolutionResult}
    (h : resolveRuntimeManifest p documents manifests signals = .ok (some result)) :
    (∃ first rest, OneMatch p documents manifests first rest ∧
        runtimeResult signals first = .ok result) ∨ result = ambiguousRuntime signals := by
  cases hmatches : runtimeMatches p documents manifests with
  | error error =>
    rw [resolveRuntimeManifest_error p hmatches] at h
    cases h
  | ok found =>
    rw [resolveRuntimeManifest_ok p hmatches] at h
    cases found with
    | nil => cases h
    | cons first rest =>
      rw [matchesResult] at h
      split at h
      · next hone =>
        left
        refine ⟨first, rest, ⟨hmatches, ?_⟩, ?_⟩
        · simpa using hone
        · cases hresult : runtimeResult signals first with
          | error e =>
            rw [hresult] at h
            cases h
          | ok found =>
            rw [hresult] at h
            exact congrArg Except.ok (Option.some.inj (Except.ok.inj h))
      · right
        exact (Option.some.inj (Except.ok.inj h)).symm

theorem identitiesOf_eq_nil_of_keys (h : identityKeys (identitiesOf findings) = []) :
    identitiesOf findings = [] := by
  rw [identityKeys, List.dedup_eq_nil, List.map_eq_nil_iff] at h
  exact h

theorem identifiedResult_exit {runtimeManifests : List DeviceManifest} {vendor os : String}
    {version : Option String} {result : ProfileResolutionResult}
    (hnamed : Named findings vendor os version)
    (h : identifiedResult p findings documents runtimeManifests vendor os version = .ok result) :
    Exit p documents findings runtimeManifests result := by
  unfold identifiedResult at h
  dsimp only at h
  split at h
  · cases h
  · next runtime hruntime =>
    split at h
    · next found hfound =>
      obtain rfl : found = result := Except.ok.inj h
      obtain ⟨rfl, hplatform⟩ := Option.filter_eq_some_iff.mp hfound
      simp only [Bool.and_eq_true, beq_iff_eq] at hplatform
      obtain ⟨hvendor, hos⟩ := hplatform
      obtain ⟨first, rest, hmatch, hresult⟩ | rfl := resolveRuntimeManifest_eq_some p hruntime
      · obtain ⟨-, hfields⟩ := runtimeResult_eq_ok hresult
        rw [hfields.vendor] at hvendor
        rw [hfields.os] at hos
        exact .namedRuntime vendor os version first rest found hnamed hmatch
          (Option.some.inj hvendor) (Option.some.inj hos) hresult
      · cases hvendor
    · exact .builtIn vendor os version _ _ _ _ result hnamed h

/-- Every decision is reached in one of the ways. -/
theorem resolveCandidates_exit {unavailableCount : Nat} {runtimeManifests : List DeviceManifest}
    {result : ProfileResolutionResult}
    (h : resolveCandidates p findings documents unavailableCount runtimeManifests = .ok result) :
    Exit p documents findings runtimeManifests result := by
  unfold resolveCandidates at h
  split at h
  · next first second rest hkeys =>
    cases h
    exact .platforms first second rest hkeys
  · next vendor os hkeys =>
    match hversions : (versionsOf (identitiesOf findings)).dedup with
    | [] =>
      rw [@resolveIdentified_one p _ _ _ _ _ none hversions] at h
      exact @identifiedResult_exit p _ _ _ _ _ none _ ⟨hkeys, hversions⟩ h
    | [version] =>
      rw [@resolveIdentified_one p _ _ _ _ _ (some version) hversions] at h
      exact @identifiedResult_exit p _ _ _ _ _ (some version) _ ⟨hkeys, hversions⟩ h
    | first :: second :: rest =>
      rw [resolveIdentified_many p hversions] at h
      cases h
      exact .versions vendor os first second rest hkeys hversions
  · next hkeys =>
    have hnone := identitiesOf_eq_nil_of_keys hkeys
    simp only [except_bind_eq_ok, except_pure_eq_ok] at h
    obtain ⟨runtime, hruntime, rfl⟩ := h
    cases runtime with
    | none => exact .unidentified unavailableCount hnone
    | some found =>
      obtain ⟨first, rest, hmatch, hresult⟩ | rfl := resolveRuntimeManifest_eq_some p hruntime
      · exact .runtime first rest found hnone hmatch hresult
      · exact .ambiguous hnone

/-- The identities of a snapshot. -/
def explicitIdentities (evidence : SnapshotEvidence) (runtimeManifests : List DeviceManifest) :
    List Identity :=
  identitiesOf (allFindings p evidence.documents runtimeManifests)

/-- Without an identity, what the runtime manifests raise is raised. -/
theorem resolveProfile_raised {evidence : SnapshotEvidence}
    {runtimeManifests : List DeviceManifest} {error : Error}
    (hnone : explicitIdentities p evidence runtimeManifests = [])
    (hmatches : runtimeMatches p evidence.documents runtimeManifests = .error error) :
    resolveProfile p evidence runtimeManifests = .error (.raised error) := by
  have hkeys : identityKeys (identitiesOf
      (allFindings p evidence.documents runtimeManifests)) = [] := by
    rw [show identitiesOf (allFindings p evidence.documents runtimeManifests) = [] from hnone]
    rfl
  unfold resolveProfile resolveCandidates
  dsimp only
  rw [hkeys]
  dsimp only
  rw [resolveRuntimeManifest_error p hmatches]
  rfl

/-- The metadata is added to the result of the decision. -/
theorem resolveProfile_eq_ok {evidence : SnapshotEvidence} {runtimeManifests : List DeviceManifest}
    {result : ProfileResolutionResult} (h : resolveProfile p evidence runtimeManifests = .ok result) :
    ∃ decided, resolveCandidates p (allFindings p evidence.documents runtimeManifests)
        evidence.documents evidence.issues.length runtimeManifests = .ok decided ∧
      result = withMetadata (allFindings p evidence.documents runtimeManifests) decided := by
  simp only [resolveProfile, except_bind_eq_ok, except_pure_eq_ok] at h
  obtain ⟨decided, hdecided, rfl⟩ := h
  exact ⟨decided, hdecided, rfl⟩

end ConfigAuditor.ProfileResolution
