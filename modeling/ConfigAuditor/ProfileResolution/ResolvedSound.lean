import ConfigAuditor.ProfileResolution.Exits

/-!
# What a resolved profile promises

The profile `resolve_profile` selects is of the platform all explicit evidence names, and accepts
the version of the result. The version is the explicit one unless a published runtime profile of
the platform matches: the version it reads in a document replaces the explicit version unseen.
-/
namespace ConfigAuditor.ProfileResolution.ResolvedSound

open Library SecurityModel

/-- The version ids of the generic profiles. -/
def genericVersionIds : List String :=
  [genericCliManifest, genericXmlManifest, genericJsonManifest].map (·.profileVersionId)

/-- A result with a generic profile. -/
def Generic (result : ProfileResolutionResult) : Prop :=
  ∃ id ∈ genericVersionIds, result.selectedProfileVersionId = some id

/-- A result agrees with its profile and with the explicit identities. -/
structure Agrees (manifest : DeviceManifest) (identities : List Identity)
    (result : ProfileResolutionResult) : Prop where
  profileId : result.selectedProfileId = some manifest.profileId
  profileVersionId : result.selectedProfileVersionId = some manifest.profileVersionId
  vendor : result.vendor = some manifest.vendor
  os : result.os = some manifest.os
  accepted : ∃ version, result.osVersion = some version ∧
    manifest.versionConstraint.accepts version = .ok true
  explicit : ∀ item ∈ identities, result.vendor = some item.vendor ∧ result.os = some item.os ∧
    ∀ version, item.version = some version → result.osVersion = some version

section Resolved

variable (p : Platform) (evidence : SnapshotEvidence) (runtimeManifests : List DeviceManifest)

/-- A profile that is not generic is selected for good reason. -/
def Sound : Prop :=
  ∀ result, resolveProfile p evidence runtimeManifests = .ok result →
    result.resolutionStatus = .resolved → ¬ Generic result →
      ∃ manifest ∈ builtInManifests ++ runtimeManifests,
        Agrees manifest (explicitIdentities p evidence runtimeManifests) result

/-- A runtime profile of the platform reads another version than the explicit one. -/
structure Overridden (vendor os version : String) (first : RuntimeMatch)
    (rest : List RuntimeMatch) : Prop where
  named : Named (allFindings p evidence.documents runtimeManifests) vendor os (some version)
  matched : OneMatch p evidence.documents runtimeManifests first rest
  vendor : first.manifest.vendor = vendor
  os : first.manifest.os = os
  usable : first.manifest.deviceClasses ≠ []
  special : first.manifest.profileVersionId ∉ genericVersionIds
  version : first.version ≠ version

variable {p evidence runtimeManifests}

/-- A match says of its manifest what a sound result says, but for the explicit identities. -/
theorem agrees_of_match {documents : List EvidenceDocument} {first : RuntimeMatch}
    {rest : List RuntimeMatch} {identities : List Identity} {result : ProfileResolutionResult}
    (hmatch : OneMatch p documents runtimeManifests first rest) (hof : OfMatch first result)
    (hexplicit : ∀ item ∈ identities, item.vendor = first.manifest.vendor ∧
      item.os = first.manifest.os ∧ ∀ version, item.version = some version →
        first.version = version) :
    ∃ manifest ∈ builtInManifests ++ runtimeManifests, Agrees manifest identities result := by
  obtain ⟨hmem, -, -, haccepts⟩ := mem_runtimeMatches p hmatch.matches_eq List.mem_cons_self
  refine ⟨first.manifest, List.mem_append_right _ hmem, hof.profileId, hof.profileVersionId,
    hof.vendor, hof.os, ⟨first.version, hof.osVersion, haccepts⟩, ?_⟩
  intro item hitem
  obtain ⟨hvendor, hos, hversion⟩ := hexplicit item hitem
  refine ⟨?_, ?_, ?_⟩
  · rw [hof.vendor, hvendor]
  · rw [hof.os, hos]
  · intro version htext
    rw [hof.osVersion, hversion version htext]

/-- A built-in profile is resolved for the explicit version. -/
theorem agrees_of_builtIn {findings : List Finding} {vendor os : String}
    {version model serialNumber : Option String} {family : Family}
    {signals : List EvidenceSignal} {confidence : ResolutionConfidence}
    {result : ProfileResolutionResult} (hnamed : Named findings vendor os version)
    (hresult : resolveBuiltIn family vendor os version model serialNumber signals confidence =
      .ok result) (hresolved : result.resolutionStatus = .resolved) :
    ∃ manifest ∈ builtInManifests ++ runtimeManifests,
      Agrees manifest (identitiesOf findings) result := by
  cases version with
  | none =>
    cases hresult
    cases hresolved
  | some version =>
    simp only [resolveBuiltIn, except_bind_eq_ok, except_pure_eq_ok] at hresult
    obtain ⟨candidates, hcandidates, rfl⟩ := hresult
    have hcompatible : compatibleManifests vendor os version = .ok candidates :=
      except_mapError_eq_ok.mp hcandidates
    rcases candidates with _ | ⟨selected, _ | ⟨_, _⟩⟩
    · exfalso
      unfold builtInResult at hresolved
      dsimp only at hresolved
      split at hresolved <;> cases hresolved
    · obtain ⟨hmem, rfl, rfl, haccepts⟩ :=
        mem_compatibleManifests hcompatible (List.mem_singleton.mpr rfl)
      refine ⟨selected, List.mem_append_left _ hmem, rfl, rfl, rfl, rfl,
        ⟨version, rfl, haccepts⟩, ?_⟩
      intro item hitem
      obtain ⟨hvendor, hos, hversion⟩ := hnamed.agree hitem
      exact ⟨congrArg some hvendor.symm, congrArg some hos.symm, hversion⟩
    · cases hresolved

theorem resolveUnidentified_generic {findings : List Finding} {documents : List EvidenceDocument}
    {unavailableCount : Nat}
    (h : (resolveUnidentified p findings documents unavailableCount).resolutionStatus =
      .resolved) : Generic (resolveUnidentified p findings documents unavailableCount) := by
  unfold resolveUnidentified at h ⊢
  dsimp only at h ⊢
  split at h
  · cases h
  next hmodel =>
  rw [if_neg hmodel]
  split at h
  · cases h
  next hsyntax =>
  rw [if_neg hsyntax]
  split at h
  · next hxml =>
    rw [if_pos hxml]
    exact ⟨genericXmlManifest.profileVersionId, by decide, rfl⟩
  next hxml =>
  rw [if_neg hxml]
  split at h
  · next hjson =>
    rw [if_pos hjson]
    exact ⟨genericJsonManifest.profileVersionId, by decide, rfl⟩
  next hjson =>
  rw [if_neg hjson]
  split at h
  · next hcli =>
    rw [if_pos hcli]
    exact ⟨genericCliManifest.profileVersionId, by decide, rfl⟩
  · cases h

/-- Where no runtime profile overrides the explicit version, every way to a resolved profile is
sound. -/
theorem exit_sound {result : ProfileResolutionResult}
    (hexit : Exit p evidence.documents (allFindings p evidence.documents runtimeManifests)
      runtimeManifests result)
    (hfree : ¬ ∃ vendor os version first rest,
      Overridden p evidence runtimeManifests vendor os version first rest)
    (hresolved : result.resolutionStatus = .resolved) (hspecial : ¬ Generic result) :
    ∃ manifest ∈ builtInManifests ++ runtimeManifests,
      Agrees manifest (explicitIdentities p evidence runtimeManifests) result := by
  cases hexit with
  | platforms => cases hresolved
  | versions => cases hresolved
  | namedRuntime vendor os version first rest _ hnamed hmatch hvendor hos hresult =>
    obtain ⟨husable, hof⟩ := runtimeResult_eq_ok hresult
    have hid : first.manifest.profileVersionId ∉ genericVersionIds := by
      intro hmem
      exact hspecial ⟨_, hmem, hof.profileVersionId⟩
    apply agrees_of_match hmatch hof
    intro item hitem
    obtain ⟨hitemVendor, hitemOs, hversion⟩ := hnamed.agree hitem
    refine ⟨hitemVendor.trans hvendor.symm, hitemOs.trans hos.symm, ?_⟩
    intro text htext
    by_contra hne
    obtain rfl := hversion text htext
    exact hfree ⟨vendor, os, text, first, rest, hnamed, hmatch, hvendor, hos, husable, hid, hne⟩
  | builtIn _ _ _ _ _ _ _ _ hnamed hresult => exact agrees_of_builtIn hnamed hresult hresolved
  | runtime first rest _ hnone hmatch hresult =>
    apply agrees_of_match hmatch (runtimeResult_eq_ok hresult).2
    intro item hitem
    rw [explicitIdentities, hnone] at hitem
    cases hitem
  | ambiguous => cases hresolved
  | unidentified => exact absurd (resolveUnidentified_generic hresolved) hspecial

/-- An overriding runtime profile is resolved with the version it reads. -/
theorem resolveProfile_overridden {vendor os version : String} {first : RuntimeMatch}
    {rest : List RuntimeMatch}
    (h : Overridden p evidence runtimeManifests vendor os version first rest) :
    ∃ result, resolveProfile p evidence runtimeManifests = .ok result ∧ OfMatch first result := by
  obtain ⟨matched, hmatched⟩ :=
    exists_runtimeResult (signalsOf (allFindings p evidence.documents runtimeManifests)) h.usable
  have hof := (runtimeResult_eq_ok hmatched).2
  have hruntime := @resolveRuntimeManifest_ok p _ _
    (signalsOf (allFindings p evidence.documents runtimeManifests)) _ h.matched.matches_eq
  have hone : (rest.all fun item => item.key == first.key) = true := by
    simpa using h.matched.one
  rw [matchesResult, if_pos hone, hmatched] at hruntime
  have hdecided : resolveCandidates p (allFindings p evidence.documents runtimeManifests)
      evidence.documents evidence.issues.length runtimeManifests = .ok matched := by
    unfold resolveCandidates
    rw [h.named.keys]
    dsimp only
    rw [resolveIdentified_one p h.named.versions]
    unfold identifiedResult
    dsimp only
    rw [hruntime]
    simp only [Except.map, Option.filter_some, hof.vendor, hof.os, h.vendor, h.os, beq_self_eq_true,
      Bool.and_self, if_true]
  refine ⟨withMetadata (allFindings p evidence.documents runtimeManifests) matched, ?_, ?_⟩
  · unfold resolveProfile
    dsimp only
    rw [hdecided]
    rfl
  · exact ⟨hof.status, hof.vendor, hof.os, hof.osVersion, hof.profileId, hof.profileVersionId,
      hof.conflicts⟩

/-- A resolved profile is sound exactly when no runtime profile overrides the explicit version. -/
theorem resolved_sound_iff :
    Sound p evidence runtimeManifests ↔
      ¬ ∃ vendor os version first rest,
        Overridden p evidence runtimeManifests vendor os version first rest := by
  constructor
  · rintro hsound ⟨vendor, os, version, first, rest, h⟩
    obtain ⟨result, hresult, hof⟩ := resolveProfile_overridden h
    have hspecial : ¬ Generic result := by
      rintro ⟨id, hid, hsame⟩
      rw [hof.profileVersionId, Option.some.injEq] at hsame
      exact h.special (hsame ▸ hid)
    obtain ⟨manifest, -, hagrees⟩ := hsound result hresult hof.status hspecial
    have hmem : version ∈ versionsOf (explicitIdentities p evidence runtimeManifests) := by
      rw [← List.mem_dedup, explicitIdentities, h.named.versions]
      exact List.mem_singleton.mpr rfl
    obtain ⟨item, hitem, htext⟩ := List.mem_filterMap.mp hmem
    have hversion := (hagrees.explicit item hitem).2.2 version htext
    rw [hof.osVersion, Option.some.injEq] at hversion
    exact h.version hversion
  · intro hfree result hresult hresolved hspecial
    obtain ⟨decided, hdecided, rfl⟩ := resolveProfile_eq_ok p hresult
    obtain ⟨manifest, hmem, hagrees⟩ :=
      exit_sound (resolveCandidates_exit p hdecided) hfree hresolved hspecial
    exact ⟨manifest, hmem, hagrees.profileId, hagrees.profileVersionId, hagrees.vendor,
      hagrees.os, hagrees.accepted, hagrees.explicit⟩

end Resolved

/-- A published profile for hosts of the platform whose configuration names its version. -/
def hostManifest : DeviceManifest where
  profileId := "tenant.ios_xe"
  profileVersionId := "tenant.ios_xe@1.0.0"
  structuralReaderName := some "indentation_cli.v1"
  knowledgePackName := some "runtime.tenant.ios_xe@1.0.0"
  profileVersion := "1.0.0"
  vendor := "Cisco"
  productFamily := "IOS XE"
  os := "IOS XE"
  versionConstraint := { supportedMajorVersions := [17], excludedVersions := ["17.9.4"] }
  deviceClasses := [.router]
  acceptedEvidenceTypes := [.configuration]
  capabilities := ["structural_parsing", "semantic_interpretation"]
  detectionTokens := ["hostname"]
  structuralEvidenceTypes := [.configuration]

/-- A version output, and the configuration of the same device. -/
def versionAndConfiguration : SnapshotEvidence where
  documents :=
    [{ artifactId := .ofNat 1, snapshotId := .ofNat 9, evidenceType := .versionOutput,
       originalFilename := "version.txt", text := "Cisco IOS XE Software, Version 17.09.04a\n" },
      { artifactId := .ofNat 2, snapshotId := .ofNat 9, evidenceType := .configuration,
        originalFilename := "running.cfg", text := "version 17.9\nhostname edge\n" }]

set_option maxRecDepth 4000 in
theorem versionAndConfiguration_result :
    (resolveProfile {} versionAndConfiguration [hostManifest]).toOption.map (fun result =>
      (result.resolutionStatus, result.osVersion, result.selectedProfileVersionId)) =
      some (.resolved, some "17.9", some "tenant.ios_xe@1.0.0") := by
  decide +kernel

set_option maxRecDepth 4000 in
theorem versionAndConfiguration_identities :
    (explicitIdentities {} versionAndConfiguration [hostManifest]).map (·.version) =
      [some "17.09.04a"] := by
  decide +kernel

theorem resolved_unsound :
    ¬ ∀ (evidence : SnapshotEvidence) (runtimeManifests : List DeviceManifest),
      Sound {} evidence runtimeManifests := by
  intro h
  obtain ⟨result, hresult, hview⟩ := exists_of_toOption versionAndConfiguration_result
  obtain ⟨hstatus, hversion, hprofile⟩ := by
    simpa only [Prod.mk.injEq] using hview
  have hspecial : ¬ Generic result := by
    rintro ⟨id, hid, hsame⟩
    rw [hprofile, Option.some.injEq] at hsame
    subst hsame
    exact absurd hid (by decide)
  obtain ⟨manifest, -, hagrees⟩ :=
    h versionAndConfiguration [hostManifest] result hresult hstatus hspecial
  have hmem : some "17.09.04a" ∈
      (explicitIdentities {} versionAndConfiguration [hostManifest]).map (·.version) := by
    rw [versionAndConfiguration_identities]
    exact List.mem_singleton.mpr rfl
  obtain ⟨item, hitem, htext⟩ := List.mem_map.mp hmem
  have hexplicit := (hagrees.explicit item hitem).2.2 "17.09.04a" htext
  rw [hversion, Option.some.injEq] at hexplicit
  exact absurd hexplicit (by decide)

end ConfigAuditor.ProfileResolution.ResolvedSound
