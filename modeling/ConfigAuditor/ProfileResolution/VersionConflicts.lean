import ConfigAuditor.ProfileResolution.Exits

/-!
# Conflicts of versions

`resolve_profile` compares the version texts it extracts as texts, so one release in two
spellings is a conflict: the lines of one `show version` output write the same release with and
without leading zeros.
-/
namespace ConfigAuditor.ProfileResolution.VersionConflicts

open Library SecurityModel VersionConstraint

/-- What follows the numeric part of a version. -/
def suffixOf (version : String) : List Char :=
  version.toList.drop (numericPart version.toList).length

/-- All identities name one platform, and all versions are one release. -/
structure OneRelease (identities : List Identity) : Prop where
  platform : ∀ item ∈ identities, ∀ other ∈ identities,
    (item.vendor, item.os) = (other.vendor, other.os)
  release : ∃ numbers suffix, ∀ version ∈ versionsOf identities,
    parse version = .ok (some numbers) ∧ suffixOf version = suffix

/-- The versions are written the same way, leading zeros included. -/
def SpelledAlike (identities : List Identity) : Prop :=
  ∀ version ∈ versionsOf identities, ∀ other ∈ versionsOf identities, version = other

section Conflicts

variable (p : Platform) (evidence : SnapshotEvidence) (runtimeManifests : List DeviceManifest)

/-- No conflict of versions is reported for the evidence of one release. -/
def NoFalseConflict : Prop :=
  OneRelease (explicitIdentities p evidence runtimeManifests) →
    ∀ result, resolveProfile p evidence runtimeManifests = .ok result →
      ∀ conflict ∈ result.conflicts, conflict.code ≠ "os_version_conflict"

variable {p evidence runtimeManifests}

theorem resolveBuiltIn_conflicts {family : Family} {vendor os : String}
    {version model serialNumber : Option String} {signals : List EvidenceSignal}
    {confidence : ResolutionConfidence} {result : ProfileResolutionResult}
    (h : resolveBuiltIn family vendor os version model serialNumber signals confidence =
      .ok result) : result.conflicts = [] := by
  cases version with
  | none =>
    cases h
    rfl
  | some version =>
    simp only [resolveBuiltIn, except_bind_eq_ok, except_pure_eq_ok] at h
    obtain ⟨candidates, -, rfl⟩ := h
    rcases candidates with _ | ⟨_, _ | ⟨_, _⟩⟩
    · unfold builtInResult
      dsimp only
      split <;> rfl
    · rfl
    · rfl

theorem resolveUnidentified_conflicts (findings : List Finding)
    (documents : List EvidenceDocument) (unavailableCount : Nat) :
    (resolveUnidentified p findings documents unavailableCount).conflicts = [] := by
  unfold resolveUnidentified
  dsimp only
  split
  · rfl
  split
  · rfl
  split
  · rfl
  split
  · rfl
  split <;> rfl

/-- Only several platforms or several version texts are conflicts. -/
theorem exit_conflicts {documents : List EvidenceDocument} {findings : List Finding}
    {result : ProfileResolutionResult}
    (hexit : Exit p documents findings runtimeManifests result)
    (hplatform : ∀ item ∈ identitiesOf findings, ∀ other ∈ identitiesOf findings,
      (item.vendor, item.os) = (other.vendor, other.os))
    (halike : SpelledAlike (identitiesOf findings)) : result.conflicts = [] := by
  cases hexit with
  | platforms first second rest hkeys =>
    obtain ⟨hfirst, hsecond, hne⟩ := mem_of_dedup_eq hkeys
    obtain ⟨item, hitem, rfl⟩ := List.mem_map.mp hfirst
    obtain ⟨other, hother, rfl⟩ := List.mem_map.mp hsecond
    exact absurd (hplatform item hitem other hother) hne
  | versions vendor os first second rest _ hversions =>
    obtain ⟨hfirst, hsecond, hne⟩ := mem_of_dedup_eq hversions
    exact absurd (halike first hfirst second hsecond) hne
  | namedRuntime _ _ _ _ _ _ _ _ _ _ hresult => exact (runtimeResult_eq_ok hresult).2.conflicts
  | builtIn _ _ _ _ _ _ _ _ _ hresult => exact resolveBuiltIn_conflicts hresult
  | runtime _ _ _ _ _ hresult => exact (runtimeResult_eq_ok hresult).2.conflicts
  | ambiguous => rfl
  | unidentified => exact resolveUnidentified_conflicts ..

/-- Two version texts of one platform are reported as a conflict. -/
theorem resolveProfile_versions {version other : String}
    (hplatform : ∀ item ∈ explicitIdentities p evidence runtimeManifests,
      ∀ other ∈ explicitIdentities p evidence runtimeManifests,
        (item.vendor, item.os) = (other.vendor, other.os))
    (hversion : version ∈ versionsOf (explicitIdentities p evidence runtimeManifests))
    (hother : other ∈ versionsOf (explicitIdentities p evidence runtimeManifests))
    (hne : version ≠ other) :
    ∃ result, resolveProfile p evidence runtimeManifests = .ok result ∧
      ∃ conflict ∈ result.conflicts, conflict.code = "os_version_conflict" := by
  obtain ⟨first, second, rest, hversions⟩ := dedup_of_ne hversion hother hne
  obtain ⟨item, hitem, -⟩ := List.mem_filterMap.mp hversion
  have hkeys : identityKeys (explicitIdentities p evidence runtimeManifests) =
      [(item.vendor, item.os)] := by
    refine dedup_eq_singleton.mpr ⟨List.ne_nil_of_mem (List.mem_map_of_mem hitem), ?_⟩
    intro key hkey
    obtain ⟨named, hnamed, rfl⟩ := List.mem_map.mp hkey
    exact hplatform named hnamed item hitem
  have hdecided : resolveCandidates p (allFindings p evidence.documents runtimeManifests)
      evidence.documents evidence.issues.length runtimeManifests =
      .ok (versionConflict item.vendor item.os
        (allFindings p evidence.documents runtimeManifests)) := by
    unfold resolveCandidates
    rw [show identityKeys (identitiesOf (allFindings p evidence.documents runtimeManifests)) =
      [(item.vendor, item.os)] from hkeys]
    exact resolveIdentified_many p hversions
  refine ⟨withMetadata (allFindings p evidence.documents runtimeManifests)
    (versionConflict item.vendor item.os (allFindings p evidence.documents runtimeManifests)),
    ?_, _, List.mem_singleton.mpr rfl, rfl⟩
  unfold resolveProfile
  dsimp only
  rw [hdecided]
  rfl

/-- The evidence of one release is free of conflicts exactly when its versions are all written
the same way. -/
theorem no_false_conflict_iff :
    NoFalseConflict p evidence runtimeManifests ↔
      (OneRelease (explicitIdentities p evidence runtimeManifests) →
        SpelledAlike (explicitIdentities p evidence runtimeManifests)) := by
  constructor
  · intro hfree hrelease version hversion other hother
    by_contra hne
    obtain ⟨result, hresult, conflict, hconflict, hcode⟩ :=
      resolveProfile_versions hrelease.platform hversion hother hne
    exact hfree hrelease result hresult conflict hconflict hcode
  · intro halike hrelease result hresult conflict hconflict
    obtain ⟨decided, hdecided, rfl⟩ := resolveProfile_eq_ok p hresult
    have hnone : decided.conflicts = [] :=
      exit_conflicts (resolveCandidates_exit p hdecided) hrelease.platform (halike hrelease)
    have hmem : conflict ∈ decided.conflicts := hconflict
    rw [hnone] at hmem
    cases hmem

end Conflicts

/-- Two lines of one `show version` output. -/
def showVersion : SnapshotEvidence where
  documents :=
    [{ artifactId := .ofNat 1, snapshotId := .ofNat 9, evidenceType := .versionOutput,
       originalFilename := "show-version.txt",
       text := "Cisco IOS XE Software, Version 17.09.04a\n" ++
        "Cisco IOS Software, CAT9K_IOSXE, Version 17.9.4a\n" }]

set_option maxRecDepth 4000 in
theorem showVersion_identities :
    ((explicitIdentities {} showVersion []).map fun item =>
      (item.vendor, item.os, item.version)) =
      [("Cisco", "IOS XE", some "17.09.04a"), ("Cisco", "IOS XE", some "17.9.4a")] := by
  decide +kernel

theorem showVersion_versions :
    versionsOf (explicitIdentities {} showVersion []) = ["17.09.04a", "17.9.4a"] := by
  have h := congrArg (List.filterMap fun item : String × String × Option String => item.2.2)
    showVersion_identities
  rw [List.filterMap_map] at h
  exact h

/-- Both spellings are release 17.9.4a. -/
theorem showVersion_release : OneRelease (explicitIdentities {} showVersion []) := by
  constructor
  · have hcisco : ∀ item ∈ explicitIdentities {} showVersion [],
        (item.vendor, item.os) = ("Cisco", "IOS XE") := by
      intro item hitem
      have hmem := List.mem_map_of_mem (f := fun item : Identity =>
        (item.vendor, item.os, item.version)) hitem
      rw [showVersion_identities] at hmem
      simp only [List.mem_cons, Prod.mk.injEq, List.not_mem_nil, or_false] at hmem
      obtain ⟨hvendor, hos, -⟩ | ⟨hvendor, hos, -⟩ := hmem <;> rw [hvendor, hos]
    intro item hitem other hother
    rw [hcisco item hitem, hcisco other hother]
  · refine ⟨[17, 9, 4], ['a'], ?_⟩
    rw [showVersion_versions]
    decide +kernel

theorem false_conflict :
    ¬ ∀ (evidence : SnapshotEvidence) (runtimeManifests : List DeviceManifest),
      NoFalseConflict {} evidence runtimeManifests := by
  intro h
  have hversion : "17.09.04a" ∈ versionsOf (explicitIdentities {} showVersion []) := by
    rw [showVersion_versions]
    decide
  have hother : "17.9.4a" ∈ versionsOf (explicitIdentities {} showVersion []) := by
    rw [showVersion_versions]
    decide
  obtain ⟨result, hresult, conflict, hconflict, hcode⟩ :=
    resolveProfile_versions showVersion_release.platform hversion hother (by decide)
  exact h showVersion [] showVersion_release result hresult conflict hconflict hcode

end ConfigAuditor.ProfileResolution.VersionConflicts
