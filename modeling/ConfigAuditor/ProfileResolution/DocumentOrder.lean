import Mathlib.Data.Finset.Dedup
import ConfigAuditor.ProfileResolution.Exits

/-!
# The order of the documents

What `resolve_profile` decides does not depend on the order of a snapshot's documents. The order
shows in the first values, in the signals that fit under the cap and in the artifact a runtime
profile is found in, and none of these is part of the decision.
-/
namespace ConfigAuditor.ProfileResolution.DocumentOrder

open Library SecurityModel

/-- The part of a result that says which profile a device has. -/
structure Decision where
  status : ResolutionStatus
  vendor : Option String
  os : Option String
  osVersion : Option String
  profileId : Option String
  profileVersionId : Option String
  conflictCodes : Finset String

def decision (result : ProfileResolutionResult) : Decision where
  status := result.resolutionStatus
  vendor := result.vendor
  os := result.os
  osVersion := result.osVersion
  profileId := result.selectedProfileId
  profileVersionId := result.selectedProfileVersionId
  conflictCodes := (result.conflicts.map (·.code)).toFinset

section Findings

variable {findings findings' : List Finding}

@[simp] theorem identitiesOf_append :
    identitiesOf (findings ++ findings') = identitiesOf findings ++ identitiesOf findings' :=
  List.filterMap_append

/-- Where a reader's identities do not depend on what is known, they are those of each input. -/
theorem identitiesOf_accumulate {α : Type} {read : List Identity → α → List Finding}
    {own : α → List Identity} (hread : ∀ known a, identitiesOf (read known a) = own a)
    (known : List Identity) (items : List α) :
    identitiesOf (accumulate read known items) = items.flatMap own := by
  induction items generalizing known with
  | nil => rfl
  | cons a rest ih => rw [accumulate, identitiesOf_append, hread, ih, List.flatMap_cons]

/-- Readers that find nothing without an identity find nothing. -/
theorem accumulate_eq_nil {α : Type} {read : List Identity → α → List Finding} {items : List α}
    (hread : ∀ a ∈ items, read [] a = []) : accumulate read [] items = [] := by
  induction items with
  | nil => rfl
  | cons a rest ih =>
    rw [accumulate, hread a List.mem_cons_self]
    exact ih fun b hb => hread b (List.mem_cons_of_mem a hb)

end Findings

theorem identitiesOf_xmlHardware (document : EvidenceDocument) (nodes : List Parsing.XmlNode)
    (manifest : DeviceManifest) : identitiesOf (xmlHardware document nodes manifest) = [] := by
  rw [identitiesOf, List.filterMap_eq_nil_iff]
  intro finding hfinding
  obtain ⟨⟨field, kind⟩, hkind, hmem⟩ := List.mem_flatMap.mp hfinding
  cases hvalue : selectedValue manifest nodes field with
  | none => simp [hvalue] at hmem
  | some found =>
    simp only [hvalue, List.mem_cons, List.not_mem_nil, or_false] at hmem
    simp only [List.mem_cons, List.not_mem_nil, or_false, Prod.mk.injEq] at hkind
    rcases hmem with rfl | rfl
    · rfl
    · obtain ⟨-, rfl⟩ | ⟨-, rfl⟩ | ⟨-, rfl⟩ := hkind <;> rfl

/-- The identity a manifest's selectors find in a document. -/
def manifestIdentities (document : EvidenceDocument) (nodes : List Parsing.XmlNode)
    (manifest : DeviceManifest) : List Identity :=
  match selectedValue manifest nodes .osVersion with
  | some (node, version) =>
    [⟨manifest.vendor, manifest.os, some version, xmlSignal document .osVersion node manifest⟩]
  | none => []

theorem identitiesOf_manifestFindings (document : EvidenceDocument)
    (nodes : List Parsing.XmlNode) (known : List Identity) (manifest : DeviceManifest) :
    identitiesOf (manifestFindings document nodes known manifest) =
      manifestIdentities document nodes manifest := by
  unfold manifestFindings manifestIdentities
  cases selectedValue manifest nodes .osVersion with
  | some found =>
    dsimp only
    rw [identitiesOf_append, identitiesOf_xmlHardware]
    rfl
  | none =>
    dsimp only
    split
    · exact identitiesOf_xmlHardware document nodes manifest
    · rfl

/-- Without an identity a manifest's selectors find nothing but one. -/
theorem manifestFindings_eq_nil {document : EvidenceDocument} {nodes : List Parsing.XmlNode}
    {manifest : DeviceManifest} (h : manifestIdentities document nodes manifest = []) :
    manifestFindings document nodes [] manifest = [] := by
  unfold manifestIdentities at h
  unfold manifestFindings
  cases hversion : selectedValue manifest nodes .osVersion with
  | some found =>
    rw [hversion] at h
    cases h
  | none => rfl

section Snapshot

variable (p : Platform)

/-- The identities the selectors find in a document. -/
def documentIdentities (manifests : List DeviceManifest) (document : EvidenceDocument) :
    List Identity :=
  if document.text.toList.contains '<' then
    match xmlNodes p document with
    | some nodes => manifests.flatMap (manifestIdentities document nodes)
    | none => []
  else []

theorem identitiesOf_documentXmlFindings (manifests : List DeviceManifest)
    (known : List Identity) (document : EvidenceDocument) :
    identitiesOf (documentXmlFindings p manifests known document) =
      documentIdentities p manifests document := by
  unfold documentXmlFindings documentIdentities
  split
  · cases xmlNodes p document with
    | some nodes =>
      exact identitiesOf_accumulate (identitiesOf_manifestFindings document nodes) known manifests
    | none => rfl
  · rfl

theorem documentXmlFindings_eq_nil {manifests : List DeviceManifest}
    {document : EvidenceDocument} (h : documentIdentities p manifests document = []) :
    documentXmlFindings p manifests [] document = [] := by
  unfold documentIdentities at h
  unfold documentXmlFindings
  split at h
  · next hxml =>
    rw [if_pos hxml]
    cases hnodes : xmlNodes p document with
    | some nodes =>
      rw [hnodes] at h
      exact accumulate_eq_nil fun manifest hmanifest =>
        manifestFindings_eq_nil (List.flatMap_eq_nil_iff.mp h manifest hmanifest)
    | none => rfl
  · next hxml => rw [if_neg hxml]

theorem identitiesOf_allFindings (documents : List EvidenceDocument)
    (runtimeManifests : List DeviceManifest) :
    identitiesOf (allFindings p documents runtimeManifests) =
      identitiesOf (lineFindings p documents) ++
        documents.flatMap (documentIdentities p (xmlManifests runtimeManifests)) := by
  rw [allFindings, identitiesOf_append,
    identitiesOf_accumulate (identitiesOf_documentXmlFindings p (xmlManifests runtimeManifests))]

/-- Without identities the selectors add nothing. -/
theorem allFindings_of_unidentified {documents : List EvidenceDocument}
    {runtimeManifests : List DeviceManifest}
    (h : identitiesOf (allFindings p documents runtimeManifests) = []) :
    allFindings p documents runtimeManifests = lineFindings p documents := by
  rw [identitiesOf_allFindings, List.append_eq_nil_iff] at h
  obtain ⟨hlines, hxml⟩ := h
  have hnone : accumulate (documentXmlFindings p (xmlManifests runtimeManifests)) [] documents =
      [] := by
    apply accumulate_eq_nil
    intro document hdocument
    exact documentXmlFindings_eq_nil p (List.flatMap_eq_nil_iff.mp hxml document hdocument)
  rw [allFindings, hlines, hnone, List.append_nil]

variable {p} {documents documents' : List EvidenceDocument}

/-- The findings that decide, of two orders of the documents. -/
structure SameEvidence (findings findings' : List Finding) : Prop where
  identities : (identitiesOf findings).Perm (identitiesOf findings')
  unidentified : identitiesOf findings = [] → findings.Perm findings'

theorem allFindings_perm (hperm : documents.Perm documents')
    (runtimeManifests : List DeviceManifest) :
    SameEvidence (allFindings p documents runtimeManifests)
      (allFindings p documents' runtimeManifests) := by
  have hlines : (lineFindings p documents).Perm (lineFindings p documents') :=
    hperm.flatMap_right (documentFindings p)
  have hidentities : (identitiesOf (allFindings p documents runtimeManifests)).Perm
      (identitiesOf (allFindings p documents' runtimeManifests)) := by
    rw [identitiesOf_allFindings, identitiesOf_allFindings]
    exact (hlines.filterMap _).append (hperm.flatMap_right _)
  constructor
  · exact hidentities
  · intro hnone
    have hnone' : identitiesOf (allFindings p documents' runtimeManifests) = [] := by
      rw [hnone] at hidentities
      exact hidentities.nil_eq.symm
    rw [allFindings_of_unidentified p hnone, allFindings_of_unidentified p hnone']
    exact hlines

end Snapshot

section Runtime

variable (p : Platform) {documents documents' : List EvidenceDocument}

theorem turns_perm (hperm : documents.Perm documents') (manifests : List DeviceManifest) :
    (turns documents manifests).Perm (turns documents' manifests) :=
  List.Perm.flatMap_left manifests fun _ _ => hperm.map _

/-- The matches of two orders of the documents. -/
structure SameMatches (found found' : List RuntimeMatch) : Prop where
  matched : found.Perm found'
  manifests : found.map (·.manifest) = found'.map (·.manifest)

theorem map_manifest_matchOf (manifest : DeviceManifest) (documents : List EvidenceDocument) :
    (documents.filterMap (matchOf p manifest)).map (·.manifest) =
      List.replicate (documents.filterMap (matchOf p manifest)).length manifest := by
  rw [List.eq_replicate_iff, List.length_map]
  refine ⟨rfl, ?_⟩
  intro other hother
  obtain ⟨found, hfound, rfl⟩ := List.mem_map.mp hother
  obtain ⟨document, -, hmatch⟩ := List.mem_filterMap.mp hfound
  rw [matchOf, Option.join_eq_some_iff, toOption_eq_some] at hmatch
  exact (runtimeMatch_eq_some p hmatch).1

theorem sameMatches (hperm : documents.Perm documents') (manifests : List DeviceManifest) :
    SameMatches (manifests.flatMap fun manifest => documents.filterMap (matchOf p manifest))
      (manifests.flatMap fun manifest => documents'.filterMap (matchOf p manifest)) := by
  constructor
  · exact List.Perm.flatMap_left manifests fun _ _ => hperm.filterMap _
  · rw [List.map_flatMap, List.map_flatMap]
    congr 1
    funext manifest
    rw [map_manifest_matchOf, map_manifest_matchOf, (hperm.filterMap _).length_eq]

/-- The matches of two orders, or the one exception of both. -/
theorem runtimeMatches_perm (hperm : documents.Perm documents')
    (manifests : List DeviceManifest) :
    (∃ error, runtimeMatches p documents manifests = .error error ∧
        runtimeMatches p documents' manifests = .error error) ∨
      ∃ found found', runtimeMatches p documents manifests = .ok found ∧
        runtimeMatches p documents' manifests = .ok found' ∧ SameMatches found found' := by
  have hturns := turns_perm hperm manifests
  cases h : (turns documents manifests).mapM (turn p) with
  | error error =>
    left
    have hother : (turns documents' manifests).mapM (turn p) = .error error := by
      refine mapM_error_perm hturns ?_ h
      intro pair e he
      obtain ⟨other, -, hraised⟩ := mapM_eq_error h
      rw [@runtimeMatch_error p _ _ error hraised]
      exact runtimeMatch_error p he
    refine ⟨error, ?_, ?_⟩
    · rw [runtimeMatches_eq, h]
      rfl
    · rw [runtimeMatches_eq, hother]
      rfl
  | ok results =>
    right
    obtain ⟨results', h', -⟩ := mapM_perm hturns h
    have hfound : runtimeMatches p documents manifests = .ok (results.filterMap id) := by
      rw [runtimeMatches_eq, h]
      rfl
    have hfound' : runtimeMatches p documents' manifests = .ok (results'.filterMap id) := by
      rw [runtimeMatches_eq, h']
      rfl
    refine ⟨_, _, hfound, hfound', ?_⟩
    rw [runtimeMatches_eq_ok p hfound, runtimeMatches_eq_ok p hfound']
    exact sameMatches p hperm manifests

/-- The decision for a match reads its manifest and its version. -/
theorem runtimeResult_decision (signals signals' : List EvidenceSignal)
    {matched matched' : RuntimeMatch} (hmanifest : matched.manifest = matched'.manifest)
    (hversion : matched.version = matched'.version) :
    (runtimeResult signals matched).map decision =
      (runtimeResult signals' matched').map decision := by
  unfold runtimeResult
  dsimp only
  rw [hmanifest, hversion]
  cases matched'.manifest.deviceClasses <;> rfl

/-- Whether all matches are of one profile and version. -/
theorem all_key_iff {first : RuntimeMatch} {rest : List RuntimeMatch} :
    (rest.all fun item => item.key == first.key) = true ↔
      ∀ item ∈ first :: rest, ∀ other ∈ first :: rest, item.key = other.key := by
  simp only [List.all_eq_true, beq_iff_eq]
  constructor
  · intro h item hitem other hother
    have hfirst : ∀ x ∈ first :: rest, x.key = first.key := by
      intro x hx
      rcases List.mem_cons.mp hx with rfl | hx
      · rfl
      · exact h x hx
    rw [hfirst item hitem, hfirst other hother]
  · intro h item hitem
    exact h item (List.mem_cons_of_mem _ hitem) first List.mem_cons_self

theorem map_some_decision (result : Except ResolverError ProfileResolutionResult) :
    (result.map some).map (Option.map decision) = (result.map decision).map some := by
  cases result <;> rfl

theorem matchesResult_decision (signals signals' : List EvidenceSignal)
    {found found' : List RuntimeMatch} (h : SameMatches found found') :
    (matchesResult signals found).map (Option.map decision) =
      (matchesResult signals' found').map (Option.map decision) := by
  cases found with
  | nil =>
    rw [h.matched.nil_eq.symm]
    rfl
  | cons first rest =>
    cases found' with
    | nil => exact absurd h.matched.eq_nil (List.cons_ne_nil first rest)
    | cons first' rest' =>
      have hmanifest : first.manifest = first'.manifest := (List.cons.inj h.manifests).1
      have hkeys : (rest.all fun item => item.key == first.key) =
          rest'.all fun item => item.key == first'.key := by
        rw [Bool.eq_iff_iff, all_key_iff, all_key_iff]
        simp only [h.matched.mem_iff]
      simp only [matchesResult]
      by_cases hone : (rest.all fun item => item.key == first.key) = true
      · rw [if_pos hone, if_pos (hkeys ▸ hone)]
        have hfirst : first.key = first'.key :=
          all_key_iff.mp hone first List.mem_cons_self first'
            (h.matched.mem_iff.mpr List.mem_cons_self)
        rw [map_some_decision, map_some_decision,
          runtimeResult_decision signals signals' hmanifest (Prod.mk.inj hfirst).2]
      · rw [if_neg hone, if_neg (hkeys ▸ hone)]
        rfl

/-- The runtime manifests decide the same in any order of the documents. -/
theorem resolveRuntimeManifest_decision (hperm : documents.Perm documents')
    (manifests : List DeviceManifest) (signals signals' : List EvidenceSignal) :
    (resolveRuntimeManifest p documents manifests signals).map (Option.map decision) =
      (resolveRuntimeManifest p documents' manifests signals').map (Option.map decision) := by
  obtain ⟨error, h, h'⟩ | ⟨found, found', h, h', hsame⟩ := runtimeMatches_perm p hperm manifests
  · rw [resolveRuntimeManifest_error p h, resolveRuntimeManifest_error p h']
  · rw [resolveRuntimeManifest_ok p h, resolveRuntimeManifest_ok p h']
    exact matchesResult_decision signals signals' hsame

/-- Both orders fail alike, find no profile, or decide the same. -/
theorem resolveRuntimeManifest_cases (hperm : documents.Perm documents')
    (manifests : List DeviceManifest) (signals signals' : List EvidenceSignal) :
    (∃ error, resolveRuntimeManifest p documents manifests signals = .error error ∧
        resolveRuntimeManifest p documents' manifests signals' = .error error) ∨
      (resolveRuntimeManifest p documents manifests signals = .ok none ∧
        resolveRuntimeManifest p documents' manifests signals' = .ok none) ∨
      ∃ found found', resolveRuntimeManifest p documents manifests signals = .ok (some found) ∧
        resolveRuntimeManifest p documents' manifests signals' = .ok (some found') ∧
        decision found = decision found' := by
  have h := resolveRuntimeManifest_decision p hperm manifests signals signals'
  generalize resolveRuntimeManifest p documents manifests signals = result at h ⊢
  generalize resolveRuntimeManifest p documents' manifests signals' = result' at h ⊢
  match result, result' with
  | .error e, .error e' =>
    rw [Except.error.inj h]
    exact .inl ⟨e', rfl, rfl⟩
  | .ok none, .ok none => exact .inr (.inl ⟨rfl, rfl⟩)
  | .ok (some found), .ok (some found') =>
    exact .inr (.inr ⟨found, found', rfl, rfl, Option.some.inj (Except.ok.inj h)⟩)
  | .error _, .ok _ | .ok _, .error _ | .ok none, .ok (some _) | .ok (some _), .ok none => cases h

end Runtime

section Decision

variable (p : Platform) {documents documents' : List EvidenceDocument}
  {findings findings' : List Finding}

/-- A built-in profile is chosen by the platform and its version. -/
theorem resolveBuiltIn_decision (family family' : Family) (vendor os : String)
    (version model model' serialNumber serialNumber' : Option String)
    (signals signals' : List EvidenceSignal) (confidence confidence' : ResolutionConfidence) :
    (resolveBuiltIn family vendor os version model serialNumber signals confidence).map decision =
      (resolveBuiltIn family' vendor os version model' serialNumber' signals'
        confidence').map decision := by
  cases version with
  | none => rfl
  | some version =>
    unfold resolveBuiltIn
    dsimp only
    cases compatibleManifests vendor os version with
    | error e => rfl
    | ok candidates =>
      apply congrArg (@Except.ok ResolverError _)
      match candidates with
      | [] =>
        unfold builtInResult
        dsimp only
        split <;> split <;> rfl
      | [_] => rfl
      | _ :: _ :: _ => rfl

/-- A runtime result of the platform is recognised by its decision. -/
theorem identifiedResult_decision (hperm : documents.Perm documents')
    (runtimeManifests : List DeviceManifest) (vendor os : String) (version : Option String) :
    (identifiedResult p findings documents runtimeManifests vendor os version).map decision =
      (identifiedResult p findings' documents' runtimeManifests vendor os version).map
        decision := by
  unfold identifiedResult
  dsimp only
  obtain ⟨error, h, h'⟩ | ⟨h, h'⟩ | ⟨found, found', h, h', hfound⟩ :=
    resolveRuntimeManifest_cases p hperm runtimeManifests (signalsOf findings)
      (signalsOf findings')
  · rw [h, h']
  · rw [h, h']
    exact resolveBuiltIn_decision ..
  · rw [h, h']
    have hvendor : found'.vendor = found.vendor := congrArg Decision.vendor hfound.symm
    have hos : found'.os = found.os := congrArg Decision.os hfound.symm
    simp only [Option.filter_some, hvendor, hos]
    by_cases hnamed : (found.vendor == some vendor && found.os == some os) = true
    · rw [if_pos hnamed, if_pos hnamed]
      exact congrArg Except.ok hfound
    · rw [if_neg hnamed, if_neg hnamed]
      exact resolveBuiltIn_decision ..

theorem versionsOf_perm {identities identities' : List Identity}
    (hperm : identities.Perm identities') :
    (versionsOf identities).dedup.Perm (versionsOf identities').dedup :=
  (hperm.filterMap _).dedup

theorem resolveIdentified_decision (hperm : documents.Perm documents')
    (hidentities : (identitiesOf findings).Perm (identitiesOf findings'))
    (runtimeManifests : List DeviceManifest) (vendor os : String) :
    (resolveIdentified p findings documents runtimeManifests vendor os).map decision =
      (resolveIdentified p findings' documents' runtimeManifests vendor os).map decision := by
  have hversions := versionsOf_perm hidentities
  match h : (versionsOf (identitiesOf findings)).dedup,
      h' : (versionsOf (identitiesOf findings')).dedup with
  | [], [] =>
    rw [@resolveIdentified_one p _ _ _ _ _ none h, @resolveIdentified_one p _ _ _ _ _ none h']
    exact identifiedResult_decision p hperm ..
  | [version], [version'] =>
    rw [h, h', List.perm_singleton, List.singleton_inj] at hversions
    subst hversions
    rw [@resolveIdentified_one p _ _ _ _ _ (some version) h,
      @resolveIdentified_one p _ _ _ _ _ (some version) h']
    exact identifiedResult_decision p hperm ..
  | _ :: _ :: _, _ :: _ :: _ =>
    rw [resolveIdentified_many p h, resolveIdentified_many p h']
    rfl
  | [], _ :: _ | [_], [] | [_], _ :: _ :: _ | _ :: _ :: _, [] | _ :: _ :: _, [_] =>
    rw [h, h'] at hversions
    simpa using hversions.length_eq

theorem firstValue_isSome (values : List Hardware) :
    (firstValue values).isSome = !values.isEmpty := by
  cases values <;> rfl

theorem foldl_appendSignal_ne_nil {signals : List EvidenceSignal} (attempts : List EvidenceSignal)
    (h : signals ≠ []) : attempts.foldl appendSignal signals ≠ [] := by
  induction attempts generalizing signals with
  | nil => exact h
  | cons attempt rest ih =>
    apply ih
    unfold appendSignal
    split
    · simp
    · exact h

/-- The cap lets the first signal in. -/
theorem signalsOf_isEmpty (findings : List Finding) :
    (signalsOf findings).isEmpty = (attemptsOf findings).isEmpty := by
  unfold signalsOf
  cases attemptsOf findings with
  | nil => rfl
  | cons attempt rest =>
    have hne := @foldl_appendSignal_ne_nil [attempt] rest (by simp)
    exact List.isEmpty_eq_false_iff.mpr hne

/-- Hardware, Cisco syntax and signals are there in any order or in none. -/
theorem resolveUnidentified_decision (hfindings : findings.Perm findings')
    (hperm : documents.Perm documents') (unavailableCount : Nat) :
    decision (resolveUnidentified p findings documents unavailableCount) =
      decision (resolveUnidentified p findings' documents' unavailableCount) := by
  have hmodels : (modelsOf findings).Perm (modelsOf findings') := hfindings.filterMap _
  have hattempts : (attemptsOf findings).Perm (attemptsOf findings') := hfindings.filterMap _
  have hmodel : (firstValue (modelsOf findings)).isSome =
      (firstValue (modelsOf findings')).isSome := by
    rw [firstValue_isSome, firstValue_isSome, hmodels.isEmpty_eq]
  have hsyntax : (ciscoSyntaxOf findings).isEmpty = (ciscoSyntaxOf findings').isEmpty :=
    (hfindings.filterMap _).isEmpty_eq
  have hsignals : (signalsOf findings).isEmpty = (signalsOf findings').isEmpty := by
    rw [signalsOf_isEmpty, signalsOf_isEmpty, hattempts.isEmpty_eq]
  have hconfigured : (configurationDocuments documents).Perm
      (configurationDocuments documents') := hperm.filter _
  unfold resolveUnidentified
  dsimp only
  rw [hmodel, hsyntax, hsignals, hconfigured.isEmpty_eq, hconfigured.all_eq, hconfigured.all_eq,
    hconfigured.all_eq]
  split
  · rfl
  split
  · rfl
  split
  · rfl
  split
  · rfl
  split <;> rfl

theorem identityKeys_perm {identities identities' : List Identity}
    (hperm : identities.Perm identities') :
    (identityKeys identities).Perm (identityKeys identities') :=
  (hperm.map _).dedup

theorem resolveCandidates_decision (hperm : documents.Perm documents')
    (hevidence : SameEvidence findings findings') (unavailableCount : Nat)
    (runtimeManifests : List DeviceManifest) :
    (resolveCandidates p findings documents unavailableCount runtimeManifests).map decision =
      (resolveCandidates p findings' documents' unavailableCount runtimeManifests).map
        decision := by
  have hkeys := identityKeys_perm hevidence.identities
  unfold resolveCandidates
  match h : identityKeys (identitiesOf findings), h' : identityKeys (identitiesOf findings') with
  | [], [] =>
    have hnone : identitiesOf findings = [] := by
      rw [identityKeys, List.dedup_eq_nil, List.map_eq_nil_iff] at h
      exact h
    have hunidentified := resolveUnidentified_decision p (hevidence.unidentified hnone) hperm
      unavailableCount
    dsimp only
    obtain ⟨error, h, h'⟩ | ⟨h, h'⟩ | ⟨found, found', h, h', hfound⟩ :=
      resolveRuntimeManifest_cases p hperm runtimeManifests (signalsOf findings)
        (signalsOf findings')
    · rw [h, h']
      rfl
    · rw [h, h']
      exact congrArg (@Except.ok ResolverError _) hunidentified
    · rw [h, h']
      exact congrArg (@Except.ok ResolverError _) hfound
  | [(vendor, os)], [(vendor', os')] =>
    rw [h, h', List.perm_singleton, List.singleton_inj] at hkeys
    obtain ⟨rfl, rfl⟩ := Prod.mk.inj hkeys
    exact resolveIdentified_decision p hperm hevidence.identities runtimeManifests vendor os
  | _ :: _ :: _, _ :: _ :: _ => rfl
  | [], _ :: _ | [_], [] | [_], _ :: _ :: _ | _ :: _ :: _, [] | _ :: _ :: _, [_] =>
    rw [h, h'] at hkeys
    simpa using hkeys.length_eq

/-- Whatever documents a snapshot has and whatever profiles are published, another order of the
documents gives the same decision, or the same exception. -/
theorem resolve_profile_order (evidence : SnapshotEvidence)
    (hdocuments : evidence.documents.Perm documents') (runtimeManifests : List DeviceManifest) :
    (resolveProfile p evidence runtimeManifests).map decision =
      (resolveProfile p { evidence with documents := documents' } runtimeManifests).map
        decision := by
  have hevidence := allFindings_perm (p := p) hdocuments runtimeManifests
  have hdecision := resolveCandidates_decision p hdocuments hevidence evidence.issues.length
    runtimeManifests
  have hmetadata : ∀ snapshot : SnapshotEvidence,
      (resolveProfile p snapshot runtimeManifests).map decision =
        (resolveCandidates p (allFindings p snapshot.documents runtimeManifests)
          snapshot.documents snapshot.issues.length runtimeManifests).map decision := by
    intro snapshot
    unfold resolveProfile
    dsimp only
    cases resolveCandidates p (allFindings p snapshot.documents runtimeManifests)
      snapshot.documents snapshot.issues.length runtimeManifests <;> rfl
  rw [hmetadata, hmetadata]
  exact hdecision

end Decision

/-- A configuration and a version output, in both orders. -/
def twoDocuments : SnapshotEvidence where
  documents :=
    [{ artifactId := .ofNat 1, snapshotId := .ofNat 9, evidenceType := .configuration,
       originalFilename := "running.cfg", text := "hostname edge\n" },
      { artifactId := .ofNat 2, snapshotId := .ofNat 9, evidenceType := .versionOutput,
        originalFilename := "version.txt",
        text := "Cisco IOS XE Software, Version 17.09.04a\n" }]

theorem resolve_profile_order_two :
    twoDocuments.documents.Perm twoDocuments.documents.reverse ∧
      (resolveProfile {} twoDocuments [genericCliManifest]).map decision =
        (resolveProfile {} { twoDocuments with documents := twoDocuments.documents.reverse }
          [genericCliManifest]).map decision :=
  ⟨(List.reverse_perm _).symm,
    resolve_profile_order {} twoDocuments (List.reverse_perm _).symm [genericCliManifest]⟩

end ConfigAuditor.ProfileResolution.DocumentOrder
