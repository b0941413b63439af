import ConfigAuditor.Library.FileTree
import ConfigAuditor.Library.PathText
import ConfigAuditor.Library.Runs
import ConfigAuditor.Library.UuidText

/-!
# The artifact storage

`app.ingestion.storage`: immutable bytes under one private directory, addressed by logical
references. The operating system says where a path leads when links are followed, and it may
fail an operation.
-/
namespace ConfigAuditor.Ingestion

open Library PathText

/-- The exceptions of `app.ingestion.storage.base`. -/
inductive StorageError where
  | failed (message : String)
  | invalidReference (message : String)
  | notFound (message : String)
  | alreadyExists (message : String)
  deriving DecidableEq, Repr

/-- The parts of an absolute path. -/
abbrev Path := List String

/-- The configured directory, resolved, and `Path.resolve(strict=False)`: `none` where it
raises. -/
structure Root where
  directory : Path
  resolve : Path → Option Path

/-- `storage_reference`. -/
def storageReference (organizationId artifactId : UUID) : String :=
  Text.join "/" ["organizations", organizationId.str, "artifacts", artifactId.str]

/-- The first check of `_resolve_reference`: a relative POSIX path in its normal form. -/
def isLogical (reference : String) : Bool :=
  let cs := reference.toList
  !cs.contains '\\' && (windowsDrive cs).isEmpty && !windowsAbsolute cs && !posixAbsolute cs &&
    cs == asPosix cs

/-- The parts of a reference that `_resolve_reference` accepts. -/
def referenceParts (reference : String) : Option Path :=
  if reference.isEmpty || !isLogical reference then none
  else
    match (posixParts reference.toList).map String.ofList with
    | [organizations, organization, artifacts, artifact] =>
      if organizations = "organizations" ∧ artifacts = "artifacts" then
        match UUID.ofText? organization, UUID.ofText? artifact with
        | some organizationId, some artifactId =>
          if organizationId.str = organization ∧ artifactId.str = artifact then
            some [organizations, organization, artifacts, artifact]
          else none
        | _, _ => none
      else none
    | _ => none

def invalidReference : StorageError := .invalidReference "Invalid artifact storage reference"

/-- `_resolve_reference`. -/
def resolveReference (root : Root) (reference : String) : Except StorageError Path :=
  match referenceParts reference with
  | none => .error invalidReference
  | some parts =>
    match root.resolve (root.directory ++ parts) with
    | none => .error invalidReference
    | some target =>
      if root.directory.isPrefixOf target then .ok target else .error invalidReference

/-- The published files. -/
abbrev Files := List (Path × ByteArray)

/-- What the system can raise before a file is published. -/
inductive SystemFault where
  | osError
  | fileExists
  deriving DecidableEq, Repr

def alreadyExists : StorageError := .alreadyExists "Artifact bytes already exist"

/-- `write`. -/
def write (root : Root) (files : Files) (data : ByteArray) (organizationId artifactId : UUID)
    (fault : Option SystemFault) : Files × Except StorageError String :=
  let reference := storageReference organizationId artifactId
  match resolveReference root reference with
  | .error error => (files, .error error)
  | .ok target =>
    match fault with
    | some .osError => (files, .error (.failed "Unable to store artifact bytes"))
    | some .fileExists => (files, .error alreadyExists)
    | none =>
      match FileTree.publish? files target data with
      | none => (files, .error alreadyExists)
      | some files => (files, .ok reference)

/-- `read`; `fault` says that the system raises. -/
def read (root : Root) (files : Files) (reference : String) (fault : Bool) :
    Except StorageError ByteArray := do
  let target ← resolveReference root reference
  if fault then throw (.failed "Unable to read artifact bytes")
  match FileTree.content files target with
  | none => throw (.notFound "Artifact bytes were not found")
  | some data => return data

/-- `read_prefix` of a positive number of bytes. -/
def readPrefix (root : Root) (files : Files) (reference : String) (maxBytes : Nat)
    (fault : Bool) : Except StorageError ByteArray := do
  let data ← read root files reference fault
  return data.extract 0 maxBytes

/-- `exists`. -/
def storedFile (root : Root) (files : Files) (reference : String) (fault : Bool) :
    Except StorageError Bool := do
  let target ← resolveReference root reference
  if fault then throw (.failed "Unable to inspect artifact bytes")
  return (FileTree.content files target).isSome

/-- `delete`. -/
def delete (root : Root) (files : Files) (reference : String) (fault : Bool) :
    Files × Except StorageError Unit :=
  match resolveReference root reference with
  | .error error => (files, .error error)
  | .ok target =>
    if fault then (files, .error (.failed "Unable to delete artifact bytes"))
    else (FileTree.remove files target, .ok ())

/-- The text of a UUID can stand between slashes. -/
theorem uuid_part (u : UUID) : '/' ∉ u.str.toList ∧ u.str.toList ≠ [] ∧ u.str.toList ≠ ['.'] := by
  have hslash : '/' ∉ u.str.toList := u.not_mem_str (by decide) (by decide)
  have hdot : '.' ∉ u.str.toList := u.not_mem_str (by decide) (by decide)
  have hdash : '-' ∈ u.str.toList := by
    rw [UUID.str, String.toList_ofList, UUID.dashed]
    exact List.mem_append_right _ List.mem_cons_self
  refine ⟨hslash, List.ne_nil_of_mem hdash, ?_⟩
  intro heq
  rw [heq] at hdot
  exact hdot List.mem_cons_self

/-- The parts of a reference to an artifact. -/
def partsOf (organizationId artifactId : UUID) : Path :=
  ["organizations", organizationId.str, "artifacts", artifactId.str]

theorem partsOf_plain (organizationId artifactId : UUID) :
    ∀ part ∈ (partsOf organizationId artifactId).map String.toList,
      '/' ∉ part ∧ part ≠ [] ∧ part ≠ ['.'] := by
  intro part hpart
  simp only [partsOf, List.map_cons, List.map_nil, List.mem_cons, List.not_mem_nil,
    or_false] at hpart
  obtain hpart | hpart | hpart | hpart := hpart <;> rw [hpart]
  · simp
  · exact uuid_part organizationId
  · simp
  · exact uuid_part artifactId

theorem toList_storageReference (organizationId artifactId : UUID) :
    (storageReference organizationId artifactId).toList =
      ['/'].intercalate ((partsOf organizationId artifactId).map String.toList) :=
  Text.toList_join '/' (partsOf organizationId artifactId)

/-- A reference to an artifact is a relative POSIX path in its normal form. -/
theorem storageReference_logical (organizationId artifactId : UUID) :
    isLogical (storageReference organizationId artifactId) = true ∧
      posixParts (storageReference organizationId artifactId).toList =
        (partsOf organizationId artifactId).map String.toList := by
  have hplain := partsOf_plain organizationId artifactId
  have htext := toList_storageReference organizationId artifactId
  obtain ⟨hnormal, hparts, hrelative⟩ := @asPosix_intercalate 'o' "rganizations".toList
    [organizationId.str.toList, "artifacts".toList, artifactId.str.toList] (by decide) hplain
  have hback : '\\' ∉ (storageReference organizationId artifactId).toList := by
    intro hmem
    have hslash : '\\' ≠ '/' := by decide
    obtain ⟨part, hpart, hc⟩ := Text.exists_part hslash hmem
    have hne : (partsOf organizationId artifactId).map String.toList ≠ [] := List.cons_ne_nil _ _
    rw [htext, Text.splitAll_intercalate hne fun p hp => (hplain p hp).1] at hpart
    simp only [partsOf, List.map_cons, List.map_nil, List.mem_cons, List.not_mem_nil,
      or_false] at hpart
    obtain hpart | hpart | hpart | hpart := hpart <;> rw [hpart] at hc
    · simp at hc
    · exact organizationId.not_mem_str (by decide) (by decide) hc
    · simp at hc
    · exact artifactId.not_mem_str (by decide) (by decide) hc
  have hdrive : windowsDrive (storageReference organizationId artifactId).toList = [] := by
    rw [htext]
    exact windowsDrive_plain (c := 'o') (d := 'r') (by decide) (by decide) (by decide)
  refine ⟨?_, by rw [htext]; exact hparts⟩
  have habsolute : windowsAbsolute (storageReference organizationId artifactId).toList = false := by
    rw [windowsAbsolute, hdrive]
    rfl
  have hcontains : (storageReference organizationId artifactId).toList.contains '\\' = false := by
    simpa using hback
  unfold isLogical
  dsimp only
  rw [hcontains, hdrive, habsolute, htext]
  have hrel : posixAbsolute (['/'].intercalate
      ((partsOf organizationId artifactId).map String.toList)) = false := hrelative
  have hnorm : asPosix (['/'].intercalate ((partsOf organizationId artifactId).map String.toList)) =
      ['/'].intercalate ((partsOf organizationId artifactId).map String.toList) := hnormal
  rw [hrel, hnorm]
  simp

theorem map_toList_ofList (parts : List (List Char)) :
    (parts.map String.ofList).map String.toList = parts := by
  rw [List.map_map]
  exact (List.map_congr_left fun cs _ => String.toList_ofList).trans (List.map_id parts)

theorem map_ofList_toList (parts : Path) :
    (parts.map String.toList).map String.ofList = parts := by
  rw [List.map_map]
  exact (List.map_congr_left fun s _ => String.ofList_toList).trans (List.map_id parts)

/-- A logical reference with the parts of an artifact's is that reference. -/
theorem eq_storageReference {reference : String} {organizationId artifactId : UUID}
    (hlogical : isLogical reference = true)
    (hparts : (posixParts reference.toList).map String.ofList =
      partsOf organizationId artifactId) :
    reference = storageReference organizationId artifactId := by
  have hlist := congrArg (List.map String.toList) hparts
  rw [map_toList_ofList] at hlist
  simp only [isLogical, Bool.and_eq_true, beq_iff_eq, Bool.not_eq_true'] at hlogical
  obtain ⟨⟨-, hrelative⟩, hnormal⟩ := hlogical
  have htext := toList_storageReference organizationId artifactId
  have hne : (storageReference organizationId artifactId).toList ≠ [] := by
    rw [htext]
    exact List.cons_ne_nil _ _
  rw [← String.toList_inj, htext, ← hlist]
  rw [htext, ← hlist] at hne
  exact eq_intercalate_of_normal hrelative hnormal hne

/-- Exactly the references of artifacts are accepted. -/
theorem referenceParts_eq_some {reference : String} {parts : Path} :
    referenceParts reference = some parts ↔ ∃ organizationId artifactId,
      reference = storageReference organizationId artifactId ∧
        parts = partsOf organizationId artifactId := by
  constructor
  · intro h
    unfold referenceParts at h
    split at h
    · cases h
    · rename_i hform
      rw [Bool.or_eq_true, not_or, Bool.not_eq_true', Bool.not_eq_false] at hform
      split at h
      · rename_i organizations organization artifacts artifact hparts
        split at h
        · rename_i hnames
          split at h
          · rename_i organizationId artifactId _ _
            split at h
            · rename_i htexts
              have hall : [organizations, organization, artifacts, artifact] =
                  partsOf organizationId artifactId := by
                rw [partsOf, hnames.1, hnames.2, htexts.1, htexts.2]
              exact ⟨organizationId, artifactId, eq_storageReference hform.2 (hparts.trans hall),
                (Option.some.inj h).symm.trans hall⟩
            · cases h
          · cases h
        · cases h
      · cases h
  · rintro ⟨organizationId, artifactId, rfl, rfl⟩
    obtain ⟨hlogical, hparts⟩ := storageReference_logical organizationId artifactId
    have hne : (storageReference organizationId artifactId).isEmpty = false := by
      rw [Bool.eq_false_iff, ne_eq, String.isEmpty_iff, ← String.toList_inj,
        toList_storageReference]
      exact List.cons_ne_nil _ _
    unfold referenceParts
    rw [hne, hlogical, if_neg (by simp), hparts, map_ofList_toList]
    simp only [partsOf, and_self, if_true, UUID.ofText_str]

/-- `_resolve_reference` accepts the references of artifacts whose path stays under the root,
and no other text. -/
theorem resolveReference_ok_iff (root : Root) (reference : String) (target : Path) :
    resolveReference root reference = .ok target ↔ ∃ organizationId artifactId,
      reference = storageReference organizationId artifactId ∧
        root.resolve (root.directory ++ partsOf organizationId artifactId) = some target ∧
          root.directory <+: target := by
  unfold resolveReference
  constructor
  · intro h
    split at h
    · cases h
    · rename_i parts hparts
      obtain ⟨organizationId, artifactId, hreference, rfl⟩ := referenceParts_eq_some.mp hparts
      split at h
      · cases h
      · rename_i found hfound
        split at h
        · rename_i hunder
          obtain rfl := Except.ok.inj h
          exact ⟨organizationId, artifactId, hreference, hfound,
            List.isPrefixOf_iff_prefix.mp hunder⟩
        · cases h
  · rintro ⟨organizationId, artifactId, rfl, hfound, hunder⟩
    rw [referenceParts_eq_some.mpr ⟨organizationId, artifactId, rfl, rfl⟩]
    dsimp only
    rw [hfound]
    dsimp only
    rw [if_pos (List.isPrefixOf_iff_prefix.mpr hunder)]

end ConfigAuditor.Ingestion
