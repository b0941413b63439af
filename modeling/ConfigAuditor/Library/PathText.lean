import ConfigAuditor.Library.Splitting

/-!
# What a path text says

`PurePosixPath` and `PureWindowsPath` take a text apart without looking at any file: a drive,
a root, and the parts between the separators. Empty parts and single dots are dropped.
-/
namespace ConfigAuditor.Library.PathText

open Text

/-- The parts between the separators. -/
def parts (sep : Char) (cs : List Char) : List (List Char) :=
  (splitAll sep cs).filter fun part => part ≠ [] && part ≠ ['.']

/-- `posixpath.splitroot`: the root and the text behind it. -/
def posixRoot : List Char → List Char × List Char
  | '/' :: '/' :: '/' :: rest => (['/'], '/' :: '/' :: rest)
  | '/' :: '/' :: rest => (['/', '/'], rest)
  | '/' :: rest => (['/'], rest)
  | cs => ([], cs)

/-- `PurePosixPath(text).is_absolute()`. -/
def posixAbsolute (cs : List Char) : Bool := !(posixRoot cs).1.isEmpty

/-- The parts of `PurePosixPath(text)` behind its root. -/
def posixParts (cs : List Char) : List (List Char) := parts '/' (posixRoot cs).2

/-- `PurePosixPath(text).as_posix()`. -/
def asPosix (cs : List Char) : List Char :=
  let text := (posixRoot cs).1 ++ ['/'].intercalate (posixParts cs)
  if text.isEmpty then ['.'] else text

/-- `PurePosixPath(text).name`. -/
def posixName (cs : List Char) : List Char := (posixParts cs).getLastD []

/-- The start of a UNC path that is marked as one. -/
def uncMark : List Char := ['\\', '\\', '?', '\\', 'U', 'N', 'C', '\\']

def isUncMark (cs : List Char) : Bool :=
  (cs.take 8).map (fun c => if isAsciiLower c then Char.ofNat (c.toNat - 32) else c) == uncMark

/-- `ntpath.splitroot` of a text whose separators are backslashes: drive, root, rest. -/
def windowsRoot : List Char → List Char × List Char × List Char
  | '\\' :: '\\' :: rest =>
    let cs := '\\' :: '\\' :: rest
    let start := if isUncMark cs then 8 else 2
    match splitFirst '\\' (cs.drop start) with
    | none => (cs, [], [])
    | some (server, behind) =>
      match splitFirst '\\' behind with
      | none => (cs, [], [])
      | some (share, behind) => (cs.take start ++ server ++ '\\' :: share, ['\\'], behind)
  | '\\' :: rest => ([], ['\\'], rest)
  | c :: ':' :: '\\' :: rest => ([c, ':'], ['\\'], rest)
  | c :: ':' :: rest => ([c, ':'], [], rest)
  | cs => ([], [], cs)

/-- The text with backslashes as its separators. -/
def windowsText (cs : List Char) : List Char := cs.map fun c => if c == '/' then '\\' else c

/-- `PureWindowsPath(text).drive`. -/
def windowsDrive (cs : List Char) : List Char := (windowsRoot (windowsText cs)).1

/-- `PureWindowsPath(text).is_absolute()`. -/
def windowsAbsolute (cs : List Char) : Bool :=
  !(windowsDrive cs).isEmpty && !(windowsRoot (windowsText cs)).2.1.isEmpty

/-- `PureWindowsPath(text).name`. -/
def windowsName (cs : List Char) : List Char :=
  (parts '\\' (windowsRoot (windowsText cs)).2.2).getLastD []

theorem mem_parts {sep : Char} {cs part : List Char} (h : part ∈ parts sep cs) :
    part ≠ [] ∧ part ≠ ['.'] ∧ ∀ c ∈ part, c ∈ cs ∧ c ≠ sep := by
  obtain ⟨hpart, hkept⟩ := List.mem_filter.mp h
  rw [Bool.and_eq_true, decide_eq_true_eq, decide_eq_true_eq] at hkept
  exact ⟨hkept.1, hkept.2, fun c hc => mem_splitAll hpart hc⟩

theorem mem_getLastD_parts {sep : Char} {cs : List Char} {c : Char}
    (h : c ∈ (parts sep cs).getLastD []) : c ∈ cs ∧ c ≠ sep := by
  cases hparts : parts sep cs with
  | nil =>
    rw [hparts] at h
    cases h
  | cons part rest =>
    rw [hparts, List.getLastD_cons] at h
    have hmem : rest.getLastD part ∈ parts sep cs := by
      rw [hparts]
      exact List.getLastD_mem_cons
    exact (mem_parts hmem).2.2 c h

/-- Parts that a text can have are the parts of their joined text. -/
theorem parts_intercalate {sep : Char} {ps : List (List Char)} (hne : ps ≠ [])
    (h : ∀ part ∈ ps, sep ∉ part ∧ part ≠ [] ∧ part ≠ ['.']) :
    parts sep ([sep].intercalate ps) = ps := by
  rw [parts, splitAll_intercalate hne fun part hpart => (h part hpart).1]
  refine List.filter_eq_self.mpr fun part hpart => ?_
  rw [Bool.and_eq_true, decide_eq_true_eq, decide_eq_true_eq]
  exact (h part hpart).2

/-- A text that does not begin with a separator has no root. -/
theorem posixRoot_of_head {c : Char} {cs : List Char} (h : c ≠ '/') :
    posixRoot (c :: cs) = ([], c :: cs) := by
  unfold posixRoot
  split
  · exact absurd (List.cons.inj ‹_›).1 h
  · exact absurd (List.cons.inj ‹_›).1 h
  · exact absurd (List.cons.inj ‹_›).1 h
  · rfl

/-- A relative text that says its parts in full is its own normal form. -/
theorem asPosix_intercalate {c : Char} {part : List Char} {ps : List (List Char)} (hc : c ≠ '/')
    (h : ∀ p ∈ (c :: part) :: ps, '/' ∉ p ∧ p ≠ [] ∧ p ≠ ['.']) :
    asPosix (['/'].intercalate ((c :: part) :: ps)) = ['/'].intercalate ((c :: part) :: ps) ∧
      posixParts (['/'].intercalate ((c :: part) :: ps)) = (c :: part) :: ps ∧
      posixAbsolute (['/'].intercalate ((c :: part) :: ps)) = false := by
  obtain ⟨rest, hrest⟩ : ∃ rest, ['/'].intercalate ((c :: part) :: ps) = c :: rest := by
    cases ps with
    | nil => exact ⟨part, List.intercalate_singleton⟩
    | cons p ps => exact ⟨_, List.intercalate_cons_cons⟩
  have hroot : posixRoot (['/'].intercalate ((c :: part) :: ps)) =
      ([], ['/'].intercalate ((c :: part) :: ps)) := by
    rw [hrest, posixRoot_of_head hc]
  have hparts : posixParts (['/'].intercalate ((c :: part) :: ps)) = (c :: part) :: ps := by
    rw [posixParts, hroot]
    exact parts_intercalate (List.cons_ne_nil _ _) h
  refine ⟨?_, hparts, ?_⟩
  · rw [asPosix, hparts, hroot, List.nil_append, hrest]
    rfl
  · rw [posixAbsolute, hroot]
    rfl

/-- A relative text in its normal form is its parts, joined. -/
theorem eq_intercalate_of_normal {cs : List Char} (hrelative : posixAbsolute cs = false)
    (hnormal : cs = asPosix cs) (hparts : ['/'].intercalate (posixParts cs) ≠ []) :
    cs = ['/'].intercalate (posixParts cs) := by
  have hroot : (posixRoot cs).1 = [] := by
    rw [posixAbsolute] at hrelative
    simpa using hrelative
  rw [asPosix, hroot, List.nil_append] at hnormal
  rwa [if_neg (by simpa using hparts)] at hnormal

/-- A text whose second character is no colon and whose first is no separator has no drive. -/
theorem windowsDrive_plain {c d : Char} {cs : List Char} (hslash : c ≠ '/') (hback : c ≠ '\\')
    (hcolon : d ≠ ':') : windowsDrive (c :: d :: cs) = [] := by
  have hfirst : (if c == '/' then '\\' else c) = c := if_neg (by simpa using hslash)
  have hsecond : (if d == '/' then '\\' else d) ≠ ':' := by
    split
    · decide
    · exact hcolon
  rw [windowsDrive, windowsText, List.map_cons, List.map_cons, hfirst]
  unfold windowsRoot
  split
  · exact absurd (List.cons.inj ‹_›).1 hback
  · exact absurd (List.cons.inj ‹_›).1 hback
  · exact absurd (List.cons.inj (List.cons.inj ‹_›).2).1 hsecond
  · exact absurd (List.cons.inj (List.cons.inj ‹_›).2).1 hsecond
  · rfl

/-- What stands behind the first separator is in the text. -/
theorem mem_behind {sep c : Char} {cs first rest : List Char}
    (h : splitFirst sep cs = some (first, rest)) (hc : c ∈ rest) : c ∈ cs := by
  rw [(splitFirst_some h).1]
  exact List.mem_append_right _ (List.mem_cons_of_mem _ hc)

/-- The name a Windows path ends in has no separator of either kind. -/
theorem mem_windowsName {cs : List Char} {c : Char} (h : c ∈ windowsName cs) :
    c ≠ '/' ∧ c ≠ '\\' := by
  have hrest : ∀ ds : List Char, ∀ d ∈ (windowsRoot ds).2.2, d ∈ ds := by
    intro ds d hd
    unfold windowsRoot at hd
    split at hd
    · dsimp only at hd
      split at hd
      · cases hd
      · rename_i server behind hserver
        split at hd
        · cases hd
        · rename_i share last hshare
          exact List.mem_of_mem_drop (mem_behind hserver (mem_behind hshare hd))
    · exact List.mem_cons_of_mem _ hd
    · exact List.mem_cons_of_mem _ (List.mem_cons_of_mem _ (List.mem_cons_of_mem _ hd))
    · exact List.mem_cons_of_mem _ (List.mem_cons_of_mem _ hd)
    · exact hd
  obtain ⟨hmem, hback⟩ := mem_getLastD_parts h
  obtain ⟨d, -, rfl⟩ := List.mem_map.mp (hrest _ _ hmem)
  refine ⟨?_, hback⟩
  split
  · decide
  · rename_i hslash
    simpa using hslash

/-- The name a POSIX path ends in is part of the text. -/
theorem mem_posixName {cs : List Char} {c : Char} (h : c ∈ posixName cs) : c ∈ cs ∧ c ≠ '/' := by
  obtain ⟨hmem, hslash⟩ := mem_getLastD_parts h
  refine ⟨?_, hslash⟩
  unfold posixRoot at hmem
  split at hmem
  · exact List.mem_cons_of_mem _ hmem
  · exact List.mem_cons_of_mem _ (List.mem_cons_of_mem _ hmem)
  · exact List.mem_cons_of_mem _ hmem
  · exact hmem

end ConfigAuditor.Library.PathText
