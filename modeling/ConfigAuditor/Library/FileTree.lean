import Mathlib.Data.List.Basic

/-!
# Files that are published once

The files by the paths they are found at. A file is published where there is none yet and
stays as it is until it is removed.
-/
namespace ConfigAuditor.Library.FileTree

variable {κ β : Type*} [DecidableEq κ]

/-- What is stored at a path. -/
def content (files : List (κ × β)) (path : κ) : Option β :=
  (files.find? fun file => file.1 = path).map Prod.snd

/-- `os.link` of a finished file: `none` when there is a file already. -/
def publish? (files : List (κ × β)) (path : κ) (data : β) : Option (List (κ × β)) :=
  if (content files path).isSome then none else some ((path, data) :: files)

/-- `unlink`, also of a file that is not there. -/
def remove (files : List (κ × β)) (path : κ) : List (κ × β) :=
  files.filter fun file => file.1 ≠ path

variable {files files' : List (κ × β)} {path : κ} {data : β}

@[simp] theorem content_nil : content ([] : List (κ × β)) path = none := rfl

theorem publish?_eq_some : publish? files path data = some files' ↔
    content files path = none ∧ files' = (path, data) :: files := by
  unfold publish?
  cases content files path with
  | none => simp [eq_comm]
  | some old => simp

theorem content_cons (other : κ) :
    content ((path, data) :: files) other = if path = other then some data else content files other := by
  unfold content
  by_cases h : path = other
  · rw [List.find?_cons_of_pos (by simpa using h), if_pos h]
    rfl
  · rw [List.find?_cons_of_neg (by simpa using h), if_neg h]

theorem content_remove (other : κ) :
    content (remove files path) other = if path = other then none else content files other := by
  unfold content remove
  induction files with
  | nil => split <;> rfl
  | cons file files ih =>
    by_cases hfile : file.1 = path
    · rw [List.filter_cons_of_neg (by simpa using hfile), ih]
      by_cases hother : path = other
      · rw [if_pos hother, if_pos hother]
      · rw [if_neg hother, if_neg hother, List.find?_cons_of_neg]
        simpa [hfile] using hother
    · rw [List.filter_cons_of_pos (by simpa using hfile)]
      by_cases hother : file.1 = other
      · rw [List.find?_cons_of_pos (by simpa using hother),
          List.find?_cons_of_pos (by simpa using hother), if_neg]
        rintro rfl
        exact hfile hother
      · rw [List.find?_cons_of_neg (by simpa using hother),
          List.find?_cons_of_neg (by simpa using hother), ih]

/-- What is stored stays when another file is published. -/
theorem content_publish {found : β} (h : publish? files path data = some files') {other : κ}
    (hother : content files other = some found) : content files' other = some found := by
  obtain ⟨hfree, rfl⟩ := publish?_eq_some.mp h
  rw [content_cons, if_neg]
  · exact hother
  · rintro rfl
    rw [hfree] at hother
    cases hother

end ConfigAuditor.Library.FileTree
