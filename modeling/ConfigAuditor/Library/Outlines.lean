import Mathlib.Data.List.Basic

/-!
# The outline of a text

A text is words between separators. Its outline has every separator and one mark for each
word, so it is the same whatever the words are. Putting a word in the place of a mark keeps
the outline.
-/
namespace ConfigAuditor.Library.Outlines

variable {α : Type*} [DecidableEq α]

/-- A mark before an outline: two characters of one word are one mark. -/
def joinMark (mark : Option α) (rest : List (Option α)) : List (Option α) :=
  if mark = none ∧ rest.head? = some none then rest else mark :: rest

/-- The outline of a text, whose separators are given and whose word characters are `none`. -/
def outline (marks : List (Option α)) : List (Option α) := marks.foldr joinMark []

theorem joinMark_word (rest : List (Option α)) :
    joinMark none (joinMark none rest) = joinMark none rest := by
  unfold joinMark
  by_cases hrest : rest.head? = some none
  · simp [hrest]
  · simp [hrest]

/-- A word before an outline is one mark. -/
theorem foldr_word {word : List (Option α)} (hne : word ≠ []) (hword : ∀ m ∈ word, m = none)
    (rest : List (Option α)) : word.foldr joinMark rest = joinMark none rest := by
  induction word with
  | nil => exact absurd rfl hne
  | cons m word ih =>
    rw [List.foldr_cons, hword m List.mem_cons_self]
    by_cases hnil : word = []
    · rw [hnil]
      rfl
    · rw [ih hnil fun m hm => hword m (List.mem_cons_of_mem _ hm), joinMark_word]

/-- A part stands for some marks: it is these marks, or a word in the place of one. -/
def Fills (part marks : List (Option α)) : Prop :=
  part = marks ∨ (marks = [none] ∧ part ≠ [] ∧ ∀ m ∈ part, m = none)

/-- Words in the place of marks keep the outline. -/
theorem outline_flatten {parts marks : List (List (Option α))}
    (h : List.Forall₂ Fills parts marks) : outline parts.flatten = outline marks.flatten := by
  unfold outline
  induction h with
  | nil => rfl
  | @cons part mark parts marks hpart _ ih =>
    rw [List.flatten_cons, List.flatten_cons, List.foldr_append, List.foldr_append, ih]
    rcases hpart with rfl | ⟨rfl, hne, hword⟩
    · rfl
    · exact foldr_word hne hword _

end ConfigAuditor.Library.Outlines
