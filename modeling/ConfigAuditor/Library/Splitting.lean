import ConfigAuditor.Library.Text

/-!
# Texts between separators

`str.split` gives the parts between separators: parts without the separator, joined
by it, are split into themselves.
-/
namespace ConfigAuditor.Library.Text

theorem splitAll_of_not_mem {sep : Char} {part : List Char} (h : sep ∉ part) :
    splitAll sep part = [part] := by
  induction part with
  | nil => rfl
  | cons c part ih =>
    rw [List.mem_cons, not_or] at h
    have hc : ¬ (c == sep) = true := fun heq => h.1 (eq_of_beq heq).symm
    rw [splitAll, if_neg hc, ih h.2]

theorem splitAll_append {sep : Char} {part : List Char} (h : sep ∉ part) (rest : List Char) :
    splitAll sep (part ++ sep :: rest) = part :: splitAll sep rest := by
  induction part with
  | nil => rw [List.nil_append, splitAll, if_pos (beq_self_eq_true sep)]
  | cons c part ih =>
    rw [List.mem_cons, not_or] at h
    have hc : ¬ (c == sep) = true := fun heq => h.1 (eq_of_beq heq).symm
    rw [List.cons_append, splitAll, if_neg hc, ih h.2]

theorem splitAll_ne_nil (sep : Char) (cs : List Char) : splitAll sep cs ≠ [] := by
  cases cs with
  | nil => simp [splitAll]
  | cons c cs =>
    rw [splitAll]
    split
    · simp
    · split <;> simp

/-- A separator anywhere in a text splits it there. -/
theorem splitAll_between (sep : Char) (cs rest : List Char) :
    splitAll sep (cs ++ sep :: rest) = splitAll sep cs ++ splitAll sep rest := by
  induction cs with
  | nil => exact splitAll_append List.not_mem_nil rest
  | cons c cs ih =>
    rw [List.cons_append, splitAll, splitAll, ih]
    split
    · rfl
    · cases hsplit : splitAll sep cs with
      | nil => exact absurd hsplit (splitAll_ne_nil sep cs)
      | cons part parts => rfl

theorem toList_join (sep : Char) (parts : List String) :
    (join (String.singleton sep) parts).toList = [sep].intercalate (parts.map String.toList) := by
  rw [join, String.toList_intercalate, String.toList_singleton]

/-- Parts without the separator are what their joined text is split into. -/
theorem splitAll_intercalate {sep : Char} {parts : List (List Char)} (hne : parts ≠ [])
    (h : ∀ part ∈ parts, sep ∉ part) : splitAll sep ([sep].intercalate parts) = parts := by
  induction parts with
  | nil => exact absurd rfl hne
  | cons part parts ih =>
    rw [List.forall_mem_cons] at h
    cases parts with
    | nil => rw [List.intercalate_singleton, splitAll_of_not_mem h.1]
    | cons next parts =>
      rw [List.intercalate_cons_cons, List.append_assoc, List.singleton_append,
        splitAll_append h.1, ih (by simp) h.2]

/-- The parts have the characters of the text that are no separator. -/
theorem mem_splitAll {sep : Char} {cs part : List Char} (h : part ∈ splitAll sep cs) {c : Char}
    (hc : c ∈ part) : c ∈ cs ∧ c ≠ sep := by
  induction cs generalizing part with
  | nil =>
    obtain rfl := List.mem_singleton.mp h
    cases hc
  | cons d cs ih =>
    rw [splitAll] at h
    split at h
    · obtain rfl | h := List.mem_cons.mp h
      · cases hc
      · exact ⟨List.mem_cons_of_mem _ (ih h hc).1, (ih h hc).2⟩
    · rename_i hd
      have hne : d ≠ sep := fun heq => hd (heq ▸ beq_self_eq_true sep)
      split at h
      · rename_i first parts hsplit
        rw [hsplit] at ih
        obtain rfl | h := List.mem_cons.mp h
        · obtain rfl | hc := List.mem_cons.mp hc
          · exact ⟨List.mem_cons_self, hne⟩
          · have hrest := ih List.mem_cons_self hc
            exact ⟨List.mem_cons_of_mem _ hrest.1, hrest.2⟩
        · have hrest := ih (List.mem_cons_of_mem _ h) hc
          exact ⟨List.mem_cons_of_mem _ hrest.1, hrest.2⟩
      · obtain rfl := List.mem_singleton.mp h
        obtain rfl := List.mem_singleton.mp hc
        exact ⟨List.mem_cons_self, hne⟩

/-- Every other character of the text is in a part. -/
theorem exists_part {sep : Char} {cs : List Char} {c : Char} (hne : c ≠ sep) (hc : c ∈ cs) :
    ∃ part ∈ splitAll sep cs, c ∈ part := by
  induction cs with
  | nil => cases hc
  | cons d cs ih =>
    rw [splitAll]
    split
    · rename_i hd
      obtain rfl | hc := List.mem_cons.mp hc
      · exact absurd (eq_of_beq hd) hne
      · obtain ⟨part, hpart, hmem⟩ := ih hc
        exact ⟨part, List.mem_cons_of_mem _ hpart, hmem⟩
    · split
      · rename_i first parts hsplit
        rw [hsplit] at ih
        obtain rfl | hc := List.mem_cons.mp hc
        · exact ⟨_, List.mem_cons_self, List.mem_cons_self⟩
        · obtain ⟨part, hpart, hmem⟩ := ih hc
          obtain rfl | hpart := List.mem_cons.mp hpart
          · exact ⟨_, List.mem_cons_self, List.mem_cons_of_mem _ hmem⟩
          · exact ⟨part, List.mem_cons_of_mem _ hpart, hmem⟩
      · rename_i hnil
        exact absurd hnil (splitAll_ne_nil sep cs)

/-- A text without the separator is one part. -/
theorem splitAll_eq_singleton {sep : Char} {cs part : List Char} (h : splitAll sep cs = [part]) :
    cs = part := by
  induction cs generalizing part with
  | nil => exact (List.cons.inj h).1
  | cons c cs ih =>
    rw [splitAll] at h
    split at h
    · exact absurd (List.cons.inj h).2 (splitAll_ne_nil sep cs)
    · split at h
      · rename_i first parts hsplit
        obtain ⟨rfl, rfl⟩ := List.cons.inj h
        rw [ih hsplit]
      · rename_i hnil
        exact absurd hnil (splitAll_ne_nil sep cs)

/-- A text of two parts has one separator. -/
theorem splitAll_eq_pair {sep : Char} {cs first second : List Char}
    (h : splitAll sep cs = [first, second]) : cs = first ++ sep :: second := by
  induction cs generalizing first with
  | nil => cases h
  | cons c cs ih =>
    rw [splitAll] at h
    split at h
    · rename_i hc
      obtain ⟨rfl, hrest⟩ := List.cons.inj h
      rw [splitAll_eq_singleton hrest, eq_of_beq hc]
      rfl
    · split at h
      · rename_i part parts hsplit
        obtain ⟨rfl, rfl⟩ := List.cons.inj h
        rw [ih hsplit]
        rfl
      · cases h

end ConfigAuditor.Library.Text
