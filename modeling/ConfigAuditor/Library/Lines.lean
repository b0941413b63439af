import Mathlib.Data.List.Infix
import ConfigAuditor.Library.Text

/-!
# Lines of a text

`str.splitlines()`, which knows more line ends than a text read line by line, and `str.count`.
-/
namespace ConfigAuditor.Library.Text

/-- The characters `str.splitlines` ends a line at. -/
def isLineBreak (c : Char) : Bool :=
  [0x0a, 0x0b, 0x0c, 0x0d, 0x1c, 0x1d, 0x1e, 0x85, 0x2028, 0x2029].contains c.toNat

/-- `str.splitlines()`; a carriage return and the line feed after it are one end. -/
def splitLines : List Char → List (List Char)
  | [] => []
  | c :: cs =>
    if c == '\r' && cs.head? == some '\n' then splitLines cs
    else if isLineBreak c then [] :: splitLines cs
    else match splitLines cs with
      | [] => [[c]]
      | line :: rest => (c :: line) :: rest

/-- The loop of `str.count`; `skip` characters belong to the occurrence found last. -/
def countFrom (part : List Char) : Nat → List Char → Nat
  | _, [] => 0
  | skip + 1, _ :: cs => countFrom part skip cs
  | 0, c :: cs =>
    if part.isPrefixOf (c :: cs) then 1 + countFrom part (part.length - 1) cs
    else countFrom part 0 cs

/-- `text.count(part)` for a part that is not empty. -/
def count (part cs : List Char) : Nat := countFrom part 0 cs

theorem splitLines_lineFeed (cs : List Char) : splitLines ('\n' :: cs) = [] :: splitLines cs :=
  rfl

/-- Line feeds are empty lines. -/
theorem splitLines_lineFeeds (n : Nat) (cs : List Char) :
    splitLines (List.replicate n '\n' ++ cs) = List.replicate n [] ++ splitLines cs := by
  induction n with
  | zero => rfl
  | succ n ih =>
    rw [List.replicate_succ, List.cons_append, splitLines_lineFeed, ih]
    rfl

theorem occursIn_append (before part after : List Char) :
    occursIn part (before ++ (part ++ after)) = true := by
  rw [occursIn, List.any_eq_true]
  refine ⟨part ++ after, ?_, ?_⟩
  · rw [List.mem_tails]
    exact List.suffix_append before (part ++ after)
  · rw [List.isPrefixOf_iff_prefix]
    exact List.prefix_append part after

theorem splitLines_ne_nil {c : Char} {cs : List Char} : splitLines (c :: cs) ≠ [] := by
  induction cs generalizing c with
  | nil =>
    rw [splitLines]
    split
    · rename_i h
      simp at h
    · split
      · simp
      · simp [splitLines]
  | cons d cs ih =>
    rw [splitLines]
    split
    · exact ih
    · split
      · simp
      · split
        · simp
        · simp

theorem lines_ne_nil (c : Char) (cs : List Char) : lines (c :: cs) ≠ [] := by
  rw [lines]
  split
  · simp
  · split
    · simp
    · simp

theorem ne_nil_of_mem_lines {cs line : List Char} (h : line ∈ lines cs) : line ≠ [] := by
  induction cs generalizing line with
  | nil => simp [lines] at h
  | cons c cs ih =>
    rw [lines] at h
    split at h
    · rcases List.mem_cons.mp h with rfl | h
      · simp
      · exact ih h
    · split at h
      · obtain rfl := List.mem_singleton.mp h
        simp
      · rename_i first rest hrest
        rcases List.mem_cons.mp h with rfl | h
        · simp
        · exact ih (by rw [hrest]; exact List.mem_cons_of_mem _ h)

/-- The first line starts with the first character. -/
theorem head?_of_lines {cs line : List Char} {rest : List (List Char)}
    (h : lines cs = line :: rest) : line.head? = cs.head? := by
  cases cs with
  | nil => simp [lines] at h
  | cons c cs =>
    rw [lines] at h
    split at h
    · rw [← (List.cons.inj h).1]
      rfl
    · split at h
      · rw [← (List.cons.inj h).1]
        rfl
      · rw [← (List.cons.inj h).1]
        rfl

/-- A line read up to its line feed is split into whole lines. -/
theorem splitLines_eq_flatMap (cs : List Char) : splitLines cs = (lines cs).flatMap splitLines := by
  induction cs with
  | nil => rfl
  | cons c cs ih =>
    rw [lines]
    split
    · rename_i hfeed
      obtain rfl : c = '\n' := by simpa using hfeed
      rw [List.flatMap_cons, ← ih, splitLines, if_neg (by simp), if_pos (by decide)]
      rfl
    · rename_i hfeed
      cases hlines : lines cs with
      | nil =>
        cases cs with
        | nil => simp
        | cons d ds => exact absurd hlines (lines_ne_nil d ds)
      | cons line rest =>
        have hhead := head?_of_lines hlines
        rw [hlines, List.flatMap_cons] at ih
        obtain ⟨d, ds, rfl⟩ := List.exists_cons_of_ne_nil
          (ne_nil_of_mem_lines (hlines ▸ List.mem_cons_self))
        simp only [List.flatMap_cons]
        rw [splitLines, splitLines.eq_2 c (d :: ds), hhead]
        split
        · exact ih
        · split
          · rw [ih, List.cons_append]
          · obtain ⟨first, more, hfirst⟩ := List.exists_cons_of_ne_nil
              (splitLines_ne_nil : splitLines (d :: ds) ≠ [])
            rw [ih, hfirst]
            rfl

end ConfigAuditor.Library.Text
