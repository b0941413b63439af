import ConfigAuditor.Findings.Excerpt
import ConfigAuditor.Library.Splitting

/-!
# Excerpts and the lines of a node

When the lines an excerpt shows are the source lines of the node it is evidence of: the
first bytes must end between characters, `str.splitlines()` must count the lines before
the node as the reference does, and the lines of the node must hold no other line break.
-/
namespace ConfigAuditor.Findings

open Library Library.Utf8 SecurityModel

section Lists

variable {before own after : List (List Char)}

/-- What `str.splitlines()` makes of lines is what it makes of each. -/
def shown (lines : List (List Char)) : List (List Char) := lines.flatMap Text.splitLines

def stripped (lines : List (List Char)) : List (List Char) :=
  lines.map (Text.rstripChars ['\r', '\n'])

/-- Lines without inner breaks, all but the last of them one line to `str.splitlines()`. -/
structure Usual (own : List (List Char)) : Prop where
  breakFree : ∀ line ∈ own, Text.BreakFree line
  single : ∀ line ∈ own.dropLast, (Text.splitLines line).length = 1

theorem shown_of_usual (hne : ∀ line ∈ own, line ≠ []) (h : Usual own) :
    (shown own).take own.length = stripped own := by
  induction own with
  | nil => rfl
  | cons line rest ih =>
    obtain ⟨hfree, hrest⟩ := List.forall_mem_cons.mp h.breakFree
    obtain ⟨hline, hlines⟩ := List.forall_mem_cons.mp hne
    obtain ⟨k, hk⟩ := Text.splitLines_breakFree hfree hline
    cases rest with
    | nil => simp [shown, stripped, hk]
    | cons next rest =>
      have hone := h.single line List.mem_cons_self
      rw [hk, List.length_cons, List.length_replicate, Nat.add_eq_right] at hone
      subst hone
      have htail : Usual (next :: rest) :=
        ⟨hrest, fun l hl => h.single l (List.mem_cons_of_mem _ hl)⟩
      rw [shown, List.flatMap_cons, hk, List.replicate_zero, List.singleton_append,
        List.length_cons, List.take_succ_cons, stripped, List.map_cons]
      exact congrArg _ (ih hlines htail)

/-- Lines that are shown as they are, are usual lines, or one of them behind the first is empty. -/
theorem usual_of_shown (hne : ∀ line ∈ own, line ≠ []) (hfree : ∀ line ∈ own, Text.BreakFree line)
    (h : (shown own ++ after).take own.length = stripped own) :
    Usual own ∨ [] ∈ (stripped own).tail := by
  suffices hsingle : (∀ line ∈ own.dropLast, (Text.splitLines line).length = 1) ∨
      [] ∈ (stripped own).tail from hsingle.imp_left fun hsingle => ⟨hfree, hsingle⟩
  induction own with
  | nil => exact .inl (by simp)
  | cons line rest ih =>
    obtain ⟨hline, hlines⟩ := List.forall_mem_cons.mp hne
    obtain ⟨hbreak, hrest⟩ := List.forall_mem_cons.mp hfree
    obtain ⟨k, hk⟩ := Text.splitLines_breakFree hbreak hline
    cases rest with
    | nil => exact .inl (by simp)
    | cons next rest =>
      rw [shown, List.flatMap_cons, hk, List.cons_append, List.cons_append, List.length_cons,
        List.take_succ_cons, stripped, List.map_cons] at h
      have htail := (List.cons.inj h).2
      cases k with
      | zero =>
        rw [List.replicate_zero, List.nil_append] at htail
        obtain hall | hempty := ih hlines hrest htail
        · refine .inl fun l hl => ?_
          obtain rfl | hl := List.mem_cons.mp hl
          · rw [hk]
            rfl
          · exact hall l hl
        · exact .inr (List.mem_of_mem_tail hempty)
      | succ k =>
        rw [List.replicate_succ, List.cons_append, List.cons_append, List.length_cons,
          List.take_succ_cons, List.map_cons] at htail
        exact .inr (by rw [stripped, List.map_cons, List.tail_cons, List.map_cons,
          ← (List.cons.inj htail).1]; exact List.mem_cons_self)

end Lists

section Ranges

variable {stored : StoredText} {reference : EvidenceRef} {start stop first last : Nat}

/-- The lines of the file before a line. -/
def StoredText.linesBefore (stored : StoredText) (first : Nat) : List (List Char) :=
  (Text.lines stored.text.toList).take (first - 1)

/-- The lines of a range as the file has them, with their ends. -/
def StoredText.rawLines (stored : StoredText) (first last : Nat) : List (List Char) :=
  ((Text.lines stored.text.toList).take last).drop (first - 1)

/-- The condition under which an excerpt shows the lines of a node. -/
structure Aligned (stored : StoredText) (start stop first last : Nat) : Prop where
  cut : CutBetween stored.text.toList stored.room
  before : (shown (stored.linesBefore first)).length + 1 = start
  span : last + start = stop + first
  own : Usual (stored.rawLines first last)

/-- A line that stands twice in the file, to `str.splitlines()`. -/
def StandsTwice (stored : StoredText) (line : List Char) : Prop :=
  ∃ i j : Nat, i ≠ j ∧ (Text.splitLines stored.text.toList)[i]? = some line ∧
    (Text.splitLines stored.text.toList)[j]? = some line

theorem ownLines_eq : stored.ownLines first last = stripped (stored.rawLines first last) := by
  rw [StoredText.ownLines, Parsing.Spans.sourceLines, stripped, StoredText.rawLines, List.map_drop,
    List.map_take]

theorem rawLines_ne_nil : ∀ line ∈ stored.rawLines first last, line ≠ [] := fun _ hline =>
  Text.ne_nil_of_mem_lines (List.mem_of_mem_take (List.mem_of_mem_drop hline))

theorem length_rawLines (first : Nat) (hlast : last ≤ (Text.lines stored.text.toList).length) :
    (stored.rawLines first last).length = last - (first - 1) := by
  rw [StoredText.rawLines, List.length_drop, List.length_take, Nat.min_eq_left hlast]

/-- The file, around the lines of a range. -/
theorem lines_split (hlast : first ≤ last) :
    Text.lines stored.text.toList = stored.linesBefore first ++ stored.rawLines first last ++
      (Text.lines stored.text.toList).drop last := by
  have hbefore : stored.linesBefore first =
      ((Text.lines stored.text.toList).take last).take (first - 1) := by
    rw [List.take_take, Nat.min_eq_left (by omega)]
    rfl
  rw [hbefore, StoredText.rawLines, List.take_append_drop, List.take_append_drop]

theorem splitLines_split (stored : StoredText) (hlast : first ≤ last) :
    Text.splitLines stored.text.toList = shown (stored.linesBefore first) ++
      (shown (stored.rawLines first last) ++ shown ((Text.lines stored.text.toList).drop last)) := by
  refine (Text.splitLines_eq_flatMap _).trans ((congrArg shown (lines_split hlast)).trans ?_)
  rw [shown, List.flatMap_append, List.flatMap_append, List.append_assoc]
  rfl

/-- `str.splitlines()` makes no fewer lines than reading line by line. -/
theorem lines_le_splitLines (stored : StoredText) :
    (Text.lines stored.text.toList).length ≤ (Text.splitLines stored.text.toList).length := by
  rw [Text.splitLines_eq_flatMap]
  exact length_le_flatMap fun line => Text.ne_nil_of_mem_lines

/-- The lines that are shown are the lines of the node where the two ways of splitting agree. -/
theorem shownLines_of_aligned (h : Aligned stored start stop first last) (hfirst : 1 ≤ first)
    (hordered : first ≤ last) (hlast : last ≤ (Text.lines stored.text.toList).length) :
    stored.shownLines start stop = stored.ownLines first last := by
  obtain ⟨-, hbefore, hspan, husual⟩ := h
  have hlength := length_rawLines first hlast
  have hmany : (stored.rawLines first last).length ≤ (shown (stored.rawLines first last)).length :=
    length_le_flatMap rawLines_ne_nil
  rw [StoredText.shownLines, List.drop_take, splitLines_split stored hordered,
    show start - 1 = (shown (stored.linesBefore first)).length by omega, List.drop_left,
    show stop - (shown (stored.linesBefore first)).length =
      (stored.rawLines first last).length by omega,
    List.take_append_of_le_length hmany, shown_of_usual rawLines_ne_nil husual, ownLines_eq]

/-- Where the lines of the node are shown, the ways of splitting agree, unless the first of the
lines stands in the file a second time or one of the others is empty. -/
theorem aligned_of_shownLines (hcut : CutBetween stored.text.toList stored.room)
    (hstart : 1 ≤ start) (hstop : start ≤ stop)
    (hexist : stop ≤ (Text.lines stored.text.toList).length)
    (hfirst : 1 ≤ first) (hordered : first ≤ last)
    (hlast : last ≤ (Text.lines stored.text.toList).length)
    (h : stored.shownLines start stop = stored.ownLines first last) :
    Aligned stored start stop first last ∨
      (∃ line ∈ (stored.ownLines first last).head?, StandsTwice stored line) ∨
      [] ∈ (stored.ownLines first last).tail := by
  have hsplit := splitLines_split stored hordered
  have hcount := lines_le_splitLines stored
  have hlength := length_rawLines first hlast
  have hspan : last + start = stop + first := by
    have hboth := congrArg List.length h
    rw [StoredText.shownLines, List.length_drop, List.length_take, ownLines_eq, stripped,
      List.length_map, hlength] at hboth
    omega
  have hfree : ∀ line ∈ stored.rawLines first last, Text.BreakFree line := by
    intro line hline c hc
    have hmem : Text.rstripChars ['\r', '\n'] line ∈ stored.shownLines start stop := by
      rw [h, ownLines_eq]
      exact List.mem_map_of_mem hline
    exact Text.mem_splitLines (List.mem_of_mem_take (List.mem_of_mem_drop hmem)) hc
  rw [ownLines_eq] at h ⊢
  by_cases hbefore : (shown (stored.linesBefore first)).length + 1 = start
  · have htake : (shown (stored.rawLines first last) ++
        shown ((Text.lines stored.text.toList).drop last)).take (stored.rawLines first last).length =
        stripped (stored.rawLines first last) := by
      rw [← h, StoredText.shownLines, List.drop_take, hsplit,
        show start - 1 = (shown (stored.linesBefore first)).length by omega, List.drop_left,
        show stop - (shown (stored.linesBefore first)).length =
          (stored.rawLines first last).length by omega]
    obtain husual | hempty := usual_of_shown rawLines_ne_nil hfree htake
    · exact .inl ⟨hcut, hbefore, hspan, husual⟩
    · exact .inr (.inr hempty)
  · refine .inr (.inl ?_)
    obtain ⟨line, rest, hraw⟩ := List.exists_cons_of_ne_nil
      (List.ne_nil_of_length_pos (show 0 < (stored.rawLines first last).length by omega))
    have hmem : line ∈ stored.rawLines first last := hraw ▸ List.mem_cons_self
    obtain ⟨k, hk⟩ := Text.splitLines_breakFree (hfree line hmem) (rawLines_ne_nil line hmem)
    refine ⟨Text.rstripChars ['\r', '\n'] line, by rw [hraw]; rfl,
      start - 1, (shown (stored.linesBefore first)).length, by omega, ?_, ?_⟩
    · have hhead := congrArg (·[0]?) h
      simp only [StoredText.shownLines, hraw, stripped, List.map_cons, List.getElem?_drop,
        List.getElem?_cons_zero, Nat.add_zero] at hhead
      rwa [List.getElem?_take_of_lt (by omega)] at hhead
    · rw [hsplit, List.getElem?_append_right (Nat.le_refl _), Nat.sub_self, hraw, shown,
        List.flatMap_cons, hk]
      rfl

end Ranges

end ConfigAuditor.Findings
