import Mathlib.Data.List.TakeWhile

/-!
# Scanning blocks that an item opens and a later one closes

A scanner goes over a list with the block it is in. Which items it marks is compared with marks
given beforehand: they agree when the scanner opens nothing at an unmarked item and every stretch
of marked items can be cut into whole blocks.
-/
namespace ConfigAuditor.Library

/-- What opens a block, with what closes it, or `none` for a block of one item. -/
structure Scanner (α δ : Type*) where
  opens : α → Option (Option δ)
  closes : δ → α → Bool

namespace Scanner

variable {α δ : Type*} (scanner : Scanner α δ)

/-- The block the scanner is in after an item. -/
def next : Option δ → α → Option δ
  | none, item => (scanner.opens item).getD none
  | some delimiter, item => if scanner.closes delimiter item then none else some delimiter

def inBlock : Option δ → α → Bool
  | none, item => (scanner.opens item).isSome
  | some _, _ => true

def after (state : Option δ) (items : List α) : Option δ := items.foldl scanner.next state

/-- Which items are in a block. -/
def marks : Option δ → List α → List Bool
  | _, [] => []
  | state, item :: rest => scanner.inBlock state item :: marks (scanner.next state item) rest

/-- A list cut into whole blocks; the last one may have no end if `open?` says so. -/
inductive Tiled (mayEnd : Prop) : List α → Prop where
  | nil : Tiled mayEnd []
  | single {item : α} {rest : List α} : scanner.opens item = some none → Tiled mayEnd rest →
      Tiled mayEnd (item :: rest)
  | block {item closing : α} {delimiter : δ} {inner rest : List α} :
      scanner.opens item = some (some delimiter) →
      (∀ other ∈ inner, scanner.closes delimiter other = false) →
      scanner.closes delimiter closing = true → Tiled mayEnd rest →
      Tiled mayEnd (item :: (inner ++ closing :: rest))
  | unclosed {item : α} {delimiter : δ} {inner : List α} : mayEnd →
      scanner.opens item = some (some delimiter) →
      (∀ other ∈ inner, scanner.closes delimiter other = false) → Tiled mayEnd (item :: inner)

@[simp] theorem length_marks (state : Option δ) (items : List α) :
    (scanner.marks state items).length = items.length := by
  induction items generalizing state with
  | nil => rfl
  | cons item rest ih => rw [marks, List.length_cons, ih, List.length_cons]

theorem after_append (state : Option δ) (items items' : List α) :
    scanner.after state (items ++ items') = scanner.after (scanner.after state items) items' :=
  List.foldl_append

theorem marks_append (state : Option δ) (items items' : List α) :
    scanner.marks state (items ++ items') =
      scanner.marks state items ++ scanner.marks (scanner.after state items) items' := by
  induction items generalizing state with
  | nil => rfl
  | cons item rest ih =>
    rw [List.cons_append, marks, marks, ih]
    rfl

variable {scanner}

/-- Within a block the scanner waits for its end. -/
theorem after_of_not_closes {delimiter : δ} {inner : List α}
    (h : ∀ other ∈ inner, scanner.closes delimiter other = false) :
    scanner.after (some delimiter) inner = some delimiter := by
  induction inner with
  | nil => rfl
  | cons other rest ih =>
    have hother : scanner.next (some delimiter) other = some delimiter := by
      rw [next, if_neg (by simp [h other List.mem_cons_self])]
    rw [after, List.foldl_cons, hother]
    exact ih fun item hitem => h item (List.mem_cons_of_mem _ hitem)

theorem marks_of_not_closes {delimiter : δ} {inner : List α}
    (h : ∀ other ∈ inner, scanner.closes delimiter other = false) :
    ∀ mark ∈ scanner.marks (some delimiter) inner, mark = true := by
  induction inner with
  | nil =>
    intro mark hmark
    cases hmark
  | cons other rest ih =>
    have hother : scanner.next (some delimiter) other = some delimiter := by
      rw [next, if_neg (by simp [h other List.mem_cons_self])]
    intro mark hmark
    rw [marks, hother] at hmark
    rcases List.mem_cons.mp hmark with rfl | hmark
    · rfl
    · exact ih (fun item hitem => h item (List.mem_cons_of_mem _ hitem)) mark hmark

/-- Whole blocks are marked, and behind them the scanner is in no block. -/
theorem Tiled.marked {mayEnd : Prop} {items : List α} (h : scanner.Tiled mayEnd items) :
    (∀ mark ∈ scanner.marks none items, mark = true) ∧
      (scanner.after none items = none ∨ mayEnd) := by
  induction h with
  | nil => exact ⟨(fun _ hmark => nomatch hmark), .inl rfl⟩
  | @single item rest hopens _ ih =>
    have hnext : scanner.next none item = none := by rw [next, hopens, Option.getD_some]
    constructor
    · intro mark hmark
      rw [marks, hnext] at hmark
      rcases List.mem_cons.mp hmark with rfl | hmark
      · rw [inBlock, hopens, Option.isSome_some]
      · exact ih.1 mark hmark
    · rw [after, List.foldl_cons, hnext]
      exact ih.2
  | @block item closing delimiter inner rest hopens hinner hclosing _ ih =>
    have hnext : scanner.next none item = some delimiter := by rw [next, hopens, Option.getD_some]
    have hend : scanner.next (some delimiter) closing = none := by rw [next, if_pos hclosing]
    constructor
    · intro mark hmark
      rw [marks, hnext, marks_append, after_of_not_closes hinner, marks, hend] at hmark
      rcases List.mem_cons.mp hmark with rfl | hmark
      · rw [inBlock, hopens, Option.isSome_some]
      rcases List.mem_append.mp hmark with hmark | hmark
      · exact marks_of_not_closes hinner mark hmark
      rcases List.mem_cons.mp hmark with rfl | hmark
      · rfl
      · exact ih.1 mark hmark
    · have hrest : scanner.after none (item :: (inner ++ closing :: rest)) =
          scanner.after none rest := by
        rw [after, List.foldl_cons, hnext, List.foldl_append, List.foldl_cons]
        have hinside := after_of_not_closes hinner
        rw [after] at hinside
        rw [hinside, hend]
        rfl
      rw [hrest]
      exact ih.2
  | @unclosed item delimiter inner hmay hopens hinner =>
    have hnext : scanner.next none item = some delimiter := by rw [next, hopens, Option.getD_some]
    refine ⟨fun mark hmark => ?_, .inr hmay⟩
    rw [marks, hnext] at hmark
    rcases List.mem_cons.mp hmark with rfl | hmark
    · rw [inBlock, hopens, Option.isSome_some]
    · exact marks_of_not_closes hinner mark hmark

/-- In a block, the rest of the list closes it somewhere or nowhere. -/
theorem closes_or (delimiter : δ) (items : List α) :
    (∀ other ∈ items, scanner.closes delimiter other = false) ∨
      ∃ inner closing rest, items = inner ++ closing :: rest ∧
        (∀ other ∈ inner, scanner.closes delimiter other = false) ∧
        scanner.closes delimiter closing = true := by
  induction items with
  | nil => exact .inl fun other hother => nomatch hother
  | cons item items ih =>
    by_cases hitem : scanner.closes delimiter item = true
    · exact .inr ⟨[], item, items, rfl, by simp, hitem⟩
    · rw [Bool.not_eq_true] at hitem
      rcases ih with hall | ⟨inner, closing, rest, rfl, hinner, hclosing⟩
      · refine .inl fun other hother => ?_
        rcases List.mem_cons.mp hother with rfl | hother
        · exact hitem
        · exact hall other hother
      · refine .inr ⟨item :: inner, closing, rest, rfl, fun other hother => ?_, hclosing⟩
        rcases List.mem_cons.mp hother with rfl | hother
        · exact hitem
        · exact hinner other hother

/-- A marked list behind which the scanner is in no block is cut into whole blocks. -/
theorem tiled_of_marked {mayEnd : Prop} (size : Nat) (items : List α) (hsize : items.length ≤ size)
    (hmarks : ∀ mark ∈ scanner.marks none items, mark = true)
    (hafter : scanner.after none items = none ∨ mayEnd) : scanner.Tiled mayEnd items := by
  induction size generalizing items with
  | zero =>
    obtain rfl := List.length_eq_zero_iff.mp (Nat.le_zero.mp hsize)
    exact .nil
  | succ size ih =>
    cases items with
    | nil => exact .nil
    | cons item rest =>
      have hopen := hmarks _ List.mem_cons_self
      rw [inBlock, Option.isSome_iff_exists] at hopen
      obtain ⟨ending, hopens⟩ := hopen
      have hnext : scanner.next none item = ending := by rw [next, hopens, Option.getD_some]
      have hrestMarks : ∀ mark ∈ scanner.marks ending rest, mark = true := by
        intro mark hmark
        refine hmarks mark ?_
        rw [marks, hnext]
        exact List.mem_cons_of_mem _ hmark
      have hrestAfter : scanner.after ending rest = none ∨ mayEnd := by
        rw [after, List.foldl_cons, hnext] at hafter
        exact hafter
      have hlength : rest.length ≤ size := by
        rw [List.length_cons] at hsize
        omega
      cases ending with
      | none => exact .single hopens (ih rest hlength hrestMarks hrestAfter)
      | some delimiter =>
        rcases closes_or delimiter rest with hall | ⟨inner, closing, tail, rfl, hinner, hclosing⟩
        · rw [after_of_not_closes hall] at hrestAfter
          exact .unclosed (hrestAfter.resolve_left (by simp)) hopens hall
        · have hend : scanner.next (some delimiter) closing = none := by rw [next, if_pos hclosing]
          refine .block hopens hinner hclosing (ih tail ?_ ?_ ?_)
          · simp only [List.length_append, List.length_cons] at hlength
            omega
          · intro mark hmark
            refine hrestMarks mark ?_
            rw [marks_append, after_of_not_closes hinner, marks, hend]
            exact List.mem_append_right _ (List.mem_cons_of_mem _ hmark)
          · rw [after_append, after_of_not_closes hinner, after, List.foldl_cons, hend] at hrestAfter
            exact hrestAfter

theorem tiled_iff {mayEnd : Prop} {items : List α} : scanner.Tiled mayEnd items ↔
    (∀ mark ∈ scanner.marks none items, mark = true) ∧
      (scanner.after none items = none ∨ mayEnd) :=
  ⟨Tiled.marked, fun h => tiled_of_marked _ items le_rfl h.1 h.2⟩

/-- The scanner marks all parts of a row as the row is marked. -/
def Agrees (scanner : Scanner α δ) : Option δ → List (Bool × List α) → Prop
  | _, [] => True
  | state, (mark, parts) :: rest =>
    (∀ other ∈ scanner.marks state parts, other = mark) ∧
      scanner.Agrees (scanner.after state parts) rest

/-- Nothing is opened in an unmarked row, and the rows marked in a row are whole blocks, the last
of which has an end unless nothing follows it. -/
structure WholeBlocks (scanner : Scanner α δ) (rows : List (Bool × List α)) : Prop where
  unmarked : ∀ row ∈ rows, row.1 = false → ∀ part ∈ row.2, scanner.opens part = none
  tiled : ∀ before stretch behind, rows = before ++ stretch ++ behind → stretch ≠ [] →
    (∀ row ∈ stretch, row.1 = true) → (∀ row ∈ before.getLast?, row.1 = false) →
    (∀ row ∈ behind.head?, row.1 = false) →
    scanner.Tiled (behind = []) (stretch.flatMap (·.2))

theorem agrees_append {state : Option δ} {rows rows' : List (Bool × List α)} :
    scanner.Agrees state (rows ++ rows') ↔ scanner.Agrees state rows ∧
      scanner.Agrees (scanner.after state (rows.flatMap (·.2))) rows' := by
  induction rows generalizing state with
  | nil => simp [Agrees, after]
  | cons row rows ih =>
    obtain ⟨mark, parts⟩ := row
    rw [List.cons_append, Agrees, Agrees, ih, List.flatMap_cons, after_append, and_assoc]

/-- Unmarked parts leave the scanner in no block. -/
theorem after_of_unmarked {parts : List α} (h : ∀ part ∈ parts, scanner.opens part = none) :
    (∀ mark ∈ scanner.marks none parts, mark = false) ∧ scanner.after none parts = none := by
  induction parts with
  | nil => exact ⟨(fun _ hmark => nomatch hmark), rfl⟩
  | cons part parts ih =>
    have hpart := h part List.mem_cons_self
    have hnext : scanner.next none part = none := by rw [next, hpart, Option.getD_none]
    obtain ⟨hmarks, hafter⟩ := ih fun other hother => h other (List.mem_cons_of_mem _ hother)
    constructor
    · intro mark hmark
      rw [marks, hnext] at hmark
      rcases List.mem_cons.mp hmark with rfl | hmark
      · rw [inBlock, hpart, Option.isSome_none]
      · exact hmarks mark hmark
    · rw [after, List.foldl_cons, hnext]
      exact hafter

/-- A scanner that marks no part of a row was in no block and opened none. -/
theorem opens_of_unmarked {state : Option δ} {parts : List α} (hparts : parts ≠ [])
    (h : ∀ mark ∈ scanner.marks state parts, mark = false) :
    state = none ∧ ∀ part ∈ parts, scanner.opens part = none := by
  induction parts generalizing state with
  | nil => exact absurd rfl hparts
  | cons part parts ih =>
    have hpart := h _ List.mem_cons_self
    cases state with
    | some delimiter => cases hpart
    | none =>
      rw [inBlock, Option.isSome_eq_false_iff, Option.isNone_iff_eq_none] at hpart
      have hnext : scanner.next none part = none := by rw [next, hpart, Option.getD_none]
      refine ⟨rfl, fun other hother => ?_⟩
      rcases List.mem_cons.mp hother with rfl | hother
      · exact hpart
      · have hrest : ∀ mark ∈ scanner.marks (scanner.next none part) parts, mark = false :=
          fun mark hmark => h mark (List.mem_cons_of_mem _ hmark)
        exact (ih (List.ne_nil_of_mem hother) hrest).2 other hother

theorem agrees_marked {state : Option δ} {rows : List (Bool × List α)}
    (hmarked : ∀ row ∈ rows, row.1 = true) :
    scanner.Agrees state rows ↔
      ∀ mark ∈ scanner.marks state (rows.flatMap (·.2)), mark = true := by
  induction rows generalizing state with
  | nil => simp [Agrees, marks]
  | cons row rows ih =>
    obtain ⟨mark, parts⟩ := row
    obtain rfl : mark = true := hmarked _ List.mem_cons_self
    rw [Agrees, ih fun row hrow => hmarked row (List.mem_cons_of_mem _ hrow), List.flatMap_cons,
      marks_append]
    constructor
    · intro h other hother
      rcases List.mem_append.mp hother with hother | hother
      · exact h.1 other hother
      · exact h.2 other hother
    · exact fun h => ⟨fun other hother => h other (List.mem_append_left _ hother),
        fun other hother => h other (List.mem_append_right _ hother)⟩

/-- Behind an unmarked row the scanner is in no block. -/
theorem after_of_getLast {rows : List (Bool × List α)} (hparts : ∀ row ∈ rows, row.2 ≠ [])
    (h : scanner.Agrees none rows) (hlast : ∀ row ∈ rows.getLast?, row.1 = false) :
    scanner.after none (rows.flatMap (·.2)) = none := by
  rcases List.eq_nil_or_concat rows with rfl | ⟨init, row, rfl⟩
  · rfl
  · rw [List.concat_eq_append] at h hparts hlast ⊢
    have hrow : row.1 = false := hlast row (by simp)
    have hrowMarks := (agrees_append.mp h).2
    rw [Agrees, hrow] at hrowMarks
    obtain ⟨hstate, hopens⟩ := opens_of_unmarked (hparts row (by simp)) hrowMarks.1
    rw [List.flatMap_append, after_append, hstate, List.flatMap_singleton]
    exact (after_of_unmarked hopens).2

theorem WholeBlocks.of_agrees {rows : List (Bool × List α)} (hparts : ∀ row ∈ rows, row.2 ≠ [])
    (h : scanner.Agrees none rows) : scanner.WholeBlocks rows := by
  constructor
  · intro row hrow hmark
    obtain ⟨before, behind, rfl⟩ := List.append_of_mem hrow
    have hrowMarks := (agrees_append.mp h).2
    obtain ⟨mark, parts⟩ := row
    obtain rfl : mark = false := hmark
    exact (opens_of_unmarked (hparts _ hrow) hrowMarks.1).2
  · rintro before stretch behind rfl - hmarked hbefore hbehind
    obtain ⟨hfront, hback⟩ := agrees_append.mp h
    obtain ⟨hfirst, hmiddle⟩ := agrees_append.mp hfront
    rw [after_of_getLast (fun row hrow => hparts row (by simp [hrow])) hfirst hbefore] at hmiddle
    refine tiled_iff.mpr ⟨(agrees_marked hmarked).mp hmiddle, ?_⟩
    cases behind with
    | nil => exact .inr rfl
    | cons row behind =>
      obtain ⟨mark, parts⟩ := row
      obtain rfl : mark = false := hbehind _ rfl
      have hstate := (opens_of_unmarked (hparts (false, parts) (by simp)) hback.1).1
      rw [List.flatMap_append, after_append,
        after_of_getLast (fun row hrow => hparts row (by simp [hrow])) hfirst hbefore] at hstate
      exact .inl hstate

theorem WholeBlocks.tail {row : Bool × List α} {rows : List (Bool × List α)}
    (h : scanner.WholeBlocks (row :: rows)) (hrow : row.1 = false) : scanner.WholeBlocks rows := by
  refine ⟨fun other hother => h.unmarked other (List.mem_cons_of_mem _ hother), ?_⟩
  rintro before stretch behind rfl hne hmarked hbefore hbehind
  refine h.tiled (row :: before) stretch behind rfl hne hmarked ?_ hbehind
  cases before with
  | nil =>
    intro other hother
    rw [List.getLast?_singleton, Option.mem_some_iff] at hother
    rw [← hother, hrow]
  | cons first before =>
    rw [List.getLast?_cons_cons]
    exact hbefore

/-- Rows behind a stretch that an unmarked row ends. -/
theorem WholeBlocks.behind {stretch rows : List (Bool × List α)}
    (h : scanner.WholeBlocks (stretch ++ rows)) (hrows : ∀ row ∈ rows.head?, row.1 = false) :
    scanner.WholeBlocks rows := by
  refine ⟨fun other hother => h.unmarked other (List.mem_append_right _ hother), ?_⟩
  rintro before run behind rfl hne hmarked hbefore hbehind
  refine h.tiled (stretch ++ before) run behind (by simp) hne hmarked ?_ hbehind
  cases before with
  | nil =>
    obtain ⟨first, run, rfl⟩ := List.exists_cons_of_ne_nil hne
    have hfirst := hrows first (by simp)
    rw [hmarked first List.mem_cons_self] at hfirst
    cases hfirst
  | cons first before =>
    rw [List.getLast?_append, List.getLast?_cons, Option.some_or, ← List.getLast?_cons]
    exact hbefore

theorem WholeBlocks.agrees (size : Nat) {rows : List (Bool × List α)} (hsize : rows.length ≤ size)
    (h : scanner.WholeBlocks rows) : scanner.Agrees none rows := by
  induction size generalizing rows with
  | zero =>
    obtain rfl := List.length_eq_zero_iff.mp (Nat.le_zero.mp hsize)
    trivial
  | succ size ih =>
    cases hrows : rows with
    | nil => trivial
    | cons row rest =>
      subst hrows
      cases hmark : row.1 with
      | false =>
        obtain ⟨mark, parts⟩ := row
        obtain rfl : mark = false := hmark
        obtain ⟨hmarks, hafter⟩ :=
          after_of_unmarked (h.unmarked (false, parts) List.mem_cons_self rfl)
        refine ⟨hmarks, ?_⟩
        rw [hafter]
        refine ih ?_ (h.tail rfl)
        rw [List.length_cons] at hsize
        omega
      | true =>
        -- the stretch of marked rows in front, and what an unmarked row starts behind it
        have hsplit := List.takeWhile_append_dropWhile (p := (·.1)) (l := row :: rest)
        generalize hstretch : (row :: rest).takeWhile (·.1) = stretch at hsplit
        generalize hbehind : (row :: rest).dropWhile (·.1) = behind at hsplit
        have hmarked : ∀ other ∈ stretch, other.1 = true := by
          intro other hother
          rw [← hstretch] at hother
          exact List.mem_takeWhile_imp hother
        have hhead : ∀ other ∈ behind.head?, other.1 = false := by
          intro other hother
          rw [← hbehind] at hother
          have hnot := List.head?_dropWhile_not (fun row : Bool × List α => row.1) (row :: rest)
          rw [Option.mem_def.mp hother] at hnot
          exact hnot
        have hne : stretch ≠ [] := by
          rw [← hstretch, List.takeWhile_cons, if_pos hmark]
          simp
        rw [← hsplit] at h hsize ⊢
        have htiled := (h.tiled [] stretch behind rfl hne hmarked (by simp) hhead).marked
        refine agrees_append.mpr ⟨(agrees_marked hmarked).mpr htiled.1, ?_⟩
        rcases htiled.2 with hafter | rfl
        · rw [hafter]
          refine ih ?_ (h.behind hhead)
          have hpos := List.length_pos_iff.mpr hne
          rw [List.length_append] at hsize
          omega
        · trivial

/-- Marks given beforehand are those of the scanner exactly when they mark whole blocks. -/
theorem agrees_iff {rows : List (Bool × List α)} (hparts : ∀ row ∈ rows, row.2 ≠ []) :
    scanner.Agrees none rows ↔ scanner.WholeBlocks rows :=
  ⟨WholeBlocks.of_agrees hparts, WholeBlocks.agrees _ le_rfl⟩

/-- Row by row, in the marks of the whole list. -/
theorem agrees_iff_getElem? {state : Option δ} {rows : List (Bool × List α)} :
    scanner.Agrees state rows ↔ ∀ i row, rows[i]? = some row → ∀ k < row.2.length,
      (scanner.marks state (rows.flatMap (·.2)))[((rows.take i).flatMap (·.2)).length + k]? =
        some row.1 := by
  induction rows generalizing state with
  | nil => simp [Agrees]
  | cons first rest ih =>
    obtain ⟨mark, parts⟩ := first
    have hlength : (scanner.marks state parts).length = parts.length := scanner.length_marks _ _
    rw [Agrees, ih, List.flatMap_cons, marks_append]
    constructor
    · rintro ⟨hfirst, hrest⟩ i row hrow k hk
      cases i with
      | zero =>
        obtain rfl : (mark, parts) = row := by simpa using hrow
        rw [List.take_zero, List.flatMap_nil, List.length_nil, Nat.zero_add,
          List.getElem?_append_left (by rw [hlength]; exact hk),
          List.getElem?_eq_getElem (by rw [hlength]; exact hk),
          hfirst _ (List.getElem_mem _)]
      | succ i =>
        have hat := hrest i row (by simpa using hrow) k hk
        rw [List.take_succ_cons, List.flatMap_cons, List.length_append, Nat.add_assoc,
          List.getElem?_append_right (by rw [length_marks]; omega), length_marks,
          Nat.add_sub_cancel_left]
        exact hat
    · intro h
      refine ⟨fun other hother => ?_, fun i row hrow k hk => ?_⟩
      · obtain ⟨k, hk, rfl⟩ := List.getElem_of_mem hother
        have hat := h 0 (mark, parts) rfl k (by rw [hlength] at hk; exact hk)
        rw [List.take_zero, List.flatMap_nil, List.length_nil, Nat.zero_add,
          List.getElem?_append_left hk, List.getElem?_eq_getElem hk, Option.some.injEq] at hat
        exact hat
      · have hat := h (i + 1) row (by simpa using hrow) k hk
        rw [List.take_succ_cons, List.flatMap_cons, List.length_append, Nat.add_assoc,
          List.getElem?_append_right (by rw [length_marks]; omega), length_marks,
          Nat.add_sub_cancel_left] at hat
        exact hat

end Scanner

end ConfigAuditor.Library
