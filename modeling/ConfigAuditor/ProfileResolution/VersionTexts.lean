import ConfigAuditor.Library.Splitting
import ConfigAuditor.ProfileResolution.Versions
import ConfigAuditor.Library.Numerals

/-!
# The texts of versions

The components of a version are runs of digits between dots. `VersionConstraint.parse` reads each
run as its positional value, so every version of readable components has a text, and only such
versions have one.
-/
namespace ConfigAuditor.ProfileResolution.VersionTexts

open Library Text PyFloat Regex

/-- The parts, each with a dot before it. -/
def dottedParts (parts : List (List Char)) : List Char := parts.flatMap ('.' :: ·)

theorem splitAll_dottedParts {part : List Char} {parts : List (List Char)} (h : '.' ∉ part)
    (hparts : ∀ part ∈ parts, '.' ∉ part) :
    splitAll '.' (part ++ dottedParts parts) = part :: parts := by
  induction parts generalizing part with
  | nil => rw [dottedParts, List.flatMap_nil, List.append_nil, splitAll_of_not_mem h]
  | cons next parts ih =>
    rw [List.forall_mem_cons] at hparts
    rw [dottedParts, List.flatMap_cons, List.cons_append, splitAll_append h]
    exact congrArg (part :: ·) (ih hparts.1 hparts.2)

theorem toList_join (part : String) (parts : List String) :
    (join "." (part :: parts)).toList = part.toList ++ dottedParts (parts.map String.toList) := by
  induction parts generalizing part with
  | nil => simp [join, dottedParts]
  | cons next parts ih =>
    have hnext := ih next
    unfold join at hnext ⊢
    rw [String.intercalate_cons_cons, String.toList_append, String.toList_append, hnext]
    simp [dottedParts]

/-- A run of digits. -/
def IsRun (part : List Char) : Prop := part ≠ [] ∧ ∀ c ∈ part, PyFloat.isDigit c = true

theorem isDigit_dot : PyFloat.isDigit '.' = false := by decide

theorem IsRun.dot_notMem {part : List Char} (h : IsRun part) : '.' ∉ part := by
  intro hdot
  have hdigit := h.2 '.' hdot
  rw [isDigit_dot] at hdigit
  cases hdigit

section Patterns

variable {isWord : Char → Bool} {k : Continuation} {P : Cursor → Prop}
  {groups : List (Nat × List Char)} {rest : List Char}

/-- `\d+` takes a whole run. -/
theorem run_digits {part : List Char} (hpart : IsRun part)
    (hrest : ∀ x ∈ rest.head?, PyFloat.isDigit x = false) (before : Option Char)
    (hk : ∀ before, ∃ found, k { before, rest, groups } = some found ∧ P found) :
    ∃ found, run isWord (plus digit) k { before, rest := part ++ rest, groups } = some found ∧
      P found := by
  obtain ⟨hne, hdigits⟩ := hpart
  cases part with
  | nil => exact absurd rfl hne
  | cons c part =>
    obtain ⟨found, hfound, hP⟩ := hk (part.getLast?.or (some c))
    refine ⟨found, ?_, hP⟩
    change (if PyFloat.isDigit c = true then
      upTo (run isWord digit) true k (part ++ rest).length.succ _ else none) = _
    rw [if_pos (hdigits c List.mem_cons_self)]
    apply upTo_run fun x hx => hdigits x (List.mem_cons_of_mem _ hx)
    · rw [List.length_append]
      omega
    · exact hrest
    · exact hfound

/-- `\.\d+`. -/
def dotted : Regex := .seq (.chars (· == '.')) (plus digit)

/-- `(?:\.\d+)*` takes all the parts. -/
theorem run_dottedParts {parts : List (List Char)} (hparts : ∀ part ∈ parts, IsRun part)
    (hrest : ∀ x ∈ rest.head?, PyFloat.isDigit x = false ∧ x ≠ '.') {n : Nat}
    (hn : parts.length ≤ n) (before : Option Char)
    (hk : ∀ before, ∃ found, k { before, rest, groups } = some found ∧ P found) :
    ∃ found, upTo (run isWord dotted) true k n
        { before, rest := dottedParts parts ++ rest, groups } = some found ∧ P found := by
  induction parts generalizing n before with
  | nil =>
    rw [upTo_none]
    · exact hk before
    · intro k'
      exact @run_chars_none isWord _ _ _ _ _ fun x hx => by simpa using (hrest x hx).2
  | cons part parts ih =>
    obtain ⟨m, rfl⟩ : ∃ m, n = m + 1 := ⟨n - 1, by simp at hn; omega⟩
    rw [List.forall_mem_cons] at hparts
    have hnext : ∀ x ∈ (dottedParts parts ++ rest).head?, PyFloat.isDigit x = false := by
      intro x hx
      cases parts with
      | nil => exact (hrest x hx).1
      | cons next parts =>
        obtain rfl : '.' = x := Option.some.inj hx
        exact isDigit_dot
    obtain ⟨found, hfound, hP⟩ := @run_digits isWord _ _ _ _ _ hparts.1 hnext (some '.')
      fun before => ih hparts.2 (Nat.le_of_succ_le_succ hn) before
    refine ⟨found, ?_, hP⟩
    have hbody : run isWord dotted (upTo (run isWord dotted) true k m)
        { before, rest := dottedParts (part :: parts) ++ rest, groups } = some found := by
      have htext : dottedParts (part :: parts) ++ rest =
          '.' :: (part ++ (dottedParts parts ++ rest)) := by
        simp [dottedParts]
      rw [htext]
      exact hfound
    simp only [upTo, if_true, hbody]

theorem length_le_dottedParts (parts : List (List Char)) :
    parts.length ≤ (dottedParts parts).length := by
  induction parts with
  | nil => exact Nat.le_refl 0
  | cons part parts ih =>
    have hcons : dottedParts (part :: parts) = '.' :: (part ++ dottedParts parts) := rfl
    rw [hcons, List.length_cons, List.length_cons, List.length_append]
    omega

theorem run_numericPattern {part : List Char} {parts : List (List Char)} (hpart : IsRun part)
    (hparts : ∀ part ∈ parts, IsRun part)
    (hrest : ∀ x ∈ rest.head?, PyFloat.isDigit x = false ∧ x ≠ '.') (before : Option Char)
    (hk : ∀ before, ∃ found, k { before, rest, groups } = some found ∧ P found) :
    ∃ found, run isWord VersionConstraint.numericPattern k
        { before, rest := part ++ (dottedParts parts ++ rest), groups } = some found ∧
      P found := by
  refine run_digits hpart ?_ before fun before => ?_
  · intro x hx
    cases parts with
    | nil => exact (hrest x hx).1
    | cons next parts =>
      obtain rfl : '.' = x := Option.some.inj hx
      exact isDigit_dot
  · apply run_dottedParts hparts hrest ?_ before hk
    have hlength := length_le_dottedParts parts
    simp only [Option.getD_none, List.length_append]
    omega

end Patterns

theorem fullMatch_parts {part : List Char} {parts : List (List Char)} (hpart : IsRun part)
    (hparts : ∀ part ∈ parts, IsRun part) :
    fullMatch VersionConstraint.noWords VersionConstraint.versionPattern
      (part ++ dottedParts parts) = true := by
  obtain ⟨found, hfound, -⟩ := @run_numericPattern VersionConstraint.noWords
    (run VersionConstraint.noWords (star (.chars fun c =>
      Text.isAsciiAlnum c || c == '.' || c == '-')) (run VersionConstraint.noWords .textEnd some))
    (fun _ => True) [] [] _ _ hpart hparts nofun none fun before => ⟨_, rfl, trivial⟩
  rw [List.append_nil] at hfound
  unfold fullMatch
  exact Option.isSome_iff_exists.mpr ⟨found, hfound⟩

theorem numericPart_parts {part : List Char} {parts : List (List Char)} (hpart : IsRun part)
    (hparts : ∀ part ∈ parts, IsRun part) :
    VersionConstraint.numericPart (part ++ dottedParts parts) = part ++ dottedParts parts := by
  have htaken : List.take ((part ++ dottedParts parts).length - 0) (part ++ dottedParts parts) =
      part ++ dottedParts parts := by
    rw [Nat.sub_zero, List.take_length]
  obtain ⟨found, hfound, hgroup⟩ := @run_numericPattern VersionConstraint.noWords
    (fun d => some { d with
      groups := (1, between { rest := part ++ dottedParts parts } d) :: d.groups })
    (fun found => found.group? 1 = some (part ++ dottedParts parts)) [] [] _ _ hpart hparts nofun none fun before => ⟨_, rfl, congrArg some htaken⟩
  rw [List.append_nil] at hfound
  have hmatch : matchStart VersionConstraint.noWords (.group 1 VersionConstraint.numericPattern)
      (part ++ dottedParts parts) = some found := hfound
  unfold VersionConstraint.numericPart
  rw [hmatch, Option.bind_some, hgroup]
  rfl

/-- The number that a run of digits spells. -/
def value (part : List Char) : Nat := (digitsValue part).getD 0

theorem intOfText_run {part : List Char} (h : IsRun part)
    (hlength : part.length ≤ PyValue.maxStrDigits) :
    PyValue.intOfText (String.ofList part) = .ok (value part : Int) := by
  obtain ⟨n, hn⟩ := Numerals.digitsValue_isSome h.2
  rw [Numerals.intOfText_digits h.2 h.1 hn, if_pos hlength, value, hn]
  rfl

/-- Runs of digits that `int` reads are read one by one. -/
theorem parse_parts {part : List Char} {parts : List (List Char)}
    (hruns : ∀ item ∈ part :: parts, IsRun item ∧ item.length ≤ PyValue.maxStrDigits) :
    VersionConstraint.parse (String.ofList (part ++ dottedParts parts)) =
      .ok (some ((part :: parts).map value)) := by
  have hpart : IsRun part := (hruns part List.mem_cons_self).1
  have hparts : ∀ part ∈ parts, IsRun part := fun part hmem =>
    (hruns part (List.mem_cons_of_mem _ hmem)).1
  have hempty : (String.ofList (part ++ dottedParts parts)).isEmpty = false := by
    simp [hpart.1]
  have hsplit : splitAll '.' (part ++ dottedParts parts) = part :: parts :=
    splitAll_dottedParts hpart.dot_notMem fun part hmem => (hparts part hmem).dot_notMem
  have hread : (part :: parts).mapM (fun item =>
      (PyValue.intOfText (String.ofList item)).mapError Error.python) =
      .ok ((part :: parts).map fun item => (value item : Int)) := by
    apply mapM_eq_ok_map
    intro item hitem
    rw [intOfText_run (hruns item hitem).1 (hruns item hitem).2]
    rfl
  unfold VersionConstraint.parse
  rw [String.toList_ofList, fullMatch_parts hpart hparts, hempty, numericPart_parts hpart hparts,
    hsplit, hread]
  simp [bind, Except.bind]

/-- A component that `int` reads. -/
def Readable (component : Nat) : Prop := component < 10 ^ PyValue.maxStrDigits

theorem value_toDigits (n : Nat) : value (Nat.toDigits 10 n) = n := by
  rw [value, digitsValue_toDigits]
  rfl

theorem isRun_toDigits (n : Nat) : IsRun (Nat.toDigits 10 n) :=
  ⟨Nat.toDigits_ne_nil, fun c hc =>
    Numerals.isDigit_of_isAsciiDigit (List.all_eq_true.mp (toDigits_all_digits n) c hc)⟩

/-- A version of readable components is written as a text that is read as the version. -/
theorem parse_normalized {version : List Nat} (hne : version ≠ [])
    (hreadable : ∀ component ∈ version, Readable component) :
    VersionConstraint.parse (VersionConstraint.normalized version) = .ok (some version) := by
  cases version with
  | nil => exact absurd rfl hne
  | cons first rest =>
    have htext : VersionConstraint.normalized (first :: rest) =
        String.ofList (Nat.toDigits 10 first ++ dottedParts (rest.map (Nat.toDigits 10))) := by
      apply String.toList_inj.mp
      rw [VersionConstraint.normalized, List.map_cons, toList_join, String.toList_ofList,
        List.map_map, toString_toList]
      simp [Function.comp_def]
    have hruns : ∀ item ∈ Nat.toDigits 10 first :: rest.map (Nat.toDigits 10),
        IsRun item ∧ item.length ≤ PyValue.maxStrDigits := by
      rw [← List.map_cons, List.forall_mem_map]
      intro component hcomponent
      refine ⟨isRun_toDigits component, ?_⟩
      exact (Nat.length_toDigits_le_iff (by omega) (by decide)).mpr (hreadable component hcomponent)
    have hvalues : (first :: rest).map (fun component => value (Nat.toDigits 10 component)) =
        first :: rest := by
      simp only [value_toDigits, List.map_id']
    rw [htext, parse_parts hruns, ← List.map_cons, List.map_map]
    exact congrArg (fun values => Except.ok (some values)) hvalues

theorem digitValue_lt {c : Char} {d : Nat} (h : digitValue c = some d) : d < 10 := by
  unfold digitValue at h
  obtain ⟨z, hz, rfl⟩ := Option.map_eq_some_iff.mp h
  have hbounds := List.find?_some hz
  simp only [Bool.and_eq_true, decide_eq_true_eq] at hbounds
  omega

theorem digitsValue_lt {cs : List Char} {n : Nat} (h : digitsValue cs = some n) :
    n < 10 ^ cs.length := by
  induction cs using List.reverseRecOn generalizing n with
  | nil =>
    obtain rfl : 0 = n := Option.some.inj h
    exact Nat.one_pos
  | append_singleton cs c ih =>
    rw [digitsValue_append_one, Option.bind_eq_some_iff] at h
    obtain ⟨v, hv, h⟩ := h
    obtain ⟨d, hd, rfl⟩ := Option.map_eq_some_iff.mp h
    have hdigit := digitValue_lt hd
    have hfront := ih hv
    rw [List.length_append, List.length_singleton, Nat.pow_succ]
    omega

theorem intOfText_readable {text : String} {n : Int} (h : PyValue.intOfText text = .ok n) :
    Readable n.toNat := by
  unfold PyValue.intOfText at h
  dsimp only at h
  split at h
  · next ds _ =>
    split at h
    · next hlength =>
      split at h
      · next v hv =>
        have hlt : v < 10 ^ PyValue.maxStrDigits :=
          (digitsValue_lt hv).trans_le (Nat.pow_le_pow_right (by omega) hlength)
        have hle : n.toNat ≤ v := by
          rw [← Except.ok.inj h]
          split <;> omega
        exact hle.trans_lt hlt
      · cases h
    · cases h
  · cases h

/-- Only readable components are read. -/
theorem parse_readable {text : String} {version : List Nat}
    (h : VersionConstraint.parse text = .ok (some version)) :
    version ≠ [] ∧ ∀ component ∈ version, Readable component := by
  unfold VersionConstraint.parse at h
  split at h
  · cases h
  · simp only [except_bind_eq_ok, except_pure_eq_ok] at h
    obtain ⟨numbers, hnumbers, h⟩ := h
    obtain rfl : numbers.map Int.toNat = version := Option.some.inj h
    have hread := mapM_eq_ok.mp hnumbers
    refine ⟨fun hnil => ?_, ?_⟩
    · rw [List.map_eq_nil_iff] at hnil
      rw [hnil, List.forall₂_nil_right_iff] at hread
      exact splitAll_ne_nil _ _ hread
    · rw [List.forall_mem_map]
      intro n hn
      obtain ⟨item, -, hitem⟩ := mapM_exists_input hnumbers hn
      cases hint : PyValue.intOfText (String.ofList item) with
      | error e =>
        rw [hint] at hitem
        cases hitem
      | ok n' =>
        rw [hint] at hitem
        rw [← Except.ok.inj hitem]
        exact intOfText_readable hint

theorem takes_digit {l : List Char} (h : Takes digit l) :
    ∃ c, l = [c] ∧ PyFloat.isDigit c = true := by
  cases h with
  | chars hx => exact ⟨_, rfl, hx⟩

theorem takes_digits {l : List Char} (h : Takes (plus digit) l) : IsRun l := by
  cases h with
  | repeated hparts hleast =>
    rename_i parts
    refine ⟨fun hnil => ?_, fun c hc => ?_⟩
    · cases parts with
      | nil => cases hleast
      | cons part parts =>
        obtain ⟨c, rfl, -⟩ := takes_digit (hparts _ List.mem_cons_self)
        cases hnil
    · obtain ⟨part, hpart, hc⟩ := List.mem_flatten.mp hc
      obtain ⟨d, rfl, hd⟩ := takes_digit (hparts part hpart)
      obtain rfl := List.mem_singleton.mp hc
      exact hd

theorem takes_dotted {l : List Char} (h : Takes dotted l) : ∃ part, l = '.' :: part ∧ IsRun part := by
  cases h with
  | seq hdot hdigits =>
    cases hdot with
    | chars hx => exact ⟨_, congrArg (· :: _) (beq_iff_eq.mp hx), takes_digits hdigits⟩

theorem flatten_dotted {turns : List (List Char)} (h : ∀ turn ∈ turns, Takes dotted turn) :
    ∃ parts, turns.flatten = dottedParts parts ∧ ∀ part ∈ parts, IsRun part := by
  induction turns with
  | nil => exact ⟨[], rfl, by simp⟩
  | cons turn turns ih =>
    obtain ⟨part, rfl, hpart⟩ := takes_dotted (h turn List.mem_cons_self)
    obtain ⟨parts, hparts, hruns⟩ := ih fun turn hturn => h turn (List.mem_cons_of_mem _ hturn)
    refine ⟨part :: parts, ?_, List.forall_mem_cons.mpr ⟨hpart, hruns⟩⟩
    rw [List.flatten_cons, hparts]
    rfl

/-- The numeric part of a version is made of runs of digits between dots. -/
theorem takes_numericPattern {l : List Char} (h : Takes VersionConstraint.numericPattern l) :
    ∃ part parts, l = part ++ dottedParts parts ∧ ∀ item ∈ part :: parts, IsRun item := by
  cases h with
  | seq hfirst hrest =>
    cases hrest with
    | repeated hturns =>
      obtain ⟨parts, hparts, hruns⟩ := flatten_dotted hturns
      refine ⟨_, parts, congrArg _ hparts, List.forall_mem_cons.mpr ⟨takes_digits hfirst, hruns⟩⟩

/-- A text that matches the pattern of versions starts with a numeric part. -/
theorem numericPart_of_fullMatch {text : List Char}
    (h : fullMatch VersionConstraint.noWords VersionConstraint.versionPattern text = true) :
    ∃ part parts rest, VersionConstraint.numericPart text = part ++ dottedParts parts ∧
      text = part ++ dottedParts parts ++ rest ∧ ∀ item ∈ part :: parts, IsRun item := by
  have hstart : (matchStart VersionConstraint.noWords
      (.group 1 VersionConstraint.numericPattern) text).isSome = true :=
    run_mono VersionConstraint.numericPattern _ _ _ (fun d _ => rfl) h
  obtain ⟨found, hfound⟩ := Option.isSome_iff_exists.mp hstart
  obtain ⟨l, rest, htext, htakes, hgroup⟩ := group_matchStart hfound
  obtain ⟨part, parts, rfl, hruns⟩ := takes_numericPattern htakes
  refine ⟨part, parts, rest, ?_, htext, hruns⟩
  rw [VersionConstraint.numericPart, hfound, Option.bind_some, hgroup]
  rfl

theorem length_le_parts {part : List Char} {parts : List (List Char)} {item : List Char}
    (h : item ∈ part :: parts) : item.length ≤ (part ++ dottedParts parts).length := by
  rw [List.length_append]
  rcases List.mem_cons.mp h with rfl | h
  · omega
  · obtain ⟨front, back, rfl⟩ := List.append_of_mem h
    have hparts : dottedParts (front ++ item :: back) =
        dottedParts front ++ '.' :: (item ++ dottedParts back) := by
      simp [dottedParts]
    rw [hparts, List.length_append, List.length_cons, List.length_append]
    omega

/-- A version with a number of more digits than `int` reads. -/
def TooLong (text : String) : Prop :=
  text.isEmpty = false ∧
    fullMatch VersionConstraint.noWords VersionConstraint.versionPattern text.toList = true ∧
    ∃ item ∈ splitAll '.' (VersionConstraint.numericPart text.toList),
      PyValue.maxStrDigits < item.length

/-- The parts of a text that matches. -/
theorem splitAll_numericPart {text : List Char}
    (h : fullMatch VersionConstraint.noWords VersionConstraint.versionPattern text = true) :
    ∃ part parts rest, splitAll '.' (VersionConstraint.numericPart text) = part :: parts ∧
      text = part ++ dottedParts parts ++ rest ∧ ∀ item ∈ part :: parts, IsRun item := by
  obtain ⟨part, parts, rest, hpart, htext, hruns⟩ := numericPart_of_fullMatch h
  refine ⟨part, parts, rest, ?_, htext, hruns⟩
  rw [hpart]
  exact splitAll_dottedParts (hruns part List.mem_cons_self).dot_notMem
    fun item hitem => (hruns item (List.mem_cons_of_mem _ hitem)).dot_notMem

/-- A version that is too long is a long text. -/
theorem TooLong.length {text : String} (h : TooLong text) :
    PyValue.maxStrDigits < text.length := by
  obtain ⟨-, hmatch, item, hitem, hlong⟩ := h
  obtain ⟨part, parts, rest, hitems, htext, -⟩ := splitAll_numericPart hmatch
  rw [hitems] at hitem
  have hle := length_le_parts hitem
  have htotal : text.length = (part ++ dottedParts parts ++ rest).length := by
    rw [← htext, String.length_toList]
  rw [List.length_append] at htotal
  omega

theorem intOfText_of_run {item : List Char} (h : IsRun item) :
    (∃ n, PyValue.intOfText (String.ofList item) = .ok n) ↔
      item.length ≤ PyValue.maxStrDigits := by
  obtain ⟨n, hn⟩ := Numerals.digitsValue_isSome h.2
  rw [Numerals.intOfText_digits h.2 h.1 hn]
  split <;> simp_all

/-- A version is read, or is none, when no number of it is too long. -/
theorem parse_ok_iff {text : String} :
    (∃ parsed, VersionConstraint.parse text = .ok parsed) ↔ ¬ TooLong text := by
  unfold VersionConstraint.parse
  by_cases hfits : text.isEmpty = false ∧
      fullMatch VersionConstraint.noWords VersionConstraint.versionPattern text.toList = true
  · obtain ⟨hempty, hmatch⟩ := hfits
    obtain ⟨part, parts, rest, hitems, -, hruns⟩ := splitAll_numericPart hmatch
    rw [hempty, hmatch, if_neg (by simp), TooLong, hitems]
    simp only [except_bind_eq_ok, except_pure_eq_ok, hempty, hmatch, true_and, not_exists, not_and,
      Nat.not_lt]
    constructor
    · rintro ⟨parsed, numbers, hnumbers, -⟩ item hitem
      obtain ⟨n, -, hn⟩ := mapM_exists_output hnumbers hitem
      apply (intOfText_of_run (hruns item hitem)).mp
      cases hint : PyValue.intOfText (String.ofList item) with
      | error e =>
        rw [hint] at hn
        cases hn
      | ok n => exact ⟨n, rfl⟩
    · intro hshort
      refine ⟨_, _, mapM_eq_ok_map (g := fun item => (value item : Int)) fun item hitem => ?_, rfl⟩
      rw [intOfText_run (hruns item hitem) (hshort item hitem)]
      rfl
  · rw [if_pos]
    · exact iff_of_true ⟨none, rfl⟩ fun h => hfits ⟨h.1, h.2.1⟩
    · cases hempty : text.isEmpty <;> simp_all

end ConfigAuditor.ProfileResolution.VersionTexts
