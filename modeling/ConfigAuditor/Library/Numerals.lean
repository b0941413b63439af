import Mathlib.Data.List.Induction
import ConfigAuditor.Library.Value

/-!
# Reading decimal numerals back

A nonempty run of digits is read as its positional value, so the text that is
printed for a natural number is read back as that number.
-/
namespace ConfigAuditor.Library.Numerals

open Text PyFloat PyValue

theorem isDigit_iff {c : Char} : isDigit c = true ↔ ∃ z ∈ zeroDigits, ∃ i < 10, c.toNat = z + i := by
  unfold isDigit digitValue
  rw [Option.isSome_map, List.find?_isSome]
  simp only [Bool.and_eq_true, decide_eq_true_eq]
  constructor
  · rintro ⟨z, hz, hle, hlt⟩
    exact ⟨z, hz, c.toNat - z, by omega, by omega⟩
  · rintro ⟨z, hz, i, hi, he⟩
    exact ⟨z, hz, by omega, by omega⟩

/-- The codes of digits are neither white space, a sign, a dash nor an underscore. -/
theorem digit_code_separate : ∀ z ∈ zeroDigits, ∀ i < 10,
    isSpaceCode (z + i) = false ∧ z + i ≠ 43 ∧ z + i ≠ 45 ∧ z + i ≠ 95 := by
  decide

theorem isSpace_of_isDigit {c : Char} (h : isDigit c = true) : isSpace c = false := by
  obtain ⟨z, hz, i, hi, he⟩ := isDigit_iff.mp h
  rw [isSpace, he]
  exact (digit_code_separate z hz i hi).1

theorem ne_dash_of_isDigit {c : Char} (h : isDigit c = true) : c ≠ '-' := by
  obtain ⟨z, hz, i, hi, he⟩ := isDigit_iff.mp h
  rintro rfl
  exact (digit_code_separate z hz i hi).2.2.1 he.symm

theorem ne_plus_of_isDigit {c : Char} (h : isDigit c = true) : c ≠ '+' := by
  obtain ⟨z, hz, i, hi, he⟩ := isDigit_iff.mp h
  rintro rfl
  exact (digit_code_separate z hz i hi).2.1 he.symm

theorem isDigit_of_isAsciiDigit {c : Char} (h : isAsciiDigit c = true) : isDigit c = true := by
  simp only [isAsciiDigit, Bool.and_eq_true, decide_eq_true_eq] at h
  exact isDigit_iff.mpr ⟨0x30, by decide, c.toNat - 48, by omega, by omega⟩

theorem digitTail_of_digits {cs : List Char} (h : ∀ c ∈ cs, isDigit c = true) :
    digitTail cs = (cs, []) := by
  induction cs with
  | nil => rfl
  | cons c cs ih =>
    have hc := h c (by simp)
    cases cs with
    | nil => simp [digitTail, hc]
    | cons d rest =>
      have hrest := ih fun e he => h e (by simp [he])
      simp [digitTail, hc, hrest]

theorem digitRun_of_digits {cs : List Char} (h : ∀ c ∈ cs, isDigit c = true) (hne : cs ≠ []) :
    digitRun cs = some (cs, []) := by
  cases cs with
  | nil => exact absurd rfl hne
  | cons c cs =>
    have hc := h c (by simp)
    have htail : digitTail cs = (cs, []) := digitTail_of_digits fun d hd => h d (by simp [hd])
    simp [digitRun, hc, htail]

theorem stripList_of_none {drop : Char → Bool} {cs : List Char} (h : ∀ c ∈ cs, drop c = false) :
    stripList drop cs = cs := by
  have hdrop : ∀ l : List Char, (∀ c ∈ l, drop c = false) → l.dropWhile drop = l := by
    intro l hl
    cases l with
    | nil => rfl
    | cons c cs => rw [List.dropWhile_cons_of_neg (by simpa using hl c (by simp))]
  rw [stripList, hdrop cs h, hdrop cs.reverse (by simpa using h), List.reverse_reverse]

theorem splitSign_of_digits {cs : List Char} (h : ∀ c ∈ cs, isDigit c = true) :
    splitSign cs = (false, cs) := by
  cases cs with
  | nil => rfl
  | cons c cs =>
    have hminus := ne_dash_of_isDigit (h c (by simp))
    have hplus := ne_plus_of_isDigit (h c (by simp))
    unfold splitSign
    split
    · rename_i he; simp only [List.cons.injEq] at he; exact absurd he.1 hminus
    · rename_i he; simp only [List.cons.injEq] at he; exact absurd he.1 hplus
    · rfl

/-- Digits always have a positional value. -/
theorem digitsValue_isSome {cs : List Char} (h : ∀ c ∈ cs, isDigit c = true) :
    ∃ n, digitsValue cs = some n := by
  induction cs using List.reverseRecOn with
  | nil => exact ⟨0, rfl⟩
  | append_singleton cs c ih =>
    obtain ⟨n, hn⟩ := ih fun d hd => h d (by simp [hd])
    obtain ⟨d, hd⟩ := Option.isSome_iff_exists.mp (h c (by simp))
    exact ⟨10 * n + d, by rw [digitsValue_append_one, hn, hd]; rfl⟩

/-- `int` of a digit run is its positional value, up to the length limit. -/
theorem intOfText_digits {cs : List Char} (h : ∀ c ∈ cs, isDigit c = true) (hne : cs ≠ [])
    {n : Nat} (hn : digitsValue cs = some n) :
    intOfText (String.ofList cs) =
      if cs.length ≤ maxStrDigits then .ok (n : Int) else .error .valueError := by
  have hstrip : stripList isSpace cs = cs :=
    stripList_of_none fun c hc => isSpace_of_isDigit (h c hc)
  unfold intOfText
  rw [String.toList_ofList, hstrip, splitSign_of_digits h]
  simp [digitRun_of_digits h hne, hn]

/-- The printed form of a natural number is read back as that number. -/
theorem intOfText_toDigits (n : Nat) (hn : (Nat.toDigits 10 n).length ≤ maxStrDigits) :
    intOfText (String.ofList (Nat.toDigits 10 n)) = .ok (n : Int) := by
  have hall : ∀ c ∈ Nat.toDigits 10 n, isDigit c = true := fun c hc =>
    isDigit_of_isAsciiDigit (List.all_eq_true.mp (toDigits_all_digits n) c hc)
  rw [intOfText_digits hall Nat.toDigits_ne_nil (digitsValue_toDigits n), if_pos hn]

end ConfigAuditor.Library.Numerals
