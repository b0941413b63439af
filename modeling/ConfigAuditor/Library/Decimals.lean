import Mathlib.Algebra.Order.Field.Power
import Mathlib.Tactic.Linarith
import Mathlib.Tactic.Positivity
import Mathlib.Tactic.FieldSimp
import ConfigAuditor.Library.Numerals

/-!
# Decimal numerals and the floats nearest to them

A plain numeral is a sign, decimal digits with an optional point, and an optional
exponent. `int` and `float` read more than that: underscores between digits, the
words for infinity and NaN. On a plain numeral they give its value, `float` up to
rounding; the cap on the exponent in `readDecimal` is not seen after rounding.
-/
namespace ConfigAuditor.Library.Decimals

open Text PyFloat

def plainExponent : List Char → Option Int
  | [] => some 0
  | c :: cs =>
    if c == 'e' || c == 'E' then
      let (negative, rest) := splitSign cs
      if rest.isEmpty then none
      else (digitsValue rest).map fun (n : Nat) => if negative then -(n : Int) else (n : Int)
    else none

/-- The digits behind a point, and what follows them. -/
def fraction : List Char → List Char × List Char
  | '.' :: rest => (rest.takeWhile isDigit, rest.dropWhile isDigit)
  | rest => ([], rest)

/-- The value of an unsigned plain numeral. -/
def plainDecimal (cs : List Char) : Option Rat :=
  let whole := cs.takeWhile isDigit
  let (frac, rest) := fraction (cs.dropWhile isDigit)
  if whole.isEmpty && frac.isEmpty then none
  else match plainExponent rest, digitsValue (whole ++ frac) with
    | some e, some m => some ((m : Rat) * tenPow e * tenPow (-(frac.length : Int)))
    | _, _ => none

/-- The number a text denotes as a plain numeral, with blanks around it. -/
def numeral? (s : String) : Option Rat :=
  let (negative, cs) := splitSign (stripList isSpace s.toList)
  (plainDecimal cs).map fun q => if negative then -q else q

theorem digitTail_plain {cs : List Char} (h : '_' ∉ cs) :
    digitTail cs = (cs.takeWhile isDigit, cs.dropWhile isDigit) := by
  induction cs using digitTail.induct with
  | case1 => rfl
  | case2 c hc => simp [digitTail, hc]
  | case3 c hc => simp [digitTail, hc]
  | case4 c d rest hc ih =>
    have hrest : '_' ∉ d :: rest := fun hmem => h (List.mem_cons_of_mem _ hmem)
    rw [digitTail, if_pos hc, ih hrest, List.takeWhile_cons_of_pos hc,
      List.dropWhile_cons_of_pos hc]
  | case5 c d rest hc hunderscore ih =>
    rw [Bool.and_eq_true, beq_iff_eq] at hunderscore
    rw [hunderscore.1] at h
    exact absurd List.mem_cons_self h
  | case6 c d rest hc hunderscore =>
    rw [digitTail, if_neg hc, if_neg hunderscore, List.takeWhile_cons_of_neg hc,
      List.dropWhile_cons_of_neg hc]

theorem digitRun_plain {cs : List Char} (h : '_' ∉ cs) :
    digitRun cs = if (cs.takeWhile isDigit).isEmpty then none
      else some (cs.takeWhile isDigit, cs.dropWhile isDigit) := by
  cases cs with
  | nil => rfl
  | cons c cs =>
    have htail : '_' ∉ cs := fun hmem => h (List.mem_cons_of_mem _ hmem)
    by_cases hc : isDigit c = true
    · simp [digitRun, hc, digitTail_plain htail]
    · simp [digitRun, hc]

theorem optionalRun_plain {cs : List Char} (h : '_' ∉ cs) :
    optionalRun cs = (cs.takeWhile isDigit, cs.dropWhile isDigit) := by
  rw [optionalRun, digitRun_plain h]
  split
  · rename_i hempty
    rw [List.isEmpty_iff] at hempty
    have hsplit := List.takeWhile_append_dropWhile (p := isDigit) (l := cs)
    rw [hempty, List.nil_append] at hsplit
    rw [hempty, hsplit]
    rfl
  · rfl

theorem all_of_digitsValue {cs : List Char} {n : Nat} (h : digitsValue cs = some n) :
    ∀ c ∈ cs, isDigit c = true := by
  induction cs using List.reverseRecOn generalizing n with
  | nil => simp
  | append_singleton cs c ih =>
    rw [digitsValue_append_one, Option.bind_eq_some_iff] at h
    obtain ⟨v, hv, hd⟩ := h
    obtain ⟨d, hd, -⟩ := Option.map_eq_some_iff.mp hd
    intro c' hc'
    rw [List.mem_append, List.mem_singleton] at hc'
    obtain hc' | rfl := hc'
    · exact ih hv c' hc'
    · rw [isDigit, hd]
      rfl

theorem digitsValue_lt {cs : List Char} {n : Nat} (h : digitsValue cs = some n) :
    n < 10 ^ cs.length := by
  induction cs using List.reverseRecOn generalizing n with
  | nil =>
    obtain rfl := Option.some.inj h
    exact Nat.one_pos
  | append_singleton cs c ih =>
    rw [digitsValue_append_one, Option.bind_eq_some_iff] at h
    obtain ⟨v, hv, hd⟩ := h
    obtain ⟨d, hvalue, rfl⟩ := Option.map_eq_some_iff.mp hd
    have hten : d < 10 := by
      obtain ⟨z, hz, rfl⟩ := Option.map_eq_some_iff.mp hvalue
      have hfound := List.find?_some hz
      simp only [Bool.and_eq_true, decide_eq_true_eq] at hfound
      omega
    have hlt := ih hv
    rw [List.length_append, List.length_singleton, Nat.pow_succ]
    omega

theorem mem_splitSign {c : Char} {cs : List Char} (hminus : c ≠ '-') (hplus : c ≠ '+') :
    c ∈ (splitSign cs).2 ↔ c ∈ cs := by
  unfold splitSign
  split
  · simp [hminus]
  · simp [hplus]
  · rfl

theorem readExponent_plain {cs : List Char} (h : '_' ∉ cs) :
    readExponent cs = plainExponent cs := by
  cases cs with
  | nil => rfl
  | cons c cs =>
    have hsign : '_' ∉ (splitSign cs).2 := by
      rw [mem_splitSign (by decide) (by decide)]
      exact fun hmem => h (List.mem_cons_of_mem _ hmem)
    rw [readExponent, plainExponent]
    generalize splitSign cs = signed at hsign
    obtain ⟨negative, rest⟩ := signed
    dsimp only at hsign ⊢
    split
    · rw [digitRun_plain hsign]
      by_cases hall : ∀ d ∈ rest, isDigit d = true
      · rw [List.takeWhile_eq_self_iff.mpr hall, List.dropWhile_eq_nil_iff.mpr hall]
        cases rest with
        | nil => rfl
        | cons d rest =>
          obtain ⟨n, hn⟩ := Numerals.digitsValue_isSome hall
          simp [hn]
      · have hvalue : digitsValue rest = none := by
          cases hsome : digitsValue rest with
          | none => rfl
          | some n => exact absurd (all_of_digitsValue hsome) hall
        have hdrop : rest.dropWhile isDigit ≠ [] := fun hnil =>
          hall (List.dropWhile_eq_nil_iff.mp hnil)
        rw [hvalue]
        split
        · rename_i heq
          split at heq
          · cases heq
          · simp only [Option.some.injEq, Prod.mk.injEq] at heq
            exact absurd heq.2 hdrop
        · simp
    · rfl

theorem not_underscore_of_isDigit {c : Char} (h : isDigit c = true) : c ≠ '_' := by
  obtain ⟨z, hz, i, hi, he⟩ := Numerals.isDigit_iff.mp h
  rintro rfl
  exact (Numerals.digit_code_separate z hz i hi).2.2.2 he.symm

theorem plainExponent_free {cs : List Char} {e : Int} (h : plainExponent cs = some e) :
    '_' ∉ cs := by
  cases cs with
  | nil => simp
  | cons c cs =>
    rw [plainExponent] at h
    split at h
    · rename_i hletter
      have hsign := @mem_splitSign '_' cs (by decide) (by decide)
      generalize splitSign cs = signed at h hsign
      obtain ⟨negative, rest⟩ := signed
      dsimp only at h hsign
      split at h
      · cases h
      · obtain ⟨n, hn, -⟩ := Option.map_eq_some_iff.mp h
        rw [List.mem_cons, not_or, ← hsign]
        refine ⟨?_, fun hmem => not_underscore_of_isDigit (all_of_digitsValue hn _ hmem) rfl⟩
        rintro rfl
        exact absurd hletter (by decide)
    · cases h

theorem mem_fraction {c : Char} {cs : List Char} (hc : c ≠ '.') :
    c ∈ cs ↔ c ∈ (fraction cs).1 ∨ c ∈ (fraction cs).2 := by
  unfold fraction
  split
  · rename_i rest
    rw [List.mem_cons, or_iff_right hc, ← List.mem_append, List.takeWhile_append_dropWhile]
  · simp

/-- The parts of a plain numeral. -/
theorem plainDecimal_eq_some {cs : List Char} {q : Rat} :
    plainDecimal cs = some q ↔ ∃ e m,
      (cs.takeWhile isDigit ++ (fraction (cs.dropWhile isDigit)).1 ≠ []) ∧
      plainExponent (fraction (cs.dropWhile isDigit)).2 = some e ∧
      digitsValue (cs.takeWhile isDigit ++ (fraction (cs.dropWhile isDigit)).1) = some m ∧
      q = (m : Rat) * tenPow e * tenPow (-((fraction (cs.dropWhile isDigit)).1.length : Int)) := by
  unfold plainDecimal
  dsimp only
  generalize cs.takeWhile isDigit = whole
  generalize fraction (cs.dropWhile isDigit) = parts
  obtain ⟨frac, rest⟩ := parts
  dsimp only
  have hne : whole ++ frac ≠ [] ↔ ¬ (whole.isEmpty && frac.isEmpty) = true := by simp
  rw [hne]
  by_cases hempty : (whole.isEmpty && frac.isEmpty) = true
  · simp [hempty]
  · rw [if_neg hempty]
    cases plainExponent rest with
    | none => simp
    | some e =>
      cases digitsValue (whole ++ frac) with
      | none => simp
      | some m => simp [hempty, eq_comm]

theorem plainDecimal_free {cs : List Char} {q : Rat} (h : plainDecimal cs = some q) :
    '_' ∉ cs := by
  obtain ⟨e, m, -, he, hm, -⟩ := plainDecimal_eq_some.mp h
  intro hmem
  have hrest := @mem_fraction '_' (cs.dropWhile isDigit) (by decide)
  rw [← List.takeWhile_append_dropWhile (p := isDigit) (l := cs), List.mem_append, hrest,
    ← or_assoc, ← List.mem_append] at hmem
  obtain hdigit | hrest := hmem
  · exact not_underscore_of_isDigit (all_of_digitsValue hm _ hdigit) rfl
  · exact plainExponent_free he hrest

/-- Stripping and the sign take no underscore away. -/
theorem mem_stripped {s : String} :
    '_' ∈ (splitSign (stripList isSpace s.toList)).2 ↔ '_' ∈ s.toList := by
  have hfilter := filter_stripList isSpace s.toList
  rw [mem_splitSign (by decide) (by decide)]
  have hkeep : ∀ cs : List Char, '_' ∈ cs.filter (!isSpace ·) ↔ '_' ∈ cs := fun cs => by
    rw [List.mem_filter, and_iff_left (by decide)]
  rw [← hkeep, hfilter, hkeep]

/-- A plain numeral has no underscore. -/
theorem numeral_free {s : String} {q : Rat} (h : numeral? s = some q) : '_' ∉ s.toList := by
  rw [← mem_stripped]
  unfold numeral? at h
  obtain ⟨q, hq, -⟩ := Option.map_eq_some_iff.mp h
  exact plainDecimal_free hq

theorem tenPow_zero : tenPow 0 = 1 := rfl

theorem fraction_nil : fraction [] = ([], []) := rfl

/-- `int` reads a text without underscores as the number it denotes. -/
theorem numeral_of_intOfText {s : String} {i : Int} (h : PyValue.intOfText s = .ok i)
    (hfree : '_' ∉ s.toList) : numeral? s = some (i : Rat) := by
  rw [← mem_stripped] at hfree
  unfold PyValue.intOfText at h
  unfold numeral?
  generalize splitSign (stripList isSpace s.toList) = signed at h hfree
  obtain ⟨negative, cs⟩ := signed
  dsimp only at h hfree ⊢
  rw [digitRun_plain hfree] at h
  split at h
  · rename_i ds heq
    split at heq
    · cases heq
    · rename_i hempty
      simp only [Option.some.injEq, Prod.mk.injEq] at heq
      obtain ⟨rfl, hdrop⟩ := heq
      split at h
      · split at h
        · rename_i n hn
          have hvalue : plainDecimal cs = some (n : Rat) := by
            refine plainDecimal_eq_some.mpr ⟨0, n, ?_⟩
            rw [hdrop]
            refine ⟨fun hnil => hempty ?_, rfl, ?_, ?_⟩
            · rw [List.append_eq_nil_iff] at hnil
              rw [hnil.1]
              rfl
            · rwa [fraction_nil, List.append_nil]
            · rw [fraction_nil]
              simp [tenPow_zero]
          rw [hvalue, ← Except.ok.inj h]
          cases negative
          · simp
          · simp
        · cases h
      · cases h
  · cases h

theorem twoPow_eq (e : Int) : twoPow e = (2 : Rat) ^ e := by
  cases e with
  | ofNat k => simp [twoPow]
  | negSucc k => simp [twoPow, Rat.mkRat_eq_div, zpow_negSucc]

theorem tenPow_eq (e : Int) : tenPow e = (10 : Rat) ^ e := by
  cases e with
  | ofNat k => simp [tenPow]
  | negSucc k => simp [tenPow, Rat.mkRat_eq_div, zpow_negSucc]

/-- A positive rational lies between the power of two at its exponent and the next one. -/
theorem exponent_spec {q : Rat} (hq : 0 < q) :
    (2 : Rat) ^ exponent q ≤ q ∧ q < (2 : Rat) ^ (exponent q + 1) := by
  have hnum : 0 < q.num := Rat.num_pos.mpr hq
  have hn : q.num.toNat ≠ 0 := by omega
  have hq' : q = (q.num.toNat : Rat) / (q.den : Rat) := by
    have hcast : ((q.num.toNat : Int) : Rat) = (q.num : Rat) := by
      rw [Int.toNat_of_nonneg hnum.le]
    rw [← Int.cast_natCast, hcast, Rat.num_div_den]
  have hden : (0 : Rat) < (q.den : Rat) := Nat.cast_pos.mpr q.den_pos
  have hnlo : (2 : Rat) ^ (Nat.log2 q.num.toNat : Int) ≤ (q.num.toNat : Rat) := by
    rw [zpow_natCast]
    exact_mod_cast Nat.log2_self_le hn
  have hnhi : (q.num.toNat : Rat) < (2 : Rat) ^ ((Nat.log2 q.num.toNat : Int) + 1) := by
    have hlt := Nat.lt_log2_self (n := q.num.toNat)
    rw [← Int.natCast_succ, zpow_natCast]
    exact_mod_cast hlt
  have hdlo : (2 : Rat) ^ (Nat.log2 q.den : Int) ≤ (q.den : Rat) := by
    rw [zpow_natCast]
    exact_mod_cast Nat.log2_self_le q.den_nz
  have hdhi : (q.den : Rat) < (2 : Rat) ^ ((Nat.log2 q.den : Int) + 1) := by
    have hlt := Nat.lt_log2_self (n := q.den)
    rw [← Int.natCast_succ, zpow_natCast]
    exact_mod_cast hlt
  have hlow : (2 : Rat) ^ ((Nat.log2 q.num.toNat : Int) - (Nat.log2 q.den : Int) - 1) <
      (q.num.toNat : Rat) / (q.den : Rat) := by
    rw [lt_div_iff₀ hden]
    calc (2 : Rat) ^ ((Nat.log2 q.num.toNat : Int) - (Nat.log2 q.den : Int) - 1) * (q.den : Rat)
        < (2 : Rat) ^ ((Nat.log2 q.num.toNat : Int) - (Nat.log2 q.den : Int) - 1) *
            (2 : Rat) ^ ((Nat.log2 q.den : Int) + 1) := by gcongr
      _ = (2 : Rat) ^ (Nat.log2 q.num.toNat : Int) := by
          rw [← zpow_add₀ two_ne_zero]
          congr 1
          omega
      _ ≤ (q.num.toNat : Rat) := hnlo
  have hhigh : (q.num.toNat : Rat) / (q.den : Rat) <
      (2 : Rat) ^ ((Nat.log2 q.num.toNat : Int) - (Nat.log2 q.den : Int) + 1) := by
    rw [div_lt_iff₀ hden]
    calc (q.num.toNat : Rat)
        < (2 : Rat) ^ ((Nat.log2 q.num.toNat : Int) + 1) := hnhi
      _ = (2 : Rat) ^ ((Nat.log2 q.num.toNat : Int) - (Nat.log2 q.den : Int) + 1) *
            (2 : Rat) ^ (Nat.log2 q.den : Int) := by
          rw [← zpow_add₀ two_ne_zero]
          congr 1
          omega
      _ ≤ (2 : Rat) ^ ((Nat.log2 q.num.toNat : Int) - (Nat.log2 q.den : Int) + 1) *
            (q.den : Rat) := by gcongr
  rw [← hq'] at hlow hhigh
  unfold exponent
  dsimp only
  rw [twoPow_eq]
  split
  · rename_i hlt
    rw [sub_add_cancel]
    exact ⟨hlow.le, hlt⟩
  · rename_i hge
    exact ⟨not_lt.mp hge, hhigh⟩

theorem floor_le_roundHalfEven (q : Rat) : q.num.toNat / q.den ≤ roundHalfEven q := by
  unfold roundHalfEven
  dsimp only
  split
  · exact le_rfl
  · split
    · omega
    · split <;> omega

/-- What is at least the least power of two past the doubles becomes an infinity. -/
theorem roundPos_large {q : Rat} (h : (2 : Rat) ^ (1024 : Int) ≤ q) : roundPos q = inf := by
  have hpos : 0 < q := lt_of_lt_of_le (by positivity) h
  obtain ⟨hlo, hhi⟩ := exponent_spec hpos
  have hexp : (1024 : Int) < exponent q + 1 :=
    (zpow_lt_zpow_iff_right₀ one_lt_two).mp (lt_of_le_of_lt h hhi)
  have hmax : max (exponent q - 52) (-1074) = exponent q - 52 := max_eq_left (by omega)
  have hscaled : (2 : Rat) ^ (52 : Int) ≤ q / (2 : Rat) ^ (exponent q - 52) := by
    rw [le_div_iff₀ (by positivity), ← zpow_add₀ two_ne_zero]
    rwa [add_sub_cancel]
  have hrounded : (2 : Rat) ^ (52 : Int) ≤ (roundHalfEven (q / (2 : Rat) ^ (exponent q - 52)) : Rat) := by
    generalize q / (2 : Rat) ^ (exponent q - 52) = scaled at hscaled
    have hfloor := floor_le_roundHalfEven scaled
    have hnat : 2 ^ 52 ≤ scaled.num.toNat / scaled.den := by
      rw [Nat.le_div_iff_mul_le scaled.den_pos]
      have hscaledPos : 0 < scaled := lt_of_lt_of_le (by positivity) hscaled
      have hnum : 0 < scaled.num := Rat.num_pos.mpr hscaledPos
      have hcast : ((scaled.num.toNat : Int) : Rat) = (scaled.num : Rat) := by
        rw [Int.toNat_of_nonneg hnum.le]
      have hden : (0 : Rat) < (scaled.den : Rat) := Nat.cast_pos.mpr scaled.den_pos
      rw [← Rat.num_div_den scaled, le_div_iff₀ hden, ← hcast] at hscaled
      exact_mod_cast hscaled
    exact_mod_cast hnat.trans hfloor
  unfold roundPos
  dsimp only
  rw [hmax, twoPow_eq, if_pos]
  calc (((2 ^ 1024 : Nat) : Nat) : Rat) = (2 : Rat) ^ (1024 : Int) := by
        rw [Nat.cast_pow]
        rfl
    _ ≤ (2 : Rat) ^ exponent q := zpow_le_zpow_right₀ one_le_two (by omega)
    _ = (2 : Rat) ^ (52 : Int) * (2 : Rat) ^ (exponent q - 52) := by
        rw [← zpow_add₀ two_ne_zero, add_sub_cancel]
    _ ≤ _ := by gcongr

/-- What is at most a quarter of the least double becomes zero. -/
theorem roundPos_small {q : Rat} (hpos : 0 < q) (h : q ≤ (2 : Rat) ^ (-1076 : Int)) :
    roundPos q = finite 0 := by
  obtain ⟨hlo, -⟩ := exponent_spec hpos
  have hexp : exponent q ≤ -1076 :=
    (zpow_le_zpow_iff_right₀ one_lt_two).mp (hlo.trans h)
  have hmax : max (exponent q - 52) (-1074) = -1074 := max_eq_right (by omega)
  have hscaled : q / (2 : Rat) ^ (-1074 : Int) ≤ 1 / 4 := by
    rw [div_le_iff₀ (by positivity)]
    calc q ≤ (2 : Rat) ^ (-1076 : Int) := h
      _ = (2 : Rat) ^ (-2 : Int) * (2 : Rat) ^ (-1074 : Int) := by
          rw [← zpow_add₀ two_ne_zero]
          rfl
      _ = 1 / 4 * (2 : Rat) ^ (-1074 : Int) := by norm_num
  have hscaledPos : 0 < q / (2 : Rat) ^ (-1074 : Int) := div_pos hpos (by positivity)
  have hzero : roundHalfEven (q / (2 : Rat) ^ (-1074 : Int)) = 0 := by
    generalize q / (2 : Rat) ^ (-1074 : Int) = scaled at hscaled hscaledPos
    have hnum : 0 < scaled.num := Rat.num_pos.mpr hscaledPos
    have hden : (0 : Rat) < (scaled.den : Rat) := Nat.cast_pos.mpr scaled.den_pos
    have hcast : ((scaled.num.toNat : Int) : Rat) = (scaled.num : Rat) := by
      rw [Int.toNat_of_nonneg hnum.le]
    have hquarter : scaled.num.toNat * 4 ≤ scaled.den := by
      rw [← Rat.num_div_den scaled, div_le_div_iff₀ hden (by norm_num), one_mul, ← hcast] at hscaled
      exact_mod_cast hscaled
    have hdenPos := scaled.den_pos
    unfold roundHalfEven
    dsimp only
    rw [Nat.mod_eq_of_lt (by omega), if_pos (by omega), Nat.div_eq_of_lt (by omega)]
  unfold roundPos
  dsimp only
  rw [hmax, twoPow_eq, hzero, Nat.cast_zero, zero_mul, if_neg]
  rw [not_le]
  positivity

theorem twoPow_le_tenPow : (2 : Rat) ^ 1280 ≤ 10 ^ 400 :=
  calc (2 : Rat) ^ 1280 = (2 ^ 16) ^ 80 := by rw [← pow_mul]
    _ ≤ (10 ^ 5) ^ 80 := by gcongr; norm_num
    _ = 10 ^ 400 := by rw [← pow_mul]

theorem round_large {m : Nat} (hm : m ≠ 0) {e : Int} (he : 400 ≤ e) :
    round ((m : Rat) * (10 : Rat) ^ e) false = inf := by
  have hone : (1 : Rat) ≤ (m : Rat) := by exact_mod_cast Nat.one_le_iff_ne_zero.mpr hm
  have hpos : 0 < (m : Rat) * (10 : Rat) ^ e := by positivity
  have hlarge : (2 : Rat) ^ (1024 : Int) ≤ (m : Rat) * (10 : Rat) ^ e :=
    calc (2 : Rat) ^ (1024 : Int) ≤ (2 : Rat) ^ (1280 : Int) :=
          zpow_le_zpow_right₀ one_le_two (by norm_num)
      _ ≤ (10 : Rat) ^ (400 : Int) := twoPow_le_tenPow
      _ ≤ (10 : Rat) ^ e := zpow_le_zpow_right₀ (by norm_num) he
      _ ≤ (m : Rat) * (10 : Rat) ^ e := le_mul_of_one_le_left (by positivity) hone
  rw [PyFloat.round, if_neg hpos.ne', if_pos hpos, roundPos_large hlarge]

theorem round_small {m digits : Nat} (hm : m ≠ 0) (hlt : m < 10 ^ digits) {e : Int}
    (he : e + digits ≤ -400) : round ((m : Rat) * (10 : Rat) ^ e) false = finite 0 := by
  have hpos : 0 < (m : Rat) * (10 : Rat) ^ e := by positivity
  have hbound : (m : Rat) ≤ (10 : Rat) ^ (digits : Int) := by
    rw [zpow_natCast]
    exact_mod_cast hlt.le
  have hsmall : (m : Rat) * (10 : Rat) ^ e ≤ (2 : Rat) ^ (-1076 : Int) :=
    calc (m : Rat) * (10 : Rat) ^ e ≤ (10 : Rat) ^ (digits : Int) * (10 : Rat) ^ e := by gcongr
      _ = (10 : Rat) ^ (e + digits) := by rw [← zpow_add₀ (by norm_num), add_comm]
      _ ≤ (10 : Rat) ^ (-400 : Int) := zpow_le_zpow_right₀ (by norm_num) he
      _ ≤ (2 : Rat) ^ (-1280 : Int) := by
          rw [zpow_neg, zpow_neg]
          exact inv_anti₀ (by positivity) twoPow_le_tenPow
      _ ≤ (2 : Rat) ^ (-1076 : Int) := zpow_le_zpow_right₀ one_le_two (by norm_num)
  rw [PyFloat.round, if_neg hpos.ne', if_pos hpos, roundPos_small hpos hsmall]

/-- The capped exponent gives the same float. -/
theorem round_clamped {m digits frac : Nat} (hlt : m < 10 ^ digits) (hfrac : frac ≤ digits)
    (e : Int) :
    round ((m : Rat) * tenPow (clampExponent digits e) * tenPow (-(frac : Int))) false =
      round ((m : Rat) * tenPow e * tenPow (-(frac : Int))) false := by
  have hjoin : ∀ e' : Int, (m : Rat) * tenPow e' * tenPow (-(frac : Int)) =
      (m : Rat) * (10 : Rat) ^ (e' - frac) := fun e' => by
    rw [tenPow_eq, tenPow_eq, mul_assoc, ← zpow_add₀ (by norm_num), sub_eq_add_neg]
  rw [hjoin, hjoin]
  by_cases hm : m = 0
  · simp [hm]
  · by_cases hhigh : (digits + 400 : Int) < e
    · have hcap : clampExponent digits e = digits + 400 := by
        unfold clampExponent
        omega
      rw [hcap, round_large hm (by omega), round_large hm (by omega)]
    · by_cases hlow : e < -(digits + 400 : Int)
      · have hcap : clampExponent digits e = -(digits + 400 : Int) := by
          unfold clampExponent
          omega
        rw [hcap, round_small hm hlt (by omega), round_small hm hlt (by omega)]
      · have hsame : clampExponent digits e = e := by
          unfold clampExponent
          omega
        rw [hsame]

theorem toRat?_neg (x : PyFloat) : (neg x).toRat? = x.toRat?.map (-·) := by
  cases x with
  | finite q =>
    by_cases hq : q = 0
    · simp [neg, hq, toRat?]
    · simp [neg, hq, toRat?]
  | _ => rfl

/-- Rounding commutes with the sign. -/
theorem toRat?_round_neg (q : Rat) :
    (round (-q) false).toRat? = (neg (round q false)).toRat? := by
  unfold PyFloat.round
  by_cases hzero : q = 0
  · simp [hzero, neg, toRat?]
  · rw [if_neg (neg_ne_zero.mpr hzero), if_neg hzero]
    by_cases hpos : 0 < q
    · rw [if_neg (by linarith), if_pos hpos, neg_neg]
    · have hneg : q < 0 := lt_of_le_of_ne (not_lt.mp hpos) hzero
      rw [if_pos (by linarith), if_neg hpos, toRat?_neg, toRat?_neg, Option.map_map]
      simp

/-- On a text without underscores `readDecimal` reads the parts of a plain numeral. -/
theorem readDecimal_parts {cs : List Char} (hfree : '_' ∉ cs) {whole frac rest : List Char}
    (hwhole : cs.takeWhile isDigit = whole) (hparts : fraction (cs.dropWhile isDigit) = (frac, rest)) :
    readDecimal cs = if whole.isEmpty && frac.isEmpty then none
      else match plainExponent rest, digitsValue (whole ++ frac) with
        | some e, some m =>
          some ((m : Rat) * tenPow (clampExponent (whole.length + frac.length) e) *
            tenPow (-(frac.length : Int)))
        | _, _ => none := by
  have hdrop : '_' ∉ cs.dropWhile isDigit := fun hmem =>
    hfree ((List.dropWhile_suffix isDigit).subset hmem)
  have hrest : '_' ∉ rest := fun hmem =>
    hdrop ((mem_fraction (by decide)).mpr (.inr (by rwa [hparts])))
  unfold readDecimal
  rw [optionalRun_plain hfree, hwhole, ← readExponent_plain hrest]
  generalize cs.dropWhile isDigit = after at hparts hdrop
  cases after with
  | nil =>
    obtain ⟨rfl, rfl⟩ := Prod.mk.inj hparts
    rfl
  | cons c after =>
    by_cases hpoint : c = '.'
    · subst hpoint
      have hafter : '_' ∉ after := fun hmem => hdrop (List.mem_cons_of_mem _ hmem)
      obtain ⟨rfl, rfl⟩ := Prod.ext_iff.mp ((optionalRun_plain hafter).trans hparts)
      rfl
    · have hplain : fraction (c :: after) = ([], c :: after) := by simp [fraction, hpoint]
      rw [hplain] at hparts
      obtain ⟨rfl, rfl⟩ := Prod.mk.inj hparts
      dsimp only
      split
      · rename_i heq
        exact absurd (List.cons.inj heq).1 hpoint
      · rfl

/-- Where a plain decimal stands, `float` reads a number that rounds the same. -/
theorem readDecimal_plain {cs : List Char} {q : Rat} (h : plainDecimal cs = some q) :
    ∃ read, readDecimal cs = some read ∧ round read false = round q false := by
  obtain ⟨e, m, hne, he, hm, rfl⟩ := plainDecimal_eq_some.mp h
  generalize hparts : fraction (cs.dropWhile isDigit) = parts at hne he hm
  obtain ⟨frac, rest⟩ := parts
  dsimp only at hne he hm ⊢
  rw [readDecimal_parts (plainDecimal_free h) rfl hparts, if_neg (by simpa using hne), he, hm]
  refine ⟨_, rfl, round_clamped ?_ (Nat.le_add_left _ _) e⟩
  have hlt := digitsValue_lt hm
  rwa [List.length_append] at hlt

theorem plainDecimal_head {c : Char} {cs : List Char} {q : Rat}
    (h : plainDecimal (c :: cs) = some q) : isDigit c = true ∨ c = '.' := by
  obtain ⟨e, m, hne, -, -, -⟩ := plainDecimal_eq_some.mp h
  by_cases hdigit : isDigit c = true
  · exact .inl hdigit
  · rw [List.takeWhile_cons_of_neg hdigit, List.dropWhile_cons_of_neg hdigit, List.nil_append] at hne
    by_cases hpoint : c = '.'
    · exact .inr hpoint
    · exact absurd (by simp [fraction, hpoint]) hne

theorem digit_code_no_letter : ∀ z ∈ zeroDigits, ∀ i < 10,
    ¬ (65 ≤ z + i ∧ z + i ≤ 90) ∧ z + i ≠ 0x212a ∧ z + i ≠ 0x130 ∧ z + i ≠ 105 ∧ z + i ≠ 110 := by
  decide

/-- What a plain decimal begins with has no lower case and begins none of the words of `float`. -/
theorem lowerChar_head {c : Char} (h : isDigit c = true ∨ c = '.') :
    lowerChar c = [c] ∧ c ≠ 'i' ∧ c ≠ 'n' := by
  obtain hdigit | rfl := h
  · obtain ⟨z, hz, i, hi, he⟩ := Numerals.isDigit_iff.mp hdigit
    obtain ⟨hupper, hkelvin, hdotted, hi', hn⟩ := digit_code_no_letter z hz i hi
    refine ⟨?_, ?_, ?_⟩
    · simp only [lowerChar, isAsciiUpper, he, Bool.and_eq_true, decide_eq_true_eq, hupper,
        beq_iff_eq, hkelvin, hdotted, if_false]
    · rintro rfl
      exact hi' he.symm
    · rintro rfl
      exact hn he.symm
  · decide

theorem lower_ne_word {cs : List Char} {q : Rat} (h : plainDecimal cs = some q) {first : Char}
    (hfirst : first = 'i' ∨ first = 'n') (rest : List Char) :
    lower (String.ofList cs) ≠ String.ofList (first :: rest) := by
  intro heq
  cases cs with
  | nil => cases h
  | cons c cs =>
    obtain ⟨hsame, hi, hn⟩ := lowerChar_head (plainDecimal_head h)
    have hlist := congrArg String.toList heq
    rw [lower, String.toList_ofList, String.toList_ofList, List.flatMap_cons, hsame,
      List.singleton_append, String.toList_ofList] at hlist
    obtain rfl := (List.cons.inj hlist).1
    obtain rfl | rfl := hfirst
    · exact hi rfl
    · exact hn rfl

/-- `float` reads a plain numeral as the double nearest to it, or as an infinity past them. -/
theorem ofText_numeral {s : String} {q : Rat} (h : numeral? s = some q) :
    ∃ x, ofText? s = some x ∧ x.toRat? = (round q false).toRat? := by
  unfold numeral? at h
  unfold ofText?
  generalize splitSign (stripList isSpace s.toList) = signed at h
  obtain ⟨negative, cs⟩ := signed
  dsimp only at h ⊢
  obtain ⟨unsigned, hplain, rfl⟩ := Option.map_eq_some_iff.mp h
  obtain ⟨read, hread, hround⟩ := readDecimal_plain hplain
  have hinf : (lower (String.ofList cs) == "inf") = false :=
    beq_false_of_ne (lower_ne_word hplain (.inl rfl) _)
  have hinfinity : (lower (String.ofList cs) == "infinity") = false :=
    beq_false_of_ne (lower_ne_word hplain (.inl rfl) _)
  have hnan : (lower (String.ofList cs) == "nan") = false :=
    beq_false_of_ne (lower_ne_word hplain (.inr rfl) _)
  rw [hinf, hinfinity, hnan, hread, Option.map_some, hround]
  refine ⟨_, rfl, ?_⟩
  cases negative with
  | false => rfl
  | true => exact (toRat?_round_neg unsigned).symm

end ConfigAuditor.Library.Decimals
