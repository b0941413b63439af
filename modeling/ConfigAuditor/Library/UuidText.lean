import ConfigAuditor.Library.Numerals
import ConfigAuditor.Library.Uuid

/-!
# Reading a UUID

`UUID(text)` takes the usual layout and some others: prefixes, braces and dashes are
dropped, and 32 characters have to be left that are a hexadecimal number. A UUID is
read back from its text.
-/
namespace ConfigAuditor.Library.UUID

open Text Numerals

/-- `text.replace(pattern, "")`; the number is what is left to skip of a match. -/
def removeAll (pattern : List Char) : Nat → List Char → List Char
  | _, [] => []
  | skip + 1, _ :: cs => removeAll pattern skip cs
  | 0, c :: cs =>
    if pattern.isPrefixOf (c :: cs) then removeAll pattern (pattern.length - 1) cs
    else c :: removeAll pattern 0 cs

/-- The value of a hexadecimal digit: a decimal digit of any script, or a letter. -/
def hexDigit (c : Char) : Option Nat :=
  match digitValue c with
  | some d => some d
  | none =>
    if 97 ≤ c.toNat && c.toNat ≤ 102 then some (c.toNat - 87)
    else if 65 ≤ c.toNat && c.toNat ≤ 70 then some (c.toNat - 55)
    else none

/-- Digits with single underscores between them, as a number after `n`. -/
def hexNumber (n : Nat) : List Char → Option Nat
  | [] => none
  | [c] => (hexDigit c).map (16 * n + ·)
  | c :: '_' :: rest => do hexNumber (16 * n + (← hexDigit c)) rest
  | c :: d :: rest => do hexNumber (16 * n + (← hexDigit c)) (d :: rest)

/-- The digits behind the mark of base sixteen. -/
def unmarked : List Char → List Char
  | '0' :: 'x' :: '_' :: rest => rest
  | '0' :: 'X' :: '_' :: rest => rest
  | '0' :: 'x' :: rest => rest
  | '0' :: 'X' :: rest => rest
  | cs => cs

/-- `int(text, 16)` on characters. -/
def intOfHex (cs : List Char) : Option Int :=
  let (negative, cs) := PyFloat.splitSign (stripList isSpace cs)
  (hexNumber 0 (unmarked cs)).map fun (n : Nat) => if negative then -(n : Int) else (n : Int)

/-- The characters of the text that are read as a number. -/
def hexPart (s : String) : List Char :=
  let plain := removeAll "uuid:".toList 0 (removeAll "urn:".toList 0 s.toList)
  (stripList (['\x7b', '\x7d'].contains ·) plain).filter (· ≠ '-')

/-- `UUID(text)`, `none` where it raises `ValueError`. -/
def ofText? (s : String) : Option UUID :=
  if (hexPart s).length = 32 then
    (intOfHex (hexPart s)).bind fun n =>
      if h : 0 ≤ n ∧ n.toNat < 2 ^ 128 then some ⟨n.toNat, h.2⟩ else none
  else none

theorem removeAll_absent {c : Char} {pattern cs : List Char} (h : c ∉ cs) :
    removeAll (c :: pattern) 0 cs = cs := by
  induction cs with
  | nil => rfl
  | cons d cs ih =>
    rw [List.mem_cons, not_or] at h
    rw [removeAll, if_neg, ih h.2]
    simp [List.isPrefixOf, h.1]

theorem hexDigit_digitChar : ∀ d < 16, hexDigit (Nat.digitChar d) = some d := by decide

theorem digitChar_plain : ∀ d < 16, isSpace (Nat.digitChar d) = false ∧
    Nat.digitChar d ≠ '+' ∧ Nat.digitChar d ≠ '-' ∧ Nat.digitChar d ≠ '_' ∧
    Nat.digitChar d ≠ 'x' ∧ Nat.digitChar d ≠ 'X' ∧ Nat.digitChar d ≠ 'u' ∧
    Nat.digitChar d ≠ '\x7b' ∧ Nat.digitChar d ≠ '\x7d' := by decide

theorem hexNumber_append {cs : List Char} (hplain : ∀ c ∈ cs, c ≠ '_') {n d : Nat} {c : Char}
    (hc : hexDigit c = some d) (hne : c ≠ '_') {m : Nat} (h : hexNumber n cs = some m) :
    hexNumber n (cs ++ [c]) = some (16 * m + d) := by
  induction cs generalizing n with
  | nil => cases h
  | cons first cs ih =>
    rw [List.forall_mem_cons] at hplain
    cases cs with
    | nil =>
      rw [hexNumber] at h
      obtain ⟨e, he, rfl⟩ := Option.map_eq_some_iff.mp h
      rw [List.singleton_append, hexNumber, he]
      · simp [hexNumber, hc]
      · rintro rfl
        exact absurd rfl hne
    | cons second cs =>
      have hsecond : second ≠ '_' := hplain.2 second List.mem_cons_self
      rw [hexNumber] at h
      · obtain ⟨e, he, h⟩ := Option.bind_eq_some_iff.mp h
        have hrest := ih hplain.2 h
        rw [List.cons_append, List.cons_append, hexNumber, he]
        · exact hrest
        · rintro rfl
          exact hsecond rfl
      · rintro rfl
        exact hsecond rfl

theorem hexNumber_hex {width n : Nat} (hwidth : 1 ≤ width) (h : n < 16 ^ width) :
    hexNumber 0 (hex width n) = some n := by
  induction width generalizing n with
  | zero => omega
  | succ width ih =>
    have hlast := hexDigit_digitChar (n % 16) (Nat.mod_lt _ (by omega))
    cases width with
    | zero =>
      have hn : n % 16 = n := Nat.mod_eq_of_lt (by omega)
      rw [hn] at hlast
      simp [hex, hexNumber, hn, hlast]
    | succ width =>
      have hrec := ih (n := n / 16) (by omega) (by rw [Nat.pow_succ] at h; omega)
      have hplain : ∀ c ∈ hex (width + 1) (n / 16), c ≠ '_' := by
        intro c hc
        obtain ⟨d, hd, rfl⟩ := mem_hex hc
        exact (digitChar_plain d hd).2.2.2.1
      rw [hex, hexNumber_append hplain hlast
        (digitChar_plain _ (Nat.mod_lt _ (by omega))).2.2.2.1 hrec]
      congr 1
      omega

theorem length_hex (width n : Nat) : (hex width n).length = width := by
  induction width generalizing n with
  | zero => rfl
  | succ width ih => rw [hex, List.length_append, ih, List.length_singleton]

theorem splitSign_plain {cs : List Char} (hminus : '-' ∉ cs) (hplus : '+' ∉ cs) :
    PyFloat.splitSign cs = (false, cs) := by
  unfold PyFloat.splitSign
  split
  · exact absurd List.mem_cons_self hminus
  · exact absurd List.mem_cons_self hplus
  · rfl

theorem unmarked_plain {cs : List Char} (hx : 'x' ∉ cs) (hX : 'X' ∉ cs) : unmarked cs = cs := by
  unfold unmarked
  split
  · exact absurd (List.mem_cons_of_mem _ List.mem_cons_self) hx
  · exact absurd (List.mem_cons_of_mem _ List.mem_cons_self) hX
  · exact absurd (List.mem_cons_of_mem _ List.mem_cons_self) hx
  · exact absurd (List.mem_cons_of_mem _ List.mem_cons_self) hX
  · rfl

theorem intOfHex_hex {n : Nat} (h : n < 16 ^ 32) : intOfHex (hex 32 n) = some (n : Int) := by
  have hplain : ∀ c ∈ hex 32 n, isSpace c = false ∧ c ≠ '+' ∧ c ≠ '-' ∧ c ≠ 'x' ∧ c ≠ 'X' := by
    intro c hc
    obtain ⟨d, hd, rfl⟩ := mem_hex hc
    obtain ⟨hspace, hplus, hminus, -, hx, hX, -⟩ := digitChar_plain d hd
    exact ⟨hspace, hplus, hminus, hx, hX⟩
  have hnumber := hexNumber_hex (by omega) h
  have hstrip : stripList isSpace (hex 32 n) = hex 32 n := by
    have hall : ∀ c ∈ hex 32 n, isSpace c = false := fun c hc => (hplain c hc).1
    exact stripList_of_none hall
  unfold intOfHex
  rw [hstrip, splitSign_plain (fun hmem => (hplain _ hmem).2.2.1 rfl)
    (fun hmem => (hplain _ hmem).2.1 rfl)]
  have hx : 'x' ∉ hex 32 n := fun hmem => (hplain _ hmem).2.2.2.1 rfl
  have hX : 'X' ∉ hex 32 n := fun hmem => (hplain _ hmem).2.2.2.2 rfl
  dsimp only
  rw [unmarked_plain hx hX, hnumber]
  rfl

/-- A UUID is read back from its text. -/
theorem ofText_str (u : UUID) : ofText? u.str = some u := by
  have hfree : ∀ c : Char, c ≠ '-' → (∀ d < 16, Nat.digitChar d ≠ c) → c ∉ u.str.toList :=
    fun c => u.not_mem_str
  have hpart : hexPart u.str = hex 32 u.int := by
    have hbraces : ∀ c ∈ u.str.toList, ['\x7b', '\x7d'].contains c = false := by
      intro c hc
      rw [Bool.eq_false_iff, ne_eq, List.contains_iff_mem]
      intro hbrace
      simp only [List.mem_cons, List.not_mem_nil, or_false] at hbrace
      obtain rfl | rfl := hbrace
      · exact hfree _ (by decide) (by decide) hc
      · exact hfree _ (by decide) (by decide) hc
    have hu : 'u' ∉ u.str.toList := hfree 'u' (by decide) (by decide)
    have hurn : removeAll "urn:".toList 0 u.str.toList = u.str.toList := removeAll_absent hu
    have huuid : removeAll "uuid:".toList 0 u.str.toList = u.str.toList := removeAll_absent hu
    unfold hexPart
    rw [hurn, huuid]
    dsimp only
    rw [stripList_of_none hbraces, str, String.toList_ofList]
    apply filter_dashed
    intro c hc
    obtain ⟨d, hd, rfl⟩ := mem_hex hc
    exact digitChar_ne_dash d hd
  have hsize : (2 : Nat) ^ 128 = 16 ^ 32 := by decide
  unfold ofText?
  rw [hpart, if_pos (length_hex 32 u.int), intOfHex_hex (hsize ▸ u.lt_size), Option.bind_some,
    dif_pos ⟨Int.natCast_nonneg _, u.lt_size⟩]
  rfl

end ConfigAuditor.Library.UUID
