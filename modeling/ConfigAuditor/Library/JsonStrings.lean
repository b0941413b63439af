import ConfigAuditor.Library.JsonText

/-!
# Where a JSON string ends

A quoted string says itself where it ends and what it holds. Two texts that begin with quoted
strings and are equal therefore begin with the same string and go on alike, and so do texts
that begin with lists of strings.
-/
namespace ConfigAuditor.Library.JsonText

open PyValue

def hexValue (c : Char) : Nat := if c.toNat < 58 then c.toNat - 48 else c.toNat - 87

def hexNumber (a b c d : Char) : Nat :=
  hexValue a * 4096 + hexValue b * 256 + hexValue c * 16 + hexValue d

/-- The code of the first character of a string and what follows its escape. -/
def readEscape : List Char → Option (Nat × List Char)
  | '\\' :: 'u' :: a :: b :: c :: d :: rest =>
    if 0xd800 ≤ hexNumber a b c d ∧ hexNumber a b c d < 0xe000 then
      match rest with
      | '\\' :: 'u' :: a' :: b' :: c' :: d' :: rest =>
        some (0x10000 + (hexNumber a b c d - 0xd800) * 1024 + (hexNumber a' b' c' d' - 0xdc00),
          rest)
      | _ => none
    else some (hexNumber a b c d, rest)
  | '\\' :: 'n' :: rest => some (10, rest)
  | '\\' :: 'r' :: rest => some (13, rest)
  | '\\' :: 't' :: rest => some (9, rest)
  | '\\' :: 'f' :: rest => some (12, rest)
  | '\\' :: 'b' :: rest => some (8, rest)
  | '\\' :: c :: rest => some (c.toNat, rest)
  | c :: rest => some (c.toNat, rest)
  | [] => none

theorem hexValue_digitChar : ∀ d < 16, hexValue (Nat.digitChar d) = d := by decide

theorem hexNumber_hexDigits {n : Nat} (hn : n < 0x10000) :
    hexNumber (Nat.digitChar (n / 4096 % 16)) (Nat.digitChar (n / 256 % 16))
      (Nat.digitChar (n / 16 % 16)) (Nat.digitChar (n % 16)) = n := by
  have hdigit : ∀ m, hexValue (Nat.digitChar (m % 16)) = m % 16 := fun m =>
    hexValue_digitChar _ (Nat.mod_lt _ (by decide))
  rw [hexNumber, hdigit, hdigit, hdigit, hdigit]
  omega

theorem readEscape_low {n : Nat} (hn : n < 0x10000) (hplain : n < 0xd800 ∨ 0xe000 ≤ n)
    (rest : List Char) : readEscape ('\\' :: 'u' :: hexDigits n ++ rest) = some (n, rest) := by
  simp only [hexDigits, List.cons_append, List.nil_append, readEscape, hexNumber_hexDigits hn]
  rw [if_neg (by omega)]

theorem readEscape_pair {m : Nat} (hm : m < 0x100000) (rest : List Char) :
    readEscape (('\\' :: 'u' :: hexDigits (0xd800 + m / 1024) ++
      '\\' :: 'u' :: hexDigits (0xdc00 + m % 1024)) ++ rest) = some (0x10000 + m, rest) := by
  have hhigh : 0xd800 + m / 1024 < 0x10000 := by omega
  have hlow : 0xdc00 + m % 1024 < 0x10000 := by omega
  simp only [hexDigits, List.cons_append, List.nil_append, readEscape, hexNumber_hexDigits hhigh,
    hexNumber_hexDigits hlow]
  have hcode : 0x10000 + (0xd800 + m / 1024 - 0xd800) * 1024 + (0xdc00 + m % 1024 - 0xdc00) =
      0x10000 + m := by omega
  rw [if_pos (by omega), hcode]

theorem readEscape_escapeChar (c : Char) (rest : List Char) :
    readEscape (escapeChar c ++ rest) = some (c.toNat, rest) := by
  unfold escapeChar
  simp only [beq_iff_eq, Bool.and_eq_true, decide_eq_true_eq]
  split_ifs with hquote hslash hn hr ht hf hb hprint hlow
  · rw [hquote]
    rfl
  · rw [hslash]
    rfl
  · rw [hn]
    rfl
  · rw [hr]
    rfl
  · rw [ht]
    rfl
  · rw [hf]
    rfl
  · rw [hb]
    rfl
  · rw [List.singleton_append, readEscape]
    all_goals
      intros
      simp_all
  · refine readEscape_low hlow ?_ rest
    have hvalid : c.toNat < 0xd800 ∨ 0xdfff < c.toNat ∧ c.toNat < 0x110000 := c.valid
    omega
  · have hvalid : c.toNat < 0xd800 ∨ 0xdfff < c.toNat ∧ c.toNat < 0x110000 := c.valid
    have hcode : 0x10000 + (c.toNat - 0x10000) = c.toNat := by omega
    rw [readEscape_pair (by omega), hcode]

theorem char_toNat_injective {c d : Char} (h : c.toNat = d.toNat) : c = d :=
  Char.ext (UInt32.toNat_inj.mp h)

theorem escapeChar_cancel {c d : Char} {rest rest' : List Char}
    (h : escapeChar c ++ rest = escapeChar d ++ rest') : c = d ∧ rest = rest' := by
  have hread := congrArg readEscape h
  rw [readEscape_escapeChar, readEscape_escapeChar, Option.some.injEq, Prod.mk.injEq] at hread
  exact ⟨char_toNat_injective hread.1, hread.2⟩

theorem escapeChar_ne_quote (c : Char) (rest rest' : List Char) :
    escapeChar c ++ rest ≠ '"' :: rest' := by
  unfold escapeChar
  simp only [beq_iff_eq, Bool.and_eq_true, decide_eq_true_eq]
  split_ifs with hquote <;> intro h <;> simp_all

/-- A quoted string says where it ends. -/
theorem jsonString_cancel {s t : String} {rest rest' : List Char}
    (h : jsonString s ++ rest = jsonString t ++ rest') : s = t ∧ rest = rest' := by
  have hinside : ∀ cs ds : List Char, cs.flatMap escapeChar ++ '"' :: rest =
      ds.flatMap escapeChar ++ '"' :: rest' → cs = ds ∧ rest = rest' := by
    intro cs
    induction cs with
    | nil =>
      intro ds hds
      cases ds with
      | nil => exact ⟨rfl, by simpa using hds⟩
      | cons d ds =>
        rw [List.flatMap_cons, List.append_assoc] at hds
        exact absurd hds.symm (escapeChar_ne_quote d _ _)
    | cons c cs ih =>
      intro ds hds
      cases ds with
      | nil =>
        rw [List.flatMap_cons, List.append_assoc] at hds
        exact absurd hds (escapeChar_ne_quote c _ _)
      | cons d ds =>
        rw [List.flatMap_cons, List.flatMap_cons, List.append_assoc, List.append_assoc] at hds
        obtain ⟨rfl, htail⟩ := escapeChar_cancel hds
        obtain ⟨rfl, hrest⟩ := ih ds htail
        exact ⟨rfl, hrest⟩
  simp only [jsonString, List.cons_append, List.append_assoc, List.nil_append, List.cons.injEq,
    true_and] at h
  obtain ⟨hchars, hrest⟩ := hinside s.toList t.toList h
  exact ⟨String.toList_inj.mp hchars, hrest⟩

/-- What follows the first string of a list. -/
def afterFirst (xs : List String) (rest : List Char) : List Char :=
  match xs with
  | [] => ']' :: rest
  | x :: xs => ',' :: (commaSeparated ((x :: xs).map jsonString) ++ ']' :: rest)

theorem commaSeparated_strings (x : String) (xs : List String) (rest : List Char) :
    commaSeparated ((x :: xs).map jsonString) ++ ']' :: rest =
      jsonString x ++ afterFirst xs rest := by
  cases xs <;> simp [afterFirst, commaSeparated, List.intercalate]

/-- A list of strings says where it ends. -/
theorem jsonStrings_cancel {xs ys : List String} {rest rest' : List Char}
    (h : commaSeparated (xs.map jsonString) ++ ']' :: rest =
      commaSeparated (ys.map jsonString) ++ ']' :: rest') : xs = ys ∧ rest = rest' := by
  induction xs generalizing ys with
  | nil =>
    cases ys with
    | nil => exact ⟨rfl, by simpa [commaSeparated] using h⟩
    | cons y ys =>
      rw [commaSeparated_strings] at h
      simp [commaSeparated, jsonString] at h
  | cons x xs ih =>
    cases ys with
    | nil =>
      rw [commaSeparated_strings] at h
      simp [commaSeparated, jsonString] at h
    | cons y ys =>
      rw [commaSeparated_strings, commaSeparated_strings] at h
      obtain ⟨rfl, htail⟩ := jsonString_cancel h
      cases xs with
      | nil =>
        cases ys with
        | nil => exact ⟨rfl, by simpa [afterFirst] using htail⟩
        | cons y' ys => simp [afterFirst] at htail
      | cons x' xs =>
        cases ys with
        | nil => simp [afterFirst] at htail
        | cons y' ys =>
          simp only [afterFirst, List.cons.injEq, true_and] at htail
          obtain ⟨hsame, hrest⟩ := ih htail
          exact ⟨by rw [hsame], hrest⟩

end ConfigAuditor.Library.JsonText
