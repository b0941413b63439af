import Mathlib.Data.String.Basic
import Mathlib.Data.List.Basic
import Mathlib.Data.List.TakeWhile
import Mathlib.Data.Nat.Digits.Defs

/-!
# Text operations of the Python standard library

Characters are Unicode code points. White space and decimal digits follow the
Unicode tables that `str.strip`, `\s`, `\d` and `int` use. The decimal reader is
proved to invert the decimal writer, which is what canonical scope keys rest on.
-/
namespace ConfigAuditor.Library.Text

/-- The code points on which `str.isspace` holds; `\s` matches the same ones. -/
def isSpaceCode (n : Nat) : Bool :=
  (9 ≤ n && n ≤ 13) || (28 ≤ n && n ≤ 32) || n == 0x85 || n == 0xa0 || n == 0x1680 ||
    (0x2000 ≤ n && n ≤ 0x200a) || n == 0x2028 || n == 0x2029 || n == 0x202f ||
    n == 0x205f || n == 0x3000

def isSpace (c : Char) : Bool := isSpaceCode c.toNat

/-- The code points of the digit zero in each run of ten decimal digits. -/
def zeroDigits : List Nat :=
  [0x30, 0x660, 0x6f0, 0x7c0, 0x966, 0x9e6, 0xa66, 0xae6, 0xb66, 0xbe6, 0xc66, 0xce6, 0xd66,
    0xde6, 0xe50, 0xed0, 0xf20, 0x1040, 0x1090, 0x17e0, 0x1810, 0x1946, 0x19d0, 0x1a80, 0x1a90,
    0x1b50, 0x1bb0, 0x1c40, 0x1c50, 0xa620, 0xa8d0, 0xa900, 0xa9d0, 0xa9f0, 0xaa50, 0xabf0,
    0xff10, 0x104a0, 0x10d30, 0x11066, 0x110f0, 0x11136, 0x111d0, 0x112f0, 0x11450, 0x114d0,
    0x11650, 0x116c0, 0x11730, 0x118e0, 0x11950, 0x11c50, 0x11d50, 0x11da0, 0x11f50, 0x16a60,
    0x16ac0, 0x16b50, 0x1d7ce, 0x1d7d8, 0x1d7e2, 0x1d7ec, 0x1d7f6, 0x1e140, 0x1e2f0, 0x1e4f0,
    0x1e950, 0x1fbf0]

/-- The value of a decimal digit of any script, or `none`. -/
def digitValue (c : Char) : Option Nat :=
  (zeroDigits.find? fun z => z ≤ c.toNat && c.toNat < z + 10).map (c.toNat - ·)

def isAsciiDigit (c : Char) : Bool := 48 ≤ c.toNat && c.toNat ≤ 57

def isAsciiUpper (c : Char) : Bool := 65 ≤ c.toNat && c.toNat ≤ 90

def isAsciiLower (c : Char) : Bool := 97 ≤ c.toNat && c.toNat ≤ 122

def isAsciiLetter (c : Char) : Bool := isAsciiUpper c || isAsciiLower c

def isAsciiAlnum (c : Char) : Bool := isAsciiDigit c || isAsciiLetter c

/-- Positional value of a digit string, `none` when some character is no digit. -/
def digitsValue (cs : List Char) : Option Nat :=
  cs.foldl (fun acc c => acc.bind fun v => (digitValue c).map (10 * v + ·)) (some 0)

/-- Lower case of one character. Outside ASCII only the Kelvin sign and the dotted
capital I have a lower case that contains an ASCII letter; no other non-ASCII
character can become, or stop being, part of an ASCII token. -/
def lowerChar (c : Char) : List Char :=
  if isAsciiUpper c then [Char.ofNat (c.toNat + 32)]
  else if c.toNat == 0x212a then ['k']
  else if c.toNat == 0x130 then ['i', Char.ofNat 0x307]
  else [c]

def lower (s : String) : String := String.ofList (s.toList.flatMap lowerChar)

def stripList (drop : Char → Bool) (cs : List Char) : List Char :=
  ((cs.dropWhile drop).reverse.dropWhile drop).reverse

/-- `str.strip()`. -/
def strip (s : String) : String := String.ofList (stripList isSpace s.toList)

/-- `str.strip(chars)`. -/
def stripChars (chars : List Char) (s : String) : String :=
  String.ofList (stripList (chars.contains ·) s.toList)

/-- `str.split(sep, 1)` on characters: the parts around the first separator. -/
def splitFirst (sep : Char) : List Char → Option (List Char × List Char)
  | [] => none
  | c :: cs => if c == sep then some ([], cs) else (splitFirst sep cs).map fun p => (c :: p.1, p.2)

/-- `str.rsplit(sep, 1)` on characters: the parts around the last separator. -/
def splitLast (sep : Char) : List Char → Option (List Char × List Char)
  | [] => none
  | c :: cs => match splitLast sep cs with
    | some p => some (c :: p.1, p.2)
    | none => if c == sep then some ([], cs) else none

/-- `str.split(sep)` on characters. -/
def splitAll (sep : Char) : List Char → List (List Char)
  | [] => [[]]
  | c :: cs =>
    if c == sep then [] :: splitAll sep cs
    else match splitAll sep cs with
      | part :: parts => (c :: part) :: parts
      | [] => [[c]]

def startsWith (s front : String) : Bool := front.toList.isPrefixOf s.toList

/-- `str.removeprefix`. -/
def removeFront (front : String) (s : String) : List Char :=
  if startsWith s front then s.toList.drop front.length else s.toList

/-- `str.rstrip(chars)` on characters. -/
def rstripChars (chars cs : List Char) : List Char :=
  (cs.reverse.dropWhile chars.contains).reverse

/-- `re.findall(r"\S+", text)` on characters: the runs without white space. -/
def words : List Char → List (List Char)
  | [] => []
  | c :: cs =>
    if isSpace c then words cs
    else match cs, words cs with
      | d :: _, word :: rest => if isSpace d then [c] :: word :: rest else (c :: word) :: rest
      | _, found => [c] :: found

/-- `part in text` on characters. -/
def occursIn (part cs : List Char) : Bool := cs.tails.any part.isPrefixOf

/-- `list(StringIO(text))` on characters: lines with their line feeds. -/
def lines : List Char → List (List Char)
  | [] => []
  | c :: cs =>
    if c == '\n' then [c] :: lines cs
    else match lines cs with
      | [] => [[c]]
      | line :: rest => (c :: line) :: rest

/-- The letter a character stands for in a pattern that ignores case. -/
def foldCase (c : Char) : Char :=
  if isAsciiUpper c then Char.ofNat (c.toNat + 32)
  else if c.toNat == 0x212a then 'k'
  else if c.toNat == 0x130 || c.toNat == 0x131 then 'i'
  else if c.toNat == 0x17f then 's'
  else c

/-- `sep.join(parts)`. -/
def join (sep : String) (parts : List String) : String := String.intercalate sep parts

/-- A character that is no white space extends the run after it. -/
theorem words_cons_cons {c d : Char} {cs word : List Char} {rest : List (List Char)}
    (hc : isSpace c = false) (hd : isSpace d = false) (h : words (d :: cs) = word :: rest) :
    words (c :: d :: cs) = (c :: word) :: rest := by
  unfold words
  rw [h]
  simp [hc, hd]

@[simp] theorem digitsValue_nil : digitsValue [] = some 0 := rfl

theorem digitsValue_append_one (cs : List Char) (c : Char) :
    digitsValue (cs ++ [c]) =
      (digitsValue cs).bind fun v => (digitValue c).map (10 * v + ·) := by
  simp [digitsValue, List.foldl_append]

theorem digitValue_digitChar : ∀ d < 10, digitValue (Nat.digitChar d) = some d := by decide

theorem isAsciiDigit_digitChar : ∀ d < 10, isAsciiDigit (Nat.digitChar d) = true := by decide

/-- The last digit comes off the end of a decimal numeral. -/
theorem toDigits_step (n : Nat) :
    Nat.toDigits 10 n = (if n < 10 then [] else Nat.toDigits 10 (n / 10)) ++
      [Nat.digitChar (n % 10)] := by
  rw [Nat.toDigits_eq_if (by omega)]
  split
  · simp [Nat.mod_eq_of_lt ‹n < 10›]
  · rfl

theorem digitsValue_toDigits (n : Nat) : digitsValue (Nat.toDigits 10 n) = some n := by
  induction n using Nat.strong_induction_on with
  | _ n ih =>
    rw [toDigits_step, digitsValue_append_one, digitValue_digitChar _ (Nat.mod_lt _ (by omega))]
    split
    · rename_i hn
      simp [Nat.mod_eq_of_lt hn]
    · rename_i hn
      rw [ih (n / 10) (by omega)]
      simp
      omega

theorem toDigits_all_digits (n : Nat) : (Nat.toDigits 10 n).all isAsciiDigit = true := by
  induction n using Nat.strong_induction_on with
  | _ n ih =>
    rw [toDigits_step, List.all_append]
    have hd := isAsciiDigit_digitChar (n % 10) (Nat.mod_lt _ (by omega))
    split
    · simp [hd]
    · rename_i hn
      simp [hd, ih (n / 10) (by omega)]

theorem toDigits_length_le (n k : Nat) (hk : 1 ≤ k) (h : n < 10 ^ k) :
    (Nat.toDigits 10 n).length ≤ k := by
  induction k generalizing n with
  | zero => omega
  | succ k ih =>
    rw [toDigits_step]
    split
    · simp
    · rename_i hn
      have hk' : 1 ≤ k := by
        rcases k with _ | k
        · simp at h; omega
        · omega
      have hlt : n / 10 < 10 ^ k := by rw [Nat.pow_succ] at h; omega
      have hrec := ih (n / 10) hk' hlt
      simp
      omega

theorem toString_toList (n : Nat) : (toString n).toList = Nat.toDigits 10 n := by
  rw [Nat.toString_eq_repr, Nat.toList_repr]

/-- A separator absent from the left part is the first one found. -/
theorem splitFirst_append (sep : Char) (l r : List Char) (hl : sep ∉ l) :
    splitFirst sep (l ++ sep :: r) = some (l, r) := by
  induction l with
  | nil => simp [splitFirst]
  | cons c cs ih =>
    simp only [List.mem_cons, not_or] at hl
    have hc : (c == sep) = false := by simpa using fun h => hl.1 h.symm
    simp [splitFirst, hc, ih hl.2]

theorem splitFirst_some {sep : Char} {cs l r : List Char} (h : splitFirst sep cs = some (l, r)) :
    cs = l ++ sep :: r ∧ sep ∉ l := by
  induction cs generalizing l with
  | nil => simp [splitFirst] at h
  | cons c cs ih =>
    by_cases hc : c = sep
    · simp [splitFirst, hc] at h
      obtain ⟨rfl, rfl⟩ := h
      simp [hc]
    · simp only [splitFirst, beq_iff_eq, hc, if_false, Option.map_eq_some_iff] at h
      obtain ⟨⟨l', r'⟩, hs, he⟩ := h
      simp only [Prod.mk.injEq] at he
      obtain ⟨rfl, rfl⟩ := he
      obtain ⟨hcs, hno⟩ := ih hs
      simp [hcs, hno, Ne.symm hc]

/-- A stripped text begins with the first character that stays. -/
theorem head?_stripList (drop : Char → Bool) (cs : List Char) :
    (stripList drop cs).head? = cs.find? (!drop ·) := by
  rw [List.find?_not_eq_head?_dropWhile, stripList]
  cases hkept : cs.dropWhile drop with
  | nil => rfl
  | cons c rest =>
    have hc : drop c = false := by
      have hhead := List.head?_dropWhile_not drop cs
      rw [hkept] at hhead
      simpa using hhead
    rw [List.reverse_cons, List.dropWhile_append]
    split
    · simp [hc]
    · simp

theorem filter_dropWhile_not (drop : Char → Bool) (cs : List Char) :
    (cs.dropWhile drop).filter (!drop ·) = cs.filter (!drop ·) := by
  conv_rhs => rw [← List.takeWhile_append_dropWhile (p := drop) (l := cs), List.filter_append]
  have hfront : (cs.takeWhile drop).filter (!drop ·) = [] :=
    List.filter_eq_nil_iff.mpr fun c hc => by simp [List.mem_takeWhile_imp hc]
  rw [hfront, List.nil_append]

/-- Stripping takes none of the characters that stay. -/
theorem filter_stripList (drop : Char → Bool) (cs : List Char) :
    (stripList drop cs).filter (!drop ·) = cs.filter (!drop ·) := by
  rw [stripList, List.filter_reverse, filter_dropWhile_not, List.filter_reverse,
    List.reverse_reverse, filter_dropWhile_not]

theorem stripList_append_of_all {drop : Char → Bool} {cs tail : List Char}
    (h : ∀ c ∈ tail, drop c = true) :
    stripList drop (cs ++ tail) = stripList drop cs := by
  rw [stripList, stripList, List.dropWhile_append]
  split
  · rename_i hempty
    rw [List.isEmpty_iff.mp hempty, List.dropWhile_eq_nil_iff.mpr h]
  · rw [List.reverse_append, List.dropWhile_append,
      List.dropWhile_eq_nil_iff.mpr fun c hc => h c (List.mem_reverse.mp hc)]
    rfl

/-- Characters that follow a text leave what stripping leaves of it exactly if all are
stripped. -/
theorem stripList_append_eq_iff {drop : Char → Bool} {cs tail : List Char} :
    stripList drop (cs ++ tail) = stripList drop cs ↔ ∀ c ∈ tail, drop c = true := by
  refine ⟨fun h => ?_, stripList_append_of_all⟩
  have hfilter := congrArg (List.filter (!drop ·)) h
  rw [filter_stripList, filter_stripList, List.filter_append, List.append_right_eq_self,
    List.filter_eq_nil_iff] at hfilter
  intro c hc
  simpa using hfilter c hc

/-- Every line feed ends a line. -/
theorem count_le_length_lines (cs : List Char) : cs.count '\n' ≤ (lines cs).length := by
  induction cs with
  | nil => exact Nat.zero_le _
  | cons c rest ih =>
    rw [lines, List.count_cons]
    by_cases hc : (c == '\n') = true
    · rw [if_pos hc, if_pos hc, List.length_cons]
      omega
    · rw [if_neg hc, if_neg hc, Nat.add_zero]
      split
      · rename_i hnil
        rw [hnil] at ih
        exact ih.trans (Nat.zero_le _)
      · rename_i hcons
        rw [hcons] at ih
        exact ih

/-- The first of several joined parts is determined by the joined text. -/
theorem join_head {sep : Char} {a b a' b' : String} {rest rest' : List String}
    (ha : sep ∉ a.toList) (ha' : sep ∉ a'.toList)
    (h : join (String.singleton sep) (a :: b :: rest) =
      join (String.singleton sep) (a' :: b' :: rest')) :
    a = a' ∧ join (String.singleton sep) (b :: rest) = join (String.singleton sep) (b' :: rest') := by
  simp only [join, String.intercalate_cons_cons] at h
  have hchars := congrArg String.toList h
  simp only [String.toList_append, String.toList_singleton, List.append_assoc,
    List.singleton_append] at hchars
  have hfirst := splitFirst_append sep _ (String.intercalate (String.singleton sep) (b :: rest)).toList ha
  rw [hchars, splitFirst_append sep _ _ ha'] at hfirst
  simp only [Option.some.injEq, Prod.mk.injEq, String.toList_inj] at hfirst
  exact ⟨hfirst.1.symm, hfirst.2.symm⟩

/-- Joined texts with the same first part have the same other parts joined. -/
theorem join_cons_cancel {sep a b b' : String} {rest rest' : List String}
    (h : join sep (a :: b :: rest) = join sep (a :: b' :: rest')) :
    join sep (b :: rest) = join sep (b' :: rest') := by
  simp only [join, String.intercalate_cons_cons] at h
  have hchars := congrArg String.toList h
  simp only [String.toList_append, List.append_assoc] at hchars
  exact String.toList_inj.mp (List.append_cancel_left (List.append_cancel_left hchars))

theorem not_mem_toString {c : Char} (n : Nat) (h : isAsciiDigit c = false) :
    c ∉ (toString n).toList := by
  intro hc
  rw [toString_toList] at hc
  have := List.all_eq_true.mp (toDigits_all_digits n) c hc
  simp [h] at this

theorem toString_injective {m n : Nat} (h : toString m = toString n) : m = n := by
  have hdigits := congrArg (fun s => digitsValue s.toList) h
  simpa [toString_toList, digitsValue_toDigits] using hdigits

/-- Joined parts that do not contain the separator are told apart. -/
theorem join_injective {sep : Char} {a b : List String} (ha : a ≠ []) (hb : b ≠ [])
    (hfreeA : ∀ part ∈ a, sep ∉ part.toList) (hfreeB : ∀ part ∈ b, sep ∉ part.toList)
    (h : join (String.singleton sep) a = join (String.singleton sep) b) : a = b := by
  have hsplit : ∀ parts : List String, parts ≠ [] → (∀ part ∈ parts, sep ∉ part.toList) →
      (join (String.singleton sep) parts).toList.splitOn sep = parts.map String.toList := by
    intro parts hne hfree
    rw [join, String.toList_intercalate, String.toList_singleton]
    refine List.splitOn_intercalate sep ?_ (by simpa using hne)
    intro cs hcs
    obtain ⟨part, hpart, rfl⟩ := List.mem_map.mp hcs
    exact hfree part hpart
  have hlists : a.map String.toList = b.map String.toList := by
    rw [← hsplit a ha hfreeA, ← hsplit b hb hfreeB, h]
  exact List.map_injective_iff.mpr (fun _ _ => String.toList_inj.mp) hlists

end ConfigAuditor.Library.Text
