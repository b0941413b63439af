import ConfigAuditor.Library.Text

/-!
# UUID values

A UUID is a 128-bit number. Its text form is the usual five groups of lower-case
hexadecimal digits; the text determines the value, and texts compare as the
numbers do because they have one fixed width.
-/
namespace ConfigAuditor.Library

/-- A 128-bit identifier. -/
structure UUID where
  int : Nat
  lt_size : int < 2 ^ 128
  deriving DecidableEq

namespace UUID

def ofNat (n : Nat) : UUID := ⟨n % 2 ^ 128, Nat.mod_lt _ (by decide)⟩

/-- `width` lower-case hexadecimal digits of `n`, most significant first. -/
def hex : Nat → Nat → List Char
  | 0, _ => []
  | width + 1, n => hex width (n / 16) ++ [Nat.digitChar (n % 16)]

/-- Insert the dashes of the 8-4-4-4-12 layout. -/
def dashed (ds : List Char) : List Char :=
  ds.take 8 ++ '-' :: ((ds.drop 8).take 4 ++ '-' :: ((ds.drop 12).take 4 ++
    '-' :: ((ds.drop 16).take 4 ++ '-' :: ds.drop 20)))

/-- `str(uuid)`. -/
def str (u : UUID) : String := String.ofList (dashed (hex 32 u.int))

/-- `uuid.version` of an RFC 4122 identifier; `uuid4` draws version 4, `uuid5` version 5. -/
def version (u : UUID) : Nat := u.int / 2 ^ 76 % 16

/-- A name-based identifier function that is known on the listed texts. -/
def ofTable (table : List (String × Nat)) (_namespace : UUID) (text : String) : UUID :=
  ofNat (((table.find? (·.1 == text)).map (·.2)).getD 0)

theorem int_injective : Function.Injective int := by
  rintro ⟨a, ha⟩ ⟨b, hb⟩ rfl
  rfl

theorem digitChar_inj : ∀ a < 16, ∀ b < 16, Nat.digitChar a = Nat.digitChar b → a = b := by
  decide

theorem digitChar_ne_dash : ∀ a < 16, Nat.digitChar a ≠ '-' := by decide

/-- Fixed-width digits determine the number. -/
theorem hex_inj {width a b : Nat} (ha : a < 16 ^ width) (hb : b < 16 ^ width)
    (h : hex width a = hex width b) : a = b := by
  induction width generalizing a b with
  | zero => simp at ha hb; omega
  | succ width ih =>
    obtain ⟨hhigh, hlow⟩ := List.append_inj' h rfl
    have hlast := digitChar_inj _ (Nat.mod_lt a (by omega)) _ (Nat.mod_lt b (by omega))
      (List.singleton_injective hlow)
    rw [Nat.pow_succ] at ha hb
    have hrest := ih (a := a / 16) (b := b / 16) (by omega) (by omega) hhigh
    omega

theorem mem_hex {width n : Nat} {c : Char} (h : c ∈ hex width n) :
    ∃ d < 16, c = Nat.digitChar d := by
  induction width generalizing n with
  | zero => simp [hex] at h
  | succ width ih =>
    rw [hex, List.mem_append, List.mem_singleton] at h
    rcases h with h | rfl
    · exact ih h
    · exact ⟨n % 16, Nat.mod_lt _ (by omega), rfl⟩

/-- Dropping the dashes gives the digits back. -/
theorem filter_dashed {ds : List Char} (h : ∀ c ∈ ds, c ≠ '-') :
    (dashed ds).filter (· ≠ '-') = ds := by
  have hkeep : ∀ part : List Char, (∀ c ∈ part, c ∈ ds) →
      part.filter (fun c => decide (c ≠ '-')) = part := by
    intro part hpart
    exact List.filter_eq_self.mpr fun c hc => by simpa using h c (hpart c hc)
  have hsplit : ds = ds.take 8 ++ ((ds.drop 8).take 4 ++ ((ds.drop 12).take 4 ++
      ((ds.drop 16).take 4 ++ ds.drop 20))) := by
    have e16 := (List.take_append_drop 4 (ds.drop 16)).symm
    have e12 := (List.take_append_drop 4 (ds.drop 12)).symm
    have e8 := (List.take_append_drop 4 (ds.drop 8)).symm
    rw [List.drop_drop] at e16 e12 e8
    rw [← e16, ← e12, ← e8, List.take_append_drop]
  have m8 : ∀ c ∈ ds.take 8, c ∈ ds := fun c => List.mem_of_mem_take
  have m12 : ∀ c ∈ (ds.drop 8).take 4, c ∈ ds :=
    fun c hc => List.mem_of_mem_drop (List.mem_of_mem_take hc)
  have m16 : ∀ c ∈ (ds.drop 12).take 4, c ∈ ds :=
    fun c hc => List.mem_of_mem_drop (List.mem_of_mem_take hc)
  have m20 : ∀ c ∈ (ds.drop 16).take 4, c ∈ ds :=
    fun c hc => List.mem_of_mem_drop (List.mem_of_mem_take hc)
  have m32 : ∀ c ∈ ds.drop 20, c ∈ ds := fun c => List.mem_of_mem_drop
  simp only [dashed, List.filter_append, List.filter_cons, ne_eq, not_true_eq_false,
    decide_false, Bool.false_eq_true, if_false]
  have k8 := hkeep _ m8
  have k12 := hkeep _ m12
  have k16 := hkeep _ m16
  have k20 := hkeep _ m20
  have k32 := hkeep _ m32
  simp only [ne_eq] at k8 k12 k16 k20 k32
  rw [k8, k12, k16, k20, k32]
  exact hsplit.symm

/-- Two UUIDs with the same text are equal. -/
theorem str_injective : Function.Injective str := by
  intro u v h
  have hchars : dashed (hex 32 u.int) = dashed (hex 32 v.int) := by
    have := congrArg String.toList h
    simpa [str] using this
  have hno : ∀ w : UUID, ∀ c ∈ hex 32 w.int, c ≠ '-' := by
    intro w c hc
    obtain ⟨d, hd, rfl⟩ := mem_hex hc
    exact digitChar_ne_dash d hd
  have hhex : hex 32 u.int = hex 32 v.int := by
    rw [← filter_dashed (hno u), ← filter_dashed (hno v), hchars]
  have hsize : (2 : Nat) ^ 128 = 16 ^ 32 := by decide
  have hint := hex_inj (hsize ▸ u.lt_size) (hsize ▸ v.lt_size) hhex
  cases u
  cases v
  simp_all

/-- The text of a UUID has no characters but hexadecimal digits and dashes. -/
theorem not_mem_str (u : UUID) {c : Char} (hdash : c ≠ '-')
    (hdigit : ∀ d < 16, Nat.digitChar d ≠ c) : c ∉ u.str.toList := by
  intro h
  simp only [str, String.toList_ofList, dashed, List.mem_append, List.mem_cons, hdash,
    false_or] at h
  have hno : c ∉ hex 32 u.int := by
    intro hc
    obtain ⟨d, hd, rfl⟩ := mem_hex hc
    exact hdigit d hd rfl
  rcases h with h | h | h | h | h
  · exact hno (List.mem_of_mem_take h)
  · exact hno (List.mem_of_mem_drop (List.mem_of_mem_take h))
  · exact hno (List.mem_of_mem_drop (List.mem_of_mem_take h))
  · exact hno (List.mem_of_mem_drop (List.mem_of_mem_take h))
  · exact hno (List.mem_of_mem_drop h)

/-- The text of a UUID contains no colon. -/
theorem colon_not_mem_str (u : UUID) : ':' ∉ u.str.toList :=
  u.not_mem_str (by decide) (by decide)

end UUID

end ConfigAuditor.Library
