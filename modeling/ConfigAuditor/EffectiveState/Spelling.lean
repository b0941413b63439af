import ConfigAuditor.Library.JsonText
import ConfigAuditor.EffectiveState.Winner

/-!
# Spellings of a value

A value carries the operator's spelling beside its canonical content. The key the resolver
compares values by is the text of all of it, the spelling first, so two values have one key
exactly when both their spellings and their canonical contents are written alike.
-/
namespace ConfigAuditor.EffectiveState.Spelling

open Library SecurityModel Policy Model Resolver JsonText Winner

/-- What an operator wrote for a value. -/
structure Original where
  value : PyValue
  unit : Option String

/-- The value under another spelling. -/
def spell (original : Original) (value : TypedValue) : TypedValue :=
  { value with originalValue := original.value, originalUnit := original.unit }

/-- The canonical content of a value. -/
def bare (value : TypedValue) : TypedValue := spell ⟨.none, none⟩ value

/-- The key of the canonical content alone. -/
def canonicalKey (value : TypedValue) : Except Error String := valueKey (bare value)

@[simp] theorem bare_spell (original : Original) (value : TypedValue) :
    bare (spell original value) = bare value := rfl

@[simp] theorem spell_type (original : Original) (value : TypedValue) :
    (spell original value).type = value.type := rfl

@[simp] theorem spell_value (original : Original) (value : TypedValue) :
    (spell original value).value = value.value := rfl

/-- `None` or a string in JSON. -/
def unitText : Option String → List Char
  | none => "null".toList
  | some unit => PyValue.jsonString unit

theorem encode_optionText (unit : Option String) :
    PyValue.encode true (optionText unit) = .ok (unitText unit) := by
  cases unit <;> rfl

/-- One member of a JSON object. -/
def member (name : String) (text : List Char) : List Char := PyValue.jsonString name ++ ':' :: text

theorem passed_member {name : String} {text : List Char} (h : Passed text) :
    Passed (member name text) := by
  refine (passed_jsonString name).append ?_
  exact (passed_ordinary (ordinary_of_all (by decide : [':'].all ordinary = true))).append h

theorem passed_unitText (unit : Option String) : Passed (unitText unit) := by
  cases unit with
  | none => exact passed_ordinary (ordinary_of_all (by decide))
  | some unit => exact passed_jsonString unit

/-- The canonical content in a key. -/
def contentText (value : TypedValue) (text : List Char) : List Char :=
  member "type" (PyValue.jsonString value.type.text) ++ ',' ::
    (member "unit" (unitText value.unit) ++ ',' :: (member "value" text ++ ['\x7d']))

def keyText (value : TypedValue) (original text : List Char) : List Char :=
  '\x7b' :: (member "original_unit" (unitText value.originalUnit) ++ ',' ::
    (member "original_value" original ++ ',' :: contentText value text))

/-- The spelling comes first in a key: members are in the order of their names. -/
theorem ordered_members (type value unit original originalUnit : List Char) :
    PyValue.ordered true [("type", type), ("value", value), ("unit", unit),
        ("original_value", original), ("original_unit", originalUnit)] =
      [("original_unit", originalUnit), ("original_value", original), ("type", type),
        ("unit", unit), ("value", value)] := by
  have hle : ∀ a ∈ ["original_unit", "original_value", "type", "unit", "value"],
      ∀ b ∈ ["original_unit", "original_value", "type", "unit", "value"],
      (a ≤ b ↔ ["original_unit", "original_value", "type", "unit", "value"].idxOf a ≤
        ["original_unit", "original_value", "type", "unit", "value"].idxOf b) := by decide
  simp only [PyValue.ordered, if_true, List.insertionSort_cons, List.insertionSort_nil,
    List.orderedInsert]
  simp [hle]

theorem valueKey_ok {value : TypedValue} {key : String} :
    valueKey value = .ok key ↔ ∃ original text,
      PyValue.encode true value.originalValue = .ok original ∧
      PyValue.encode true value.value = .ok text ∧
      key.toList = keyText value original text := by
  have htype : PyValue.encode true (.str value.type.text) =
      .ok (PyValue.jsonString value.type.text) := rfl
  have hmembers : ∀ a b c d e : List Char,
      '\x7b' :: PyValue.commaSeparated [a, b, c, d, e] ++ ['\x7d'] =
        '\x7b' :: (a ++ ',' :: (b ++ ',' :: (c ++ ',' :: (d ++ ',' :: (e ++ ['\x7d']))))) := by
    intro a b c d e
    simp [PyValue.commaSeparated, List.intercalate, List.intersperse]
  rw [valueKey, liftM_eq_ok, PyValue.dumps]
  cases horiginal : PyValue.encode true value.originalValue with
  | error e =>
    cases htext : PyValue.encode true value.value <;>
      simp [TypedValue.toDict, PyValue.encode, PyValue.encodeEntries, encode_optionText,
        horiginal, htext, bind, Except.bind, Except.map]
  | ok original =>
    cases htext : PyValue.encode true value.value with
    | error e =>
      simp [TypedValue.toDict, PyValue.encode, PyValue.encodeEntries, htext, bind, Except.bind,
        Except.map]
    | ok text =>
      simp only [TypedValue.toDict, PyValue.encode, PyValue.encodeEntries, encode_optionText,
        horiginal, htext, bind, Except.bind, pure, Except.pure, ordered_members, List.map_cons,
        List.map_nil, hmembers, Except.map, Except.ok.injEq]
      constructor
      · rintro rfl
        exact ⟨original, text, rfl, rfl, by simp [keyText, contentText, member]⟩
      · rintro ⟨_, _, rfl, rfl, hkey⟩
        rw [← String.toList_inj, hkey]
        simp [keyText, contentText, member]

theorem contentText_bare (value : TypedValue) (text : List Char) :
    contentText (bare value) text = contentText value text := rfl

theorem canonicalKey_ok {value : TypedValue} {text : List Char}
    (h : PyValue.encode true value.value = .ok text) :
    canonicalKey value = .ok (String.ofList (keyText (bare value) "null".toList text)) :=
  valueKey_ok.mpr ⟨_, text, rfl, h, by simp⟩

theorem keyText_injective {value other : TypedValue} {original text original' text' : List Char}
    (horiginal : PyValue.encode true value.originalValue = .ok original)
    (horiginal' : PyValue.encode true other.originalValue = .ok original')
    (h : keyText value original text = keyText other original' text') :
    unitText value.originalUnit = unitText other.originalUnit ∧
      contentText value text = contentText other text' := by
  simp only [keyText, List.cons.injEq, true_and] at h
  obtain ⟨hunit, hrest⟩ := passed_comma_cancel (passed_member (passed_unitText _))
    (passed_member (passed_unitText _)) h
  obtain ⟨-, hcontent⟩ := passed_comma_cancel (passed_member (passed_encode _ _ horiginal))
    (passed_member (passed_encode _ _ horiginal')) hrest
  refine ⟨?_, hcontent⟩
  simpa [member] using hunit

/-- Values with one key have one canonical key, and their units are spelled alike. -/
theorem valueKey_congr {value other : TypedValue} {key : String}
    (h : valueKey value = .ok key) (h' : valueKey other = .ok key) :
    unitText value.originalUnit = unitText other.originalUnit ∧
      canonicalKey value = canonicalKey other := by
  obtain ⟨original, text, horiginal, htext, hkey⟩ := valueKey_ok.mp h
  obtain ⟨original', text', horiginal', htext', hkey'⟩ := valueKey_ok.mp h'
  obtain ⟨hunit, hcontent⟩ := keyText_injective horiginal horiginal' (hkey.symm.trans hkey')
  refine ⟨hunit, ?_⟩
  rw [canonicalKey_ok htext, canonicalKey_ok htext', keyText, keyText, contentText_bare,
    contentText_bare, hcontent]
  rfl

/-- A spelling for each number, the shortest first. -/
def tag (n : Nat) : Original := ⟨.none, some (String.ofList (List.replicate n 'a'))⟩

theorem unitText_tag (n : Nat) :
    unitText (tag n).unit = '"' :: (List.replicate n 'a' ++ ['"']) := by
  have hescape : ∀ n, (List.replicate n 'a').flatMap PyValue.escapeChar = List.replicate n 'a' := by
    intro n
    induction n with
    | zero => rfl
    | succ n ih =>
      rw [List.replicate_succ, List.flatMap_cons, ih]
      rfl
  simp only [tag, unitText, PyValue.jsonString, String.toList_ofList, hescape, List.cons_append]

section Tags

variable {value other : TypedValue} {text text' : List Char} {n m : Nat}
  (htext : PyValue.encode true value.value = .ok text)
  (htext' : PyValue.encode true other.value = .ok text')

include htext

theorem valueKey_tag : valueKey (spell (tag n) value) =
    .ok (String.ofList (keyText (spell (tag n) value) "null".toList text)) :=
  valueKey_ok.mpr ⟨_, text, rfl, htext, by simp⟩

include htext'

/-- Values spelled by numbers have one key when number and canonical content are the same. -/
theorem valueKey_tag_iff : valueKey (spell (tag n) value) = valueKey (spell (tag m) other) ↔
    n = m ∧ canonicalKey value = canonicalKey other := by
  rw [valueKey_tag htext, valueKey_tag htext', canonicalKey_ok htext, canonicalKey_ok htext',
    Except.ok.injEq, Except.ok.injEq, String.ofList_inj, String.ofList_inj]
  constructor
  · intro h
    obtain ⟨hunit, hcontent⟩ := keyText_injective rfl rfl h
    have hlength := congrArg List.length hunit
    simp only [spell, unitText_tag, List.length_cons, List.length_append,
      List.length_replicate] at hlength
    refine ⟨by omega, ?_⟩
    have hbare : contentText (bare value) text = contentText (bare other) text' := hcontent
    rw [keyText, keyText, hbare]
    rfl
  · rintro ⟨rfl, h⟩
    obtain ⟨-, hcontent⟩ := keyText_injective rfl rfl h
    have hspelled : contentText (spell (tag n) value) text =
        contentText (spell (tag n) other) text' := hcontent
    rw [keyText, keyText, hspelled]
    rfl

/-- The value spelled by zero has the least key. -/
theorem valueKey_tag_lt (hm : 0 < m) {key key' : String}
    (hkey : valueKey (spell (tag 0) value) = .ok key)
    (hkey' : valueKey (spell (tag m) other) = .ok key') : key < key' := by
  rw [valueKey_tag htext, Except.ok.injEq] at hkey
  rw [valueKey_tag htext', Except.ok.injEq] at hkey'
  obtain ⟨k, rfl⟩ : ∃ k, m = k + 1 := ⟨m - 1, by omega⟩
  subst hkey hkey'
  have hfront : ∀ before after after' : List Char, after < after' →
      before ++ after < before ++ after' := by
    intro before after after' hlt
    induction before with
    | nil => exact hlt
    | cons c before ih => exact List.cons_lt_cons_iff.mpr (.inr ⟨rfl, ih⟩)
  have hsplit : ∀ n (value : TypedValue) (text : List Char), ∃ rest,
      keyText (spell (tag n) value) "null".toList text =
        '\x7b' :: (PyValue.jsonString "original_unit" ++ [':', '"']) ++
          (List.replicate n 'a' ++ '"' :: rest) := by
    intro n value text
    refine ⟨',' :: (member "original_value" "null".toList ++ ',' ::
      contentText (spell (tag n) value) text), ?_⟩
    have hunit : (spell (tag n) value).originalUnit = (tag n).unit := rfl
    rw [keyText, hunit, member, unitText_tag]
    simp
  obtain ⟨rest, hleft⟩ := hsplit 0 value text
  obtain ⟨rest', hright⟩ := hsplit (k + 1) other text'
  rw [hleft, hright, String.lt_iff_toList_lt, String.toList_ofList, String.toList_ofList]
  refine hfront _ _ _ ?_
  exact List.cons_lt_cons_iff.mpr (.inl (by decide))

end Tags

end ConfigAuditor.EffectiveState.Spelling
