import Mathlib.Data.List.Perm.Basic
import Mathlib.Data.Set.List
import ConfigAuditor.Library.Dict
import ConfigAuditor.Library.Value

/-!
# Values that went through a JSON column

A value that is written as JSON and loaded again is the same value, but a JSON object
may come back with its members in another order.
-/
namespace ConfigAuditor.Library

/-- A value after a JSON round trip: the members of an object may be permuted. -/
inductive JsonCopy : PyValue → PyValue → Prop where
  | same (v : PyValue) : JsonCopy v v
  | list {items copies : List PyValue} (hitems : List.Forall₂ JsonCopy items copies) :
      JsonCopy (.list items) (.list copies)
  | dict {entries copies loaded : List (String × PyValue)}
      (hkeys : copies.map (·.1) = entries.map (·.1))
      (hvalues : List.Forall₂ JsonCopy (entries.map (·.2)) (copies.map (·.2)))
      (hperm : copies.Perm loaded) : JsonCopy (.dict entries) (.dict loaded)

namespace Dict

variable {κ β : Type*} [DecidableEq κ]

/-- With its keys distinct, a dictionary holds an entry exactly where it looks it up. -/
theorem get?_eq_some_iff {entries : List (κ × β)} (hkeys : (entries.map (·.1)).Nodup) {key : κ}
    {value : β} : get? entries key = some value ↔ (key, value) ∈ entries := by
  refine ⟨mem_of_get?, fun hmem => ?_⟩
  induction entries with
  | nil => cases hmem
  | cons p rest ih =>
    obtain ⟨k, v⟩ := p
    obtain ⟨hnew, hrest⟩ := List.nodup_cons.mp hkeys
    rw [get?_cons]
    obtain heq | hmem := List.mem_cons.mp hmem
    · obtain ⟨rfl, rfl⟩ := Prod.mk.inj heq
      rw [if_pos rfl]
    · have hne : k ≠ key := by
        intro heq
        rw [heq] at hnew
        exact hnew (List.mem_map.mpr ⟨_, hmem, rfl⟩)
      rw [if_neg hne]
      exact ih hrest hmem

theorem get?_isSome_iff {entries : List (κ × β)} {key : κ} :
    (get? entries key).isSome = true ↔ key ∈ entries.map (·.1) := by
  simp [get?]

/-- Looking up does not depend on the order of the entries. -/
theorem get?_perm {entries entries' : List (κ × β)} (hkeys : (entries.map (·.1)).Nodup)
    (hperm : entries.Perm entries') (key : κ) : get? entries' key = get? entries key := by
  have hkeys' : (entries'.map (·.1)).Nodup := (hperm.map _).nodup_iff.mp hkeys
  refine Option.ext fun value => ?_
  rw [get?_eq_some_iff hkeys', get?_eq_some_iff hkeys]
  exact hperm.mem_iff.symm

end Dict

namespace JsonCopy

theorem str_eq {s : String} {v : PyValue} (h : JsonCopy (.str s) v) : v = .str s := by
  cases h with
  | same => rfl

theorem int_eq {i : Int} {v : PyValue} (h : JsonCopy (.int i) v) : v = .int i := by
  cases h with
  | same => rfl

theorem get?_of_values {entries copies : List (String × PyValue)}
    (hkeys : copies.map (·.1) = entries.map (·.1))
    (hvalues : List.Forall₂ JsonCopy (entries.map (·.2)) (copies.map (·.2))) {key : String}
    {v : PyValue} (h : Dict.get? entries key = some v) :
    ∃ w, Dict.get? copies key = some w ∧ JsonCopy v w := by
  induction entries generalizing copies with
  | nil => cases h
  | cons p rest ih =>
    cases copies with
    | nil => cases hkeys
    | cons q copies =>
      obtain ⟨k, value⟩ := p
      obtain ⟨k', value'⟩ := q
      obtain ⟨hkey, hrest⟩ := List.cons.inj hkeys
      obtain rfl : k' = k := hkey
      obtain ⟨hvalue, hvalues⟩ := List.forall₂_cons.mp hvalues
      rw [Dict.get?_cons] at h ⊢
      split at h
      · rename_i hkey
        obtain rfl := Option.some.inj h
        exact ⟨value', if_pos hkey, hvalue⟩
      · rename_i hkey
        rw [if_neg hkey]
        exact ih hrest hvalues h

/-- A copy of a dictionary is a dictionary that holds a copy of each member. -/
theorem get? {entries : List (String × PyValue)} {v : PyValue}
    (hkeys : (entries.map (·.1)).Nodup) (h : JsonCopy (.dict entries) v) :
    ∃ loaded, v = .dict loaded ∧ loaded.length = entries.length ∧
      ∀ key value, Dict.get? entries key = some value →
        ∃ copy, Dict.get? loaded key = some copy ∧ JsonCopy value copy := by
  cases h with
  | same => exact ⟨entries, rfl, rfl, fun key value hget => ⟨value, hget, .same value⟩⟩
  | @dict _ copies loaded hcopied hvalues hperm =>
    refine ⟨loaded, rfl, ?_, fun key value hget => ?_⟩
    · have hlength := congrArg List.length hcopied
      rw [List.length_map, List.length_map] at hlength
      rw [← hperm.length_eq, hlength]
    · obtain ⟨copy, hcopy, hsame⟩ := get?_of_values hcopied hvalues hget
      exact ⟨copy, by rw [Dict.get?_perm (hcopied ▸ hkeys) hperm, hcopy], hsame⟩

/-- An entry of a dictionary of texts. -/
def textEntry (p : String × String) : String × PyValue := (p.1, .str p.2)

theorem texts_copied {values : List (String × String)} {copies : List (String × PyValue)}
    (hkeys : copies.map (·.1) = (values.map textEntry).map (·.1))
    (hvalues : List.Forall₂ JsonCopy ((values.map textEntry).map (·.2)) (copies.map (·.2))) :
    copies = values.map textEntry := by
  induction values generalizing copies with
  | nil => exact List.map_eq_nil_iff.mp hkeys
  | cons p rest ih =>
    cases copies with
    | nil => cases hkeys
    | cons q copies =>
      obtain ⟨hkey, hkeys⟩ := List.cons.inj hkeys
      obtain ⟨hvalue, hvalues⟩ := List.forall₂_cons.mp hvalues
      rw [List.map_cons, ← ih hkeys hvalues]
      exact congrArg (· :: copies) (Prod.ext hkey hvalue.str_eq)

theorem textEntry_injective : Function.Injective textEntry := by
  intro p q h
  obtain ⟨hkey, hvalue⟩ := Prod.mk.inj h
  exact Prod.ext hkey (PyValue.str.inj hvalue)

/-- A copy of a dictionary of texts is a dictionary of the same texts. -/
theorem texts {values : List (String × String)} {v : PyValue}
    (h : JsonCopy (.dict (values.map textEntry)) v) :
    ∃ loaded : List (String × String), v = .dict (loaded.map textEntry) ∧ values.Perm loaded := by
  cases h with
  | same => exact ⟨values, rfl, .refl _⟩
  | @dict _ copies loaded hcopied hvalues hperm =>
    rw [texts_copied hcopied hvalues] at hperm
    have hrange : loaded ∈ Set.range (List.map textEntry) := by
      rw [Set.range_list_map]
      intro p hp
      obtain ⟨q, -, hq⟩ := List.mem_map.mp (hperm.mem_iff.mpr hp)
      exact ⟨q, hq⟩
    obtain ⟨loaded', rfl⟩ := hrange
    exact ⟨loaded', rfl, (List.map_perm_map_iff textEntry_injective).mp hperm⟩

end JsonCopy

end ConfigAuditor.Library
