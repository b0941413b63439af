import Mathlib.Algebra.GroupWithZero.Nat
import Mathlib.Data.List.Basic

/-!
# The first bytes of a UTF-8 text

The first bytes of an encoded text are decoded exactly when they end where a character
ends, and then they are the encoding of the first characters.
-/
namespace ConfigAuditor.Library.Utf8

/-- The number of bytes characters take. -/
def byteLength (cs : List Char) : Nat := (cs.map Char.utf8Size).sum

@[simp] theorem byteLength_nil : byteLength [] = 0 := rfl

theorem byteLength_cons (c : Char) (cs : List Char) :
    byteLength (c :: cs) = c.utf8Size + byteLength cs := by
  simp [byteLength]

theorem byteLength_append (cs ds : List Char) :
    byteLength (cs ++ ds) = byteLength cs + byteLength ds := by
  simp [byteLength]

theorem byteLength_eq_zero {cs : List Char} : byteLength cs = 0 ↔ cs = [] := by
  cases cs with
  | nil => simp
  | cons c cs =>
    have := c.utf8Size_pos
    simp only [byteLength_cons, reduceCtorEq, iff_false]
    omega

theorem size_utf8Encode (cs : List Char) : cs.utf8Encode.size = byteLength cs := by
  induction cs with
  | nil => simp
  | cons c cs ih =>
    rw [List.utf8Encode_cons, ByteArray.size_append, ih, byteLength_cons, List.utf8Encode_singleton,
      List.size_toByteArray, String.length_utf8EncodeChar]

/-- An encoding that begins with the encoding of characters is that of a text beginning with them. -/
theorem utf8Encode_prefix {cs ds : List Char} {rest : ByteArray}
    (h : cs.utf8Encode ++ rest = ds.utf8Encode) : ∃ es, ds = cs ++ es ∧ rest = es.utf8Encode := by
  induction cs generalizing ds with
  | nil => exact ⟨ds, rfl, by simpa using h⟩
  | cons c cs ih =>
    cases ds with
    | nil =>
      have hsize := congrArg ByteArray.size h
      rw [ByteArray.size_append, size_utf8Encode, byteLength_cons] at hsize
      have hpos := c.utf8Size_pos
      simp at hsize
      omega
    | cons d ds =>
      rw [List.utf8Encode_cons, ByteArray.append_assoc, List.utf8Encode_cons (l := ds)] at h
      have hchar := congrArg (fun bytes => bytes.utf8DecodeChar? 0) h
      simp only [List.utf8DecodeChar?_utf8Encode_singleton_append, Option.some.injEq] at hchar
      subst hchar
      rw [ByteArray.append_right_inj] at h
      obtain ⟨es, rfl, hrest⟩ := ih h
      exact ⟨es, rfl, hrest⟩

theorem toUTF8_eq (s : String) : s.toUTF8 = s.toList.utf8Encode := by
  rw [String.toUTF8_eq_toByteArray, String.utf8Encode_toList]

theorem fromUTF8?_eq_some_iff {bytes : ByteArray} {s : String} :
    String.fromUTF8? bytes = some s ↔ bytes = s.toUTF8 := by
  unfold String.fromUTF8?
  constructor
  · intro h
    split at h
    · rw [← Option.some.inj h]
      rfl
    · cases h
  · rintro rfl
    rw [dif_pos]
    rfl

/-- The first `n` bytes end where a character ends. -/
def CutBetween (cs : List Char) (n : Nat) : Prop :=
  byteLength cs ≤ n ∨ ∃ k, byteLength (cs.take k) = n

theorem extract_all {bytes : ByteArray} {n : Nat} (h : bytes.size ≤ n) : bytes.extract 0 n = bytes := by
  refine ByteArray.ext ?_
  rw [ByteArray.data_extract]
  exact Array.extract_eq_self_of_le (by rwa [ByteArray.size_data])

/-- What is decoded of the first bytes is the beginning of the text, up to the last byte. -/
theorem fromUTF8?_extract {s t : String} {n : Nat}
    (h : String.fromUTF8? (s.toUTF8.extract 0 n) = some t) :
    ∃ rest, s.toList = t.toList ++ rest ∧ (rest = [] ∨ byteLength t.toList = n) := by
  rw [fromUTF8?_eq_some_iff, toUTF8_eq, toUTF8_eq] at h
  have hwhole : t.toList.utf8Encode ++ s.toList.utf8Encode.extract n s.toList.utf8Encode.size =
      s.toList.utf8Encode := by
    rw [← h]
    by_cases hn : n ≤ s.toList.utf8Encode.size
    · rw [← ByteArray.extract_eq_extract_append_extract n (Nat.zero_le n) hn,
        ByteArray.extract_zero_size]
    · rw [extract_all (by omega), ByteArray.extract_eq_empty_iff.mpr (by omega), ByteArray.append_empty]
  obtain ⟨rest, hrest, -⟩ := utf8Encode_prefix hwhole
  refine ⟨rest, hrest, ?_⟩
  have hsize := congrArg ByteArray.size h
  rw [ByteArray.size_extract, size_utf8Encode, size_utf8Encode, Nat.sub_zero] at hsize
  have hlength := congrArg byteLength hrest
  rw [byteLength_append] at hlength
  by_cases hn : n ≤ byteLength s.toList
  · exact .inr (by omega)
  · exact .inl (byteLength_eq_zero.mp (by omega))

theorem exists_fromUTF8?_extract {s : String} {n : Nat} (h : CutBetween s.toList n) :
    ∃ t, String.fromUTF8? (s.toUTF8.extract 0 n) = some t := by
  obtain hall | ⟨k, hk⟩ := h
  · refine ⟨s, fromUTF8?_eq_some_iff.mpr ?_⟩
    rw [toUTF8_eq, extract_all (by rwa [size_utf8Encode])]
  · refine ⟨String.ofList (s.toList.take k), fromUTF8?_eq_some_iff.mpr ?_⟩
    rw [toUTF8_eq, toUTF8_eq, String.toList_ofList]
    conv_lhs => rw [← List.take_append_drop k s.toList, List.utf8Encode_append]
    exact ByteArray.extract_append_eq_left (by rw [size_utf8Encode, hk])

theorem cutBetween_of_fromUTF8? {s t : String} {n : Nat}
    (h : String.fromUTF8? (s.toUTF8.extract 0 n) = some t) : CutBetween s.toList n := by
  obtain ⟨rest, hrest, hend⟩ := fromUTF8?_extract h
  obtain rfl | hend := hend
  · have hsize := congrArg ByteArray.size (fromUTF8?_eq_some_iff.mp h)
    rw [toUTF8_eq, toUTF8_eq, hrest, List.append_nil, ByteArray.size_extract, size_utf8Encode] at hsize
    exact .inl (by rw [hrest, List.append_nil]; omega)
  · exact .inr ⟨t.toList.length, by rw [hrest, List.take_left', hend]; rfl⟩

end ConfigAuditor.Library.Utf8
