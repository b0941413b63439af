import Mathlib.Data.List.GetD
import Mathlib.Data.List.Induction
import Mathlib.Data.List.Nodup
import Mathlib.Tactic.Ring
import ConfigAuditor.Library.IpAddress
import ConfigAuditor.Library.Splitting

/-!
# The texts of addresses and networks

An address is read back from the text that is written for it, and a network that is
written from a text is written from its own text again: the normal forms of
`ipaddress` are fixed by it.
-/
namespace ConfigAuditor.Library.IpAddress

open Text

/-! ## Octets and IPv4 addresses -/

theorem parseOctet_toString : ∀ n < 256, parseOctet (toString n).toList = some n := by
  decide +kernel

theorem v4Text_toList (n : Nat) :
    (v4Text n).toList = ['.'].intercalate [(toString (n / 16777216 % 256)).toList,
      (toString (n / 65536 % 256)).toList, (toString (n / 256 % 256)).toList,
      (toString (n % 256)).toList] := toList_join '.' _

theorem mem_intercalate {sep c : Char} {parts : List (List Char)}
    (h : c ∈ [sep].intercalate parts) : c = sep ∨ ∃ part ∈ parts, c ∈ part := by
  induction parts with
  | nil => cases h
  | cons part parts ih =>
    cases parts with
    | nil =>
      rw [List.intercalate_singleton] at h
      exact .inr ⟨part, List.mem_cons_self, h⟩
    | cons next parts =>
      rw [List.intercalate_cons_cons, List.mem_append, List.mem_append, List.mem_singleton] at h
      obtain (h | h) | h := h
      · exact .inr ⟨part, List.mem_cons_self, h⟩
      · exact .inl h
      · obtain h | ⟨other, hother, hc⟩ := ih h
        · exact .inl h
        · exact .inr ⟨other, List.mem_cons_of_mem _ hother, hc⟩

/-- An IPv4 text has digits and dots. -/
theorem mem_v4Text {n : Nat} {c : Char} (h : c ∈ (v4Text n).toList) :
    isAsciiDigit c = true ∨ c = '.' := by
  rw [v4Text_toList] at h
  obtain rfl | ⟨part, hpart, hc⟩ := mem_intercalate h
  · exact .inr rfl
  · simp only [List.mem_cons, List.not_mem_nil, or_false] at hpart
    obtain rfl | rfl | rfl | rfl := hpart <;>
      exact .inl (Bool.of_not_eq_false fun hdigit => not_mem_toString _ hdigit hc)

theorem parseV4_v4Text {n : Nat} (h : n < 2 ^ 32) : parseV4 (v4Text n).toList = some n := by
  unfold parseV4
  rw [v4Text_toList, splitAll_intercalate (by simp)]
  · dsimp only
    rw [parseOctet_toString _ (Nat.mod_lt _ (by omega)),
      parseOctet_toString _ (Nat.mod_lt _ (by omega)),
      parseOctet_toString _ (Nat.mod_lt _ (by omega)),
      parseOctet_toString _ (Nat.mod_lt _ (by omega))]
    change some _ = some _
    congr 1
    omega
  · intro part hpart
    simp only [List.mem_cons, List.not_mem_nil, or_false] at hpart
    obtain rfl | rfl | rfl | rfl := hpart <;> exact not_mem_toString _ (by decide)

theorem parseOctet_lt {cs : List Char} {n : Nat} (h : parseOctet cs = some n) :
    n < 256 ∧ ∀ c ∈ cs, isAsciiDigit c = true := by
  unfold parseOctet at h
  split at h
  · cases h
  · rename_i hchecked
    split at h
    · cases h
    · split at h
      · cases h
      · obtain rfl := Option.some.inj h
        simp only [Bool.or_eq_true, Bool.not_eq_true', not_or, Bool.not_eq_false] at hchecked
        exact ⟨by omega, List.all_eq_true.mp hchecked.1.2⟩

/-- An IPv4 address has 32 bits, and its text digits and dots. -/
theorem parseV4_spec {cs : List Char} {n : Nat} (h : parseV4 cs = some n) :
    n < 2 ^ 32 ∧ ∀ c ∈ cs, isAsciiDigit c = true ∨ c = '.' := by
  unfold parseV4 at h
  split at h
  · rename_i a b c d hsplit
    simp only [bind, Option.bind_eq_some_iff, pure, Option.some.injEq] at h
    obtain ⟨w, hw, x, hx, y, hy, z, hz, rfl⟩ := h
    obtain ⟨hwlt, hwdigits⟩ := parseOctet_lt hw
    obtain ⟨hxlt, hxdigits⟩ := parseOctet_lt hx
    obtain ⟨hylt, hydigits⟩ := parseOctet_lt hy
    obtain ⟨hzlt, hzdigits⟩ := parseOctet_lt hz
    refine ⟨by omega, fun e he => ?_⟩
    by_cases hdot : e = '.'
    · exact .inr hdot
    · refine .inl ?_
      obtain ⟨part, hpart, hmem⟩ := exists_part hdot he
      rw [hsplit] at hpart
      simp only [List.mem_cons, List.not_mem_nil, or_false] at hpart
      obtain rfl | rfl | rfl | rfl := hpart
      · exact hwdigits e hmem
      · exact hxdigits e hmem
      · exact hydigits e hmem
      · exact hzdigits e hmem
  · cases h

/-! ## Hextets -/

theorem hexValue_digitChar : ∀ d < 16, hexValue (Nat.digitChar d) = some d := by decide

theorem hexDigit_free : ∀ d < 16, Nat.digitChar d ≠ ':' ∧ Nat.digitChar d ≠ '.' ∧
    Nat.digitChar d ≠ '%' ∧ Nat.digitChar d ≠ '/' ∧ 32 ≤ (Nat.digitChar d).toNat := by decide

/-- The last digit comes off the end of a hexadecimal numeral. -/
theorem hexText_step (n : Nat) :
    hexText n = (if n < 16 then [] else hexText (n / 16)) ++ [Nat.digitChar (n % 16)] := by
  unfold hexText
  rw [Nat.toDigits_eq_if (by omega)]
  split
  · simp [Nat.mod_eq_of_lt ‹n < 16›]
  · rfl

theorem hexText_ne_nil (n : Nat) : hexText n ≠ [] := by
  rw [hexText_step]
  simp

theorem hexText_length_le {n k : Nat} (hk : 1 ≤ k) (h : n < 16 ^ k) : (hexText n).length ≤ k := by
  induction k generalizing n with
  | zero => omega
  | succ k ih =>
    rw [hexText_step]
    split
    · simp
    · rename_i hn
      have hk' : 1 ≤ k := by
        cases k with
        | zero => omega
        | succ k => omega
      have hrec := ih (n := n / 16) hk' (by rw [Nat.pow_succ] at h; omega)
      rw [List.length_append, List.length_singleton]
      omega

/-- What holds of the sixteen digits holds of every character of a numeral. -/
theorem hexText_all {p : Char → Prop} (hdigit : ∀ d < 16, p (Nat.digitChar d)) {n : Nat} {c : Char}
    (h : c ∈ hexText n) : p c := by
  induction n using Nat.strong_induction_on with
  | _ n ih =>
    rw [hexText_step, List.mem_append, List.mem_singleton] at h
    obtain h | rfl := h
    · split at h
      · cases h
      · exact ih (n / 16) (by omega) h
    · exact hdigit _ (Nat.mod_lt _ (by omega))

theorem mem_hexText {n : Nat} {c : Char} (h : c ∈ hexText n) :
    c ≠ ':' ∧ c ≠ '.' ∧ c ≠ '%' ∧ c ≠ '/' ∧ 32 ≤ c.toNat :=
  hexText_all (p := fun c => c ≠ ':' ∧ c ≠ '.' ∧ c ≠ '%' ∧ c ≠ '/' ∧ 32 ≤ c.toNat) hexDigit_free h

theorem foldlM_hexText (n : Nat) :
    (hexText n).foldlM (fun n c => (hexValue c).map (16 * n + ·)) 0 = some n := by
  induction n using Nat.strong_induction_on with
  | _ n ih =>
    rw [hexText_step, List.foldlM_append]
    split
    · rename_i hn
      simp [Nat.mod_eq_of_lt hn, hexValue_digitChar n hn]
    · rw [ih (n / 16) (by omega)]
      simp [hexValue_digitChar _ (Nat.mod_lt n (by omega : 16 > 0))]
      omega

theorem parseHextet_hexText {h : Nat} (hh : h < 65536) : parseHextet (hexText h) = some h := by
  have hlength := hexText_length_le (n := h) (k := 4) (by omega) (by omega)
  have hempty : (hexText h).isEmpty = false := List.isEmpty_eq_false_iff.mpr (hexText_ne_nil h)
  unfold parseHextet
  rw [hempty, if_neg (by simp; omega)]
  exact foldlM_hexText h

/-- The number of a list of hextets. -/
def hextetsValue (hs : List Nat) : Nat := hs.foldl (fun n h => 65536 * n + h) 0

theorem hextetsValue_append (front back : List Nat) :
    hextetsValue (front ++ back) =
      hextetsValue front * 65536 ^ back.length + hextetsValue back := by
  induction back using List.reverseRecOn with
  | nil => simp [hextetsValue]
  | append_singleton back h ih =>
    unfold hextetsValue at ih ⊢
    rw [← List.append_assoc, List.foldl_append, ih, List.foldl_append, List.length_append,
      List.length_singleton, Nat.pow_succ, List.foldl_cons, List.foldl_nil, List.foldl_cons,
      List.foldl_nil]
    ring

theorem hextetsValue_replicate (run : Nat) : hextetsValue (List.replicate run 0) = 0 := by
  induction run with
  | zero => rfl
  | succ run ih =>
    rw [List.replicate_succ', hextetsValue_append, ih]
    rfl

theorem parseHextets_hexText {hs : List Nat} (h : ∀ x ∈ hs, x < 65536) :
    parseHextets (hs.map hexText) = some (hextetsValue hs) := by
  induction hs using List.reverseRecOn with
  | nil => rfl
  | append_singleton hs x ih =>
    have hfront := ih fun y hy => h y (List.mem_append_left _ hy)
    have hlast := parseHextet_hexText (h x (by simp))
    unfold parseHextets at hfront ⊢
    rw [List.map_append, List.foldlM_append, hfront]
    simp [hlast, hextetsValue]

theorem parseHextet_lt {cs : List Char} {n : Nat} (h : parseHextet cs = some n) : n < 65536 := by
  unfold parseHextet at h
  split at h
  · cases h
  · rename_i hchecked
    simp only [Bool.or_eq_true, decide_eq_true_eq, not_or, not_lt] at hchecked
    have hlt : ∀ (cs : List Char) (m : Nat),
        cs.foldlM (fun n c => (hexValue c).map (16 * n + ·)) 0 = some m → m < 16 ^ cs.length := by
      intro cs
      induction cs using List.reverseRecOn with
      | nil =>
        intro m hm
        obtain rfl := Option.some.inj hm
        exact Nat.one_pos
      | append_singleton cs c ih =>
        intro m hm
        rw [List.foldlM_append] at hm
        obtain ⟨front, hfront, hm⟩ := Option.bind_eq_some_iff.mp hm
        obtain ⟨last, hlast, hm⟩ := Option.bind_eq_some_iff.mp hm
        obtain rfl := Option.some.inj hm
        obtain ⟨digit, hdigit, rfl⟩ := Option.map_eq_some_iff.mp hlast
        have hd : digit < 16 := by
          unfold hexValue at hdigit
          dsimp only at hdigit
          split at hdigit
          · rename_i hc
            simp only [Bool.and_eq_true, decide_eq_true_eq] at hc
            have := Option.some.inj hdigit
            omega
          · split at hdigit
            · rename_i hc
              simp only [Bool.and_eq_true, decide_eq_true_eq] at hc
              have := Option.some.inj hdigit
              omega
            · split at hdigit
              · rename_i hc
                simp only [Bool.and_eq_true, decide_eq_true_eq] at hc
                have := Option.some.inj hdigit
                omega
              · cases hdigit
        have hrec := ih front hfront
        rw [List.length_append, List.length_singleton, Nat.pow_succ]
        omega
    have hbound := hlt cs n h
    have hpow : 16 ^ cs.length ≤ 16 ^ 4 := Nat.pow_le_pow_right (by omega) hchecked.2
    omega

theorem parseHextets_lt {parts : List (List Char)} {n : Nat} (h : parseHextets parts = some n) :
    n < 65536 ^ parts.length := by
  unfold parseHextets at h
  induction parts using List.reverseRecOn generalizing n with
  | nil =>
    obtain rfl := Option.some.inj h
    exact Nat.one_pos
  | append_singleton parts part ih =>
    rw [List.foldlM_append] at h
    obtain ⟨front, hfront, h⟩ := Option.bind_eq_some_iff.mp h
    obtain ⟨last, hlast, h⟩ := Option.bind_eq_some_iff.mp h
    obtain rfl := Option.some.inj h
    obtain ⟨hextet, hhextet, rfl⟩ := Option.map_eq_some_iff.mp hlast
    have hrec := ih hfront
    have hlt := parseHextet_lt hhextet
    rw [List.length_append, List.length_singleton, Nat.pow_succ]
    omega

/-- The eight hextets of a 128-bit number have its value. -/
theorem hextetsValue_hextets {n : Nat} (h : n < 2 ^ 128) : hextetsValue (hextets n) = n := by
  unfold hextets hextetsValue
  simp only [List.range_succ, List.range_zero, List.nil_append, List.cons_append, List.map_cons,
    List.map_nil, List.foldl_cons, List.foldl_nil]
  omega

theorem hextets_lt {n x : Nat} (h : x ∈ hextets n) : x < 65536 := by
  unfold hextets at h
  obtain ⟨i, -, rfl⟩ := List.mem_map.mp h
  exact Nat.mod_lt _ (by omega)

theorem length_hextets (n : Nat) : (hextets n).length = 8 := by
  rw [hextets, List.length_map, List.length_range]

/-! ## The longest run of zeros -/

theorem zeroRun_spec (hs : List Nat) :
    hs = List.replicate (zeroRun hs) 0 ++ hs.drop (zeroRun hs) := by
  induction hs with
  | nil => rfl
  | cons h hs ih =>
    unfold zeroRun at ih ⊢
    by_cases hzero : h = 0
    · subst hzero
      rw [List.takeWhile_cons_of_pos rfl, List.length_cons, List.replicate_succ, List.drop_succ_cons,
        List.cons_append, ← ih]
    · rw [List.takeWhile_cons_of_neg (by simpa using hzero)]
      rfl

/-- The run that is found is a run of zeros. -/
theorem longestRun_le (hs : List Nat) : (longestRun hs).2 ≤ zeroRun (hs.drop (longestRun hs).1) := by
  unfold longestRun
  have hfold : ∀ (indices : List Nat) (best : Nat × Nat), best.2 ≤ zeroRun (hs.drop best.1) →
      (indices.foldl (fun best i =>
        let run := zeroRun (hs.drop i)
        if best.2 < run then (i, run) else best) best).2 ≤
      zeroRun (hs.drop (indices.foldl (fun best i =>
        let run := zeroRun (hs.drop i)
        if best.2 < run then (i, run) else best) best).1) := by
    intro indices
    induction indices with
    | nil => exact fun best hbest => hbest
    | cons i indices ih =>
      intro best hbest
      rw [List.foldl_cons]
      apply ih
      dsimp only
      split
      · exact le_rfl
      · exact hbest
  exact hfold _ _ (Nat.zero_le _)

/-- A list around its longest run of zeros. -/
theorem longestRun_split (hs : List Nat) :
    hs = hs.take (longestRun hs).1 ++ List.replicate (longestRun hs).2 0 ++
      hs.drop ((longestRun hs).1 + (longestRun hs).2) := by
  have hle := longestRun_le hs
  generalize longestRun hs = best at hle
  obtain ⟨start, run⟩ := best
  dsimp only at hle ⊢
  have hzeros := zeroRun_spec (hs.drop start)
  obtain ⟨more, hmore⟩ := Nat.exists_eq_add_of_le hle
  rw [hmore, List.replicate_add, List.append_assoc] at hzeros
  have hdrop : (hs.drop start).drop run =
      List.replicate more 0 ++ (hs.drop start).drop (run + more) := by
    conv_lhs => rw [hzeros]
    rw [List.drop_left' (List.length_replicate)]
  rw [← List.drop_drop, hdrop, List.append_assoc, ← hzeros, List.take_append_drop]

/-! ## IPv6 addresses -/

theorem joinHextets_toList (hs : List Nat) :
    (joinHextets hs).toList = [':'].intercalate (hs.map hexText) := by
  have hparts : (hs.map fun h => String.ofList (hexText h)).map String.toList = hs.map hexText := by
    rw [List.map_map]
    exact List.map_congr_left fun h _ => String.toList_ofList
  rw [← hparts]
  exact toList_join ':' _

/-- The parts of a side of `::`, which is one empty part where it has no hextets. -/
def side (hs : List Nat) : List (List Char) := if hs.isEmpty then [[]] else hs.map hexText

theorem side_nil : side [] = [[]] := rfl

theorem side_cons (h : Nat) (hs : List Nat) : side (h :: hs) = (h :: hs).map hexText := rfl

theorem side_ne_nil (hs : List Nat) : side hs ≠ [] := by
  cases hs with
  | nil => simp [side_nil]
  | cons h hs => simp [side_cons]

theorem splitAll_side (hs : List Nat) :
    splitAll ':' ([':'].intercalate (hs.map hexText)) = side hs := by
  cases hs with
  | nil => rfl
  | cons h hs =>
    rw [side_cons, splitAll_intercalate (by simp)]
    intro part hpart
    obtain ⟨x, -, rfl⟩ := List.mem_map.mp hpart
    exact fun hmem => (mem_hexText hmem).1 rfl

/-- Empty parts are found at the ends of a side only. -/
theorem side_getD_isEmpty {hs : List Nat} {i : Nat} (hi : i < (side hs).length)
    (hempty : ((side hs).getD i []).isEmpty = true) : hs = [] ∧ i = 0 := by
  cases hs with
  | nil =>
    rw [side_nil, List.length_singleton] at hi
    exact ⟨rfl, by omega⟩
  | cons h hs =>
    rw [side_cons, List.length_map] at hi
    rw [side_cons, List.getD_eq_getElem _ _ (by rwa [List.length_map]), List.getElem_map,
      List.isEmpty_iff] at hempty
    exact absurd hempty (hexText_ne_nil _)

theorem filter_range_eq_singleton {n k : Nat} {p : Nat → Bool} (hk : k < n) (hp : p k = true)
    (hunique : ∀ i < n, p i = true → i = k) : (List.range n).filter p = [k] := by
  apply List.perm_singleton.mp
  apply (List.perm_ext_iff_of_nodup (List.nodup_range.filter _) (List.nodup_singleton _)).mpr
  intro i
  rw [List.mem_filter, List.mem_range, List.mem_singleton]
  constructor
  · exact fun ⟨hi, hpi⟩ => hunique i hi hpi
  · rintro rfl
    exact ⟨hk, hp⟩

/-- The one empty part away from the ends is the one between the colons of `::`. -/
theorem skipIndex_sides (front back : List Nat) :
    skipIndex (side front ++ [] :: side back) = some (some (side front).length) := by
  have hfront := List.length_pos_iff.mpr (side_ne_nil front)
  have hback := List.length_pos_iff.mpr (side_ne_nil back)
  have hlength : (side front ++ [] :: side back).length =
      (side front).length + 1 + (side back).length := by
    rw [List.length_append, List.length_cons]
    omega
  unfold skipIndex
  rw [filter_range_eq_singleton (k := (side front).length)]
  · rw [hlength]
    omega
  · rw [hlength, List.getD_append_right _ _ _ _ le_rfl, Nat.sub_self]
    simp
    omega
  · intro i hi hp
    simp only [Bool.and_eq_true, decide_eq_true_eq] at hp
    obtain ⟨⟨hpos, hend⟩, hempty⟩ := hp
    rw [hlength] at hi hend
    by_contra hne
    by_cases hlt : i < (side front).length
    · rw [List.getD_append _ _ _ _ hlt] at hempty
      have := (side_getD_isEmpty hlt hempty).2
      omega
    · obtain ⟨j, rfl⟩ : ∃ j, i = (side front).length + (j + 1) :=
        ⟨i - (side front).length - 1, by omega⟩
      rw [List.getD_append_right _ _ _ _ (Nat.le_add_right _ _), Nat.add_sub_cancel_left,
        List.getD_cons_succ] at hempty
      obtain ⟨rfl, rfl⟩ := side_getD_isEmpty (by omega) hempty
      rw [side_nil, List.length_singleton] at hend
      omega

/-- The hextets of a side, counted without the empty part of a side that has none. -/
theorem side_length (hs : List Nat) :
    (side hs).length = if hs.isEmpty then 1 else hs.length := by
  cases hs with
  | nil => rfl
  | cons h hs => rw [side_cons, List.length_map]; rfl

theorem headD_side_isEmpty (front back : List Nat) :
    ((side front ++ [] :: side back).headD []).isEmpty = front.isEmpty := by
  cases front with
  | nil => rfl
  | cons h hs => simpa [side_cons] using hexText_ne_nil h

theorem getLastD_side_isEmpty (front back : List Nat) :
    ((side front ++ [] :: side back).getLastD []).isEmpty = back.isEmpty := by
  rw [List.getLastD_eq_getLast?, List.getLast?_append_of_ne_nil _ (by simp),
    List.getLast?_cons_of_ne_nil (side_ne_nil back)]
  induction back using List.reverseRecOn with
  | nil => rfl
  | append_singleton hs h =>
    have hside : side (hs ++ [h]) = hs.map hexText ++ [hexText h] := by
      cases hs with
      | nil => rfl
      | cons x hs => rw [List.cons_append, side_cons, ← List.cons_append, List.map_append]; rfl
    have hlast : (hexText h).isEmpty = false := List.isEmpty_eq_false_iff.mpr (hexText_ne_nil h)
    have hback : (hs ++ [h]).isEmpty = false := List.isEmpty_eq_false_iff.mpr (by simp)
    rw [hside, List.getLast?_append_of_ne_nil _ (by simp), hback]
    exact hlast

/-- The parts around `::` are read as the hextets on both sides, with zeros between. -/
theorem parseV6_sides {cs : List Char} {front back : List Nat}
    (hparts : v6Parts cs = some (side front ++ [] :: side back))
    (hlength : front.length + back.length ≤ 7) (hfront : ∀ x ∈ front, x < 65536)
    (hback : ∀ x ∈ back, x < 65536) :
    parseV6 cs = some (hextetsValue front * 65536 ^ (8 - front.length) + hextetsValue back) := by
  have htotal : (side front ++ [] :: side back).length =
      (side front).length + 1 + (side back).length := by
    rw [List.length_append, List.length_cons]
    omega
  have hfrontLength := side_length front
  have hbackLength := side_length back
  have hhigh : (if front.isEmpty then (side front).length - 1 else (side front).length) =
      front.length := by
    rw [hfrontLength]
    cases front <;> simp
  have hlow : (if back.isEmpty then
        (side front).length + 1 + (side back).length - (side front).length - 2
      else (side front).length + 1 + (side back).length - (side front).length - 1) =
      back.length := by
    rw [hbackLength]
    cases back with
    | nil =>
      rw [List.isEmpty_nil, if_pos rfl, if_pos rfl, List.length_nil]
      omega
    | cons h hs =>
      rw [List.isEmpty_cons, if_neg Bool.false_ne_true, if_neg Bool.false_ne_true]
      omega
  have hnine : ¬ 9 < (side front).length + 1 + (side back).length := by
    rw [hfrontLength, hbackLength]
    cases front <;> cases back <;> simp_all <;> omega
  have htake : (side front ++ [] :: side back).take front.length = front.map hexText := by
    cases front with
    | nil => rfl
    | cons h hs => rw [side_cons, List.take_left' (List.length_map _)]
  have hdrop : (side front ++ [] :: side back).drop
      ((side front).length + 1 + (side back).length - back.length) = back.map hexText := by
    cases back with
    | nil =>
      rw [List.drop_eq_nil_of_le (by rw [htotal]; simp)]
      rfl
    | cons h hs =>
      rw [List.append_cons, List.drop_left', side_cons]
      rw [List.length_append, List.length_singleton, side_cons, List.length_map]
      omega
  unfold parseV6
  rw [hparts]
  simp only [Option.bind_eq_bind, Option.bind_some, htotal, skipIndex_sides, headD_side_isEmpty,
    getLastD_side_isEmpty, hhigh, hlow, htake, hdrop, parseHextets_hexText hfront,
    parseHextets_hexText hback]
  have hside : ∀ hs : List Nat, ¬ (hs.isEmpty && hs.length != 0) = true := by
    intro hs
    cases hs <;> simp
  rw [if_neg hnine, if_neg (hside front), if_neg (hside back), if_neg (by omega)]
  rfl

/-- Eight hextets without `::`. -/
theorem parseV6_full {cs : List Char} {hs : List Nat} (hparts : v6Parts cs = some (hs.map hexText))
    (hlength : hs.length = 8) (hbound : ∀ x ∈ hs, x < 65536) :
    parseV6 cs = some (hextetsValue hs) := by
  have hnonempty : ∀ part ∈ hs.map hexText, part.isEmpty = false := by
    intro part hpart
    obtain ⟨x, -, rfl⟩ := List.mem_map.mp hpart
    exact List.isEmpty_eq_false_iff.mpr (hexText_ne_nil x)
  have hskip : skipIndex (hs.map hexText) = some none := by
    unfold skipIndex
    rw [List.filter_eq_nil_iff.mpr]
    intro i hi hp
    rw [List.mem_range] at hi
    simp only [Bool.and_eq_true] at hp
    rw [List.getD_eq_getElem _ _ hi, hnonempty _ (List.getElem_mem hi)] at hp
    exact absurd hp.2 Bool.false_ne_true
  have hne : hs.map hexText ≠ [] := by
    intro hnil
    rw [List.map_eq_nil_iff] at hnil
    rw [hnil] at hlength
    cases hlength
  have hfirst : ((hs.map hexText).headD []).isEmpty = false := by
    rw [List.headD_eq_head?_getD, List.head?_eq_some_head hne]
    exact hnonempty _ (List.head_mem hne)
  have hlast : ((hs.map hexText).getLastD []).isEmpty = false := by
    rw [List.getLastD_eq_getLast?, List.getLast?_eq_some_getLast hne]
    exact hnonempty _ (List.getLast_mem hne)
  unfold parseV6
  rw [hparts]
  simp only [Option.bind_eq_bind, Option.bind_some, hskip, hfirst, hlast, List.length_map, hlength,
    parseHextets_hexText hbound]
  rfl

theorem v6Parts_plain {cs : List Char} {parts : List (List Char)} (hsplit : splitAll ':' cs = parts)
    (hlength : 3 ≤ parts.length) (hfree : ∀ part ∈ parts, '.' ∉ part) :
    v6Parts cs = some parts := by
  have hne : parts ≠ [] := by
    rintro rfl
    exact absurd hlength (by simp)
  unfold v6Parts
  rw [hsplit]
  dsimp only
  rw [if_neg (by omega), List.getLast?_eq_some_getLast hne]
  dsimp only
  rw [if_neg]
  rw [List.contains_iff_mem]
  exact hfree _ (List.getLast_mem hne)

theorem side_free (hs : List Nat) : ∀ part ∈ side hs, '.' ∉ part := by
  intro part hpart hmem
  cases hs with
  | nil =>
    obtain rfl := List.mem_singleton.mp hpart
    cases hmem
  | cons h hs =>
    obtain ⟨x, -, rfl⟩ := List.mem_map.mp hpart
    exact (mem_hexText hmem).2.1 rfl

/-- An IPv6 number is read back from the text that is written for it. -/
theorem parseV6_v6Text {n : Nat} (h : n < 2 ^ 128) : parseV6 (v6Text n).toList = some n := by
  have hbound : ∀ x ∈ hextets n, x < 65536 := fun x hx => hextets_lt hx
  have hlength := length_hextets n
  have hvalue := hextetsValue_hextets h
  have hsplit := longestRun_split (hextets n)
  unfold v6Text
  dsimp only
  generalize hextets n = hs at hbound hlength hvalue hsplit
  generalize longestRun hs = best at hsplit
  obtain ⟨start, run⟩ := best
  dsimp only at hsplit ⊢
  split
  · rw [joinHextets_toList, ← hvalue]
    apply parseV6_full _ hlength hbound
    have hside : side hs = hs.map hexText := by
      cases hs with
      | nil => cases hlength
      | cons x hs => rfl
    have hparts := splitAll_side hs
    have hfree := side_free hs
    rw [hside] at hparts hfree
    exact v6Parts_plain hparts (by rw [List.length_map, hlength]; omega) hfree
  · rename_i hrun
    generalize hs.take start = front at hsplit
    generalize hs.drop (start + run) = back at hsplit
    rw [hsplit] at hvalue hlength hbound
    rw [List.length_append, List.length_append, List.length_replicate] at hlength
    have hparts : splitAll ':' ((joinHextets front) ++ "::" ++ (joinHextets back)).toList =
        side front ++ [] :: side back := by
      have hcolons : ("::" : String).toList = [':', ':'] := rfl
      rw [String.toList_append, String.toList_append, joinHextets_toList, joinHextets_toList, hcolons,
        List.append_assoc, List.cons_append, List.cons_append, List.nil_append, splitAll_between,
        splitAll_side]
      have hback := splitAll_between ':' [] ([':'].intercalate (back.map hexText))
      rw [List.nil_append, splitAll_side] at hback
      rw [hback]
      rfl
    have hthree : 3 ≤ (side front ++ [] :: side back).length := by
      have hfront := List.length_pos_iff.mpr (side_ne_nil front)
      have hback := List.length_pos_iff.mpr (side_ne_nil back)
      rw [List.length_append, List.length_cons]
      omega
    rw [parseV6_sides (v6Parts_plain hparts hthree _) (by omega)
      (fun x hx => hbound x (by simp [hx])) (fun x hx => hbound x (by simp [hx]))]
    · rw [hextetsValue_append, hextetsValue_append, hextetsValue_replicate, List.length_replicate,
        Nat.add_zero, Nat.mul_assoc, ← Nat.pow_add] at hvalue
      rw [← hvalue]
      congr 4
      omega
    · intro part hpart
      obtain hpart | hpart := List.mem_append.mp hpart
      · exact side_free front part hpart
      · obtain rfl | hpart := List.mem_cons.mp hpart
        · exact List.not_mem_nil
        · exact side_free back part hpart

/-- An IPv6 text has hexadecimal digits and colons. -/
theorem v6Text_all {p : Char → Prop} (hdigit : ∀ d < 16, p (Nat.digitChar d)) (hcolon : p ':')
    {n : Nat} {c : Char} (h : c ∈ (v6Text n).toList) : p c := by
  have hjoined : ∀ hs : List Nat, c ∈ (joinHextets hs).toList → p c := by
    intro hs hc
    rw [joinHextets_toList] at hc
    obtain rfl | ⟨part, hpart, hc⟩ := mem_intercalate hc
    · exact hcolon
    · obtain ⟨x, -, rfl⟩ := List.mem_map.mp hpart
      exact hexText_all hdigit hc
  unfold v6Text at h
  dsimp only at h
  split at h
  · exact hjoined _ h
  · rw [String.toList_append, String.toList_append, List.mem_append, List.mem_append] at h
    obtain (h | h) | h := h
    · exact hjoined _ h
    · have hcolons : ("::" : String).toList = [':', ':'] := rfl
      rw [hcolons] at h
      simp only [List.mem_cons, List.not_mem_nil, or_false, or_self] at h
      rw [h]
      exact hcolon
    · exact hjoined _ h

theorem colon_mem_v6Text (n : Nat) : ':' ∈ (v6Text n).toList := by
  unfold v6Text
  dsimp only
  split
  · rw [joinHextets_toList]
    have hlength := length_hextets n
    match hextets n, hlength with
    | x :: y :: rest, _ =>
      rw [List.map_cons, List.map_cons, List.intercalate_cons_cons]
      simp
  · rw [String.toList_append, String.toList_append]
    exact List.mem_append_left _ (List.mem_append_right _ (by decide))

/-- The address part of an IPv6 text: an IPv4 tail where the number maps one. -/
def addressText (n : Nat) : String :=
  match mapped? n with
  | some v => v6Text 0xffff ++ ":" ++ v4Text v
  | none => v6Text n

theorem text_v6 (n : Nat) (zone : Option String) :
    text (.v6 n zone) = match zone with
      | some zone => addressText n ++ "%" ++ zone
      | none => addressText n := rfl

theorem mapped_text : (v6Text 0xffff).toList = [':', ':', 'f', 'f', 'f', 'f'] := by decide +kernel

theorem parseV6_addressText {n : Nat} (h : n < 2 ^ 128) :
    parseV6 (addressText n).toList = some n := by
  unfold addressText
  cases hmapped : mapped? n with
  | none => exact parseV6_v6Text h
  | some v =>
    unfold mapped? at hmapped
    split at hmapped
    · rename_i hfront
      rw [beq_iff_eq] at hfront
      obtain rfl := Option.some.inj hmapped
      have hv : n % 2 ^ 32 < 2 ^ 32 := Nat.mod_lt _ (by omega)
      have htail : ':' ∉ (v4Text (n % 2 ^ 32)).toList := by
        intro hcolon
        obtain hdigit | hdot := mem_v4Text hcolon
        · exact absurd hdigit (by decide)
        · exact absurd hdot (by decide)
      have hdot : (v4Text (n % 2 ^ 32)).toList.contains '.' = true := by
        rw [List.contains_iff_mem, v4Text_toList, List.intercalate_cons_cons]
        simp
      have hsplit : splitAll ':' (v6Text 0xffff ++ ":" ++ v4Text (n % 2 ^ 32)).toList =
          [[], [], ['f', 'f', 'f', 'f'], (v4Text (n % 2 ^ 32)).toList] := by
        have hcolon : (":" : String).toList = [':'] := rfl
        rw [String.toList_append, String.toList_append, mapped_text, hcolon, List.append_assoc,
          List.singleton_append, splitAll_between, splitAll_of_not_mem htail]
        rfl
      have hparts : v6Parts (v6Text 0xffff ++ ":" ++ v4Text (n % 2 ^ 32)).toList =
          some (side [] ++ [] :: side [0xffff, n % 2 ^ 32 / 65536 % 65536, n % 2 ^ 32 % 65536]) := by
        unfold v6Parts
        rw [hsplit]
        dsimp only [List.getLast?_cons_cons, List.getLast?_singleton]
        simp only [List.getLast?_cons_cons, List.getLast?_singleton, hdot, parseV4_v4Text hv]
        rfl
      rw [parseV6_sides hparts (by simp) (by simp)]
      · simp [hextetsValue]
        omega
      · intro x hx
        simp only [List.mem_cons, List.not_mem_nil, or_false] at hx
        omega
    · cases hmapped

theorem digitChar_of_isAsciiDigit {c : Char} (h : isAsciiDigit c = true) :
    ∃ d < 16, c = Nat.digitChar d := by
  have htable : ∀ n < 58, 48 ≤ n → Nat.digitChar (n - 48) = Char.ofNat n := by decide
  simp only [isAsciiDigit, Bool.and_eq_true, decide_eq_true_eq] at h
  refine ⟨c.toNat - 48, by omega, ?_⟩
  rw [htable c.toNat (by omega) h.1, Char.ofNat_toNat]

/-- The address part of a text has hexadecimal digits, colons and dots. -/
theorem addressText_all {p : Char → Prop} (hdigit : ∀ d < 16, p (Nat.digitChar d)) (hcolon : p ':')
    (hdot : p '.') {n : Nat} {c : Char} (h : c ∈ (addressText n).toList) : p c := by
  unfold addressText at h
  split at h
  · rw [String.toList_append, String.toList_append, List.mem_append, List.mem_append] at h
    obtain (h | h) | h := h
    · exact v6Text_all hdigit hcolon h
    · obtain rfl := List.mem_singleton.mp h
      exact hcolon
    · obtain hd | rfl := mem_v4Text h
      · obtain ⟨d, hlt, rfl⟩ := digitChar_of_isAsciiDigit hd
        exact hdigit d hlt
      · exact hdot
  · exact v6Text_all hdigit hcolon h

theorem mem_addressText {n : Nat} {c : Char} (h : c ∈ (addressText n).toList) :
    c ≠ '%' ∧ c ≠ '/' ∧ 32 ≤ c.toNat :=
  addressText_all (p := fun c => c ≠ '%' ∧ c ≠ '/' ∧ 32 ≤ c.toNat) (by decide) (by decide)
    (by decide) h

theorem colon_mem_addressText (n : Nat) : ':' ∈ (addressText n).toList := by
  unfold addressText
  split
  · rw [String.toList_append, String.toList_append]
    exact List.mem_append_left _ (List.mem_append_right _ List.mem_cons_self)
  · exact colon_mem_v6Text n

theorem parseV6_lt {cs : List Char} {n : Nat} (h : parseV6 cs = some n) : n < 2 ^ 128 := by
  unfold parseV6 at h
  obtain ⟨parts, -, h⟩ := Option.bind_eq_some_iff.mp h
  split at h
  · cases h
  · obtain ⟨skip, -, h⟩ := Option.bind_eq_some_iff.mp h
    cases skip with
    | none =>
      dsimp only at h
      split at h
      · cases h
      · rename_i hchecked
        simp only [Bool.or_eq_true, bne_iff_ne, ne_eq, not_or, Decidable.not_not] at hchecked
        have hlt := parseHextets_lt h
        rw [hchecked.1.1] at hlt
        omega
    | some i =>
      dsimp only at h
      generalize (if (parts.headD []).isEmpty then i - 1 else i) = high at h
      generalize (if (parts.getLastD []).isEmpty then parts.length - i - 2
        else parts.length - i - 1) = low at h
      split at h
      · cases h
      · split at h
        · cases h
        · split at h
          · cases h
          · rename_i hroom
            obtain ⟨upper, hupper, h⟩ := Option.bind_eq_some_iff.mp h
            obtain ⟨lower, hlower, h⟩ := Option.bind_eq_some_iff.mp h
            obtain rfl := Option.some.inj h
            have hup : upper < 65536 ^ high := by
              refine (parseHextets_lt hupper).trans_le (Nat.pow_le_pow_right (by omega) ?_)
              rw [List.length_take]
              omega
            have hlow : lower < 65536 ^ (8 - high) := by
              refine (parseHextets_lt hlower).trans_le (Nat.pow_le_pow_right (by omega) ?_)
              rw [List.length_drop]
              omega
            calc upper * 65536 ^ (8 - high) + lower
                < upper * 65536 ^ (8 - high) + 65536 ^ (8 - high) := by omega
              _ = (upper + 1) * 65536 ^ (8 - high) := by ring
              _ ≤ 65536 ^ high * 65536 ^ (8 - high) := Nat.mul_le_mul_right _ hup
              _ = 65536 ^ 8 := by
                  rw [← Nat.pow_add]
                  congr 1
                  omega
              _ = 2 ^ 128 := by norm_num

/-! ## Addresses -/

/-- A zone that stands in a text: not empty, without another percent sign. -/
def IsZone (zone : Option String) : Prop := ∀ z, zone = some z → z.isEmpty = false ∧ '%' ∉ z.toList

theorem readV6_text {n : Nat} {zone : Option String} (h : n < 2 ^ 128) (hzone : IsZone zone) :
    readV6 (text (.v6 n zone)).toList = some (.v6 n zone) := by
  have hpercent : '%' ∉ (addressText n).toList := fun hmem => (mem_addressText hmem).1 rfl
  unfold readV6
  cases zone with
  | none =>
    have hnone : splitFirst '%' (addressText n).toList = none := by
      cases hsplit : splitFirst '%' (addressText n).toList with
      | none => rfl
      | some parts =>
        have heq := (splitFirst_some (l := parts.1) (r := parts.2) hsplit).1
        rw [heq] at hpercent
        exact absurd (List.mem_append_right _ List.mem_cons_self) hpercent
    rw [text_v6]
    dsimp only
    rw [hnone]
    dsimp only
    rw [parseV6_addressText h]
    rfl
  | some z =>
    obtain ⟨hempty, hfree⟩ := hzone z rfl
    have hlist : (addressText n ++ "%" ++ z).toList = (addressText n).toList ++ '%' :: z.toList := by
      rw [String.toList_append, String.toList_append, List.append_assoc]
      rfl
    have hne : z.toList.isEmpty = false := by
      rw [List.isEmpty_eq_false_iff]
      intro hnil
      rw [String.toList_eq_nil_iff.mp hnil] at hempty
      cases hempty
    rw [text_v6]
    dsimp only
    rw [hlist, splitFirst_append '%' _ _ hpercent]
    dsimp only
    rw [hne, Bool.false_or, if_neg (by rwa [List.contains_iff_mem]), parseV6_addressText h,
      Option.map_some, String.ofList_toList]

theorem readV6_spec {cs : List Char} {a : IpAddress} (h : readV6 cs = some a) :
    ∃ n zone, a = .v6 n zone ∧ n < 2 ^ 128 ∧ IsZone zone ∧
      ∀ z, zone = some z → ∀ c ∈ z.toList, c ∈ cs := by
  unfold readV6 at h
  split at h
  · obtain ⟨n, hn, rfl⟩ := Option.map_eq_some_iff.mp h
    exact ⟨n, none, rfl, parseV6_lt hn, by simp [IsZone], by simp⟩
  · rename_i address zone hsplit
    split at h
    · cases h
    · rename_i hchecked
      obtain ⟨n, hn, rfl⟩ := Option.map_eq_some_iff.mp h
      simp only [Bool.or_eq_true, not_or, Bool.not_eq_true] at hchecked
      refine ⟨n, _, rfl, parseV6_lt hn, ?_, ?_⟩
      · intro z hz
        obtain rfl := Option.some.inj hz
        rw [String.toList_ofList]
        refine ⟨?_, ?_⟩
        · cases zone with
          | nil => exact absurd hchecked.1 (by decide)
          | cons c zone => simp
        · intro hmem
          rw [List.contains_iff_mem.mpr hmem] at hchecked
          exact absurd hchecked.2 (by decide)
      · intro z hz c hc
        obtain rfl := Option.some.inj hz
        rw [String.toList_ofList] at hc
        rw [(splitFirst_some hsplit).1]
        exact List.mem_append_right _ (List.mem_cons_of_mem _ hc)

/-- Where the characters of an IPv6 text come from. -/
theorem mem_text_v6 {n : Nat} {zone : Option String} {c : Char}
    (h : c ∈ (text (.v6 n zone)).toList) :
    (c ≠ '/' ∧ 32 ≤ c.toNat) ∨ ∃ z, zone = some z ∧ c ∈ z.toList := by
  rw [text_v6] at h
  cases zone with
  | none => exact .inl (mem_addressText h).2
  | some z =>
    dsimp only at h
    rw [String.toList_append, String.toList_append, List.mem_append, List.mem_append] at h
    obtain (h | h) | h := h
    · exact .inl (mem_addressText h).2
    · obtain rfl := List.mem_singleton.mp h
      exact .inl (by decide)
    · exact .inr ⟨z, rfl, h⟩

/-- A text with a colon is no IPv4 address. -/
theorem parseV4_text_v6 (n : Nat) (zone : Option String) :
    parseV4 (text (.v6 n zone)).toList = none := by
  cases hparse : parseV4 (text (.v6 n zone)).toList with
  | none => rfl
  | some m =>
    have hcolon : ':' ∈ (text (.v6 n zone)).toList := by
      rw [text_v6]
      cases zone with
      | none => exact colon_mem_addressText n
      | some z =>
        dsimp only
        rw [String.toList_append, String.toList_append]
        exact List.mem_append_left _ (List.mem_append_left _ (colon_mem_addressText n))
    obtain hdigit | hdot := (parseV4_spec hparse).2 ':' hcolon
    · exact absurd hdigit (by decide)
    · exact absurd hdot (by decide)

/-- An address is read back from its text. -/
theorem ofText_text {s : String} {a : IpAddress} (h : ofText? s = some a) :
    ofText? a.text = some a := by
  unfold ofText? at h
  dsimp only at h
  split at h
  · cases h
  · rename_i hslash
    split at h
    · rename_i n hn
      obtain rfl := Option.some.inj h
      have hfree : (text (.v4 n)).toList.contains '/' = false := by
        rw [Bool.eq_false_iff, ne_eq, List.contains_iff_mem]
        intro hmem
        obtain hdigit | hdot := mem_v4Text hmem
        · exact absurd hdigit (by decide)
        · exact absurd hdot (by decide)
      unfold ofText?
      dsimp only
      rw [hfree, text, parseV4_v4Text (parseV4_spec hn).1]
      rfl
    · obtain ⟨n, zone, rfl, hn, hzone, hchars⟩ := readV6_spec h
      have hfree : (text (.v6 n zone)).toList.contains '/' = false := by
        rw [Bool.eq_false_iff, ne_eq, List.contains_iff_mem]
        intro hmem
        obtain hplain | ⟨z, hz, hmem⟩ := mem_text_v6 hmem
        · exact hplain.1 rfl
        · exact hslash (List.contains_iff_mem.mpr (hchars z hz _ hmem))
      unfold ofText?
      dsimp only
      rw [hfree, parseV4_text_v6, readV6_text hn hzone]
      rfl

/-- Writing an address adds no control character. -/
theorem mem_text {s : String} {a : IpAddress} (h : ofText? s = some a) {c : Char}
    (hc : c ∈ a.text.toList) : c ∈ s.toList ∨ 32 ≤ c.toNat := by
  unfold ofText? at h
  dsimp only at h
  split at h
  · cases h
  · split at h
    · obtain rfl := Option.some.inj h
      obtain hdigit | rfl := mem_v4Text hc
      · simp only [isAsciiDigit, Bool.and_eq_true, decide_eq_true_eq] at hdigit
        exact .inr (by omega)
      · exact .inr (by decide)
    · obtain ⟨n, zone, rfl, -, -, hchars⟩ := readV6_spec h
      obtain hplain | ⟨z, hz, hmem⟩ := mem_text_v6 hc
      · exact .inr hplain.2
      · exact .inl (hchars z hz c hmem)

/-! ## Networks -/

/-- `str(ip_network(text, strict=False))`, `none` where it raises. -/
def networkOfText? (s : String) : Option String :=
  match splitAll '/' s.toList with
  | [address] => match parseV4 address with
    | some n => some (v4Text n ++ "/" ++ toString 32)
    | none => (readV6 address).map fun a => a.text ++ "/" ++ toString 128
  | [address, mask] => networkText? (String.ofList address) (String.ofList mask)
  | _ => none

theorem maskTo_maskTo (bits length n : Nat) :
    maskTo bits length (maskTo bits length n) = maskTo bits length n := by
  unfold maskTo
  rw [Nat.mul_div_cancel _ (by positivity)]

theorem maskTo_le (bits length n : Nat) : maskTo bits length n ≤ n := Nat.div_mul_le_self n _

theorem maskTo_all (bits n : Nat) : maskTo bits bits n = n := by
  simp [maskTo]

theorem prefixOfDigits_toString : ∀ n ≤ 128, prefixOfDigits 128 (toString n).toList = some n := by
  decide +kernel

theorem v4Prefix_toString : ∀ n ≤ 32, v4Prefix (toString n).toList = some n := by
  decide +kernel

theorem prefixOfDigits_le {most n : Nat} {cs : List Char} (h : prefixOfDigits most cs = some n) :
    n ≤ most := by
  unfold prefixOfDigits at h
  split at h
  · cases h
  · rename_i hchecked
    simp only [Bool.or_eq_true, decide_eq_true_eq, not_or, not_lt] at hchecked
    rw [← Option.some.inj h]
    exact hchecked.2

theorem prefixOfMask_le {mask n : Nat} (h : prefixOfMask mask = some n) : n ≤ 32 := by
  unfold prefixOfMask at h
  dsimp only at h
  split at h
  · rw [← Option.some.inj h]
    exact Nat.sub_le _ _
  · cases h

theorem v4Prefix_le {cs : List Char} {n : Nat} (h : v4Prefix cs = some n) : n ≤ 32 := by
  unfold v4Prefix at h
  split at h
  · rename_i hdigits
    rw [← Option.some.inj h]
    exact prefixOfDigits_le hdigits
  · obtain ⟨mask, -, h⟩ := Option.bind_eq_some_iff.mp h
    split at h
    · rename_i hmask
      rw [← Option.some.inj h]
      exact prefixOfMask_le hmask
    · exact prefixOfMask_le h

/-- The text of an address and a prefix length is split at its slash. -/
theorem networkOfText_slash {address : String} (hfree : '/' ∉ address.toList) (length : Nat) :
    networkOfText? (address ++ "/" ++ toString length) =
      match parseV4 address.toList, v4Prefix (toString length).toList with
      | some n, some length => some (v4Text (maskTo 32 length n) ++ "/" ++ toString length)
      | _, _ =>
        match readV6 address.toList, prefixOfDigits 128 (toString length).toList with
        | some (.v6 n zone), some length =>
          some (text (.v6 (maskTo 128 length n) (if maskTo 128 length n = n then zone else none)) ++
            "/" ++ toString length)
        | _, _ => none := by
  have hdigits : '/' ∉ (toString length).toList := not_mem_toString length (by decide)
  have hsplit : splitAll '/' (address ++ "/" ++ toString length).toList =
      [address.toList, (toString length).toList] := by
    have hslash : ("/" : String).toList = ['/'] := rfl
    rw [String.toList_append, String.toList_append, hslash, List.append_assoc, List.singleton_append,
      splitAll_append hfree, splitAll_of_not_mem hdigits]
  unfold networkOfText? networkText?
  rw [hsplit]
  dsimp only
  rewrite [String.ofList_toList, String.ofList_toList, hsplit]
  rfl

theorem networkOfText_v4 {n length : Nat} (hn : n < 2 ^ 32) (hlength : length ≤ 32) :
    networkOfText? (v4Text n ++ "/" ++ toString length) =
      some (v4Text (maskTo 32 length n) ++ "/" ++ toString length) := by
  have hfree : '/' ∉ (v4Text n).toList := by
    intro hmem
    obtain hdigit | hdot := mem_v4Text hmem
    · exact absurd hdigit (by decide)
    · exact absurd hdot (by decide)
  rw [networkOfText_slash hfree, parseV4_v4Text hn, v4Prefix_toString _ hlength]

theorem networkOfText_v6 {n length : Nat} {zone : Option String} (hn : n < 2 ^ 128)
    (hlength : length ≤ 128) (hzone : IsZone zone)
    (hfree : '/' ∉ (text (.v6 n zone)).toList) :
    networkOfText? (text (.v6 n zone) ++ "/" ++ toString length) =
      some (text (.v6 (maskTo 128 length n) (if maskTo 128 length n = n then zone else none)) ++
        "/" ++ toString length) := by
  rw [networkOfText_slash hfree, parseV4_text_v6, readV6_text hn hzone,
    prefixOfDigits_toString _ hlength]

/-- A network that is written: the bits behind the prefix are zero. -/
def NetworkText (chars : List Char) (t : String) : Prop :=
  (∃ n length, n < 2 ^ 32 ∧ length ≤ 32 ∧ maskTo 32 length n = n ∧
    t = v4Text n ++ "/" ++ toString length) ∨
  ∃ n length zone, n < 2 ^ 128 ∧ length ≤ 128 ∧ maskTo 128 length n = n ∧ IsZone zone ∧
    (∀ z, zone = some z → ∀ c ∈ z.toList, c ∈ chars ∧ c ≠ '/') ∧
    t = text (.v6 n zone) ++ "/" ++ toString length

theorem networkText_free {n : Nat} {zone : Option String} {chars : List Char}
    (h : ∀ z, zone = some z → ∀ c ∈ z.toList, c ∈ chars ∧ c ≠ '/') :
    '/' ∉ (text (.v6 n zone)).toList := by
  intro hmem
  obtain hplain | ⟨z, hz, hmem⟩ := mem_text_v6 hmem
  · exact hplain.1 rfl
  · exact (h z hz _ hmem).2 rfl

theorem networkOfText_spec {s t : String} (h : networkOfText? s = some t) :
    NetworkText s.toList t := by
  unfold networkOfText? at h
  split at h
  · rename_i address hsplit
    have hchars : ∀ c ∈ address, c ∈ s.toList ∧ c ≠ '/' := fun c hc =>
      mem_splitAll (by rw [hsplit]; exact List.mem_cons_self) hc
    split at h
    · rename_i n hn
      exact .inl ⟨n, 32, (parseV4_spec hn).1, le_rfl, maskTo_all 32 n, (Option.some.inj h).symm⟩
    · obtain ⟨a, ha, rfl⟩ := Option.map_eq_some_iff.mp h
      obtain ⟨n, zone, rfl, hn, hzone, hzoneChars⟩ := readV6_spec ha
      exact .inr ⟨n, 128, zone, hn, le_rfl, maskTo_all 128 n, hzone,
        fun z hz c hc => hchars c (hzoneChars z hz c hc), rfl⟩
  · rename_i address mask hsplit
    have haddress : ∀ c ∈ address, c ∈ s.toList ∧ c ≠ '/' := fun c hc =>
      mem_splitAll (by rw [hsplit]; exact List.mem_cons_self) hc
    have hwhole : (String.ofList address ++ "/" ++ String.ofList mask).toList = s.toList := by
      have hslash : ("/" : String).toList = ['/'] := rfl
      rw [splitAll_eq_pair hsplit, String.toList_append, String.toList_append, String.toList_ofList,
        hslash, List.append_assoc, List.singleton_append, String.toList_ofList]
    unfold networkText? at h
    rw [hwhole, hsplit] at h
    dsimp only at h
    split at h
    · rename_i n length hn hlength
      rw [← Option.some.inj h]
      exact .inl ⟨maskTo 32 length n, length, (maskTo_le _ _ _).trans_lt (parseV4_spec hn).1,
        v4Prefix_le hlength, maskTo_maskTo _ _ _, rfl⟩
    · split at h
      · rename_i n zone length hread hlength
        obtain ⟨m, zone', heq, hm, hzone, hzoneChars⟩ := readV6_spec hread
        obtain ⟨rfl, rfl⟩ := IpAddress.v6.inj heq
        rw [← Option.some.inj h]
        refine .inr ⟨maskTo 128 length n, length, _, (maskTo_le _ _ _).trans_lt hm,
          prefixOfDigits_le hlength, maskTo_maskTo _ _ _, ?_, ?_, rfl⟩
        · intro z hz
          split at hz
          · exact hzone z hz
          · cases hz
        · intro z hz c hc
          split at hz
          · exact haddress c (hzoneChars z hz c hc)
          · cases hz
      · cases h
  · cases h

/-- A network that is written from a text is written from its own text again. -/
theorem networkOfText_fixed {s t : String} (h : networkOfText? s = some t) :
    networkOfText? t = some t := by
  obtain ⟨n, length, hn, hlength, hmask, rfl⟩ |
    ⟨n, length, zone, hn, hlength, hmask, hzone, hchars, rfl⟩ := networkOfText_spec h
  · rw [networkOfText_v4 hn hlength, hmask]
  · rw [networkOfText_v6 hn hlength hzone (networkText_free hchars), hmask, if_pos rfl]

/-- Writing a network adds no control character. -/
theorem mem_networkText {s t : String} (h : networkOfText? s = some t) {c : Char}
    (hc : c ∈ t.toList) : c ∈ s.toList ∨ 32 ≤ c.toNat := by
  have hdigit : ∀ length : Nat, c ∈ (toString length).toList → 32 ≤ c.toNat := by
    intro length hmem
    by_cases hd : isAsciiDigit c = true
    · simp only [isAsciiDigit, Bool.and_eq_true, decide_eq_true_eq] at hd
      omega
    · exact absurd hmem (not_mem_toString length (by simpa using hd))
  have hslash : c ∈ ("/" : String).toList → 32 ≤ c.toNat := by
    intro hmem
    obtain rfl := List.mem_singleton.mp hmem
    decide
  obtain ⟨n, length, -, -, -, rfl⟩ | ⟨n, length, zone, -, -, -, -, hchars, rfl⟩ :=
    networkOfText_spec h
  · rw [String.toList_append, String.toList_append, List.mem_append, List.mem_append] at hc
    obtain (hc | hc) | hc := hc
    · obtain hd | rfl := mem_v4Text hc
      · simp only [isAsciiDigit, Bool.and_eq_true, decide_eq_true_eq] at hd
        exact .inr (by omega)
      · exact .inr (by decide)
    · exact .inr (hslash hc)
    · exact .inr (hdigit length hc)
  · rw [String.toList_append, String.toList_append, List.mem_append, List.mem_append] at hc
    obtain (hc | hc) | hc := hc
    · obtain hplain | ⟨z, hz, hmem⟩ := mem_text_v6 hc
      · exact .inr hplain.2
      · exact .inl (hchars z hz c hmem).1
    · exact .inr (hslash hc)
    · exact .inr (hdigit length hc)

end ConfigAuditor.Library.IpAddress
