import ConfigAuditor.Errors
import ConfigAuditor.Library.Numerals
import ConfigAuditor.Remediation.Procedures

/-!
# Normal forms of remediation parameters

`_value` puts a parameter into its normal form. The normal form is accepted again by the
same definition and is left as it is.
-/
namespace ConfigAuditor.Remediation

open Library

@[simp] theorem lift_eq_ok {α : Type} {x : Except PyError α} {a : α} :
    (liftM x : Except Failure α) = .ok a ↔ x = .ok a := except_mapError_eq_ok

/-- The lower case of an ASCII character. -/
def lowered (c : Char) : Char := if Text.isAsciiUpper c then Char.ofNat (c.toNat + 32) else c

theorem lowerChar_ascii {c : Char} (h : c.toNat < 128) : Text.lowerChar c = [lowered c] := by
  unfold Text.lowerChar lowered
  split
  · rfl
  · rw [if_neg (by simp only [beq_iff_eq]; omega), if_neg (by simp only [beq_iff_eq]; omega)]

theorem host_bounds {c : Char} (h : isHostChar c = true) : 32 ≤ c.toNat ∧ c.toNat < 128 := by
  simp only [isHostChar, Text.isAsciiAlnum, Text.isAsciiLetter, Text.isAsciiUpper,
    Text.isAsciiLower, Text.isAsciiDigit, Bool.or_eq_true, Bool.and_eq_true, decide_eq_true_eq,
    beq_iff_eq] at h
  obtain (h | rfl) | rfl := h
  · omega
  · decide
  · decide

theorem lowered_table : ∀ n < 128, ∀ c, c = Char.ofNat n →
    lowered (lowered c) = lowered c ∧ isHostChar (lowered c) = isHostChar c ∧
      isHostEdge (lowered c) = isHostEdge c ∧
      (lowered c ≠ c → Text.isAsciiDigit (lowered c) = false ∧ lowered c ≠ '.') := by
  intro n hn c hc
  subst hc
  revert n
  decide +kernel

theorem lowered_spec {c : Char} (h : isHostChar c = true) :
    lowered (lowered c) = lowered c ∧ isHostChar (lowered c) = true ∧
      isHostEdge (lowered c) = isHostEdge c ∧
      (lowered c ≠ c → Text.isAsciiDigit (lowered c) = false ∧ lowered c ≠ '.') := by
  obtain ⟨hidem, hchar, hedge, hdigit⟩ :=
    lowered_table c.toNat ((host_bounds h).2) c (Char.ofNat_toNat c).symm
  exact ⟨hidem, hchar.trans h, hedge, hdigit⟩

theorem isHostChar_of_edge {c : Char} (h : isHostEdge c = true) : isHostChar c = true := by
  simp only [isHostEdge] at h
  simp [isHostChar, h]

/-- A host name as a list of characters: an edge at both ends, host characters between. -/
def HostName (cs : List Char) : Prop :=
  cs.length ≤ 253 ∧ (∀ c ∈ cs, isHostChar c = true) ∧
    (∃ first, cs.head? = some first ∧ isHostEdge first = true) ∧
    ∃ last, cs.getLast? = some last ∧ isHostEdge last = true

theorem isHostname_iff (s : String) : isHostname s = true ↔ HostName s.toList := by
  unfold isHostname HostName
  match s.toList with
  | [] => simp
  | [c] =>
    have hedge := @isHostChar_of_edge c
    simp only [List.length_cons, List.length_nil, List.mem_singleton, forall_eq, List.head?_cons,
      List.getLast?_singleton, Option.some.injEq, exists_eq_left', and_self]
    exact ⟨fun h => ⟨by omega, hedge h, h⟩, fun h => h.2.2⟩
  | c :: d :: cs =>
    have hlast : (c :: d :: cs).getLast? = some ((d :: cs).getLastD c) := by
      rw [List.getLast?_cons, List.getLastD_eq_getLast?]
    have hsplit := List.dropLast_append_getLast (List.cons_ne_nil d cs)
    have hend : (d :: cs).getLastD c = (d :: cs).getLast (List.cons_ne_nil d cs) := by
      rw [List.getLastD_eq_getLast?, List.getLast?_eq_some_getLast (List.cons_ne_nil d cs)]
      rfl
    dsimp only
    rw [hlast]
    simp only [Bool.and_eq_true, decide_eq_true_eq, List.all_eq_true, List.head?_cons,
      Option.some.injEq, exists_eq_left', List.length_cons]
    constructor
    · rintro ⟨⟨⟨hfirst, hlast⟩, hmid⟩, hlength⟩
      refine ⟨by omega, ?_, hfirst, hlast⟩
      intro x hx
      obtain rfl | hx := List.mem_cons.mp hx
      · exact isHostChar_of_edge hfirst
      · rw [← hsplit] at hx
        obtain hx | hx := List.mem_append.mp hx
        · exact hmid x hx
        · rw [List.mem_singleton.mp hx, ← hend]
          exact isHostChar_of_edge hlast
    · rintro ⟨hlength, hall, hfirst, hlast⟩
      exact ⟨⟨⟨hfirst, hlast⟩, fun x hx => hall x (List.mem_cons_of_mem _
        (List.dropLast_subset _ hx))⟩, by omega⟩

theorem lower_toList {s : String} (h : ∀ c ∈ s.toList, isHostChar c = true) :
    (Text.lower s).toList = s.toList.map lowered := by
  rw [Text.lower, String.toList_ofList]
  generalize s.toList = cs at h
  induction cs with
  | nil => rfl
  | cons c cs ih =>
    rw [List.flatMap_cons, lowerChar_ascii ((host_bounds (h c List.mem_cons_self)).2),
      ih fun d hd => h d (List.mem_cons_of_mem _ hd)]
    rfl

theorem hostName_lowered {cs : List Char} (h : HostName cs) : HostName (cs.map lowered) := by
  obtain ⟨hlength, hall, ⟨first, hhead, hfirst⟩, last, hlast, hend⟩ := h
  refine ⟨by rwa [List.length_map], ?_, ⟨lowered first, ?_, ?_⟩, lowered last, ?_, ?_⟩
  · intro c hc
    obtain ⟨d, hd, rfl⟩ := List.mem_map.mp hc
    exact (lowered_spec (hall d hd)).2.1
  · rw [List.head?_map, hhead, Option.map_some]
  · rwa [(lowered_spec (isHostChar_of_edge hfirst)).2.2.1]
  · rw [List.getLast?_map, hlast, Option.map_some]
  · rwa [(lowered_spec (isHostChar_of_edge hend)).2.2.1]

/-- Lowering a host name twice is lowering it once. -/
theorem lower_lower {s : String} (h : ∀ c ∈ s.toList, isHostChar c = true) :
    Text.lower (Text.lower s) = Text.lower s := by
  have hlower := lower_toList h
  have hchars : ∀ c ∈ (Text.lower s).toList, isHostChar c = true := by
    rw [hlower]
    intro c hc
    obtain ⟨d, hd, rfl⟩ := List.mem_map.mp hc
    exact (lowered_spec (h d hd)).2.1
  refine String.toList_inj.mp ?_
  rw [lower_toList hchars, hlower, List.map_map]
  exact List.map_congr_left fun c hc => (lowered_spec (h c hc)).1

/-- A text of digits and dots that is the lower case of a host name is that host name. -/
theorem lower_eq_of_numeric {s : String} (h : ∀ c ∈ s.toList, isHostChar c = true)
    (hnumeric : ∀ c ∈ (Text.lower s).toList, Text.isAsciiDigit c = true ∨ c = '.') :
    Text.lower s = s := by
  refine String.toList_inj.mp ?_
  rw [lower_toList h] at hnumeric ⊢
  refine (List.map_congr_left fun c hc => ?_).trans (List.map_id _)
  by_contra hne
  obtain ⟨hdigit, hdot⟩ := (lowered_spec (h c hc)).2.2.2 hne
  obtain htrue | heq := hnumeric _ (List.mem_map_of_mem hc)
  · rw [hdigit] at htrue
    cases htrue
  · exact hdot heq

theorem colon_of_readV6 {cs : List Char} {a : IpAddress} (h : IpAddress.readV6 cs = some a) :
    ':' ∈ cs := by
  have hparse : ∀ {part : List Char} {n : Nat}, IpAddress.parseV6 part = some n → ':' ∈ part := by
    intro part n hn
    by_contra hfree
    unfold IpAddress.parseV6 at hn
    obtain ⟨parts, hparts, -⟩ := Option.bind_eq_some_iff.mp hn
    unfold IpAddress.v6Parts at hparts
    rw [Text.splitAll_of_not_mem hfree] at hparts
    cases hparts
  unfold IpAddress.readV6 at h
  split at h
  · obtain ⟨n, hn, -⟩ := Option.map_eq_some_iff.mp h
    exact hparse hn
  · rename_i address zone hsplit
    split at h
    · cases h
    · obtain ⟨n, hn, -⟩ := Option.map_eq_some_iff.mp h
      rw [(Text.splitFirst_some hsplit).1]
      exact List.mem_append_left _ (hparse hn)

/-- The lower case of a host name is no address where the host name is none. -/
theorem ofText_lower {s : String} (h : ∀ c ∈ s.toList, isHostChar c = true)
    (hnone : IpAddress.ofText? s = none) : IpAddress.ofText? (Text.lower s) = none := by
  have hlower := lower_toList h
  cases haddress : IpAddress.ofText? (Text.lower s) with
  | none => rfl
  | some a =>
    have hkeep := haddress
    unfold IpAddress.ofText? at haddress
    dsimp only at haddress
    split at haddress
    · cases haddress
    · split at haddress
      · rename_i n hn
        rw [lower_eq_of_numeric h (IpAddress.parseV4_spec hn).2, hnone] at hkeep
        cases hkeep
      · have hcolon := colon_of_readV6 haddress
        rw [hlower] at hcolon
        obtain ⟨c, hc, heq⟩ := List.mem_map.mp hcolon
        have hhost := (lowered_spec (h c hc)).2.1
        rw [heq] at hhost
        cases hhost

theorem toDigits_plain {n : Nat} {c : Char} (h : c ∈ Nat.toDigits 10 n) :
    PyFloat.isDigit c = true ∧ 32 ≤ c.toNat := by
  have hdigit := List.all_eq_true.mp (Text.toDigits_all_digits n) c h
  refine ⟨Numerals.isDigit_of_isAsciiDigit hdigit, ?_⟩
  simp only [Text.isAsciiDigit, Bool.and_eq_true, decide_eq_true_eq] at hdigit
  omega

/-- The digits of a negative number, behind their sign. -/
theorem intOfText_negative {n : Nat} (hn : (Nat.toDigits 10 n).length ≤ PyValue.maxStrDigits) :
    PyValue.intOfText (String.ofList ('-' :: Nat.toDigits 10 n)) = .ok (-(n : Int)) := by
  have hdigits : ∀ c ∈ Nat.toDigits 10 n, PyFloat.isDigit c = true := fun c hc => (toDigits_plain hc).1
  have hstrip : Text.stripList Text.isSpace ('-' :: Nat.toDigits 10 n) = '-' :: Nat.toDigits 10 n := by
    refine Numerals.stripList_of_none fun c hc => ?_
    obtain rfl | hc := List.mem_cons.mp hc
    · decide
    · exact Numerals.isSpace_of_isDigit (hdigits c hc)
  unfold PyValue.intOfText
  rw [String.toList_ofList, hstrip]
  simp only [PyFloat.splitSign, Numerals.digitRun_of_digits hdigits Nat.toDigits_ne_nil, if_pos hn,
    Text.digitsValue_toDigits, if_true]

/-- A number is read back from its text, which has no control character. -/
theorem intText_spec {i : Int} {t : String} (h : PyValue.intText i = .ok t) :
    PyValue.intOfText t = .ok i ∧ ∀ c ∈ t.toList, 32 ≤ c.toNat := by
  unfold PyValue.intText at h
  split at h
  · rename_i hlength
    obtain rfl := Except.ok.inj h
    cases i with
    | ofNat n =>
      have htext : toString (Int.ofNat n) = String.ofList (Nat.toDigits 10 n) := rfl
      rw [htext]
      refine ⟨Numerals.intOfText_toDigits n hlength, fun c hc => ?_⟩
      rw [String.toList_ofList] at hc
      exact (toDigits_plain hc).2
    | negSucc n =>
      have htext : toString (Int.negSucc n) = String.ofList ('-' :: Nat.toDigits 10 (n + 1)) := by
        refine String.toList_inj.mp ?_
        rw [String.toList_ofList]
        change ("-" ++ Nat.repr (n + 1)).toList = _
        rw [String.toList_append, Nat.toList_repr]
        rfl
      rw [htext]
      refine ⟨intOfText_negative hlength, fun c hc => ?_⟩
      rw [String.toList_ofList] at hc
      obtain rfl | hc := List.mem_cons.mp hc
      · decide
      · exact (toDigits_plain hc).2
  · cases h

/-- The text of an accepted number is accepted again and is the same text. -/
theorem integerValue_fixed {definition : Definition} {kind s t : String}
    (h : integerValue definition kind s = .ok t) :
    integerValue definition kind t = .ok t ∧ ∀ c ∈ t.toList, 32 ≤ c.toNat := by
  unfold integerValue at h
  split at h
  · cases h
  · rename_i number hnumber
    obtain ⟨u, hport, hrest⟩ := except_bind_eq_ok.mp h
    obtain ⟨v, hminimum, hrest⟩ := except_bind_eq_ok.mp hrest
    obtain ⟨w, hmaximum, htext⟩ := except_bind_eq_ok.mp hrest
    obtain ⟨hread, hplain⟩ := intText_spec (lift_eq_ok.mp htext)
    refine ⟨?_, hplain⟩
    unfold integerValue
    rw [hread]
    dsimp only
    refine except_bind_eq_ok.mpr ⟨u, hport, ?_⟩
    refine except_bind_eq_ok.mpr ⟨v, hminimum, ?_⟩
    exact except_bind_eq_ok.mpr ⟨w, hmaximum, htext⟩

theorem refuse_plain {t : String} (h : ∀ c ∈ t.toList, 32 ≤ c.toNat) :
    refuseIf (t.toList.any fun c => c.toNat < 32) "invalid_parameters" = .ok () := by
  rw [refuseIf_eq_ok, List.any_eq_false]
  intro c hc
  have := h c hc
  simp only [decide_eq_true_eq]
  omega

theorem plain_of_refuse {t : String} {u : Unit}
    (h : refuseIf (t.toList.any fun c => c.toNat < 32) "invalid_parameters" = .ok u) :
    ∀ c ∈ t.toList, 32 ≤ c.toNat := by
  rw [refuseIf_eq_ok, List.any_eq_false] at h
  intro c hc
  have := h c hc
  simp only [decide_eq_true_eq] at this
  omega

/-- The text of a validated parameter has no control character, and stays as it is when it is
validated again. -/
theorem valueOfKind_fixed {definition : Definition} {s t : String} {kind : PyValue}
    (hplain : ∀ c ∈ s.toList, 32 ≤ c.toNat) (h : valueOfKind definition s kind = .ok t) :
    valueOfKind definition t kind = .ok t ∧ ∀ c ∈ t.toList, 32 ≤ c.toNat := by
  unfold valueOfKind at h
  split at h
  · split at h
    · rename_i a ha
      obtain rfl := Except.ok.inj h
      refine ⟨?_, fun c hc => (IpAddress.mem_text ha hc).elim (hplain c) id⟩
      unfold valueOfKind
      rw [IpAddress.ofText_text ha]
      rfl
    · cases h
  · split at h
    · rename_i network hnetwork
      obtain rfl := Except.ok.inj h
      refine ⟨?_, fun c hc => (IpAddress.mem_networkText hnetwork hc).elim (hplain c) id⟩
      unfold valueOfKind
      rw [IpAddress.networkOfText_fixed hnetwork]
      rfl
    · cases h
  · split at h
    · rename_i a ha
      obtain rfl := Except.ok.inj h
      refine ⟨?_, fun c hc => (IpAddress.mem_text ha hc).elim (hplain c) id⟩
      unfold valueOfKind
      rw [IpAddress.ofText_text ha]
      rfl
    · rename_i hnone
      split at h
      · rename_i hname
        obtain rfl := Except.ok.inj h
        have hhost := (isHostname_iff s).mp hname
        have hlower := (isHostname_iff (Text.lower s)).mpr
          (lower_toList hhost.2.1 ▸ hostName_lowered hhost)
        refine ⟨?_, fun c hc => ?_⟩
        · unfold valueOfKind
          rw [ofText_lower hhost.2.1 hnone]
          dsimp only
          rw [if_pos hlower, lower_lower hhost.2.1]
          rfl
        · exact (host_bounds (((isHostname_iff _).mp hlower).2.1 c hc)).1
      · cases h
  · exact integerValue_fixed h
  · exact integerValue_fixed h
  · obtain ⟨found, hfound, h⟩ := except_bind_eq_ok.mp h
    split at h
    · rename_i hyes
      obtain rfl := Except.ok.inj h
      refine ⟨?_, hplain⟩
      unfold valueOfKind
      exact except_bind_eq_ok.mpr ⟨found, hfound, if_pos hyes⟩
    · cases h
  · cases h

/-- A validated parameter is validated again and is left as it is. -/
theorem value_fixed {definition : Definition} {given : PyValue} {t : String}
    (h : value definition given = .ok t) : value definition (.str t) = .ok t := by
  cases given with
  | str s =>
    unfold value at h ⊢
    obtain ⟨u, hchars, h⟩ := except_bind_eq_ok.mp h
    cases hkind : Dict.get? definition "type" with
    | none =>
      rw [hkind] at h
      cases h
    | some kind =>
      rw [hkind] at h
      obtain ⟨hfixed, hplain⟩ := valueOfKind_fixed (plain_of_refuse hchars) h
      exact except_bind_eq_ok.mpr ⟨(), refuse_plain hplain, hfixed⟩
  | _ => cases h

end ConfigAuditor.Remediation
