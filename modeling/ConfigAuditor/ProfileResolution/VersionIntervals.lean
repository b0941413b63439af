import ConfigAuditor.Library.DottedOrder
import ConfigAuditor.ProfileResolution.VersionTexts

/-!
# Version constraints as intervals

The bounds of a constraint are compared with as many components of a version as the bound has.
A version with fewer components than the minimum is below it as a list when the minimum goes on
with zeros only, although the two are the same number. Apart from that a constraint accepts the
versions of a major version between its bounds.
-/
namespace ConfigAuditor.ProfileResolution.VersionIntervals

open Library DottedOrder VersionTexts
open VersionConstraint (parse)

/-- The number a version stands for, when it has one that is read. -/
def value (version : String) : Except Error (Option (Lex (Nat → Nat))) :=
  (parse version).map (·.map number)

/-- The versions accepted are those of an interval of numbers in every major version. -/
structure NumericInterval (constraint : VersionConstraint) : Prop where
  numeric : ∀ a b, value a = value b → constraint.accepts a = constraint.accepts b
  convex : ∀ a b c x y z, value a = .ok (some x) → value b = .ok (some y) →
    value c = .ok (some z) → x ≤ y → y ≤ z → x 0 = y 0 → y 0 = z 0 →
    constraint.accepts a = .ok true → constraint.accepts c = .ok true →
    constraint.accepts b = .ok true

/-- The conditions of a constraint on the number alone. -/
structure WithinBounds (constraint : VersionConstraint) (version : List Nat) : Prop where
  major : constraint.supportedMajorVersions = [] ∨
    number version 0 ∈ constraint.supportedMajorVersions
  least : ∀ least, constraint.minimumVersion = some least →
    number least ≤ number (version.take least.length)
  most : ∀ most, constraint.maximumVersion = some most →
    number (version.take most.length) ≤ number most

/-- The minimum ends in a zero after its first component and is within the other bounds. -/
def MinimumEndsInZero (constraint : VersionConstraint) : Prop :=
  ∃ front, front ≠ [] ∧ (∀ component ∈ front, Readable component) ∧
    constraint.minimumVersion = some (front ++ [0]) ∧ WithinBounds constraint front

/-- The version is the minimum without some zeros at its end. -/
def Shortened (constraint : VersionConstraint) (version : List Nat) : Prop :=
  ∃ least, constraint.minimumVersion = some least ∧ version.length < least.length ∧
    number version = number least

section Bounds

variable {constraint : VersionConstraint} {version : List Nat}

/-- The checks of `accepts` on the components. -/
def admits (constraint : VersionConstraint) (version : List Nat) : Bool :=
  (constraint.supportedMajorVersions.isEmpty ||
      version.head?.any constraint.supportedMajorVersions.contains) &&
    !(constraint.minimumVersion.any (fun least =>
        !least.isEmpty && decide (version.take least.length < least)) ||
      constraint.maximumVersion.any fun most =>
        !most.isEmpty && decide (most < version.take most.length))

theorem accepts_eq {text : String} (hexcluded : constraint.excludedVersions = [])
    (hparse : parse text = .ok (some version)) :
    constraint.accepts text = .ok (admits constraint version) := by
  unfold VersionConstraint.accepts admits
  rw [hparse, hexcluded]
  simp only [bind, Except.bind, List.contains_nil, Bool.or_self, Bool.false_eq_true, if_false]
  cases constraint.supportedMajorVersions.isEmpty with
  | true => rfl
  | false =>
    cases version.head?.any constraint.supportedMajorVersions.contains with
    | true => rfl
    | false => rfl

theorem accepts_none {text : String} (hparse : parse text = .ok none) :
    constraint.accepts text = .ok false := by
  unfold VersionConstraint.accepts
  rw [hparse]
  rfl

theorem accepts_raised {text : String} {error : Error} (hparse : parse text = .error error) :
    constraint.accepts text = .error error := by
  unfold VersionConstraint.accepts
  rw [hparse]
  rfl

theorem above_iff (most : List Nat) :
    (!most.isEmpty && decide (most < version.take most.length)) = false ↔
      number (version.take most.length) ≤ number most := by
  have hlength : (version.take most.length).length ≤ most.length := by
    rw [List.length_take]
    omega
  have horder : most < version.take most.length ↔
      ¬ number (version.take most.length) ≤ number most :=
    (lt_iff_number_lt hlength).trans not_le.symm
  cases most with
  | nil => exact iff_of_true rfl (nil_le _)
  | cons a most =>
    simp only [List.isEmpty_cons, Bool.not_false, Bool.true_and, decide_eq_false_iff_not, horder,
      not_not]

theorem below_iff (least : List Nat) :
    (!least.isEmpty && decide (version.take least.length < least)) = false ↔
      number least ≤ number (version.take least.length) ∧
        ¬ (number version = number least ∧ version.length < least.length) := by
  have hlength : (version.take least.length).length ≤ least.length := by
    rw [List.length_take]
    omega
  have hshort : number (version.take least.length) = number least ∧
      (version.take least.length).length < least.length ↔
      number version = number least ∧ version.length < least.length := by
    by_cases hlt : version.length < least.length
    · rw [List.take_of_length_le hlt.le]
    · refine iff_of_false (fun h => ?_) (fun h => hlt h.2)
      have htake := h.2
      rw [List.length_take] at htake
      omega
  have horder : version.take least.length < least ↔
      ¬ (number least ≤ number (version.take least.length) ∧
        ¬ (number version = number least ∧ version.length < least.length)) := by
    rw [lt_iff_number_lt_or hlength, hshort, not_and_or, not_le, not_not]
    rfl
  cases least with
  | nil => exact iff_of_true rfl ⟨nil_le _, fun h => absurd h.2 (Nat.not_lt_zero _)⟩
  | cons a least =>
    simp only [List.isEmpty_cons, Bool.not_false, Bool.true_and, decide_eq_false_iff_not, horder]
    exact not_not

/-- The checks are the conditions on the number, and the version is no shortened minimum. -/
theorem admits_iff (hne : version ≠ []) :
    admits constraint version = true ↔
      WithinBounds constraint version ∧ ¬ Shortened constraint version := by
  have hmajor : (constraint.supportedMajorVersions.isEmpty ||
      version.head?.any constraint.supportedMajorVersions.contains) = true ↔
      constraint.supportedMajorVersions = [] ∨
        number version 0 ∈ constraint.supportedMajorVersions := by
    obtain ⟨first, rest, rfl⟩ := List.exists_cons_of_ne_nil hne
    simp [number_apply]
  unfold admits
  rw [Bool.and_eq_true, hmajor, Bool.not_eq_true', Bool.or_eq_false_iff]
  constructor
  · rintro ⟨hmajor, hleast, hmost⟩
    refine ⟨⟨hmajor, fun least hmin => ?_, fun most hmax => ?_⟩, ?_⟩
    · rw [hmin] at hleast
      exact ((below_iff least).mp hleast).1
    · rw [hmax] at hmost
      exact (above_iff most).mp hmost
    · rintro ⟨least, hmin, hlength, hnumber⟩
      rw [hmin] at hleast
      exact ((below_iff least).mp hleast).2 ⟨hnumber, hlength⟩
  · rintro ⟨hbounds, hshort⟩
    refine ⟨hbounds.major, ?_, ?_⟩
    · cases hmin : constraint.minimumVersion with
      | none => rfl
      | some least =>
        refine (below_iff least).mpr ⟨hbounds.least least hmin, fun h => hshort ?_⟩
        exact ⟨least, hmin, h.2, h.1⟩
    · cases hmax : constraint.maximumVersion with
      | none => rfl
      | some most => exact (above_iff most).mpr (hbounds.most most hmax)

theorem WithinBounds.congr {x y : List Nat} (h : number x = number y)
    (hx : WithinBounds constraint x) : WithinBounds constraint y where
  major := by
    rw [← h]
    exact hx.major
  least least hmin := by
    rw [← take_congr least.length h]
    exact hx.least least hmin
  most most hmax := by
    rw [← take_congr most.length h]
    exact hx.most most hmax

/-- Between two versions of one major version the bounds hold. -/
theorem WithinBounds.between {x y z : List Nat} (hx : WithinBounds constraint x)
    (hz : WithinBounds constraint z) (hxy : number x ≤ number y) (hyz : number y ≤ number z)
    (hmajor : number x 0 = number y 0) : WithinBounds constraint y where
  major := by
    rw [← hmajor]
    exact hx.major
  least least hmin := (hx.least least hmin).trans (take_mono least.length hxy)
  most most hmax := (take_mono most.length hyz).trans (hz.most most hmax)

/-- A version that was read and is a shortened minimum shows that the minimum ends in a zero. -/
theorem minimumEndsInZero_of_shortened (hne : version ≠ [])
    (hreadable : ∀ component ∈ version, Readable component)
    (hbounds : WithinBounds constraint version) (hshort : Shortened constraint version) :
    MinimumEndsInZero constraint := by
  obtain ⟨least, hmin, hlength, hnumber⟩ := hshort
  have hpositive : 0 < version.length := List.length_pos_of_ne_nil hne
  obtain rfl | ⟨front, last, rfl⟩ := List.eq_nil_or_concat' least
  · exact absurd hlength (Nat.not_lt_zero _)
  rw [List.length_append, List.length_singleton] at hlength
  have hcomponents := number_inj.mp hnumber
  have hlast : last = 0 := by
    have h := hcomponents front.length
    rw [List.getD_eq_getElem?_getD, List.getElem?_eq_none (by omega : version.length ≤ _)] at h
    simpa using h.symm
  subst hlast
  rw [number_append_zero] at hnumber
  refine ⟨front, ?_, fun component hcomponent => ?_, hmin, hbounds.congr hnumber⟩
  · rintro rfl
    rw [List.length_nil] at hlength
    omega
  · obtain ⟨i, hi, rfl⟩ := List.getElem_of_mem hcomponent
    have h := number_inj.mp hnumber i
    rw [List.getD_eq_getElem?_getD, List.getD_eq_getElem?_getD, List.getElem?_eq_getElem hi,
      Option.getD_some] at h
    rw [← h]
    cases hget : version[i]? with
    | none => exact Nat.pow_pos (by omega)
    | some component => exact hreadable component (List.mem_of_getElem? hget)

end Bounds

theorem value_eq_ok {text : String} {x : Lex (Nat → Nat)} (h : value text = .ok (some x)) :
    ∃ version, parse text = .ok (some version) ∧ number version = x := by
  unfold value at h
  cases hparse : parse text with
  | error e =>
    rw [hparse] at h
    cases h
  | ok parsed =>
    rw [hparse] at h
    cases parsed with
    | none => cases h
    | some version => exact ⟨version, rfl, Option.some.inj (Except.ok.inj h)⟩

theorem value_eq_none {text : String} (h : value text = .ok none) : parse text = .ok none := by
  unfold value at h
  cases hparse : parse text with
  | error e =>
    rw [hparse] at h
    cases h
  | ok parsed =>
    rw [hparse] at h
    cases parsed with
    | none => rfl
    | some version => cases h

theorem value_of_parse {text : String} {version : List Nat}
    (h : parse text = .ok (some version)) : value text = .ok (some (number version)) := by
  rw [value, h]
  rfl

/-- Unless the minimum ends in a zero, the number decides. -/
theorem accepts_iff {constraint : VersionConstraint} {text : String} {version : List Nat}
    (hexcluded : constraint.excludedVersions = []) (hends : ¬ MinimumEndsInZero constraint)
    (hparse : parse text = .ok (some version)) :
    constraint.accepts text = .ok true ↔ WithinBounds constraint version := by
  obtain ⟨hne, hreadable⟩ := parse_readable hparse
  rw [accepts_eq hexcluded hparse, Except.ok.injEq, admits_iff hne]
  refine ⟨And.left, fun hbounds => ⟨hbounds, fun hshort => hends ?_⟩⟩
  exact minimumEndsInZero_of_shortened hne hreadable hbounds hshort

theorem accepts_numeric {constraint : VersionConstraint}
    (hexcluded : constraint.excludedVersions = []) (hends : ¬ MinimumEndsInZero constraint)
    {a b : String} (h : value a = value b) : constraint.accepts a = constraint.accepts b := by
  cases ha : parse a with
  | error e =>
    have hb : parse b = .error e := by
      rw [value, value, ha] at h
      cases hb : parse b with
      | error e' =>
        rw [hb] at h
        rw [Except.error.inj h]
      | ok parsed =>
        rw [hb] at h
        cases h
    rw [accepts_raised ha, accepts_raised hb]
  | ok parsed =>
    rw [value, ha] at h
    cases parsed with
    | none =>
      rw [accepts_none ha, accepts_none (value_eq_none h.symm)]
    | some version =>
      obtain ⟨version', hb, hnumber⟩ := value_eq_ok h.symm
      have hiff : constraint.accepts a = .ok true ↔ constraint.accepts b = .ok true := by
        rw [accepts_iff hexcluded hends ha, accepts_iff hexcluded hends hb]
        exact ⟨.congr hnumber.symm, .congr hnumber⟩
      rw [accepts_eq hexcluded ha, accepts_eq hexcluded hb] at hiff ⊢
      rw [Except.ok.injEq, Except.ok.injEq] at hiff
      rw [Bool.eq_iff_iff.mpr hiff]

/-- A constraint without exclusions accepts numeric intervals unless its minimum is a version
within the other bounds that ends in a zero. -/
theorem numeric_interval_iff (constraint : VersionConstraint)
    (hexcluded : constraint.excludedVersions = []) :
    NumericInterval constraint ↔ ¬ MinimumEndsInZero constraint := by
  constructor
  · rintro hnumeric ⟨front, hne, hreadable, hmin, hbounds⟩
    have hnumber : number front = number (front ++ [0]) := (number_append_zero front).symm
    have hlong : ∀ component ∈ front ++ [0], Readable component := by
      intro component hmem
      obtain hmem | hmem := List.mem_append.mp hmem
      · exact hreadable component hmem
      · rw [List.mem_singleton.mp hmem]
        exact Nat.pow_pos (by omega)
    have hparse := parse_normalized hne hreadable
    have hparse' := parse_normalized (List.append_ne_nil_of_left_ne_nil hne [0]) hlong
    have hvalue : value (VersionConstraint.normalized front) =
        value (VersionConstraint.normalized (front ++ [0])) := by
      rw [value_of_parse hparse, value_of_parse hparse', hnumber]
    have hsame := hnumeric.numeric _ _ hvalue
    rw [accepts_eq hexcluded hparse, accepts_eq hexcluded hparse', Except.ok.injEq] at hsame
    -- the minimum is admitted, and without its last zero it is not
    have hadmitted : admits constraint (front ++ [0]) = true := by
      rw [admits_iff (List.append_ne_nil_of_left_ne_nil hne [0])]
      refine ⟨hbounds.congr hnumber, ?_⟩
      rintro ⟨least, hleast, hlength, -⟩
      rw [hmin] at hleast
      rw [← Option.some.inj hleast] at hlength
      exact absurd hlength (Nat.lt_irrefl _)
    rw [← hsame, admits_iff hne] at hadmitted
    refine hadmitted.2 ⟨_, hmin, ?_, hnumber⟩
    rw [List.length_append, List.length_singleton]
    omega
  · intro hends
    refine ⟨fun a b h => accepts_numeric hexcluded hends h, ?_⟩
    intro a b c x y z hx hy hz hxy hyz hmajor _ ha hc
    obtain ⟨x, hparseA, rfl⟩ := value_eq_ok hx
    obtain ⟨y, hparseB, rfl⟩ := value_eq_ok hy
    obtain ⟨z, hparseC, rfl⟩ := value_eq_ok hz
    rw [accepts_iff hexcluded hends hparseA] at ha
    rw [accepts_iff hexcluded hends hparseC] at hc
    rw [accepts_iff hexcluded hends hparseB]
    exact ha.between hc hxy hyz hmajor

theorem numeric_interval_minimum :
    NumericInterval { supportedMajorVersions := [17], minimumVersion := some [17, 3] } := by
  refine (numeric_interval_iff _ rfl).mpr ?_
  rintro ⟨front, -, -, hmin, -⟩
  have hlast := congrArg List.getLast? (Option.some.inj hmin)
  rw [List.getLast?_concat] at hlast
  cases hlast

theorem zero_minimum_rejects :
    ¬ ∀ constraint : VersionConstraint, constraint.excludedVersions = [] →
      NumericInterval constraint := by
  intro h
  have hinterval := h { minimumVersion := some [17, 0] } rfl
  have hshort : VersionConstraint.accepts { minimumVersion := some [17, 0] } "17" = .ok false := by
    decide +kernel
  have hlong : VersionConstraint.accepts { minimumVersion := some [17, 0] } "17.0" = .ok true := by
    decide +kernel
  have hnumber : number [17] = number [17, 0] := (number_append_zero [17]).symm
  have hvalue : value "17" = value "17.0" := by
    have hparse : parse "17" = .ok (some [17]) := by decide +kernel
    have hparse' : parse "17.0" = .ok (some [17, 0]) := by decide +kernel
    rw [value_of_parse hparse, value_of_parse hparse', hnumber]
  have hsame := hinterval.numeric "17" "17.0" hvalue
  rw [hshort, hlong] at hsame
  cases hsame

end ConfigAuditor.ProfileResolution.VersionIntervals
