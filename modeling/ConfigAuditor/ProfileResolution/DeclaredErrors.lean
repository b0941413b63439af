import ConfigAuditor.Library.Raises
import ConfigAuditor.ProfileResolution.RuntimeProfiles
import ConfigAuditor.ProfileResolution.VersionTexts

/-!
# How the manifest parser fails

`parse_runtime_profile` is to raise `RuntimeProfileError` and nothing else. Four of its checks
ask a set for a value that may have no hash, and the excluded versions are read by `int`, which
refuses a number of many digits. Every other check fails as declared, whatever stands in the
field.
-/
namespace ConfigAuditor.ProfileResolution.DeclaredErrors

open Library RuntimeProfiles VersionTexts

@[simp] theorem raises_raiseIf {p : Error → Prop} {condition : Bool} {error : Error} :
    Raises p (raiseIf condition error) ↔ (condition = true → p error) := by
  cases condition <;> simp [raiseIf]

/-- `RuntimeProfileError`. -/
def IsProfileError (error : Error) : Prop := ∃ message, error = .runtimeProfile message

@[simp] theorem isProfileError_refused (message : String) : IsProfileError (refused message) :=
  ⟨message, rfl⟩

@[simp] theorem not_isProfileError_python (error : PyError) :
    ¬ IsProfileError (.python error) := nofun

variable {raw constraints entries : List (String × PyValue)} {value item : PyValue}
  {reader : String}

@[simp] theorem raises_textOf {label : String} {limit : Nat} :
    Raises IsProfileError (textOf value label limit) := by
  unfold textOf
  simp

/-- A text of at most 64 characters holds no number that `int` refuses. -/
@[simp] theorem raises_versionOf : Raises IsProfileError (versionOf value) := by
  unfold versionOf
  split
  · exact (Raises.ok _).mpr trivial
  · rw [Raises.bind]
    refine ⟨raises_textOf, fun text htext => ?_⟩
    have hlength : text.length ≤ 64 := by
      unfold textOf at htext
      simp only [except_bind_eq_ok, raiseIf_eq_ok, except_pure_eq_ok] at htext
      obtain ⟨_, hlimit, rfl⟩ := htext
      simp only [Bool.or_eq_false_iff, decide_eq_false_iff_not, Nat.not_lt] at hlimit
      exact hlimit.2
    have hshort : ¬ TooLong text := by
      intro hlong
      have hmore := hlong.length
      have hmany : 64 ≤ PyValue.maxStrDigits := by decide
      omega
    obtain ⟨parsed, hparsed⟩ := parse_ok_iff.mpr hshort
    rw [hparsed]
    cases parsed <;> simp [bind, Except.bind]

@[simp] theorem raises_identityOf : Raises IsProfileError (identityOf raw) := by
  unfold identityOf
  simp [Raises.bind]

@[simp] theorem raises_evidenceTypesOf : Raises IsProfileError (evidenceTypesOf raw reader) := by
  unfold evidenceTypesOf
  dsimp only
  split
  · split
    · simp
    · split <;> simp
  · simp

@[simp] theorem raises_tokensOf : Raises IsProfileError (tokensOf raw) := by
  unfold tokensOf
  dsimp only
  split
  · split
    · split <;> simp
    · simp
  · simp

@[simp] theorem raises_constraintsOf : Raises IsProfileError (constraintsOf raw) := by
  unfold constraintsOf
  split <;> simp [invalidConstraints]

@[simp] theorem raises_majorsOf : Raises IsProfileError (majorsOf constraints) := by
  unfold majorsOf
  split
  · split <;> simp [invalidConstraints]
  · simp [invalidConstraints]

@[simp] theorem raises_deviceClassesOf : Raises IsProfileError (deviceClassesOf raw) := by
  unfold deviceClassesOf
  dsimp only
  split <;> simp

@[simp] theorem raises_canonicalFieldsOf : Raises IsProfileError (canonicalFieldsOf raw) := by
  unfold canonicalFieldsOf
  dsimp only
  split
  · split <;> simp
  · simp

@[simp] theorem raises_selectorPath : Raises IsProfileError (selectorPath value) := by
  unfold selectorPath
  split
  · split <;> simp [invalidSelector]
  · simp [invalidSelector]

@[simp] theorem raises_isOneOf {texts : List String} :
    Raises IsProfileError (isOneOf texts value) ↔ value.isContainer = false := by
  unfold isOneOf
  simp

@[simp] theorem raises_readerOf :
    Raises IsProfileError (readerOf raw) ↔ (get raw "structural_reader").isContainer = false := by
  unfold readerOf
  simp [Raises.bind]

/-- A selector whose field or source is asked for and has no hash. -/
inductive TripsSelector : PyValue → Prop
  | field {entries : List (String × PyValue)}
    (hfield : (get entries "field").isContainer = true) : TripsSelector (.dict entries)
  | source {entries : List (String × PyValue)} {path : List String}
    (hfield : isOneOf (identityFields.map (·.1)) (get entries "field") = .ok true)
    (hpath : selectorPath (get entries "path") = .ok path)
    (hsource : ((PyValue.lookup "source" entries).getD (.str "text")).isContainer = true) :
    TripsSelector (.dict entries)

theorem tripsSelector_dict : TripsSelector (.dict entries) ↔
    (get entries "field").isContainer = true ∨
      isOneOf (identityFields.map (·.1)) (get entries "field") = .ok true ∧
        (∃ path, selectorPath (get entries "path") = .ok path) ∧
        ((PyValue.lookup "source" entries).getD (.str "text")).isContainer = true := by
  constructor
  · intro h
    cases h with
    | field hfield => exact .inl hfield
    | source hfield hpath hsource => exact .inr ⟨hfield, ⟨_, hpath⟩, hsource⟩
  · intro h
    obtain hfield | ⟨hfield, ⟨path, hpath⟩, hsource⟩ := h
    · exact .field hfield
    · exact .source hfield hpath hsource

theorem raises_selectorOf : Raises IsProfileError (selectorOf item) ↔ ¬ TripsSelector item := by
  unfold selectorOf
  split
  · rename_i entries
    rw [tripsSelector_dict, not_or]
    constructor
    · intro h
      obtain ⟨hfield, hpassed⟩ := Raises.bind.mp h
      refine ⟨by simp [raises_isOneOf.mp hfield], ?_⟩
      rintro ⟨hfound, ⟨path, hpath⟩, hsource⟩
      have hrest := (Raises.bind.mp (hpassed true hfound)).2 () (by simp)
      have hlast := (Raises.bind.mp ((Raises.bind.mp hrest).2 path hpath)).1
      rw [raises_isOneOf.mp hlast] at hsource
      cases hsource
    · rintro ⟨hfield, hsource⟩
      refine Raises.bind.mpr ⟨by simpa using hfield, fun found hfound => ?_⟩
      refine Raises.bind.mpr ⟨by simp [invalidSelector], fun _ hpassed => ?_⟩
      obtain rfl : found = true := by simpa using hpassed
      refine Raises.bind.mpr ⟨raises_selectorPath, fun path hpath => ?_⟩
      refine Raises.bind.mpr ⟨?_, fun known _ => ?_⟩
      · rw [raises_isOneOf]
        exact Bool.eq_false_iff.mpr fun htrips => hsource ⟨hfound, ⟨path, hpath⟩, htrips⟩
      · refine Raises.bind.mpr ⟨by simp [invalidSelector], fun _ _ => ?_⟩
        refine Raises.bind.mpr ⟨by simp [invalidSelector], fun _ _ => ?_⟩
        split <;> simp [invalidSelector]
  · rename_i hother
    refine iff_of_true (by simp [invalidSelector]) fun h => ?_
    cases h with
    | field => exact hother _ rfl
    | source => exact hother _ rfl

/-- Selectors of which one trips, behind others that pass. -/
def TripsSelectors (value : PyValue) (reader : String) : Prop :=
  ∃ front item rest, value = .list (front ++ item :: rest) ∧ reader = "xml_tree.v1" ∧
    (front ++ item :: rest).length ≤ 4 ∧ (∀ other ∈ front, ∃ found, selectorOf other = .ok found) ∧
    TripsSelector item

theorem raises_selectorsOf :
    Raises IsProfileError (selectorsOf value reader) ↔ ¬ TripsSelectors value reader := by
  unfold selectorsOf TripsSelectors
  split
  · rename_i hnone
    refine iff_of_true (by simp) ?_
    rintro ⟨front, item, rest, hlist, -⟩
    rw [hnone] at hlist
    cases hlist
  · split
    · rename_i items _
      rw [Raises.bind]
      simp only [raises_raiseIf, isProfileError_refused, implies_true, true_and, raiseIf_eq_ok,
        Bool.or_eq_false_iff, bne_eq_false_iff_eq, decide_eq_false_iff_not, Nat.not_lt]
      constructor
      · rintro h ⟨front, item, rest, hlist, hreader, hlength, hfront, htrips⟩
        cases hlist
        have hloop := (Raises.bind.mp (h () ⟨hreader, hlength⟩)).1
        exact raises_selectorOf.mp (Raises.mapM.mp hloop front item rest rfl hfront) htrips
      · rintro h _ ⟨hreader, hlength⟩
        refine Raises.bind.mpr ⟨Raises.mapM.mpr ?_, fun selectors _ => by simp⟩
        intro front item rest hlist hfront
        rw [raises_selectorOf]
        intro htrips
        exact h ⟨front, item, rest, by rw [hlist], hreader, hlist ▸ hlength, hfront, htrips⟩
    · rename_i hlist
      refine iff_of_true (by simp) ?_
      rintro ⟨front, item, rest, heq, -⟩
      exact hlist _ heq

/-- Excluded versions of which one is too long, behind others that are versions. -/
def TripsExcluded (constraints : List (String × PyValue)) : Prop :=
  ∃ items front text rest,
    (PyValue.lookup "excluded_versions" constraints).getD (.list []) = .list items ∧
    items.filterMap PyValue.str? = front ++ text :: rest ∧
    (∀ other ∈ front, ∃ version, VersionConstraint.parse other = .ok (some version)) ∧ TooLong text

theorem parse_raises {text : String} :
    Raises IsProfileError (VersionConstraint.parse text) ↔ ¬ TooLong text := by
  rw [← parse_ok_iff]
  cases hparse : VersionConstraint.parse text with
  | ok parsed => simp
  | error error =>
    rw [VersionConstraint.parse_error hparse]
    simp

/-- The search ends at the first text that is no version. -/
theorem raises_someUnparsed {texts : List String} :
    Raises IsProfileError (someUnparsed texts) ↔ ¬ ∃ front text rest,
      texts = front ++ text :: rest ∧
      (∀ other ∈ front, ∃ version, VersionConstraint.parse other = .ok (some version)) ∧
      TooLong text := by
  induction texts with
  | nil => simp [someUnparsed]
  | cons first texts ih =>
    unfold someUnparsed
    rw [Raises.bind, parse_raises]
    constructor
    · rintro ⟨hfirst, hrest⟩ ⟨front, text, rest, heq, hfront, hlong⟩
      cases front with
      | nil =>
        obtain ⟨rfl, -⟩ := List.cons.inj heq
        exact hfirst hlong
      | cons other front =>
        obtain ⟨rfl, rfl⟩ := List.cons.inj heq
        obtain ⟨version, hversion⟩ := hfront first List.mem_cons_self
        exact ih.mp (hrest _ hversion) ⟨front, text, rest, rfl,
          fun other hother => hfront other (List.mem_cons_of_mem _ hother), hlong⟩
    · intro h
      refine ⟨fun hlong => h ⟨[], first, texts, rfl, by simp, hlong⟩, fun parsed hparsed => ?_⟩
      cases parsed with
      | none => simp
      | some version =>
        refine ih.mpr ?_
        rintro ⟨front, text, rest, rfl, hfront, hlong⟩
        refine h ⟨first :: front, text, rest, rfl, ?_, hlong⟩
        exact List.forall_mem_cons.mpr ⟨⟨version, hparsed⟩, hfront⟩

theorem raises_excludedOf :
    Raises IsProfileError (excludedOf constraints) ↔ ¬ TripsExcluded constraints := by
  unfold excludedOf TripsExcluded
  split
  · rename_i items hitems
    have hsome : Raises IsProfileError (someUnparsed (items.filterMap PyValue.str?)) ↔
        ¬ ∃ items' front text rest, PyValue.list items = .list items' ∧
          items'.filterMap PyValue.str? = front ++ text :: rest ∧
          (∀ other ∈ front, ∃ version, VersionConstraint.parse other = .ok (some version)) ∧
          TooLong text := by
      rw [raises_someUnparsed]
      simp
    rw [hitems, ← hsome, Raises.bind]
    refine and_iff_left fun found _ => Raises.bind.mpr ⟨by simp [invalidConstraints], fun _ _ => ?_⟩
    split <;> simp [invalidConstraints]
  · rename_i hitems
    refine iff_of_true (by simp [invalidConstraints]) ?_
    rintro ⟨items, front, text, rest, hlist, -⟩
    exact hitems items hlist

/-- Capabilities of which one has no hash. -/
def TripsCapabilities (raw : List (String × PyValue)) : Prop :=
  ∃ items, (PyValue.lookup "capabilities" raw).getD (.list (capabilityNames.map .str)) =
    .list items ∧ items.any (·.isContainer) = true

theorem raises_capabilitiesOf :
    Raises IsProfileError (capabilitiesOf raw) ↔ ¬ TripsCapabilities raw := by
  unfold capabilitiesOf TripsCapabilities
  dsimp only
  split
  · rename_i items hitems
    rw [hitems]
    split
    · rename_i hempty
      rw [List.isEmpty_iff] at hempty
      simp [hempty]
    · rw [Raises.bind]
      simp only [raises_raiseIf, not_isProfileError_python, imp_false, PyValue.list.injEq,
        exists_eq_left']
      refine and_iff_left fun _ _ => ?_
      split <;> simp
  · rename_i hitems
    refine iff_of_true (by simp) ?_
    rintro ⟨items, hlist, -⟩
    exact hitems items hlist

/-- The checks in front of the structural reader pass. -/
structure PassesIdentity (raw : List (String × PyValue)) : Prop where
  schema : get raw "schema_version" = .str "1.0.0"
  identity : ∃ found, identityOf raw = .ok found

/-- The checks in front of the excluded versions pass. -/
structure PassesMajors (raw : List (String × PyValue)) (reader : String)
    (constraints : List (String × PyValue)) : Prop extends PassesIdentity raw where
  readerFound : readerOf raw = .ok reader
  types : ∃ types, evidenceTypesOf raw reader = .ok types
  tokens : ∃ tokens, tokensOf raw = .ok tokens
  constraintsFound : constraintsOf raw = .ok constraints
  majors : ∃ majors, majorsOf constraints = .ok majors

/-- The checks in front of the capabilities pass. -/
structure PassesClasses (raw : List (String × PyValue)) (reader : String)
    (constraints : List (String × PyValue)) : Prop
    extends PassesMajors raw reader constraints where
  excluded : ∃ excluded, excludedOf constraints = .ok excluded
  classes : ∃ classes, deviceClassesOf raw = .ok classes

/-- The checks in front of the selectors pass. -/
structure PassesFields (raw : List (String × PyValue)) (reader : String)
    (constraints : List (String × PyValue)) : Prop
    extends PassesClasses raw reader constraints where
  capabilities : ∃ capabilities, capabilitiesOf raw = .ok capabilities
  fields : ∃ fields, canonicalFieldsOf raw = .ok fields

/-- A manifest of which a check is reached that has an exception of its own. -/
inductive Trips (raw : List (String × PyValue)) : Prop
  | reader (h : PassesIdentity raw)
    (htrips : (get raw "structural_reader").isContainer = true)
  | excluded {reader : String} {constraints : List (String × PyValue)}
    (h : PassesMajors raw reader constraints) (htrips : TripsExcluded constraints)
  | capabilities {reader : String} {constraints : List (String × PyValue)}
    (h : PassesClasses raw reader constraints) (htrips : TripsCapabilities raw)
  | selectors {reader : String} {constraints : List (String × PyValue)}
    (h : PassesFields raw reader constraints)
    (htrips : TripsSelectors (get raw "identity_selectors") reader)

theorem raises_manifestOf : Raises IsProfileError (manifestOf raw) ↔ ¬ Trips raw := by
  unfold manifestOf
  simp only [Raises.bind, raises_raiseIf, isProfileError_refused, implies_true, true_and,
    raiseIf_eq_ok, bne_eq_false_iff_eq, raises_identityOf, raises_readerOf,
    raises_evidenceTypesOf, raises_tokensOf, raises_constraintsOf, raises_majorsOf,
    raises_excludedOf, raises_deviceClassesOf, raises_capabilitiesOf, raises_canonicalFieldsOf,
    raises_selectorsOf, raises_textOf, raises_versionOf, Raises.pure, and_true]
  constructor
  · intro h htrips
    have hidentity (hp : PassesIdentity raw) := h () hp.schema _ hp.identity.choose_spec
    have hmajors {reader constraints} (hp : PassesMajors raw reader constraints) :=
      (hidentity hp.toPassesIdentity).2 reader hp.readerFound _ hp.types.choose_spec
        _ hp.tokens.choose_spec constraints hp.constraintsFound _ hp.majors.choose_spec
    have hclasses {reader constraints} (hp : PassesClasses raw reader constraints) :=
      (hmajors hp.toPassesMajors).2 _ hp.excluded.choose_spec _ hp.classes.choose_spec
    cases htrips with
    | reader hp htrips =>
      rw [(hidentity hp).1] at htrips
      cases htrips
    | excluded hp htrips => exact (hmajors hp).1 htrips
    | capabilities hp htrips => exact (hclasses hp).1 htrips
    | selectors hp htrips =>
      obtain ⟨capabilities, hcapabilities⟩ := hp.capabilities
      obtain ⟨fields, hfields⟩ := hp.fields
      exact (hclasses hp.toPassesClasses).2 capabilities hcapabilities fields hfields htrips
  · intro h _ hschema found hfound
    have hidentity : PassesIdentity raw := ⟨hschema, found, hfound⟩
    refine ⟨Bool.eq_false_iff.mpr fun htrips => h (.reader hidentity htrips), ?_⟩
    intro reader hreader types htypes tokens htokens constraints hconstraints majors hmajors
    have hpassed : PassesMajors raw reader constraints :=
      ⟨hidentity, hreader, ⟨types, htypes⟩, ⟨tokens, htokens⟩, hconstraints, majors, hmajors⟩
    refine ⟨fun htrips => h (.excluded hpassed htrips), ?_⟩
    intro excluded hexcluded classes hclasses
    have hclass : PassesClasses raw reader constraints :=
      ⟨hpassed, ⟨excluded, hexcluded⟩, classes, hclasses⟩
    refine ⟨fun htrips => h (.capabilities hclass htrips), ?_⟩
    intro capabilities hcapabilities fields hfields htrips
    exact h (.selectors ⟨hclass, ⟨capabilities, hcapabilities⟩, fields, hfields⟩ htrips)

variable {loads : String → Except LoadsError PyValue} {content : ByteArray}

/-- `parse_runtime_profile` gets to a JSON value that it trips over, or `json.loads` has an
exception of its own. -/
inductive ProfileTrips (loads : String → Except LoadsError PyValue) (content : ByteArray) : Prop
  | raised {text : String} {error : PyError} (hsize : content.size ≠ 0)
    (hbound : content.size ≤ 128 * 1024) (htext : String.fromUTF8? content = some text)
    (hraised : loads text = .error (.raised error))
  | manifest {text : String} {raw : List (String × PyValue)} (hsize : content.size ≠ 0)
    (hbound : content.size ≤ 128 * 1024) (htext : String.fromUTF8? content = some text)
    (hloads : loads text = .ok (.dict raw)) (htrips : Trips raw)

/-- The manifest parser fails as declared exactly when nothing trips. -/
theorem raises_parseRuntimeProfile :
    Raises IsProfileError (parseRuntimeProfile loads content) ↔ ¬ ProfileTrips loads content := by
  unfold parseRuntimeProfile
  rw [Raises.bind]
  simp only [raises_raiseIf, isProfileError_refused, implies_true, true_and, raiseIf_eq_ok,
    Bool.or_eq_false_iff, decide_eq_false_iff_not, Nat.not_lt]
  constructor
  · intro h htrips
    cases htrips with
    | raised hsize hbound htext hraised =>
      have hdecoded := (Raises.bind.mp (h () ⟨hsize, hbound⟩)).1
      rw [decoded, htext, Option.map_some, hraised] at hdecoded
      exact not_isProfileError_python _ ((Raises.error _).mp hdecoded)
    | @manifest text raw hsize hbound htext hloads htrips =>
      have hmanifest := (Raises.bind.mp (h () ⟨hsize, hbound⟩)).2
      have hdecoded : decoded loads content = .ok (.dict raw) := by
        rw [decoded, htext, Option.map_some, hloads]
      exact raises_manifestOf.mp (hmanifest _ hdecoded) htrips
  · rintro h _ ⟨hsize, hbound⟩
    cases htext : String.fromUTF8? content with
    | none => simp [decoded, htext, Raises.bind]
    | some text =>
      cases hloads : loads text with
      | ok value =>
        have hdecoded : decoded loads content = .ok value := by
          rw [decoded, htext, Option.map_some, hloads]
        rw [hdecoded]
        refine Raises.bind.mpr ⟨(Raises.ok _).mpr trivial, fun found hfound => ?_⟩
        obtain rfl := Except.ok.inj hfound
        cases value with
        | dict raw =>
          exact raises_manifestOf.mpr fun htrips => h (.manifest hsize hbound htext hloads htrips)
        | _ => simp
      | error error =>
        cases error with
        | decodeError => simp [decoded, htext, hloads, Raises.bind]
        | raised error => exact absurd (.raised hsize hbound htext hloads) h

end ConfigAuditor.ProfileResolution.DeclaredErrors
