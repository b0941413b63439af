import ConfigAuditor.Assessment.ExternalCatalog
import ConfigAuditor.ProfileResolution.DeclaredErrors

/-!
# How the parser of imported catalogs fails

`parse_external_catalog` is to raise `CatalogImportError` and nothing else. It prints values with
`str`, which has exceptions of its own; every other check fails as declared, whatever stands in
the field.
-/
namespace ConfigAuditor.Assessment.ExternalErrors

open Library Compliance.RuntimeRules Assessment.Model Catalog Publication ExternalCatalog
open ProfileResolution.RuntimeProfiles (LoadsError)
open ProfileResolution.DeclaredErrors (raises_raiseIf)

/-- `CatalogImportError`. -/
def IsImportError (error : Error) : Prop := ∃ message, error = .catalogImport message

@[simp] theorem isImportError_importError (message : String) :
    IsImportError (importError message) :=
  ⟨message, rfl⟩

@[simp] theorem isImportError_invalid (subject : String) : IsImportError (Catalog.invalid subject) :=
  ⟨_, rfl⟩

@[simp] theorem isImportError_policyError (subject : String) :
    IsImportError (policyError subject) :=
  ⟨_, rfl⟩

@[simp] theorem not_isImportError_python (error : PyError) : ¬ IsImportError (.python error) := nofun

section Bytes

variable {loads : String → Except LoadsError PyValue} {content : ByteArray}

/-- The text of a file of a size that is read. -/
structure HasJsonText (content : ByteArray) (text : String) : Prop where
  nonempty : content.size ≠ 0
  bounded : content.size ≤ maxExternalCatalogBytes
  decoded : String.fromUTF8? content = some text

theorem loaded_eq_some {value : PyValue} :
    loaded loads content = .ok (some value) ↔
      ∃ text, String.fromUTF8? content = some text ∧ loads text = .ok value := by
  unfold loaded
  cases String.fromUTF8? content with
  | none => simp
  | some text =>
    rw [Option.map_some]
    cases hloads : loads text with
    | ok found => simp [hloads]
    | error error => cases error <;> simp [hloads]

theorem raises_loaded : Raises IsImportError (loaded loads content) ↔
    ¬ ∃ text error, String.fromUTF8? content = some text ∧ loads text = .error (.raised error) := by
  unfold loaded
  cases String.fromUTF8? content with
  | none => simp
  | some text =>
    simp only [Option.map_some, Option.some.injEq, exists_and_left, exists_eq_left']
    cases hloads : loads text with
    | ok found => simp
    | error error => cases error <;> simp

end Bytes

section External

variable {reprOf : PyValue → Except PyError String} {payload control : Payload}
  {seen : List ExternalControl} {value : PyValue}

/-- The value of a field can be printed. -/
def HasText (reprOf : PyValue → Except PyError String) (payload : Payload)
    (key otherwise : String) : Prop :=
  ∃ text, strOf reprOf ((PyValue.lookup key payload).getD (.str otherwise)) = .ok text

/-- A text that cannot be printed is an exception of `str`. -/
theorem raises_textAt {key otherwise : String} :
    Raises IsImportError (textAt reprOf payload key otherwise) ↔
      HasText reprOf payload key otherwise := by
  unfold textAt HasText
  cases strOf reprOf ((PyValue.lookup key payload).getD (.str otherwise)) with
  | ok text => exact iff_of_true ((Raises.ok _).mpr trivial) ⟨text, rfl⟩
  | error error =>
    refine iff_of_false (fun h => not_isImportError_python error (h _ rfl)) ?_
    rintro ⟨text, htext⟩
    cases htext

theorem textAt_ok {key otherwise : String} (h : HasText reprOf payload key otherwise) :
    ∃ text, textAt reprOf payload key otherwise = .ok text := by
  obtain ⟨text, htext⟩ := h
  refine ⟨Text.strip text, ?_⟩
  rw [textAt, htext]
  rfl

@[simp] theorem raises_checkedControl {controlId title severity scope implementation : String} :
    Raises IsImportError
      (checkedControl seen controlId title severity scope implementation) := by
  unfold checkedControl
  split <;> simp [invalidControl]

/-- The texts of a control can be printed. -/
structure HasControlTexts (reprOf : PyValue → Except PyError String) (control : Payload) : Prop where
  controlId : HasText reprOf control "control_id" ""
  title : HasText reprOf control "title" ""
  severity : HasText reprOf control "severity" "not_assigned"
  scope : HasText reprOf control "scope" "organization-defined"
  implementation : HasText reprOf control "implementation_status" "manual"

/-- A control without an evaluator of which some text cannot be printed. -/
def TripsControl (reprOf : PyValue → Except PyError String) (value : PyValue) : Prop :=
  ∃ control, value = .dict control ∧ get control "evaluator_rule_id" = .none ∧
    ¬ HasControlTexts reprOf control

theorem raises_parseControl :
    Raises IsImportError (parseControl reprOf seen value) ↔ ¬ TripsControl reprOf value := by
  unfold parseControl TripsControl
  split
  · rename_i control
    simp only [raises_raiseIf, isImportError_importError, implies_true, true_and, raiseIf_eq_ok,
      bne_eq_false_iff_eq, Raises.bind, raises_textAt, raises_checkedControl, and_true]
    constructor
    · rintro h ⟨_, heq, hevaluator, htexts⟩
      cases heq
      obtain ⟨hid, h⟩ := h () hevaluator
      obtain ⟨htitle, h⟩ := h _ (textAt_ok hid).choose_spec
      obtain ⟨hseverity, h⟩ := h _ (textAt_ok htitle).choose_spec
      obtain ⟨hscope, himplementation⟩ := h _ (textAt_ok hseverity).choose_spec
      exact htexts ⟨hid, htitle, hseverity, hscope,
        himplementation _ (textAt_ok hscope).choose_spec⟩
    · intro h _ hevaluator
      have htexts : HasControlTexts reprOf control := by
        by_contra hnot
        exact h ⟨control, rfl, hevaluator, hnot⟩
      exact ⟨htexts.controlId, fun _ _ => ⟨htexts.title, fun _ _ => ⟨htexts.severity,
        fun _ _ => ⟨htexts.scope, fun _ _ => htexts.implementation⟩⟩⟩⟩
  · rename_i hother
    refine iff_of_true (by simp) ?_
    rintro ⟨control, rfl, -⟩
    exact hother _ rfl

/-- Controls of which one trips, behind others that are read. -/
def TripsControls (reprOf : PyValue → Except PyError String) (items : List PyValue) : Prop :=
  ∃ front value rest controls, items = front ++ value :: rest ∧
    parseControls reprOf front = .ok controls ∧ TripsControl reprOf value

theorem raises_parseControls {items : List PyValue} :
    Raises IsImportError (parseControls reprOf items) ↔ ¬ TripsControls reprOf items := by
  unfold parseControls TripsControls
  rw [Raises.foldlM]
  simp only [bind_pure_comp, Raises.map, raises_parseControl]
  constructor
  · rintro h ⟨front, value, rest, controls, heq, hfront, htrips⟩
    refine h front value rest controls heq ?_ htrips
    rw [← hfront]
    simp only [parseControls, bind_pure_comp]
  · intro h front value rest controls heq hfront htrips
    refine h ⟨front, value, rest, controls, heq, ?_, htrips⟩
    rw [← hfront]
    simp only [parseControls, bind_pure_comp]

/-- The texts that identify a catalog can be printed. -/
structure HasCatalogTexts (reprOf : PyValue → Except PyError String) (payload : Payload) : Prop where
  catalogId : HasText reprOf payload "catalog_id" ""
  name : HasText reprOf payload "name" ""
  sourceVersion : HasText reprOf payload "source_version" ""
  sourceUrl : HasText reprOf payload "source_url" ""

/-- The framework of a catalog is read and supported. -/
structure PassesFramework (reprOf : PyValue → Except PyError String) (payload : Payload) : Prop where
  schema : get payload "schema_version" = .str "1.0.0"
  framework : ∃ text, textAt reprOf payload "framework" "" = .ok text ∧
    ["cis", "iso"].contains (Text.lower text) = true

/-- The checks in front of the controls pass. -/
structure PassesProvenance (reprOf : PyValue → Except PyError String) (payload : Payload)
    (items : List PyValue) : Prop extends PassesFramework reprOf payload where
  texts : ∃ catalogId name sourceVersion sourceUrl,
    textAt reprOf payload "catalog_id" "" = .ok catalogId ∧
    textAt reprOf payload "name" "" = .ok name ∧
    textAt reprOf payload "source_version" "" = .ok sourceVersion ∧
    textAt reprOf payload "source_url" "" = .ok sourceUrl ∧
    validProvenance catalogId name sourceVersion sourceUrl = true
  profiles : ∃ profiles, profileNames (get payload "profile_version_ids") = some profiles
  controls : controlItems (get payload "controls") = some items

/-- A catalog of which a text is taken that cannot be printed. -/
inductive TripsExternal (reprOf : PyValue → Except PyError String) (payload : Payload) : Prop
  | framework (hschema : get payload "schema_version" = .str "1.0.0")
    (htext : ¬ HasText reprOf payload "framework" "")
  | texts (h : PassesFramework reprOf payload) (htexts : ¬ HasCatalogTexts reprOf payload)
  | controls {items : List PyValue} (h : PassesProvenance reprOf payload items)
    (htrips : TripsControls reprOf items)

/-- The checks behind the texts. -/
theorem raises_checkedCatalog {digest framework catalogId name sourceVersion sourceUrl : String} :
    Raises IsImportError
      (checkedCatalog reprOf payload digest framework catalogId name sourceVersion sourceUrl) ↔
      ∀ profiles items, profileNames (get payload "profile_version_ids") = some profiles →
        controlItems (get payload "controls") = some items →
        validProvenance catalogId name sourceVersion sourceUrl = true →
        ¬ TripsControls reprOf items := by
  unfold checkedCatalog
  cases profileNames (get payload "profile_version_ids") with
  | none => simp [invalidProvenance]
  | some profiles =>
    cases controlItems (get payload "controls") with
    | none => simp [invalidProvenance]
    | some items => simp [Raises.bind, raises_parseControls, invalidProvenance]

theorem raises_catalogOf {digest : String} :
    Raises IsImportError (catalogOf reprOf digest payload) ↔ ¬ TripsExternal reprOf payload := by
  unfold catalogOf
  simp only [Raises.bind, raises_raiseIf, isImportError_importError, implies_true, true_and,
    raiseIf_eq_ok, bne_eq_false_iff_eq, Bool.not_eq_false', raises_textAt, raises_checkedCatalog]
  constructor
  · intro h htrips
    have hframework (hp : PassesFramework reprOf payload) :=
      (h () hp.schema).2 _ hp.framework.choose_spec.1 () hp.framework.choose_spec.2
    cases htrips with
    | framework hschema htext => exact htext (h () hschema).1
    | texts hp htexts =>
      obtain ⟨hid, hrest⟩ := hframework hp
      obtain ⟨hname, hrest⟩ := hrest _ (textAt_ok hid).choose_spec
      obtain ⟨hversion, hrest⟩ := hrest _ (textAt_ok hname).choose_spec
      exact htexts ⟨hid, hname, hversion, (hrest _ (textAt_ok hversion).choose_spec).1⟩
    | controls hp htrips =>
      obtain ⟨catalogId, name, sourceVersion, sourceUrl, hid, hname, hversion, hurl, hvalid⟩ :=
        hp.texts
      obtain ⟨profiles, hprofiles⟩ := hp.profiles
      have hurls := (((hframework hp.toPassesFramework).2 catalogId hid).2 name hname).2
      exact (hurls sourceVersion hversion).2 sourceUrl hurl profiles _ hprofiles hp.controls hvalid
        htrips
  · intro h _ hschema
    refine ⟨by_contra fun htext => h (.framework hschema htext), fun framework htext _ hknown => ?_⟩
    have hpassed : PassesFramework reprOf payload := ⟨hschema, framework, htext, hknown⟩
    have htexts : HasCatalogTexts reprOf payload :=
      by_contra fun htexts => h (.texts hpassed htexts)
    refine ⟨htexts.catalogId, fun catalogId hid => ⟨htexts.name, fun name hname =>
      ⟨htexts.sourceVersion, fun sourceVersion hversion => ⟨htexts.sourceUrl, ?_⟩⟩⟩⟩
    intro sourceUrl hurl profiles items hprofiles hitems hvalid htrips
    exact h (.controls ⟨hpassed, ⟨_, _, _, _, hid, hname, hversion, hurl, hvalid⟩,
      ⟨profiles, hprofiles⟩, hitems⟩ htrips)

/-- `parse_external_catalog` gets to a value that `str` cannot print, or `json.loads` has an
exception of its own. -/
inductive ExternalTrips (loads : String → Except LoadsError PyValue)
    (reprOf : PyValue → Except PyError String) (content : ByteArray) : Prop
  | raised {text : String} {error : PyError} (htext : HasJsonText content text)
    (hraised : loads text = .error (.raised error))
  | payload {text : String} {payload : Payload} (htext : HasJsonText content text)
    (hloads : loads text = .ok (.dict payload)) (htrips : TripsExternal reprOf payload)

theorem raises_parseExternalCatalog {loads : String → Except LoadsError PyValue}
    {sha256 : ByteArray → String} {content : ByteArray} :
    Raises IsImportError (parseExternalCatalog loads reprOf sha256 content) ↔
      ¬ ExternalTrips loads reprOf content := by
  unfold parseExternalCatalog
  simp only [Raises.bind, raises_raiseIf, isImportError_importError, implies_true, true_and,
    raiseIf_eq_ok, Bool.or_eq_false_iff, decide_eq_false_iff_not, Nat.not_lt, raises_loaded]
  constructor
  · intro h htrips
    cases htrips with
    | raised htext hraised =>
      exact (h () ⟨htext.nonempty, htext.bounded⟩).1 ⟨_, _, htext.decoded, hraised⟩
    | payload htext hloads htrips =>
      have hloaded := loaded_eq_some.mpr ⟨_, htext.decoded, hloads⟩
      exact raises_catalogOf.mp ((h () ⟨htext.nonempty, htext.bounded⟩).2 _ hloaded) htrips
  · rintro h _ ⟨hnonempty, hbounded⟩
    refine ⟨?_, fun found hfound => ?_⟩
    · rintro ⟨text, error, hdecoded, hraised⟩
      exact h (.raised ⟨hnonempty, hbounded, hdecoded⟩ hraised)
    · split
      · obtain ⟨text, hdecoded, hloads⟩ := loaded_eq_some.mp hfound
        exact raises_catalogOf.mpr fun htrips =>
          h (.payload ⟨hnonempty, hbounded, hdecoded⟩ hloads htrips)
      · simp
      · simp

end External

end ConfigAuditor.Assessment.ExternalErrors
