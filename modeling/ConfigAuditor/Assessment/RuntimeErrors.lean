import ConfigAuditor.Assessment.ExternalErrors
import ConfigAuditor.ProfileResolution.RuntimeRoundTrip

/-!
# How the parser of published catalogs fails

`parse_runtime_catalog` is to raise `CatalogImportError` and nothing else. It calls the lookups it
is given and asks `isfinite` for the parameters of a policy, which an integer can be too large
for; every other check fails as declared.
-/
namespace ConfigAuditor.Assessment.RuntimeErrors

open Library Compliance.Model Compliance.RuntimeRules Assessment.Model Catalog Publication
  ExternalCatalog ExternalErrors
open ProfileResolution (ProfileManifest)
open ProfileResolution.RuntimeProfiles (LoadsError parseRuntimeProfile)
open ProfileResolution.DeclaredErrors
open ProfileResolution.RuntimeRoundTrip (readsOnly parseRuntimeProfile_readsOnly)

section Runtime

variable {profileLookup : String → Except Error (Option ProfileManifest)}
  {ruleLookup : String → String → Except Error RuleDefinition}
  {value : PyValue} {item : Payload} {rule : RuleDefinition}

@[simp] theorem raises_runtimeText {label : String} {limit : Nat} :
    Raises IsImportError (runtimeText value label limit) := by
  unfold runtimeText
  simp

/-- What a lookup of a profile may raise. -/
def ProfileAnswers (profileLookup : String → Except Error (Option ProfileManifest))
    (name : String) : Prop :=
  Raises (fun error => IsProfileError error ∨ IsImportError error) (profileLookup name)

/-- What a lookup of a rule may raise. -/
def RuleAnswers (ruleLookup : String → String → Except Error RuleDefinition)
    (ruleId name : String) : Prop :=
  Raises (fun error => (∃ message, error = .runtimeRule message) ∨ IsImportError error)
    (ruleLookup ruleId name)

theorem raises_checkProfile {name : String} :
    Raises IsImportError (Catalog.checkProfile profileLookup name) ↔
      ProfileAnswers profileLookup name := by
  unfold Catalog.checkProfile ProfileAnswers
  cases profileLookup name with
  | ok found => cases found <;> simp [unsupportedProfile]
  | error error =>
    rw [Raises.error]
    cases error <;> simp [unsupportedProfile, IsProfileError, IsImportError, importError]

theorem raises_lookupRule {ruleId name : String} :
    Raises IsImportError (lookupRule ruleLookup ruleId name) ↔
      RuleAnswers ruleLookup ruleId name := by
  unfold lookupRule RuleAnswers
  cases ruleLookup ruleId name with
  | ok found => simp
  | error error => cases error <;> simp [IsImportError, importError]

/-- Profiles of which one makes the lookup fail, behind others that are found. -/
def TripsProfiles (profileLookup : String → Except Error (Option ProfileManifest))
    (value : PyValue) : Prop :=
  ∃ items names front name rest, value = .list items ∧ items ≠ [] ∧ items.length ≤ 32 ∧
    (items.mapM fun item => runtimeText item "profile" 255) = .ok names ∧
    names.eraseDups = front ++ name :: rest ∧
    (∀ other ∈ front, Catalog.checkProfile profileLookup other = .ok ()) ∧
    ¬ ProfileAnswers profileLookup name

theorem raises_runtimeProfiles {allowed : Option (List String)} :
    Raises IsImportError (runtimeProfiles profileLookup value allowed) ↔
      ¬ TripsProfiles profileLookup value := by
  unfold runtimeProfiles TripsProfiles
  split
  · rename_i items
    simp only [Raises.bind, raises_raiseIf, isImportError_invalid, implies_true, true_and,
      raiseIf_eq_ok, Bool.or_eq_false_iff, decide_eq_false_iff_not, Nat.not_lt,
      List.isEmpty_eq_false_iff, isImportError_importError, Raises.pure, and_true]
    constructor
    · rintro h ⟨_, names, front, name, rest, heq, hne, hlength, hnames, hsplit, hfront, htrips⟩
      cases heq
      have hlookups := (h () ⟨hne, hlength⟩).2 names hnames
      exact htrips (raises_checkProfile.mp (Raises.forM.mp hlookups front name rest hsplit hfront))
    · rintro h _ ⟨hne, hlength⟩
      refine ⟨Raises.mapM.mpr fun front item rest _ _ => raises_runtimeText, fun names hnames => ?_⟩
      refine Raises.forM.mpr fun front name rest hsplit hfront => raises_checkProfile.mpr ?_
      by_contra htrips
      exact h ⟨items, names, front, name, rest, rfl, hne, hlength, hnames, hsplit, hfront, htrips⟩
  · rename_i hother
    refine iff_of_true (by simp) ?_
    rintro ⟨items, names, front, name, rest, heq, -⟩
    exact hother _ heq

/-- A list of profiles that is accepted is not empty. -/
theorem runtimeProfiles_ne_nil {allowed : Option (List String)} {profiles : List String}
    (h : runtimeProfiles profileLookup value allowed = .ok profiles) : profiles ≠ [] := by
  unfold runtimeProfiles at h
  split at h
  · rename_i items
    simp only [except_bind_eq_ok, raiseIf_eq_ok, Bool.or_eq_false_iff, except_pure_eq_ok,
      List.isEmpty_eq_false_iff] at h
    obtain ⟨_, ⟨hne, -⟩, names, hnames, _, -, _, -, rfl⟩ := h
    cases items with
    | nil => exact absurd rfl hne
    | cons item items =>
      obtain ⟨name, hname, -⟩ := mapM_exists_output hnames List.mem_cons_self
      exact List.ne_nil_of_mem (List.mem_eraseDups.mpr hname)
  · cases h

/-- Profiles of which one makes the lookup of the rule fail, behind others that have the rule. -/
def TripsRule (ruleLookup : String → String → Except Error RuleDefinition) (ruleId : String)
    (profiles : List String) : Prop :=
  ∃ front name rest, profiles = front ++ name :: rest ∧
    (∀ other ∈ front, ∃ rule, lookupRule ruleLookup ruleId other = .ok rule) ∧
    ¬ RuleAnswers ruleLookup ruleId name

theorem raises_runtimeRule {ruleId : String} {profiles : List String} (hne : profiles ≠ []) :
    Raises IsImportError (runtimeRule ruleLookup ruleId profiles) ↔
      ¬ TripsRule ruleLookup ruleId profiles := by
  unfold runtimeRule TripsRule
  rw [Raises.bind]
  constructor
  · rintro ⟨hlookups, -⟩ ⟨front, name, rest, hsplit, hfront, htrips⟩
    exact htrips (raises_lookupRule.mp (Raises.mapM.mp hlookups front name rest hsplit hfront))
  · intro h
    refine ⟨Raises.mapM.mpr fun front name rest hsplit hfront => raises_lookupRule.mpr ?_, ?_⟩
    · by_contra htrips
      exact h ⟨front, name, rest, hsplit, hfront, htrips⟩
    · intro rules hrules
      split
      · rw [mapM_eq_ok, List.forall₂_nil_right_iff] at hrules
        exact absurd hrules hne
      · simp

/-- A parameter that `isfinite` does not answer for. -/
def Unanswered (policy : Payload) (key : String) : Prop :=
  ∃ i, get policy key = .int i ∧ PyFloat.ofInt? i = none

theorem raises_checkParameter {policy : Payload} {key : String} :
    Raises IsImportError (checkParameter policy key) ↔ ¬ Unanswered policy key := by
  unfold checkParameter Unanswered
  cases get policy key with
  | list items => simp [Raises.bind]
  | int i =>
    cases hfloat : PyFloat.ofInt? i <;>
      simp [Raises.bind, PyValue.isNumber, Catalog.isFinite, hfloat]
  | _ => simp [Raises.bind, PyValue.isNumber, Catalog.isFinite]

@[simp] theorem raises_checkExpected {policy : Payload} :
    Raises IsImportError (checkExpected rule policy) := by
  unfold checkExpected
  split <;> simp

@[simp] theorem raises_suppliedPolicy : Raises IsImportError (suppliedPolicy value) := by
  unfold suppliedPolicy
  split <;> simp

/-- The fields the rule requires, as a policy gives them. -/
def requiredFields (rule : RuleDefinition) : PyValue := .list (rule.requiredEffectiveStates.map .str)

/-- The policy whose parameters are checked. -/
def policyOf (supplied : Payload) (rule : RuleDefinition) : Payload :=
  supplied.filter (·.1 != "required_canonical_fields") ++
    [("required_canonical_fields", requiredFields rule)]

/-- The checks in front of the parameters pass. -/
structure PassesKeys (value : PyValue) (rule : RuleDefinition) (supplied : Payload) : Prop where
  given : suppliedPolicy value = .ok supplied
  named : supplied.any (·.1.isEmpty) = false
  required : ((PyValue.lookup "required_canonical_fields" supplied).getD (requiredFields rule)).eq
    (requiredFields rule) = true
  permitted : ((policyOf supplied rule).all fun entry =>
    (rule.requiredPolicyParameters ++ ["expected", "required_canonical_fields"]).contains
      entry.1) = true
  present : (rule.requiredPolicyParameters.any fun key =>
    (PyValue.lookup key (policyOf supplied rule)).isNone) = false

/-- A policy of which `isfinite` is asked for a parameter that it does not answer for. -/
def TripsPolicy (value : PyValue) (rule : RuleDefinition) : Prop :=
  ∃ supplied front key rest, PassesKeys value rule supplied ∧
    rule.requiredPolicyParameters = front ++ key :: rest ∧
    (∀ other ∈ front, checkParameter (policyOf supplied rule) other = .ok ()) ∧
    Unanswered (policyOf supplied rule) key

theorem raises_runtimePolicy :
    Raises IsImportError (runtimePolicy value rule) ↔ ¬ TripsPolicy value rule := by
  unfold runtimePolicy TripsPolicy
  simp only [Raises.bind, raises_suppliedPolicy, raises_raiseIf, isImportError_policyError,
    isImportError_importError, implies_true, true_and, raiseIf_eq_ok, raises_checkExpected,
    Raises.pure, and_true]
  constructor
  · rintro h ⟨supplied, front, key, rest, hkeys, hsplit, hfront, htrips⟩
    have hrequired := hkeys.required
    rw [← Bool.not_eq_false'] at hrequired
    have hparameters := h supplied hkeys.given () hkeys.named () hrequired ()
      (by rw [Bool.or_eq_false_iff, Bool.not_eq_false']; exact ⟨hkeys.permitted, hkeys.present⟩)
    exact raises_checkParameter.mp (Raises.forM.mp hparameters front key rest hsplit hfront) htrips
  · intro h supplied hgiven _ hnamed _ hrequired _ hkeys
    rw [Bool.not_eq_false'] at hrequired
    rw [Bool.or_eq_false_iff, Bool.not_eq_false'] at hkeys
    refine Raises.forM.mpr fun front key rest hsplit hfront => raises_checkParameter.mpr ?_
    intro htrips
    exact h ⟨supplied, front, key, rest, ⟨hgiven, hnamed, hrequired, hkeys.1, hkeys.2⟩, hsplit,
      hfront, htrips⟩

/-- An automatic obligation whose rule or policy makes the parser fail. -/
def TripsEvaluator (ruleLookup : String → String → Except Error RuleDefinition) (item : Payload)
    (profiles : List String) : Prop :=
  ∃ evaluator, runtimeText (get item "evaluator_rule_id") "evaluator rule ID" 255 = .ok evaluator ∧
    (TripsRule ruleLookup evaluator profiles ∨ ∃ rule,
      runtimeRule ruleLookup evaluator profiles = .ok rule ∧
      TripsPolicy (get item "policy_parameters") rule)

theorem raises_evaluatorOf {method : AssessmentMethod} {implementation : ImplementationStatus}
    {profiles : List String} (hne : profiles ≠ []) :
    Raises IsImportError (evaluatorOf ruleLookup item method implementation profiles) ↔
      ¬ (method = .automatic ∧ implementation = .implemented ∧
        TripsEvaluator ruleLookup item profiles) := by
  unfold evaluatorOf TripsEvaluator
  split
  · rename_i hautomatic
    simp only [Raises.bind, raises_runtimeText, true_and, raises_runtimeRule hne,
      raises_runtimePolicy, Raises.pure, implies_true, and_true, hautomatic]
    constructor
    · rintro h ⟨evaluator, hevaluator, htrips | ⟨rule, hrule, htrips⟩⟩
      · exact (h evaluator hevaluator).1 htrips
      · exact (h evaluator hevaluator).2 rule hrule htrips
    · intro h evaluator hevaluator
      exact ⟨fun htrips => h ⟨evaluator, hevaluator, .inl htrips⟩,
        fun rule hrule htrips => h ⟨evaluator, hevaluator, .inr ⟨rule, hrule, htrips⟩⟩⟩
  · rename_i hmanual
    refine iff_of_true ?_ fun h => hmanual ⟨h.1, h.2.1⟩
    simp [Raises.bind]

/-- The checks in front of the profiles of an obligation pass. -/
structure PassesStatus (seen : List RuntimeObligation) (item : Payload)
    (method : AssessmentMethod) (implementation : ImplementationStatus) : Prop where
  ids : ∃ obligationKey controlId,
    runtimeText (get item "obligation_key") "obligation key" 255 = .ok obligationKey ∧
    runtimeText (get item "control_id") "control ID" 255 = .ok controlId ∧
    (!Catalog.isIdentifier obligationKey || !Catalog.isIdentifier controlId ||
      seen.any (·.obligationKey == obligationKey) || seen.any (·.controlId == controlId)) = false
  statuses : ∃ methodText implementationText,
    runtimeText (get item "assessment_method") "assessment method" 16 = .ok methodText ∧
    runtimeText (get item "implementation_status") "implementation status" 16 =
      .ok implementationText ∧
    methodOf (Text.lower methodText) = some method ∧
    implementationOf (Text.lower implementationText) = some implementation

/-- The profiles of an obligation; those of the pack when it names none. -/
def profilesValue (packProfiles : List String) (item : Payload) : PyValue :=
  getOr item "profile_version_ids" (.list (packProfiles.map .str))

/-- An obligation of which a check is reached that has an exception of its own. -/
inductive TripsObligation (profileLookup : String → Except Error (Option ProfileManifest))
    (ruleLookup : String → String → Except Error RuleDefinition) (packProfiles : List String)
    (seen : List RuntimeObligation) : PyValue → Prop
  | profiles {item : Payload} {method : AssessmentMethod} {implementation : ImplementationStatus}
    (h : PassesStatus seen item method implementation)
    (htrips : TripsProfiles profileLookup (profilesValue packProfiles item)) :
    TripsObligation profileLookup ruleLookup packProfiles seen (.dict item)
  | evaluator {item : Payload} {profiles : List String}
    (h : PassesStatus seen item .automatic .implemented)
    (hprofiles : runtimeProfiles profileLookup (profilesValue packProfiles item)
      (some packProfiles) = .ok profiles)
    (htrips : TripsEvaluator ruleLookup item profiles) :
    TripsObligation profileLookup ruleLookup packProfiles seen (.dict item)

variable {packProfiles : List String} {seen : List RuntimeObligation}

theorem raises_parseObligation :
    Raises IsImportError (parseObligation profileLookup ruleLookup packProfiles seen value) ↔
      ¬ TripsObligation profileLookup ruleLookup packProfiles seen value := by
  unfold parseObligation
  split
  · rename_i item
    simp only [Raises.bind, raises_runtimeText, raises_raiseIf, isImportError_importError,
      implies_true, true_and, raiseIf_eq_ok]
    constructor
    · intro h htrips
      have hprofiles {method implementation} (hp : PassesStatus seen item method implementation) :
          ¬ TripsProfiles profileLookup (profilesValue packProfiles item) ∧
            ∀ profiles, runtimeProfiles profileLookup (profilesValue packProfiles item)
              (some packProfiles) = .ok profiles →
              Raises IsImportError
                (evaluatorOf ruleLookup item method implementation profiles) := by
        obtain ⟨obligationKey, controlId, hkey, hcontrol, hids⟩ := hp.ids
        obtain ⟨methodText, implementationText, hmethod, himplementation, hm, hi⟩ := hp.statuses
        have hmatch := h obligationKey hkey controlId hcontrol () hids methodText hmethod
          implementationText himplementation
        rw [hm, hi] at hmatch
        simp only [Raises.bind, raises_runtimeProfiles] at hmatch
        exact ⟨hmatch.1, fun profiles hprofiles => (hmatch.2 profiles hprofiles).1⟩
      cases htrips with
      | profiles hp htrips => exact (hprofiles hp).1 htrips
      | evaluator hp hfound htrips =>
        have hevaluator := (hprofiles hp).2 _ hfound
        rw [raises_evaluatorOf (runtimeProfiles_ne_nil hfound)] at hevaluator
        exact hevaluator ⟨rfl, rfl, htrips⟩
    · intro h obligationKey hkey controlId hcontrol _ hids methodText hmethod implementationText
        himplementation
      split
      · rename_i method implementation hm hi
        have hp : PassesStatus seen item method implementation :=
          ⟨⟨obligationKey, controlId, hkey, hcontrol, hids⟩,
            methodText, implementationText, hmethod, himplementation, hm, hi⟩
        simp only [Raises.bind, raises_runtimeProfiles, raises_runtimeText, Raises.pure,
          implies_true, and_true]
        refine ⟨fun htrips => h (.profiles hp htrips), fun profiles hprofiles => ?_⟩
        rw [raises_evaluatorOf (runtimeProfiles_ne_nil hprofiles)]
        rintro ⟨rfl, rfl, htrips⟩
        exact h (.evaluator hp hprofiles htrips)
      · simp
  · rename_i hother
    refine iff_of_true (by simp) fun h => ?_
    cases h with
    | profiles => exact hother _ rfl
    | evaluator => exact hother _ rfl

/-- Obligations of which one trips, behind others that are read. -/
def TripsObligations (profileLookup : String → Except Error (Option ProfileManifest))
    (ruleLookup : String → String → Except Error RuleDefinition) (packProfiles : List String)
    (values : List PyValue) : Prop :=
  ∃ front value rest seen, values = front ++ value :: rest ∧
    parseObligations profileLookup ruleLookup packProfiles front = .ok seen ∧
    TripsObligation profileLookup ruleLookup packProfiles seen value

theorem raises_parseObligations {values : List PyValue} :
    Raises IsImportError (parseObligations profileLookup ruleLookup packProfiles values) ↔
      ¬ TripsObligations profileLookup ruleLookup packProfiles values := by
  unfold parseObligations TripsObligations
  rw [Raises.foldlM]
  simp only [bind_pure_comp, Raises.map, raises_parseObligation]
  constructor
  · rintro h ⟨front, value, rest, seen, heq, hfront, htrips⟩
    refine h front value rest seen heq ?_ htrips
    rw [← hfront]
    simp only [parseObligations, bind_pure_comp]
  · intro h front value rest seen heq hfront htrips
    refine h ⟨front, value, rest, seen, heq, ?_, htrips⟩
    rw [← hfront]
    simp only [parseObligations, bind_pure_comp]

/-- The checks in front of the profiles of a pack pass. -/
structure PassesPack (payload : Payload) : Prop where
  schema : get payload "schema_version" = .str "1.0.0"
  packKey : ∃ packKey, runtimeText (get payload "pack_key") "pack key" 255 = .ok packKey ∧
    Catalog.isIdentifier packKey = true
  family : ∃ family, runtimeText (get payload "family") "family" 128 = .ok family
  name : ∃ name, runtimeText (get payload "name") "name" 255 = .ok name
  sourceVersion : ∃ sourceVersion,
    runtimeText (get payload "source_version") "source version" 128 = .ok sourceVersion
  version : ∃ version, versionOf (get payload "version") = some version
  sourceUrl : ∃ sourceUrl, runtimeText (get payload "source_url") "source URL" 2048 = .ok sourceUrl ∧
    Text.startsWith sourceUrl "https://" = true

/-- A catalog of which a check is reached that has an exception of its own. -/
inductive TripsCatalog (profileLookup : String → Except Error (Option ProfileManifest))
    (ruleLookup : String → String → Except Error RuleDefinition) (payload : Payload) : Prop
  | profiles (h : PassesPack payload)
    (htrips : TripsProfiles profileLookup (get payload "profile_version_ids"))
  | obligations {profiles : List String} {values : List PyValue} (h : PassesPack payload)
    (hprofiles : runtimeProfiles profileLookup (get payload "profile_version_ids") none =
      .ok profiles)
    (hvalues : get payload "obligations" = .list values) (hne : values ≠ [])
    (hbounded : values.length ≤ maxExternalControls)
    (htrips : TripsObligations profileLookup ruleLookup profiles values)

theorem raises_parseRuntimeCatalog {content : CatalogContent} :
    Raises IsImportError (parseRuntimeCatalog profileLookup ruleLookup content) ↔
      ¬ (content.size ≠ 0 ∧ content.size ≤ maxExternalCatalogBytes ∧
        ∃ payload, content.json = some (.dict payload) ∧
          TripsCatalog profileLookup ruleLookup payload) := by
  unfold parseRuntimeCatalog
  simp only [Raises.bind, raises_raiseIf, isImportError_invalid, implies_true, true_and,
    raiseIf_eq_ok, Bool.or_eq_false_iff, decide_eq_false_iff_not, Nat.not_lt, beq_eq_false_iff_ne]
  cases hjson : content.json with
  | none => simp
  | some value =>
    cases value with
    | dict payload =>
      simp only [Raises.bind, raises_raiseIf, isImportError_invalid, isImportError_importError,
        implies_true, true_and, raiseIf_eq_ok, bne_eq_false_iff_eq, raises_runtimeText,
        Bool.not_eq_false']
      constructor
      · rintro h ⟨hnonempty, hbounded, _, heq, htrips⟩
        cases heq
        have hpack (hp : PassesPack payload) :
            ¬ TripsProfiles profileLookup (get payload "profile_version_ids") ∧
              ∀ profiles values, runtimeProfiles profileLookup (get payload "profile_version_ids")
                none = .ok profiles → get payload "obligations" = .list values → values ≠ [] →
                values.length ≤ maxExternalControls →
                ¬ TripsObligations profileLookup ruleLookup profiles values := by
          obtain ⟨packKey, hkey, hid⟩ := hp.packKey
          obtain ⟨version, hversion⟩ := hp.version
          obtain ⟨sourceUrl, hurl, hhttps⟩ := hp.sourceUrl
          have hmatch := h () ⟨hnonempty, hbounded⟩ () hp.schema packKey hkey () hid
            _ hp.family.choose_spec _ hp.name.choose_spec _ hp.sourceVersion.choose_spec
            sourceUrl hurl
          rw [hversion] at hmatch
          simp only [Raises.bind, raises_runtimeProfiles, hhttps, raises_raiseIf,
            raiseIf_eq_ok, Bool.not_true, reduceCtorEq, false_implies, true_and,
            forall_const] at hmatch
          refine ⟨hmatch.1, fun profiles values hprofiles hvalues hne hlength => ?_⟩
          have hobligations := hmatch.2 profiles hprofiles
          rw [hvalues] at hobligations
          simp only [Raises.bind, raiseIf_eq_ok, Bool.or_eq_false_iff, List.isEmpty_eq_false_iff,
            decide_eq_false_iff_not, Nat.not_lt, raises_parseObligations] at hobligations
          exact (hobligations.2 () ⟨hne, hlength⟩).1
        cases htrips with
        | profiles hp htrips => exact (hpack hp).1 htrips
        | obligations hp hprofiles hvalues hne hlength htrips =>
          exact (hpack hp).2 _ _ hprofiles hvalues hne hlength htrips
      · intro h _ hsize _ hschema packKey hkey _ hid family hfamily name hname sourceVersion
          hsource sourceUrl hurl
        cases hversion : versionOf (get payload "version") with
        | none => simp
        | some version =>
          simp only [Raises.bind, raises_runtimeProfiles, raises_raiseIf, isImportError_invalid,
            implies_true, true_and, raiseIf_eq_ok, Bool.not_eq_false']
          intro _ hhttps
          have hp : PassesPack payload :=
            ⟨hschema, ⟨packKey, hkey, hid⟩, ⟨family, hfamily⟩, ⟨name, hname⟩,
              ⟨sourceVersion, hsource⟩, ⟨version, hversion⟩, sourceUrl, hurl, hhttps⟩
          refine ⟨fun htrips => h ⟨hsize.1, hsize.2, payload, rfl, .profiles hp htrips⟩, ?_⟩
          intro profiles hprofiles
          split
          · rename_i values hvalues
            simp only [Raises.bind, raises_raiseIf, isImportError_importError, implies_true,
              true_and, raiseIf_eq_ok, Bool.or_eq_false_iff, List.isEmpty_eq_false_iff,
              decide_eq_false_iff_not, Nat.not_lt, raises_parseObligations, Raises.pure, and_true]
            rintro _ ⟨hne, hlength⟩ htrips
            exact h ⟨hsize.1, hsize.2, payload, rfl,
              .obligations hp hprofiles hvalues hne hlength htrips⟩
          · simp
    | _ => simp

/-- `parse_runtime_catalog`, from the bytes of the file. -/
def parseCatalogFile (loads : String → Except LoadsError PyValue) (sha256 : ByteArray → String)
    (profileLookup : String → Except Error (Option ProfileManifest))
    (ruleLookup : String → String → Except Error RuleDefinition) (content : ByteArray) :
    Except Error RuntimeCatalog := do
  raiseIf (content.size = 0 || maxExternalCatalogBytes < content.size)
    (Catalog.invalid "file size")
  let json ← loaded loads content
  parseRuntimeCatalog profileLookup ruleLookup
    { size := content.size, sha256 := sha256 content, json }

/-- `parse_runtime_catalog` gets to a value that it trips over, or `json.loads` has an exception
of its own. -/
inductive CatalogTrips (loads : String → Except LoadsError PyValue)
    (profileLookup : String → Except Error (Option ProfileManifest))
    (ruleLookup : String → String → Except Error RuleDefinition) (content : ByteArray) : Prop
  | raised {text : String} {error : PyError} (htext : HasJsonText content text)
    (hraised : loads text = .error (.raised error))
  | payload {text : String} {payload : Payload} (htext : HasJsonText content text)
    (hloads : loads text = .ok (.dict payload))
    (htrips : TripsCatalog profileLookup ruleLookup payload)

theorem raises_parseCatalogFile {loads : String → Except LoadsError PyValue}
    {sha256 : ByteArray → String} {content : ByteArray} :
    Raises IsImportError (parseCatalogFile loads sha256 profileLookup ruleLookup content) ↔
      ¬ CatalogTrips loads profileLookup ruleLookup content := by
  unfold parseCatalogFile
  simp only [Raises.bind, raises_raiseIf, isImportError_invalid, implies_true, true_and,
    raiseIf_eq_ok, Bool.or_eq_false_iff, decide_eq_false_iff_not, Nat.not_lt, raises_loaded,
    raises_parseRuntimeCatalog]
  constructor
  · intro h htrips
    cases htrips with
    | raised htext hraised =>
      exact (h () ⟨htext.nonempty, htext.bounded⟩).1 ⟨_, _, htext.decoded, hraised⟩
    | payload htext hloads htrips =>
      have hloaded := loaded_eq_some.mpr ⟨_, htext.decoded, hloads⟩
      exact (h () ⟨htext.nonempty, htext.bounded⟩).2 _ hloaded
        ⟨htext.nonempty, htext.bounded, _, rfl, htrips⟩
  · rintro h _ ⟨hnonempty, hbounded⟩
    refine ⟨?_, fun found hfound => ?_⟩
    · rintro ⟨text, error, hdecoded, hraised⟩
      exact h (.raised ⟨hnonempty, hbounded, hdecoded⟩ hraised)
    · rintro ⟨-, -, payload, rfl, htrips⟩
      obtain ⟨text, hdecoded, hloads⟩ := loaded_eq_some.mp hfound
      exact h (.payload ⟨hnonempty, hbounded, hdecoded⟩ hloads htrips)

end Runtime

/-- Each parser fails as declared exactly when it gets to no value that it trips over. -/
theorem parsers_raise_declared (loads : String → Except LoadsError PyValue)
    (reprOf : PyValue → Except PyError String) (sha256 : ByteArray → String)
    (profileLookup : String → Except Error (Option ProfileManifest))
    (ruleLookup : String → String → Except Error RuleDefinition) (content : ByteArray) :
    (Raises IsImportError (parseExternalCatalog loads reprOf sha256 content) ↔
        ¬ ExternalTrips loads reprOf content) ∧
      (Raises IsImportError (parseCatalogFile loads sha256 profileLookup ruleLookup content) ↔
        ¬ CatalogTrips loads profileLookup ruleLookup content) ∧
      (Raises IsProfileError (parseRuntimeProfile loads content) ↔ ¬ ProfileTrips loads content) :=
  ⟨raises_parseExternalCatalog, raises_parseCatalogFile, raises_parseRuntimeProfile⟩

/-- A manifest whose structural reader is a list. -/
def listReader : List (String × PyValue) :=
  [("schema_version", .str "1.0.0"), ("profile_id", .str "acme.netos.1"),
    ("profile_version", .str "1.0.0"), ("profile_version_id", .str "acme.netos.1@1.0.0"),
    ("structural_reader", .list [])]

def listReaderText : String :=
  "\x7b\"schema_version\":\"1.0.0\",\"profile_id\":\"acme.netos.1\"," ++
    "\"profile_version\":\"1.0.0\",\"profile_version_id\":\"acme.netos.1@1.0.0\"," ++
    "\"structural_reader\":[]\x7d"

/-- A list has no hash, so the readers cannot be asked for it. -/
theorem list_reader_raises :
    parseRuntimeProfile (readsOnly listReaderText (.dict listReader)) listReaderText.toUTF8 =
        .error (.python .typeError) ∧
      ¬ ∀ content, Raises IsProfileError
        (parseRuntimeProfile (readsOnly listReaderText (.dict listReader)) content) := by
  have hraised : parseRuntimeProfile (readsOnly listReaderText (.dict listReader))
      listReaderText.toUTF8 = .error (.python .typeError) := by
    rw [parseRuntimeProfile_readsOnly (by decide +kernel)]
    decide +kernel
  refine ⟨hraised, fun h => ?_⟩
  exact not_isProfileError_python _ (h _ _ hraised)

end ConfigAuditor.Assessment.RuntimeErrors
