import ConfigAuditor.Library.Dict
import ConfigAuditor.Library.Numerals
import ConfigAuditor.EffectiveState.Policy

/-!
# Effective-state drafts and scopes

The checks on stored scopes, the draft of one resolved state and its validation.
Identities are name-based UUIDs, taken as a function of a namespace and a text.
-/
namespace ConfigAuditor.EffectiveState.Model

open Library SecurityModel Policy

inductive ResolutionStatus where
  | resolved
  | unknown
  | conflicting
  deriving DecidableEq, Repr

inductive UnresolvedReason where
  | unknownSyntax
  | unknownSemantics
  | missingEvidence
  | unsupportedFeature
  | ambiguousScope
  | unresolvedDefault
  | conflictingEvidence
  | unsupportedVersion
  | unsupportedProfile
  deriving DecidableEq, Repr

/-- The enumeration value with spaces for underscores. -/
def UnresolvedReason.words : UnresolvedReason → String
  | unknownSyntax => "unknown syntax"
  | unknownSemantics => "unknown semantics"
  | missingEvidence => "missing evidence"
  | unsupportedFeature => "unsupported feature"
  | ambiguousScope => "ambiguous scope"
  | unresolvedDefault => "unresolved default"
  | conflictingEvidence => "conflicting evidence"
  | unsupportedVersion => "unsupported version"
  | unsupportedProfile => "unsupported profile"

/-- A stored fact. A dependency that is not a UUID is `none`. -/
structure SecurityFact where
  factId : UUID
  auditId : UUID
  deviceId : UUID
  snapshotId : UUID
  fieldId : String
  value : TypedValue
  scope : ScopeRef
  evidenceRefs : List EvidenceRef
  mappingId : Option UUID
  mappingVersionId : Option UUID
  knowledgePackVersionId : UUID
  dependencies : List (Option UUID)
  deriving DecidableEq

structure EffectiveStateDraft where
  effectiveStateId : UUID
  auditId : UUID
  deviceId : UUID
  fieldId : String
  scope : ScopeRef
  effectiveValue : Option TypedValue
  resolutionStatus : ResolutionStatus
  sourceFactIds : List UUID
  resolutionTrace : List PyValue := []
  precedenceApplied : List PyValue := []
  unresolvedReason : Option UnresolvedReason := none
  schemaVersion : String := "1.0.0"
  deriving DecidableEq

/-- A persisted effective state of one audit, field and scope. -/
structure EffectiveStateRow where
  effectiveStateId : UUID
  auditId : UUID
  deviceId : UUID
  fieldId : String
  scope : ScopeRef
  scopeKey : String
  effectiveValue : Option TypedValue
  resolutionStatus : ResolutionStatus
  sourceFactIds : List UUID
  unresolvedReason : Option UnresolvedReason
  deriving DecidableEq

def effectiveStateNamespace : UUID := UUID.ofNat 0x0c197da45d9a5c9b859531c2115e4189

def malformedScope : Error := .effectiveStateValidation "ScopeRef is malformed"

/-- The groups of a full match of `vty:(\d+)-(\d+)`. -/
def vtyGroups (key : String) : Option (List Char × List Char) :=
  if Text.startsWith key "vty:" then
    match Text.splitFirst '-' (key.toList.drop 4) with
    | some (l, r) =>
      if !l.isEmpty && !r.isEmpty && l.all PyFloat.isDigit && r.all PyFloat.isDigit then some (l, r)
      else none
    | none => none
  else none

/-- `set(attributes) == keys`. -/
def hasKeys (attributes : List (String × PyValue)) (keys : List String) : Bool :=
  attributes.all (fun p => keys.contains p.1) &&
    keys.all fun key => (PyValue.lookup key attributes).isSome

/-- The conditions on a `vty_range` scope, once its key matched. -/
def vtyValid (attributes : List (String × PyValue)) (start finish : Int) : Bool :=
  0 ≤ start && start ≤ finish && finish ≤ 999 &&
    (attributes.isEmpty ||
      (hasKeys attributes ["start", "end"] &&
        PyValue.lookup "start" attributes == some (.int start) &&
        PyValue.lookup "end" attributes == some (.int finish)))

/-- The conditions on an `interface` or `administrator` scope. -/
def namedValid (label : String) (scope : ScopeRef) : Bool :=
  match PyValue.lookup "name" scope.attributes with
  | some (.str name) =>
    !name.isEmpty && hasKeys scope.attributes ["name"] && scope.key == label ++ ":" ++ name
  | _ => false

def managementServices : List String := ["ssh", "telnet", "http", "https"]

def scopeValid (scope : ScopeRef) : Except Error Bool := do
  if scope.type = "device" then
    return scope.key == "device" && scope.attributes.isEmpty
  else if scope.type = "vty_range" then
    match vtyGroups scope.key with
    | none => return false
    | some (l, r) =>
      let start ← PyValue.intOfText (String.ofList l)
      let finish ← PyValue.intOfText (String.ofList r)
      return vtyValid scope.attributes start finish
  else if scope.type = "interface" then
    return namedValid "interface" scope
  else if scope.type = "administrator" then
    return namedValid "administrator" scope
  else if scope.type = "management_service" then
    match PyValue.lookup "service" scope.attributes with
    | some (.str service) =>
      return managementServices.contains service && hasKeys scope.attributes ["service"] &&
        scope.key == "management:" ++ service
    -- Membership in a set of strings needs a hashable value.
    | some (.list _) => .error (.python .typeError)
    | some (.dict _) => .error (.python .typeError)
    | _ => return false
  else return false

/-- `_validate_scope`. -/
def validateScope (scope : ScopeRef) : Except Error Unit := do
  let valid ← scopeValid scope
  raiseIf (!valid) malformedScope

def scopeFromDict (scope : ScopeRef) : Except Error ScopeRef := do
  validateScope scope
  return scope

def canonicalScopeKey (scope : ScopeRef) : Except Error String := do
  validateScope scope
  return scope.type ++ "::" ++ scope.key

/-- `_vty_bounds`. -/
def vtyBounds (scope : ScopeRef) : Except Error (Int × Int) := do
  raiseIf (scope.type != "vty_range") (.effectiveStateValidation "VTY scope is required")
  match Text.splitFirst '-' (Text.removeFront "vty:" scope.key) with
  | none => .error (.python .valueError)
  | some (l, r) =>
    let start ← PyValue.intOfText (String.ofList l)
    let finish ← PyValue.intOfText (String.ofList r)
    return (start, finish)

/-- The scope a partition cell gets, `vty:{start}-{end}`. -/
def vtyScope (start finish : Int) : ScopeRef :=
  { type := "vty_range", key := "vty:" ++ toString start ++ "-" ++ toString finish,
    attributes := [("start", .int start), ("end", .int finish)] }

section Drafts

variable (uuid5 : UUID → String → UUID)

def malformedIdentity : Error :=
  .effectiveStateValidation "EffectiveState identity is malformed"

def deterministicEffectiveStateId (auditId : UUID) (fieldId : String) (scope : ScopeRef) :
    Except Error UUID := do
  raiseIf (auditId.int == 0 || (Text.strip fieldId).isEmpty) malformedIdentity
  let key ← canonicalScopeKey scope
  return uuid5 effectiveStateNamespace (auditId.str ++ ":" ++ fieldId ++ ":" ++ key)

/-- `typed_value_from_dict` of a stored value; collection members are its only untyped input. -/
def typedValueFromDict (value : PyValue) : Except Error TypedValue :=
  let malformed : Error := .effectiveStateValidation "SecurityFact TypedValue is malformed"
  match value with
  | .dict entries =>
    if hasKeys entries ["type", "value", "unit", "original_value", "original_unit"] then
      match PyValue.lookup "type" entries, PyValue.lookup "value" entries,
          PyValue.lookup "unit" entries, PyValue.lookup "original_value" entries,
          PyValue.lookup "original_unit" entries with
      | some (.str type), some value, some unit, some originalValue, some originalUnit =>
        match TypedValueType.ofText? type with
        | some type => .ok
            { type, value, unit := unit.str?, originalValue, originalUnit := originalUnit.str? }
        | none => .error malformed
      | _, _, _, _, _ => .error malformed
    else .error malformed
  | _ => .error malformed

/-- The value check of `validate_effective_state_draft`: a list is checked member by member. -/
def validateEffectiveValue (fieldId : String) (value : TypedValue) (scope : ScopeRef) :
    Except Error Unit :=
  let malformed : Error := .effectiveStateValidation "EffectiveState value is malformed"
  let guarded (check : Except Error CanonicalField) : Except Error Unit :=
    match check with
    | .ok _ => .ok ()
    | .error e => .error (if e.isValueError then malformed else e)
  if value.type = .list then do
    let items ← value.value.iterate
    items.forM fun item => do
      let member ← typedValueFromDict item
      guarded (validateFieldValueScope fieldId member scope)
  else guarded (validateFieldValueScope fieldId value scope)

/-- The status of a draft fits its value and reason. -/
def statusConsistent (draft : EffectiveStateDraft) : Except Error Unit :=
  match draft.resolutionStatus with
  | .resolved =>
    raiseIf (draft.effectiveValue.isNone || draft.unresolvedReason.isSome)
      (.effectiveStateValidation "Resolved EffectiveState requires a value")
  | .unknown =>
    raiseIf (draft.effectiveValue.isSome || draft.unresolvedReason.isNone ||
        draft.unresolvedReason == some .conflictingEvidence)
      (.effectiveStateValidation "Unknown EffectiveState requires an unknown reason")
  | .conflicting =>
    raiseIf (draft.effectiveValue.isSome || draft.unresolvedReason != some .conflictingEvidence)
      (.effectiveStateValidation "Conflicting EffectiveState requires conflict reason")

def validateJsonCollection (items : List PyValue) : Except Error Unit :=
  match PyValue.encode true (.list items) with
  | .ok _ => .ok ()
  | .error _ => .error (.effectiveStateValidation "EffectiveState metadata is malformed")

def validateEffectiveStateDraft (draft : EffectiveStateDraft) : Except Error Unit := do
  raiseIf (draft.auditId.int == 0 || draft.deviceId.int == 0 ||
    (Text.strip draft.fieldId).isEmpty) malformedIdentity
  let expectedId ← deterministicEffectiveStateId uuid5 draft.auditId draft.fieldId draft.scope
  raiseIf (draft.effectiveStateId != expectedId)
    (.effectiveStateValidation "EffectiveState ID is not deterministic")
  validateScope draft.scope
  match draft.effectiveValue with
  | some value => validateEffectiveValue draft.fieldId value draft.scope
  | none => .ok ()
  raiseIf (decide (¬ draft.sourceFactIds.Nodup) || draft.sourceFactIds.any (·.int == 0))
    (.effectiveStateValidation "EffectiveState source facts are malformed")
  statusConsistent draft
  raiseIf (Text.strip draft.schemaVersion).isEmpty
    (.effectiveStateValidation "EffectiveState schema version is malformed")
  validateJsonCollection draft.resolutionTrace
  validateJsonCollection draft.precedenceApplied

/-- `make_effective_state_draft`; the identity of `draft` is filled in. -/
def makeEffectiveStateDraft (draft : EffectiveStateDraft) : Except Error EffectiveStateDraft := do
  let id ← deterministicEffectiveStateId uuid5 draft.auditId draft.fieldId draft.scope
  let made := { draft with effectiveStateId := id }
  validateEffectiveStateDraft uuid5 made
  return made

theorem makeEffectiveStateDraft_ok {draft made : EffectiveStateDraft}
    (h : makeEffectiveStateDraft uuid5 draft = .ok made) :
    ∃ id, deterministicEffectiveStateId uuid5 draft.auditId draft.fieldId draft.scope = .ok id ∧
      made = { draft with effectiveStateId := id } := by
  simp only [makeEffectiveStateDraft, except_bind_eq_ok, except_pure_eq_ok] at h
  obtain ⟨id, hid, _, -, rfl⟩ := h
  exact ⟨id, hid, rfl⟩

end Drafts

theorem validateScope_eq_ok {scope : ScopeRef} {u : Unit} :
    validateScope scope = .ok u ↔ scopeValid scope = .ok true := by
  simp only [validateScope, except_bind_eq_ok, raiseIf_eq_ok, Bool.not_eq_false']
  constructor
  · rintro ⟨b, hb, rfl⟩
    exact hb
  · intro h
    exact ⟨true, h, rfl⟩

theorem vtyGroups_some {key : String} {l r : List Char} (h : vtyGroups key = some (l, r)) :
    Text.startsWith key "vty:" = true ∧ Text.splitFirst '-' (key.toList.drop 4) = some (l, r) ∧
      l ≠ [] ∧ r ≠ [] ∧ (∀ c ∈ l, PyFloat.isDigit c = true) ∧
      (∀ c ∈ r, PyFloat.isDigit c = true) := by
  unfold vtyGroups at h
  split at h
  · rename_i hstart
    split at h
    · rename_i l' r' hsplit
      split at h
      · rename_i hcond
        simp only [Option.some.injEq, Prod.mk.injEq] at h
        obtain ⟨rfl, rfl⟩ := h
        simp only [Bool.and_eq_true, Bool.not_eq_true', List.isEmpty_eq_false_iff,
          List.all_eq_true] at hcond
        obtain ⟨⟨⟨hl, hr⟩, hdl⟩, hdr⟩ := hcond
        exact ⟨hstart, hsplit, hl, hr, hdl, hdr⟩
      · simp at h
    · simp at h
  · simp at h

/-- The bounds of an accepted VTY scope are in range. -/
theorem vtyBounds_of_valid {scope : ScopeRef} (htype : scope.type = "vty_range")
    (hvalid : validateScope scope = .ok ()) :
    ∃ start finish, vtyBounds scope = .ok (start, finish) ∧ 0 ≤ start ∧ start ≤ finish ∧
      finish ≤ 999 := by
  rw [validateScope_eq_ok, scopeValid, if_neg (by rw [htype]; decide), if_pos htype] at hvalid
  cases hg : vtyGroups scope.key with
  | none => simp [hg] at hvalid
  | some p =>
    obtain ⟨l, r⟩ := p
    obtain ⟨hstart, hsplit, -, -, -, -⟩ := vtyGroups_some hg
    simp only [hg, except_bind_eq_ok, except_pure_eq_ok] at hvalid
    obtain ⟨start, hs, finish, hf, hv⟩ := hvalid
    simp only [vtyValid, Bool.and_eq_true, decide_eq_true_eq] at hv
    refine ⟨start, finish, ?_, hv.1.1.1, hv.1.1.2, hv.1.2⟩
    simp only [vtyBounds, except_bind_eq_ok, raiseIf_eq_ok]
    refine ⟨(), by simp [htype], ?_⟩
    rw [Text.removeFront, if_pos hstart]
    simp only [show "vty:".length = 4 from rfl, hsplit, except_bind_eq_ok, except_pure_eq_ok]
    exact ⟨start, hs, finish, hf, rfl⟩

/-- The key of a partition cell. -/
theorem vtyScope_key (s e : Nat) : (vtyScope s e).key.toList =
    "vty:".toList ++ (Nat.toDigits 10 s ++ '-' :: Nat.toDigits 10 e) := by
  have hprint : ∀ n : Nat, (toString (n : Int)).toList = Nat.toDigits 10 n := fun n =>
    Text.toString_toList n
  have hdash : "-".toList = ['-'] := rfl
  simp only [vtyScope, String.toList_append, hprint, hdash, List.append_assoc,
    List.singleton_append]

theorem vtyScope_startsWith (s e : Nat) : Text.startsWith (vtyScope s e).key "vty:" = true := by
  rw [Text.startsWith, vtyScope_key]
  exact List.isPrefixOf_iff_prefix.mpr (List.prefix_append _ _)

theorem isDigit_toDigits (n : Nat) : ∀ c ∈ Nat.toDigits 10 n, PyFloat.isDigit c = true := by
  intro c hc
  exact Numerals.isDigit_of_isAsciiDigit (List.all_eq_true.mp (Text.toDigits_all_digits n) c hc)

theorem splitFirst_toDigits (s : Nat) (rest : List Char) :
    Text.splitFirst '-' (Nat.toDigits 10 s ++ '-' :: rest) = some (Nat.toDigits 10 s, rest) :=
  Text.splitFirst_append _ _ _ fun h => Numerals.ne_dash_of_isDigit (isDigit_toDigits s _ h) rfl

theorem intOfText_small {n : Nat} (h : n ≤ 999) :
    PyValue.intOfText (String.ofList (Nat.toDigits 10 n)) = .ok n :=
  Numerals.intOfText_toDigits n ((Text.toDigits_length_le n 3 (by omega) (by omega)).trans
    (by decide))

/-- The key of a partition cell reads back as its bounds. -/
theorem vtyBounds_vtyScope {start finish : Int} (hs : 0 ≤ start) (hsf : start ≤ finish)
    (hf : finish ≤ 999) : vtyBounds (vtyScope start finish) = .ok (start, finish) := by
  obtain ⟨s, rfl⟩ := Int.eq_ofNat_of_zero_le hs
  obtain ⟨e, rfl⟩ := Int.eq_ofNat_of_zero_le (hs.trans hsf)
  have hrest : Text.removeFront "vty:" (vtyScope (s : Int) e).key =
      Nat.toDigits 10 s ++ '-' :: Nat.toDigits 10 e := by
    rw [Text.removeFront, if_pos (vtyScope_startsWith s e), vtyScope_key]
    exact List.drop_left' rfl
  simp only [vtyBounds, except_bind_eq_ok, raiseIf_eq_ok]
  refine ⟨(), rfl, ?_⟩
  rw [hrest, splitFirst_toDigits]
  simp only [intOfText_small (show s ≤ 999 by omega), intOfText_small (show e ≤ 999 by omega)]
  rfl

/-- The scope of a partition cell is valid. -/
theorem validateScope_vtyScope {start finish : Int} (hs : 0 ≤ start) (hsf : start ≤ finish)
    (hf : finish ≤ 999) : validateScope (vtyScope start finish) = .ok () := by
  obtain ⟨s, rfl⟩ := Int.eq_ofNat_of_zero_le hs
  obtain ⟨e, rfl⟩ := Int.eq_ofNat_of_zero_le (hs.trans hsf)
  have hgroups : vtyGroups (vtyScope (s : Int) e).key =
      some (Nat.toDigits 10 s, Nat.toDigits 10 e) := by
    have hdrop : (vtyScope (s : Int) e).key.toList.drop 4 =
        Nat.toDigits 10 s ++ '-' :: Nat.toDigits 10 e := by
      rw [vtyScope_key]
      exact List.drop_left' rfl
    simp only [vtyGroups, vtyScope_startsWith, if_true, hdrop, splitFirst_toDigits]
    rw [if_pos]
    simp only [Bool.and_eq_true, Bool.not_eq_true', List.isEmpty_eq_false_iff, List.all_eq_true]
    exact ⟨⟨⟨Nat.toDigits_ne_nil, Nat.toDigits_ne_nil⟩, isDigit_toDigits s⟩, isDigit_toDigits e⟩
  have htype : (vtyScope (s : Int) e).type = "vty_range" := rfl
  rw [validateScope_eq_ok, scopeValid, if_neg (by rw [htype]; decide), if_pos htype]
  simp only [hgroups, intOfText_small (show s ≤ 999 by omega),
    intOfText_small (show e ≤ 999 by omega), except_bind_eq_ok, except_pure_eq_ok]
  have hle : (s : Int) ≤ e := hsf
  simp [vtyValid, vtyScope, hle, hf, hasKeys, PyValue.lookup]

end ConfigAuditor.EffectiveState.Model
