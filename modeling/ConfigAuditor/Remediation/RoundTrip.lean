import ConfigAuditor.Library.JsonCopy
import ConfigAuditor.Remediation.NormalForms
import ConfigAuditor.Remediation.Service

/-!
# A preview that is stored and restored

What `preview_remediation` stores of a preview is restored, also after the round trip
through the JSON column, as long as the procedure stays what it was: the parameters pass
their validation again and the steps are rendered as they were.
-/
namespace ConfigAuditor.Remediation

open Library Compliance.Model

/-- What holds of a procedure that is selected for a finding. -/
structure Selected (finding : FindingView) (audit : AuditView) (procedure : RemediationProcedure) :
    Prop where
  rule : procedure.ruleId = finding.ruleId
  identity : validateRegistryIdentity procedure = .ok ()
  valid : validateProcedure procedure = .ok ()
  applicable : inapplicable procedure audit = .ok none

theorem checkedSelection_spec {p q : RemediationProcedure} {source source' : String}
    {finding : FindingView} {audit : AuditView} (hrule : p.ruleId = finding.ruleId)
    (h : checkedSelection p source audit = .ok (.selected q source')) :
    Selected finding audit q := by
  unfold checkedSelection at h
  split at h
  · cases h
  · cases h
  · rename_i hchecks
    obtain ⟨u, hidentity, hvalid⟩ := except_bind_eq_ok.mp hchecks
    obtain ⟨reason, happlicable, h⟩ := except_bind_eq_ok.mp h
    cases reason with
    | some reason => cases h
    | none =>
      obtain ⟨rfl, -⟩ := Selection.selected.inj (Except.ok.inj h)
      exact ⟨hrule, hidentity, hvalid, lift_eq_ok.mp happlicable⟩

theorem mem_of_filterAuxM {ε α : Type} {f : α → Except ε Bool} {xs acc ys : List α}
    (h : xs.filterAuxM f acc = .ok ys) {y : α} (hy : y ∈ ys) : y ∈ xs ∨ y ∈ acc := by
  induction xs generalizing acc with
  | nil =>
    obtain rfl := Except.ok.inj h
    exact .inr hy
  | cons x xs ih =>
    obtain ⟨keep, -, h⟩ := except_bind_eq_ok.mp h
    obtain hmem | hmem := ih h
    · exact .inl (List.mem_cons_of_mem _ hmem)
    · cases keep with
      | false => exact .inr hmem
      | true =>
        obtain rfl | hmem := List.mem_cons.mp hmem
        · exact .inl List.mem_cons_self
        · exact .inr hmem

theorem mem_of_filterM {ε α : Type} {f : α → Except ε Bool} {xs ys : List α}
    (h : xs.filterM f = .ok ys) {y : α} (hy : y ∈ ys) : y ∈ xs := by
  obtain ⟨zs, hzs, h⟩ := except_bind_eq_ok.mp h
  obtain rfl := Except.ok.inj h
  exact (mem_of_filterAuxM hzs (List.mem_reverse.mp hy)).resolve_right (List.not_mem_nil)

theorem forRule_spec {s : Procedures} {ruleId : String} {profile : Option String}
    {p : RemediationProcedure} (h : s.forRule ruleId profile = .ok (some p)) : p.ruleId = ruleId := by
  have hmem : ∀ {candidates : List RemediationProcedure},
      (∀ q ∈ candidates, q ∈ s.builtIn.filter (·.ruleId == ruleId)) →
      (if candidates.length = 1 then candidates.head? else none) = some p → p.ruleId = ruleId := by
    intro candidates hsub hhead
    split at hhead
    · have hp := hsub p (List.mem_of_mem_head? hhead)
      exact beq_iff_eq.mp (List.mem_filter.mp hp).2
    · cases hhead
  unfold Procedures.forRule at h
  cases profile with
  | none => exact hmem (fun q hq => hq) (Except.ok.inj h)
  | some profile =>
    obtain ⟨candidates, hfilter, h⟩ := except_bind_eq_ok.mp h
    exact hmem (fun q hq => mem_of_filterM hfilter hq) (Except.ok.inj h)

theorem select_spec {s : Procedures} {finding : FindingView} {audit : AuditView}
    {p : RemediationProcedure} {source : String}
    (h : select s finding audit = .ok (.selected p source)) : Selected finding audit p := by
  unfold select at h
  split at h
  · split at h
    · cases h
    · split at h
      · cases h
      · rename_i hchecked
        exact checkedSelection_spec (not_or.mp hchecked |>.2 |> Decidable.not_not.mp) h
  · dsimp only at h
    obtain ⟨applicable, hfilter, h⟩ := except_bind_eq_ok.mp h
    split at h
    · obtain ⟨found, hfound, h⟩ := except_bind_eq_ok.mp h
      cases found with
      | none => cases h
      | some q => exact checkedSelection_spec (forRule_spec (lift_eq_ok.mp hfound)) h
    · have hq := mem_of_filterM hfilter (List.mem_singleton.mpr rfl)
      have hrule := (List.mem_filter.mp hq).2
      rw [Bool.and_eq_true, beq_iff_eq] at hrule
      exact checkedSelection_spec hrule.1 h
    · cases h

theorem definitionsOf_names {items : List PyValue} {names : List String}
    (h : items.mapM parameterName = .ok names) :
    (items.filterMap definitionOf).map (·.1) = names := by
  induction items generalizing names with
  | nil =>
    obtain rfl := Except.ok.inj h
    rfl
  | cons item items ih =>
    rw [List.mapM_cons] at h
    obtain ⟨name, hname, h⟩ := except_bind_eq_ok.mp h
    obtain ⟨rest, hrest, h⟩ := except_bind_eq_ok.mp h
    obtain rfl := Except.ok.inj h
    have hdefinition : ∃ definition, definitionOf item = some (name, definition) := by
      unfold parameterName at hname
      split at hname
      · rename_i entries
        split at hname
        · cases hname
        · cases hname
        · obtain ⟨u, -, hname⟩ := except_bind_eq_ok.mp hname
          split at hname
          · rename_i found hfound
            obtain rfl := Except.ok.inj hname
            exact ⟨entries, by rw [definitionOf, hfound]⟩
          · cases hname
        · cases hname
      · cases hname
    obtain ⟨definition, hdefinition⟩ := hdefinition
    rw [List.filterMap_cons_some hdefinition, List.map_cons, ih hrest]

/-- A valid procedure defines each of its parameters once. -/
theorem definitionsOf_nodup {p : RemediationProcedure} (h : validateProcedure p = .ok ()) :
    ((definitionsOf p).map (·.1)).Nodup := by
  obtain ⟨names, hnames, h⟩ := except_bind_eq_ok.mp h
  obtain ⟨u, hchecks, -⟩ := except_bind_eq_ok.mp h
  simp only [refuseIf_eq_ok, Bool.or_eq_false_iff, Bool.not_eq_eq_eq_not, Bool.not_false,
    decide_eq_true_eq] at hchecks
  rw [definitionsOf, definitionsOf_names hnames]
  exact hchecks.1.1.1.1.1

/-- What the loop over the definitions leaves: validated values of defined parameters, with
every required one among them. -/
theorem givenValues_spec {parameters : List (String × PyValue)}
    {definitions : List (String × Definition)} {values : List (String × String)}
    (h : givenValues parameters definitions = .ok values) :
    (values.map (·.1)).Sublist (definitions.map (·.1)) ∧
    (∀ p ∈ values, ∃ definition given, (p.1, definition) ∈ definitions ∧
      value definition given = .ok p.2) ∧
    ∀ d ∈ definitions, isRequired d.2 = true → d.1 ∈ values.map (·.1) := by
  induction definitions generalizing values with
  | nil =>
    obtain rfl := Except.ok.inj h
    exact ⟨.slnil, by simp, by simp⟩
  | cons d rest ih =>
    obtain ⟨name, definition⟩ := d
    unfold givenValues at h
    split at h
    · obtain ⟨u, hoptional, h⟩ := except_bind_eq_ok.mp h
      rw [refuseIf_eq_ok] at hoptional
      obtain ⟨hsub, hvalues, hrequired⟩ := ih h
      refine ⟨hsub.cons _, fun p hp => ?_, fun d hd hneeded => ?_⟩
      · obtain ⟨definition', given, hmem, hvalue⟩ := hvalues p hp
        exact ⟨definition', given, List.mem_cons_of_mem _ hmem, hvalue⟩
      · obtain rfl | hd := List.mem_cons.mp hd
        · rw [hoptional] at hneeded
          cases hneeded
        · exact hrequired d hd hneeded
    · rename_i given hgiven
      obtain ⟨normal, hnormal, h⟩ := except_bind_eq_ok.mp h
      obtain ⟨others, hothers, h⟩ := except_bind_eq_ok.mp h
      obtain rfl := Except.ok.inj h
      obtain ⟨hsub, hvalues, hrequired⟩ := ih hothers
      refine ⟨hsub.cons_cons _, fun p hp => ?_, fun d hd hneeded => ?_⟩
      · obtain rfl | hp := List.mem_cons.mp hp
        · exact ⟨definition, given, List.mem_cons_self, hnormal⟩
        · obtain ⟨definition', given', hmem, hvalue⟩ := hvalues p hp
          exact ⟨definition', given', List.mem_cons_of_mem _ hmem, hvalue⟩
      · obtain rfl | hd := List.mem_cons.mp hd
        · exact List.mem_cons_self
        · exact List.mem_cons_of_mem _ (hrequired d hd hneeded)

theorem substitute_congr {values values' : List (String × String)}
    (h : ∀ name, Dict.get? values' name = Dict.get? values name) :
    substitute values' = substitute values := by
  funext text
  unfold substitute
  simp only [h]

theorem renderSections_congr {values values' : List (String × String)}
    (h : ∀ name, Dict.get? values' name = Dict.get? values name) (p : RemediationProcedure) :
    renderSections p values' = renderSections p values := by
  have hstep : renderStep values' = renderStep values := by
    funext step
    unfold renderStep
    rw [substitute_congr h]
  rw [renderSections, renderSections, hstep]

theorem validateFrameworkParameters_congr {values values' : List (String × String)}
    (h : ∀ name, Dict.get? values' name = Dict.get? values name) (policy : Policy) :
    validateFrameworkParameters policy values' = validateFrameworkParameters policy values := by
  rw [validateFrameworkParameters, validateFrameworkParameters, h]

/-- What a preview that shows a procedure has gone through. -/
structure Previewed (finding : FindingView) (audit : AuditView)
    (parameters : List (String × PyValue)) (policy : Policy) (r : Response)
    (procedure : RemediationProcedure) (values : List (String × String))
    (rendered : RenderedSections) : Prop where
  fail : finding.verdict = .fail
  selected : Selected finding audit procedure
  base : ∃ source response', response finding (.selected procedure source) = .ok response'
  given : givenValues parameters (definitionsOf procedure) = .ok values
  policy : validateFrameworkParameters policy values = .ok ()
  render : renderSections procedure values = .ok rendered
  shown : r.validatedParameters = some values ∧ r.rendered = some rendered

theorem response_procedure {finding : FindingView} {selection : Selection} {base : Response}
    {p : RemediationProcedure} (h : response finding selection = .ok base)
    (hp : base.procedure = some p) :
    finding.verdict = .fail ∧ ∃ source, selection = .selected p source := by
  unfold response at h
  split at h
  · obtain rfl := Except.ok.inj h
    cases hp
  · rename_i hverdict
    cases selection with
    | unavailable reason =>
      obtain rfl := Except.ok.inj h
      cases hp
    | selected procedure source =>
      refine ⟨Decidable.not_not.mp hverdict, source, ?_⟩
      dsimp only at h
      split at h
      all_goals
        obtain ⟨rendered, -, h⟩ := except_bind_eq_ok.mp h
        obtain rfl := Except.ok.inj h
        obtain rfl := Option.some.inj hp
        rfl

theorem preview_spec {s : Procedures} {finding : FindingView} {audit : AuditView}
    {parameters : List (String × PyValue)} {policy : Policy} {r : Response}
    {p : RemediationProcedure} (h : preview s finding audit parameters policy = .ok r)
    (hp : r.procedure = some p) :
    ∃ values rendered, Previewed finding audit parameters policy r p values rendered := by
  obtain ⟨selection, hselect, h⟩ := except_bind_eq_ok.mp h
  obtain ⟨base, hbase, h⟩ := except_bind_eq_ok.mp h
  cases hprocedure : base.procedure with
  | none =>
    rw [hprocedure] at h
    obtain rfl := Except.ok.inj h
    rw [hprocedure] at hp
    cases hp
  | some procedure =>
    rw [hprocedure] at h
    obtain ⟨u, -, h⟩ := except_bind_eq_ok.mp h
    obtain ⟨values, hvalues, h⟩ := except_bind_eq_ok.mp h
    obtain ⟨v, hpolicy, h⟩ := except_bind_eq_ok.mp h
    obtain ⟨rendered, hrendered, h⟩ := except_bind_eq_ok.mp h
    obtain rfl := Except.ok.inj h
    obtain rfl := Option.some.inj hp
    obtain ⟨hfail, source, rfl⟩ := response_procedure hbase hprocedure
    exact ⟨values, rendered, hfail, select_spec hselect, ⟨source, base, hbase⟩, hvalues, hpolicy,
      hrendered, rfl, rfl⟩

/-- The stored parameters are the values again, whatever order they come back in. -/
theorem restoredValues_of_given {p : RemediationProcedure} {parameters : List (String × PyValue)}
    {values loaded : List (String × String)} {stored : List (String × PyValue)}
    (hvalid : validateProcedure p = .ok ())
    (hgiven : givenValues parameters (definitionsOf p) = .ok values) (hperm : values.Perm loaded)
    (hstored : Dict.get? stored "parameters" = some (.dict (loaded.map JsonCopy.textEntry))) :
    restoredValues p stored = .ok loaded := by
  have hnodup := definitionsOf_nodup hvalid
  obtain ⟨hsub, hvalues, hrequired⟩ := givenValues_spec hgiven
  have hkeys : (loaded.map JsonCopy.textEntry).map (·.1) = loaded.map (·.1) := by
    rw [List.map_map]
    rfl
  have hdefined : ∀ q ∈ loaded, ∃ definition,
      Dict.get? (definitionsOf p) q.1 = some definition ∧ value definition (.str q.2) = .ok q.2 := by
    intro q hq
    obtain ⟨definition, given, hmem, hvalue⟩ := hvalues q (hperm.mem_iff.mpr hq)
    exact ⟨definition, (Dict.get?_eq_some_iff hnodup).mpr hmem, value_fixed hvalue⟩
  unfold restoredValues
  rw [hstored]
  dsimp only
  refine except_bind_eq_ok.mpr ⟨(), ?_, except_bind_eq_ok.mpr ⟨(), ?_, ?_⟩⟩
  · rw [refuseIf_eq_ok, List.any_eq_false]
    intro entry hentry
    obtain ⟨q, hq, rfl⟩ := List.mem_map.mp hentry
    obtain ⟨definition, hget, -⟩ := hdefined q hq
    have hname : (JsonCopy.textEntry q).1 = q.1 := rfl
    rw [hname, hget]
    simp
  · rw [refuseIf_eq_ok, List.any_eq_false]
    intro d hd hmissing
    rw [Bool.and_eq_true, Option.isNone_iff_eq_none] at hmissing
    have hmem := hrequired d hd hmissing.1
    rw [(hperm.map (·.1)).mem_iff, ← hkeys, ← Dict.get?_isSome_iff, hmissing.2] at hmem
    cases hmem
  · clear hstored hperm hkeys
    induction loaded with
    | nil => rfl
    | cons q rest ih =>
      obtain ⟨definition, hget, hvalue⟩ := hdefined q List.mem_cons_self
      have hname : (JsonCopy.textEntry q).1 = q.1 := rfl
      rw [List.map_cons, List.mapM_cons]
      refine except_bind_eq_ok.mpr ⟨q, ?_, ?_⟩
      · rw [hname, hget]
        exact except_bind_eq_ok.mpr ⟨q.2, hvalue, rfl⟩
      · exact except_bind_eq_ok.mpr ⟨rest, ih fun r hr => hdefined r (List.mem_cons_of_mem _ hr), rfl⟩

theorem persistedPreviewPayload_spec {r : Response} {p : RemediationProcedure}
    {values : List (String × String)} {payload : List (String × PyValue)}
    (hp : r.procedure = some p) (hvalues : r.validatedParameters = some values)
    (h : persistedPreviewPayload r = .ok payload) :
    (payload.map (·.1)).Nodup ∧ payload ≠ [] ∧
    Dict.get? payload "procedure_id" = some (.str p.procedureId.str) ∧
    Dict.get? payload "procedure_version" = some (.int p.version) ∧
    Dict.get? payload "parameters" = some (.dict (values.map JsonCopy.textEntry)) := by
  obtain ⟨u, -, h⟩ := except_bind_eq_ok.mp h
  rw [hp] at h
  obtain ⟨v, -, h⟩ := except_bind_eq_ok.mp h
  rw [hvalues] at h
  obtain rfl := Except.ok.inj h
  refine ⟨?_, List.cons_ne_nil _ _, rfl, rfl, rfl⟩
  simp only [List.map_cons, List.map_nil]
  decide

/-- The response to a restored preview exists where the response to the selection did. -/
theorem response_restored {finding : FindingView} {p : RemediationProcedure} {source : String}
    (source' : String) {base : Response} (hfail : finding.verdict = .fail)
    (h : response finding (.selected p source) = .ok base) (status : RemediationProcedureStatus) :
    ∃ base', response finding (.selected (p.withStatus status) source') = .ok base' ∧
      base'.findingId = finding.findingId := by
  have hnot : ¬ finding.verdict ≠ .fail := not_not.mpr hfail
  unfold response at h ⊢
  rw [if_neg hnot] at h ⊢
  dsimp only at h ⊢
  have hdefinitions : definitionsOf (p.withStatus status) = definitionsOf p := rfl
  rw [hdefinitions]
  split at h
  · rename_i hempty
    rw [if_pos hempty]
    obtain ⟨rendered, hrendered, -⟩ := except_bind_eq_ok.mp h
    exact ⟨_, except_bind_eq_ok.mpr ⟨rendered, hrendered, rfl⟩, rfl⟩
  · rename_i hempty
    rw [if_neg hempty]
    exact ⟨_, rfl, rfl⟩

/-- A preview is restored from what is stored of it, with the same parameters and the same steps:
`s'` is the registry at that time, where the id of the procedure still leads to the procedure,
published or superseded, and `loaded` is the stored payload after its JSON round trip. -/
theorem restorePreview_preview {s s' : Procedures} {finding : FindingView} {audit audit' : AuditView}
    {parameters : List (String × PyValue)} {policy : Policy} {r : Response}
    {p : RemediationProcedure} {payload : List (String × PyValue)}
    {status : RemediationProcedureStatus} {loaded : PyValue}
    (hpreview : preview s finding audit parameters policy = .ok r)
    (hprocedure : r.procedure = some p)
    (hpayload : persistedPreviewPayload r = .ok payload)
    (hkept : s'.lookup p.procedureId = some (p.withStatus status))
    (hreleased : status.isReleased = true) (hprofile : profileOf audit' = profileOf audit)
    (hloaded : JsonCopy (.dict payload) loaded) :
    ∃ r' values values', restorePreview s' finding audit' loaded policy = .ok (some r') ∧
      r'.status = "applicable" ∧ r'.findingId = finding.findingId ∧
      r.validatedParameters = some values ∧ r'.validatedParameters = some values' ∧
      values.Perm values' ∧ r'.rendered = r.rendered := by
  obtain ⟨values, rendered, hfail, ⟨hrule, hidentity, hvalid, happlicable⟩, ⟨source, base, hbase⟩,
    hgiven, hpolicy, hrender, hshown, hrendered⟩ := preview_spec hpreview hprocedure
  obtain ⟨hkeys, hne, hid, hversion, hparameters⟩ :=
    persistedPreviewPayload_spec hprocedure hshown hpayload
  obtain ⟨stored, rfl, hlength, hget⟩ := hloaded.get? hkeys
  obtain ⟨storedId', hstoredId, hcopy⟩ := hget _ _ hid
  rw [hcopy.str_eq] at hstoredId
  obtain ⟨storedVersion', hstoredVersion, hcopy⟩ := hget _ _ hversion
  rw [hcopy.int_eq] at hstoredVersion
  obtain ⟨storedParameters, hstoredParameters, hcopy⟩ := hget _ _ hparameters
  obtain ⟨values', rfl, hperm⟩ := hcopy.texts
  -- the order of the members does not matter to what is read of the values
  have hnodup : (values.map (·.1)).Nodup :=
    (definitionsOf_nodup hvalid).sublist (givenValues_spec hgiven).1
  have hsame : ∀ name, Dict.get? values' name = Dict.get? values name :=
    Dict.get?_perm hnodup hperm
  obtain ⟨base', hbase', hfinding⟩ := response_restored "persisted_preview" hfail hbase status
  have hrestored : ∃ r', restored finding (p.withStatus status) stored policy = .ok r' ∧
      r'.status = "applicable" ∧ r'.findingId = finding.findingId ∧
      r'.validatedParameters = some values' ∧ r'.rendered = some rendered := by
    refine ⟨{ base' with
      status := "applicable"
      validatedParameters := some values'
      rendered := some rendered }, ?_, rfl, hfinding, rfl, rfl⟩
    refine except_bind_eq_ok.mpr ⟨(), hidentity, except_bind_eq_ok.mpr ⟨(), hvalid, ?_⟩⟩
    refine except_bind_eq_ok.mpr ⟨values',
      restoredValues_of_given hvalid hgiven hperm hstoredParameters, ?_⟩
    refine except_bind_eq_ok.mpr ⟨(), (validateFrameworkParameters_congr hsame policy).trans hpolicy, ?_⟩
    refine except_bind_eq_ok.mpr ⟨base', hbase', ?_⟩
    exact except_bind_eq_ok.mpr ⟨rendered, (renderSections_congr hsame _).trans hrender, rfl⟩
  obtain ⟨r', hr', hstatus, hid', hvalues', hrendered'⟩ := hrestored
  refine ⟨r', values, values', ?_, hstatus, hid', hshown, hvalues', hperm,
    hrendered'.trans hrendered.symm⟩
  have hread : (do return (← storedId stored, ← storedVersion stored) : Except PyError (UUID × Int)) =
      .ok (p.procedureId, p.version) := by
    refine except_bind_eq_ok.mpr ⟨p.procedureId, ?_, except_bind_eq_ok.mpr ⟨p.version, ?_, rfl⟩⟩
    · unfold storedId
      rw [hstoredId]
      refine except_bind_eq_ok.mpr ⟨p.procedureId.str, rfl, ?_⟩
      rw [UUID.ofText_str]
      rfl
    · unfold storedVersion
      rw [hstoredVersion]
      rfl
  have hnonempty : (stored.isEmpty || finding.verdict != .fail) = false := by
    rw [hfail, List.isEmpty_eq_false_iff.mpr]
    · rfl
    · intro hnil
      rw [hnil] at hlength
      exact hne (List.length_eq_zero_iff.mp hlength.symm)
  have hinapplicable : inapplicable (p.withStatus status) audit' = .ok none := by
    rw [← happlicable, inapplicable, inapplicable, hprofile]
    rfl
  unfold restorePreview
  dsimp only
  rw [hnonempty, hread]
  dsimp only
  rw [hkept]
  dsimp only
  have hagree : ¬ ((p.withStatus status).status.isReleased = false ∨
      (p.withStatus status).version ≠ p.version ∨ (p.withStatus status).ruleId ≠ finding.ruleId) := by
    intro h
    obtain h | h | h := h
    · exact Bool.false_ne_true (h.symm.trans hreleased)
    · exact h rfl
    · exact h hrule
  rw [if_neg hagree, hinapplicable]
  exact except_bind_eq_ok.mpr ⟨none, rfl, by rw [hr']; rfl⟩

/-- A procedure with a network and a number as its parameters. -/
def idleTimeout : RemediationProcedure where
  procedureId := ⟨41, by decide⟩
  procedureKey := "cisco.iosxe.17.vty-timeout"
  version := 2
  ruleId := "management.vty.timeout"
  title := "VTY timeout"
  securityObjective := "Bound idle sessions"
  description := "Preview of the VTY timeout"
  status := .published
  profileApplicability := [("profile_version_ids", .list [.str "cisco.ios_xe.17@1.0.0"])]
  prerequisites := [.str "Confirm the range"]
  safetyWarnings := [.str "Advisory preview only"]
  requiredParameters := [
    .dict [("name", .str "sources"), ("type", .str "ip_network")],
    .dict [("name", .str "minutes"), ("type", .str "integer"), ("minimum", .int 1)]]
  configurationContext := []
  orderedSteps := [.dict [("text", .str "access \x7bsources\x7d")],
    .dict [("text", .str "exec-timeout \x7bminutes\x7d 0")]]
  verificationSteps := [.dict [("text", .str "show line")]]
  rollbackSteps := [.dict [("text", .str "no exec-timeout")]]
  validationResults := [.str "passed"]
  sourceReferences := [.str "vendor guide"]
  reviewedAt := .none
  validatedAt := .none
  schemaVersion := "1.0.0"

/-- The preview of `idleTimeout` for a network with host bits and a padded number. -/
def idleTimeoutPreview : Response where
  status := "applicable"
  reason := none
  findingId := ⟨7, by decide⟩
  procedure := some idleTimeout
  selectionSource := some "built_in_reviewed_catalog"
  validatedParameters := some [("sources", "10.1.0.0/16"), ("minutes", "5")]
  rendered := some ⟨["access 10.1.0.0/16", "exec-timeout 5 0"], ["show line"], ["no exec-timeout"]⟩

def idleTimeoutFinding : FindingView :=
  ⟨⟨7, by decide⟩, "management.vty.timeout", .fail, none⟩

def idleTimeoutAudit : AuditView :=
  ⟨some "cisco.ios_xe.17@1.0.0", some "cisco.ios_xe.17@1.0.0", some "resolved"⟩

/-- What is stored of `idleTimeoutPreview`, with the given parameters. -/
def idleTimeoutPayload (parameters : List (String × PyValue)) : List (String × PyValue) := [
  ("procedure_id", .str "00000000-0000-0000-0000-000000000029"),
  ("procedure_key", .str "cisco.iosxe.17.vty-timeout"),
  ("procedure_version", .int 2),
  ("parameters", .dict parameters),
  ("rendered_steps", .list [.str "access 10.1.0.0/16", .str "exec-timeout 5 0"]),
  ("rendered_verification_steps", .list [.str "show line"]),
  ("rendered_rollback_steps", .list [.str "no exec-timeout"]),
  ("selection_source", .str "built_in_reviewed_catalog")]

/-- The stored preview with all members in the opposite order is restored under its threshold. -/
theorem restorePreview_idleTimeout :
    ∃ r' values values', restorePreview ⟨[], [idleTimeout], []⟩ idleTimeoutFinding idleTimeoutAudit
        (.dict (idleTimeoutPayload [("minutes", .str "5"), ("sources", .str "10.1.0.0/16")]).reverse)
        (some [("maximum_admin_idle_timeout_seconds", .int 600)]) = .ok (some r') ∧
      r'.status = "applicable" ∧ r'.findingId = idleTimeoutFinding.findingId ∧
      idleTimeoutPreview.validatedParameters = some values ∧ r'.validatedParameters = some values' ∧
      values.Perm values' ∧ r'.rendered = idleTimeoutPreview.rendered := by
  have hpreview : preview ⟨[], [idleTimeout], []⟩ idleTimeoutFinding idleTimeoutAudit
      [("minutes", .str " +05 "), ("sources", .str "10.1.2.3/255.255.0.0")]
      (some [("maximum_admin_idle_timeout_seconds", .int 600)]) = .ok idleTimeoutPreview := rfl
  have hpayload : persistedPreviewPayload idleTimeoutPreview =
      .ok (idleTimeoutPayload [("sources", .str "10.1.0.0/16"), ("minutes", .str "5")]) := rfl
  have hkept : (⟨[], [idleTimeout], []⟩ : Procedures).lookup idleTimeout.procedureId =
      some (idleTimeout.withStatus .published) := rfl
  refine restorePreview_preview hpreview rfl hpayload hkept rfl rfl ?_
  have hparameters : JsonCopy (.dict [("sources", .str "10.1.0.0/16"), ("minutes", .str "5")])
      (.dict [("minutes", .str "5"), ("sources", .str "10.1.0.0/16")]) :=
    .dict rfl (.cons (.same _) (.cons (.same _) .nil)) (.swap _ _ _)
  have hcopied : (idleTimeoutPayload [("minutes", .str "5"), ("sources", .str "10.1.0.0/16")]).map
      (·.1) = (idleTimeoutPayload [("sources", .str "10.1.0.0/16"), ("minutes", .str "5")]).map
      (·.1) := rfl
  refine .dict hcopied ?_ (List.reverse_perm _).symm
  exact .cons (.same _) <| .cons (.same _) <| .cons (.same _) <| .cons hparameters <|
    .cons (.same _) <| .cons (.same _) <| .cons (.same _) <| .cons (.same _) .nil

end ConfigAuditor.Remediation
