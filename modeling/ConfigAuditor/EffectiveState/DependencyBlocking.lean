import ConfigAuditor.Library.Traversal
import ConfigAuditor.EffectiveState.OrderIndependence

/-!
# Which facts their dependencies hold back

A fact is held back when a dependency of its own is malformed or missing, or when what it
reaches is not a tree within the limit. Missing dependencies further down are not seen, and a
dependency that two facts share counts as a cycle.
-/
namespace ConfigAuditor.EffectiveState.DependencyBlocking

open Library Library.Traversal SecurityModel Model Resolver OrderIndependence

/-- A dependency of the fact is malformed or names no fact. -/
def Broken (facts : List SecurityFact) (fact : SecurityFact) : Prop :=
  ∃ d ∈ fact.dependencies, ∀ id, d = some id → id ∉ facts.map (·.factId)

/-- The fact `a` names the fact `b` as a dependency. -/
def DependsOn (facts : List SecurityFact) (a b : UUID) : Prop :=
  ∃ fact ∈ facts, fact.factId = a ∧ some b ∈ fact.dependencies ∧ b ∈ facts.map (·.factId)

abbrev Leads (facts : List SecurityFact) (a b : UUID) : Prop :=
  Relation.ReflTransGen (DependsOn facts) a b

/-- A broken fact can be reached. -/
def LeadsToBroken (facts : List SecurityFact) (id : UUID) : Prop :=
  ∃ fact ∈ facts, Leads facts id fact.factId ∧ Broken facts fact

def LeadsToCycle (facts : List SecurityFact) (id : UUID) : Prop :=
  ∃ a, Leads facts id a ∧ Relation.TransGen (DependsOn facts) a a

/-- More than 128 facts can be reached. -/
def LeadsTooFar (facts : List SecurityFact) (id : UUID) : Prop :=
  ∃ ids : List UUID, ids.Nodup ∧ 128 < ids.length ∧ ∀ a ∈ ids, Leads facts id a

/-- Two facts that can be reached have a dependency in common. -/
def LeadsToShared (facts : List SecurityFact) (id : UUID) : Prop :=
  ∃ a b c, Leads facts id a ∧ Leads facts id b ∧ a ≠ b ∧ DependsOn facts a c ∧ DependsOn facts b c

/-- The facts that must not be resolved. -/
def MustBlock (facts : List SecurityFact) (id : UUID) : Prop :=
  LeadsToBroken facts id ∨ LeadsToCycle facts id ∨ LeadsTooFar facts id

section Graph

variable {facts : List SecurityFact}

/-- The dependencies the traversal follows. -/
def followed (facts : List SecurityFact) (id : UUID) : List UUID :=
  ((Dict.get? (dependencyGraph facts) id).getD []).filter fun d =>
    (Dict.get? (dependencyGraph facts) d).isSome

theorem get?_isSome (hids : (facts.map (·.factId)).Nodup) {id : UUID} :
    (Dict.get? (dependencyGraph facts) id).isSome = true ↔ id ∈ facts.map (·.factId) := by
  rw [Option.isSome_iff_exists, List.mem_map]
  simp only [dependencyGraph_get? hids]
  constructor
  · rintro ⟨_, fact, hfact, hid, -⟩
    exact ⟨fact, hfact, hid⟩
  · rintro ⟨fact, hfact, hid⟩
    exact ⟨_, fact, hfact, hid, rfl⟩

theorem mem_followed (hids : (facts.map (·.factId)).Nodup) {a b : UUID} :
    b ∈ followed facts a ↔ DependsOn facts a b := by
  rw [followed, List.mem_filter, get?_isSome hids]
  cases hget : Dict.get? (dependencyGraph facts) a with
  | none =>
    simp only [Option.getD_none, List.not_mem_nil, false_and, false_iff]
    rintro ⟨fact, hfact, rfl, -⟩
    have hsome := (get?_isSome hids).mpr (List.mem_map_of_mem (f := (·.factId)) hfact)
    simp [hget] at hsome
  | some dependencies =>
    obtain ⟨fact, hfact, hid, hknown⟩ := (dependencyGraph_get? hids).mp hget
    have hmem : b ∈ dependencies ↔ some b ∈ fact.dependencies := by
      rw [← hknown, knownDependencies, List.mem_dedup, List.mem_filterMap]
      simp
    rw [Option.getD_some, hmem]
    constructor
    · rintro ⟨hb, hin⟩
      exact ⟨fact, hfact, hid, hb, hin⟩
    · rintro ⟨other, hother, hotherId, hb, hin⟩
      obtain rfl := List.inj_on_of_nodup_map hids hother hfact (hotherId.trans hid.symm)
      exact ⟨hb, hin⟩

theorem followed_nodup (hids : (facts.map (·.factId)).Nodup) (id : UUID) :
    (followed facts id).Nodup := by
  refine List.Nodup.filter _ ?_
  cases hget : Dict.get? (dependencyGraph facts) id with
  | none => exact List.nodup_nil
  | some dependencies =>
    obtain ⟨fact, -, -, rfl⟩ := (dependencyGraph_get? hids).mp hget
    exact List.nodup_dedup _

/-- The resolver's traversal, over the dependencies it follows. -/
theorem traversalBlocked_eq (hids : (facts.map (·.factId)).Nodup) {root : UUID}
    (hroot : root ∈ facts.map (·.factId)) (fuel : Nat) (seen stack : List UUID) :
    traversalBlocked (dependencyGraph facts) root fuel seen stack =
      givesUp (followed facts) 128 root fuel seen stack := by
  have hcontains : ∀ current, ((Dict.get? (dependencyGraph facts) current).getD []).contains root =
      (followed facts current).contains root := by
    intro current
    rw [Bool.eq_iff_iff, List.contains_iff_mem, List.contains_iff_mem, followed, List.mem_filter,
      get?_isSome hids]
    exact ⟨fun hmem => ⟨hmem, hroot⟩, fun hmem => hmem.1⟩
  induction fuel generalizing seen stack with
  | zero => rfl
  | succ fuel ih =>
    cases stack with
    | nil => rfl
    | cons current stack => simp only [traversalBlocked, givesUp, hcontains, ih, followed]

theorem any_breaks_iff {fact : SecurityFact} {breaks : Option UUID → Bool}
    (hnone : breaks none = true) (hsome : ∀ dependency, breaks (some dependency) =
      !(facts.map (·.factId)).contains dependency) :
    fact.dependencies.any breaks = true ↔ Broken facts fact := by
  rw [List.any_eq_true, Broken]
  refine exists_congr fun d => and_congr_right fun _ => ?_
  cases d <;> simp [hnone, hsome]

/-- A fact is held back when it is broken itself or reaches no tree of at most 128 facts. -/
theorem mem_blocked_iff (hids : (facts.map (·.factId)).Nodup) {fact : SecurityFact}
    (hfact : fact ∈ facts) :
    fact.factId ∈ blockedDependencyIds facts ↔ Broken facts fact ∨
      LeadsToCycle facts fact.factId ∨ LeadsToShared facts fact.factId ∨
        LeadsTooFar facts fact.factId := by
  have hmem : fact.factId ∈ facts.map (·.factId) := List.mem_map_of_mem hfact
  have hedge : Edge (followed facts) = DependsOn facts := by
    funext a b
    exact propext (mem_followed hids)
  have htree : traversalBlocked (dependencyGraph facts) fact.factId 130 [] [fact.factId] = true ↔
      LeadsToCycle facts fact.factId ∨ LeadsToShared facts fact.factId ∨
        LeadsTooFar facts fact.factId := by
    rw [traversalBlocked_eq hids hmem, givesUp_iff (followed_nodup hids), Cyclic, Shared, Exceeds]
    simp only [Reaches, hedge, mem_followed hids]
    rfl
  rw [mem_blockedDependencyIds, htree]
  constructor
  · rintro (⟨other, hother, hid, hany⟩ | ⟨-, h⟩)
    · obtain rfl := List.inj_on_of_nodup_map hids hother hfact hid
      exact .inl ((any_breaks_iff rfl fun _ => rfl).mp hany)
    · exact .inr h
  · rintro (h | h)
    · exact .inl ⟨fact, hfact, rfl, (any_breaks_iff rfl fun _ => rfl).mpr h⟩
    · exact .inr ⟨hmem, h⟩

end Graph

/-- The facts held back are those that must be exactly when, for every sound fact that reaches
at most 128 facts and no cycle, two facts it reaches share a dependency if and only if one of
them is broken. -/
theorem dependency_blocking_exact_iff (facts : List SecurityFact)
    (hids : (facts.map (·.factId)).Nodup) :
    (∀ fact ∈ facts, fact.factId ∈ blockedDependencyIds facts ↔ MustBlock facts fact.factId) ↔
      ∀ fact ∈ facts, ¬Broken facts fact → ¬LeadsToCycle facts fact.factId →
        ¬LeadsTooFar facts fact.factId →
        (LeadsToShared facts fact.factId ↔ LeadsToBroken facts fact.factId) := by
  refine forall₂_congr fun fact hfact => ?_
  have hown : Broken facts fact → LeadsToBroken facts fact.factId := fun hbroken =>
    ⟨fact, hfact, .refl, hbroken⟩
  rw [mem_blocked_iff hids hfact, MustBlock]
  tauto

/-- A fact with these dependencies. -/
def dependentFact (id : Nat) (dependencies : List (Option UUID)) : SecurityFact :=
  { factId := UUID.ofNat id, auditId := UUID.ofNat 1, deviceId := UUID.ofNat 2,
    snapshotId := UUID.ofNat 3, fieldId := "management.remote.ssh.enabled",
    value := { type := .boolean, value := .bool true },
    scope := { type := "device", key := "device", attributes := [] }, evidenceRefs := [],
    mappingId := none, mappingVersionId := none, knowledgePackVersionId := UUID.ofNat 9,
    dependencies }

/-- The first fact depends on the second, whose dependency is missing. -/
def chainFacts : List SecurityFact :=
  [dependentFact 41 [some (UUID.ofNat 42)], dependentFact 42 [some (UUID.ofNat 999)]]

theorem dependency_blocking_exact_chain :
    (chainFacts.map (·.factId)).Nodup ∧
      ((∀ fact ∈ chainFacts, fact.factId ∈ blockedDependencyIds chainFacts ↔
          MustBlock chainFacts fact.factId) ↔
        ∀ fact ∈ chainFacts, ¬Broken chainFacts fact → ¬LeadsToCycle chainFacts fact.factId →
          ¬LeadsTooFar chainFacts fact.factId →
          (LeadsToShared chainFacts fact.factId ↔ LeadsToBroken chainFacts fact.factId)) :=
  ⟨by decide, dependency_blocking_exact_iff chainFacts (by decide)⟩

/-- The fact in front of the missing dependency is resolved. -/
theorem missing_dependency_not_seen :
    ¬∀ fact ∈ chainFacts, fact.factId ∈ blockedDependencyIds chainFacts ↔
      MustBlock chainFacts fact.factId := by
  intro h
  have hout : UUID.ofNat 41 ∉ blockedDependencyIds chainFacts := by decide +kernel
  refine hout ((h (dependentFact 41 [some (UUID.ofNat 42)]) (by decide)).mpr (.inl ?_))
  refine ⟨dependentFact 42 [some (UUID.ofNat 999)], by decide, .single ?_, ?_⟩
  · exact ⟨dependentFact 41 [some (UUID.ofNat 42)], by decide, rfl, by decide, by decide⟩
  · refine ⟨some (UUID.ofNat 999), by decide, fun id hid => ?_⟩
    obtain rfl := Option.some.inj hid
    decide

end ConfigAuditor.EffectiveState.DependencyBlocking
