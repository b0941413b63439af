import ConfigAuditor.Library.Value

/-!
# The exceptions of the backend

One constructor per exception class. The classes that derive from `ValueError`
are the ones an `except ValueError` clause catches.
-/
namespace ConfigAuditor

open Library

inductive Error where
  | python (error : PyError)
  /-- A `ValueError` the source raises with a text of its own. -/
  | valueError (message : String)
  /-- `pydantic.ValidationError`, a `ValueError`. -/
  | modelValidation
  | fieldRegistryValidation (message : String)
  | knowledgePackValidation (message : String)
  | effectiveStateValidation (message : String)
  | effectiveStateNotFound (message : String)
  | interpretationValidation (code message : String)
  | interpretationInfrastructure (code message : String)
  | evaluation (message : String)
  | compliance (message : String)
  | ruleRegistry (message : String)
  | runtimeRule (message : String)
  | runtimeProfile (message : String)
  | catalogImport (message : String)
  | assessmentPack (code message : String)
  | findingNotFound (message : String)
  | findingProvenance (message : String)
  /-- `sqlalchemy.exc.IntegrityError`: a key or a unique constraint is violated. -/
  | integrity
  /-- No exception: a loop of the source that would not end. -/
  | endless
  deriving DecidableEq, Repr

instance : MonadLift (Except PyError) (Except Error) where
  monadLift x := x.mapError .python

namespace Error

/-- Instances of `ValueError`. -/
def isValueError : Error → Bool
  | .python .valueError => true
  | .valueError _ => true
  | .modelValidation => true
  | .fieldRegistryValidation _ => true
  | .knowledgePackValidation _ => true
  | .evaluation _ => true
  | .compliance _ => true
  | .ruleRegistry _ => true
  | .runtimeRule _ => true
  | .runtimeProfile _ => true
  | .catalogImport _ => true
  | .assessmentPack _ _ => true
  | .findingNotFound _ => true
  | .findingProvenance _ => true
  | _ => false

/-- What `except (KeyError, TypeError, ValueError, FieldRegistryValidationError)` catches. -/
def isOutputError : Error → Bool
  | .python .keyError => true
  | .python .typeError => true
  | e => e.isValueError

end Error

/-- `if condition: raise error`. -/
def raiseIf (condition : Bool) (error : Error) : Except Error Unit :=
  if condition then .error error else .ok ()

@[simp] theorem raiseIf_eq_ok {condition : Bool} {error : Error} {u : Unit} :
    raiseIf condition error = .ok u ↔ condition = false := by
  cases condition <;> simp [raiseIf]

@[simp] theorem except_bind_eq_ok {ε α β : Type} {x : Except ε α} {f : α → Except ε β}
    {b : β} : (x >>= f) = .ok b ↔ ∃ a, x = .ok a ∧ f a = .ok b := by
  cases x <;> simp [bind, Except.bind]

@[simp] theorem except_pure_eq_ok {ε α : Type} {a b : α} :
    (pure a : Except ε α) = .ok b ↔ a = b := by
  simp [pure, Except.pure]

theorem except_map_eq_ok {ε α β : Type} {x : Except ε α} {f : α → β} {b : β} :
    x.map f = .ok b ↔ ∃ a, x = .ok a ∧ f a = b := by
  cases x <;> simp [Except.map]

/-- An exception raised under another name is still an exception. -/
theorem except_mapError_eq_ok {ε ε' α : Type} {x : Except ε α} {f : ε → ε'} {a : α} :
    x.mapError f = .ok a ↔ x = .ok a := by
  cases x <;> simp [Except.mapError]

@[simp] theorem liftM_eq_ok {α : Type} {x : Except PyError α} {a : α} :
    (liftM x : Except Error α) = .ok a ↔ x = .ok a := except_mapError_eq_ok

/-- A loop that collects results succeeds when each step does. -/
theorem mapM_eq_ok {ε α β : Type} {f : α → Except ε β} {xs : List α} {ys : List β} :
    xs.mapM f = .ok ys ↔ List.Forall₂ (fun x y => f x = .ok y) xs ys := by
  induction xs generalizing ys with
  | nil => simp [pure, Except.pure, eq_comm]
  | cons x xs ih =>
    rw [List.mapM_cons]
    simp only [except_bind_eq_ok, except_pure_eq_ok]
    constructor
    · rintro ⟨y, hy, rest, hrest, rfl⟩
      exact .cons hy (ih.mp hrest)
    · intro h
      cases h with
      | cons hy hrest => exact ⟨_, hy, _, ih.mpr hrest, rfl⟩

/-- A loop of checks succeeds when each check does. -/
theorem forM_eq_ok {ε α : Type} {f : α → Except ε Unit} {xs : List α} :
    xs.forM f = .ok () ↔ ∀ x ∈ xs, f x = .ok () := by
  induction xs with
  | nil =>
    simp only [List.not_mem_nil, false_implies, implies_true, iff_true]
    rfl
  | cons x xs ih =>
    rw [List.forall_mem_cons, ← ih]
    change (f x >>= fun _ => xs.forM f) = .ok () ↔ _
    simp only [except_bind_eq_ok]
    constructor
    · rintro ⟨_, hx, hxs⟩
      exact ⟨hx, hxs⟩
    · intro h
      exact ⟨(), h⟩

theorem mapM_eq_ok_map {ε α β : Type} {f : α → Except ε β} {g : α → β} {xs : List α}
    (h : ∀ x ∈ xs, f x = .ok (g x)) : xs.mapM f = .ok (xs.map g) := by
  induction xs with
  | nil => rfl
  | cons x xs ih =>
    rw [List.mapM_cons, h x List.mem_cons_self, ih fun y hy => h y (List.mem_cons_of_mem _ hy)]
    rfl

theorem mapM_completes {ε α β : Type} {f : α → Except ε β} {xs : List α}
    (h : ∀ x ∈ xs, ∃ y, f x = .ok y) : ∃ ys, xs.mapM f = .ok ys := by
  induction xs with
  | nil => exact ⟨[], rfl⟩
  | cons x xs ih =>
    rw [List.forall_mem_cons] at h
    obtain ⟨y, hy⟩ := h.1
    obtain ⟨ys, hys⟩ := ih h.2
    exact ⟨y :: ys, by rw [List.mapM_cons, hy, hys]; rfl⟩

theorem exists_of_isOk {ε α : Type} {x : Except ε α} (h : x.isOk = true) : ∃ a, x = .ok a := by
  cases x with
  | error e => simp [Except.isOk, Except.toBool] at h
  | ok a => exact ⟨a, rfl⟩

@[simp] theorem toOption_eq_some {ε α : Type} {x : Except ε α} {a : α} :
    x.toOption = some a ↔ x = .ok a := by
  cases x <;> simp [Except.toOption]

/-- What a successful run shows of its result. -/
theorem exists_of_toOption {ε α β : Type} {x : Except ε α} {f : α → β} {b : β}
    (h : x.toOption.map f = some b) : ∃ a, x = .ok a ∧ f a = b := by
  cases x with
  | error e => simp [Except.toOption] at h
  | ok a => exact ⟨a, rfl, by simpa [Except.toOption] using h⟩

section Loops

variable {α β γ : Type} {f : α → Except Error β} {xs : List α} {ys : List β}

/-- Every result of a loop comes from one of the loop's inputs. -/
theorem mapM_exists_input (h : xs.mapM f = .ok ys) {y : β} (hy : y ∈ ys) :
    ∃ x ∈ xs, f x = .ok y := by
  rw [mapM_eq_ok] at h
  induction h with
  | nil => simp at hy
  | cons hxy _ ih =>
    rcases List.mem_cons.mp hy with rfl | hy
    · exact ⟨_, by simp, hxy⟩
    · obtain ⟨x, hx, hfx⟩ := ih hy
      exact ⟨x, List.mem_cons_of_mem _ hx, hfx⟩

/-- Every input of a successful loop has its result among the results. -/
theorem mapM_exists_output (h : xs.mapM f = .ok ys) {x : α} (hx : x ∈ xs) :
    ∃ y ∈ ys, f x = .ok y := by
  rw [mapM_eq_ok] at h
  induction h with
  | nil => simp at hx
  | cons hxy _ ih =>
    rcases List.mem_cons.mp hx with rfl | hx
    · exact ⟨_, by simp, hxy⟩
    · obtain ⟨y, hy, hfx⟩ := ih hx
      exact ⟨y, List.mem_cons_of_mem _ hy, hfx⟩

/-- A projection that each step keeps is kept by the whole loop. -/
theorem mapM_map_of_mem {g : β → γ} {k : α → γ} (h : xs.mapM f = .ok ys)
    (hstep : ∀ x ∈ xs, ∀ y, f x = .ok y → g y = k x) : ys.map g = xs.map k := by
  rw [mapM_eq_ok] at h
  induction h with
  | nil => rfl
  | cons hxy _ ih =>
    rw [List.map_cons, List.map_cons, hstep _ List.mem_cons_self _ hxy,
      ih fun x hx => hstep x (List.mem_cons_of_mem _ hx)]

theorem mapM_map {g : β → γ} {k : α → γ} (h : xs.mapM f = .ok ys)
    (hstep : ∀ x y, f x = .ok y → g y = k x) : ys.map g = xs.map k :=
  mapM_map_of_mem h fun x _ => hstep x

/-- The results of a loop over the same inputs in another order. -/
theorem mapM_perm {xs' : List α} (hperm : xs.Perm xs') (h : xs.mapM f = .ok ys) :
    ∃ ys', xs'.mapM f = .ok ys' ∧ ys.Perm ys' := by
  induction hperm generalizing ys with
  | nil => exact ⟨ys, h, .refl ys⟩
  | cons x _ ih =>
    rw [mapM_eq_ok] at h
    cases h with
    | cons hxy hrest =>
      obtain ⟨ys', hys', hperm⟩ := ih (mapM_eq_ok.mpr hrest)
      exact ⟨_, mapM_eq_ok.mpr (.cons hxy (mapM_eq_ok.mp hys')), hperm.cons _⟩
  | swap x x' rest =>
    rw [mapM_eq_ok] at h
    cases h with
    | cons hx hrest =>
      cases hrest with
      | cons hx' hrest => exact ⟨_, mapM_eq_ok.mpr (.cons hx' (.cons hx hrest)), .swap _ _ _⟩
  | trans _ _ ih ih' =>
    obtain ⟨ys', hys', hperm⟩ := ih h
    obtain ⟨ys'', hys'', hperm'⟩ := ih' hys'
    exact ⟨ys'', hys'', hperm.trans hperm'⟩

/-- A loop fails with the error of one of its inputs. -/
theorem mapM_eq_error {error : Error} (h : xs.mapM f = .error error) :
    ∃ x ∈ xs, f x = .error error := by
  induction xs with
  | nil => cases h
  | cons x xs ih =>
    rw [List.mapM_cons] at h
    cases hx : f x with
    | error e =>
      rw [hx] at h
      exact ⟨x, List.mem_cons_self, hx.trans (congrArg Except.error (Except.error.inj h))⟩
    | ok y =>
      rw [hx] at h
      cases hrest : xs.mapM f with
      | error e =>
        rw [hrest] at h
        obtain ⟨x', hx', hfx⟩ := ih (hrest.trans (congrArg Except.error (Except.error.inj h)))
        exact ⟨x', List.mem_cons_of_mem _ hx', hfx⟩
      | ok rest =>
        rw [hrest] at h
        cases h

/-- A loop whose steps have one error fails with it in any order. -/
theorem mapM_error_perm {xs' : List α} {error : Error} (hperm : xs.Perm xs')
    (honly : ∀ x e, f x = .error e → e = error) (h : xs.mapM f = .error error) :
    xs'.mapM f = .error error := by
  cases hother : xs'.mapM f with
  | ok ys =>
    obtain ⟨ys', hys', -⟩ := mapM_perm hperm.symm hother
    rw [h] at hys'
    cases hys'
  | error e =>
    obtain ⟨x, -, hx⟩ := mapM_eq_error hother
    rw [honly x e hx]

/-- The results of a loop are the results of its inputs. -/
theorem mem_mapM (h : xs.mapM f = .ok ys) (y : β) : y ∈ ys ↔ ∃ x ∈ xs, f x = .ok y := by
  constructor
  · intro hy
    exact mapM_exists_input h hy
  · rintro ⟨x, hx, hfx⟩
    obtain ⟨y', hy', hfx'⟩ := mapM_exists_output h hx
    rw [hfx, Except.ok.injEq] at hfx'
    exact hfx' ▸ hy'

/-- A loop over some of the inputs has the results of those. -/
theorem mapM_filter {p : α → Bool} {q : β → Bool} (h : xs.mapM f = .ok ys)
    (hkept : ∀ x y, f x = .ok y → q y = p x) : (xs.filter p).mapM f = .ok (ys.filter q) := by
  rw [mapM_eq_ok] at h ⊢
  induction h with
  | nil => exact .nil
  | @cons x y xs ys hxy _ ih =>
    have hp := hkept x y hxy
    cases hx : p x with
    | true =>
      rw [List.filter_cons_of_pos hx, List.filter_cons_of_pos (hp.trans hx)]
      exact .cons hxy ih
    | false =>
      rw [List.filter_cons_of_neg (by simp [hx]), List.filter_cons_of_neg (by simp [hp, hx])]
      exact ih

/-- A loop of other steps that show the same of their results. -/
theorem mapM_transfer {α' : Type} {xs' : List α'} {f' : α' → Except Error β} {k : β → γ}
    (h : xs.mapM f = .ok ys)
    (hstep : List.Forall₂ (fun x x' => ∀ y, f x = .ok y → ∃ y', f' x' = .ok y' ∧ k y' = k y)
      xs xs') : ∃ ys', xs'.mapM f' = .ok ys' ∧ ys'.map k = ys.map k := by
  rw [mapM_eq_ok] at h
  induction h generalizing xs' with
  | nil =>
    cases hstep
    exact ⟨[], rfl, rfl⟩
  | cons hxy _ ih =>
    cases hstep with
    | cons hhead htail =>
      obtain ⟨y', hy', hk⟩ := hhead _ hxy
      obtain ⟨ys', hys', hks⟩ := ih htail
      exact ⟨y' :: ys', mapM_eq_ok.mpr (.cons hy' (mapM_eq_ok.mp hys')), by simp [hk, hks]⟩

end Loops

end ConfigAuditor
