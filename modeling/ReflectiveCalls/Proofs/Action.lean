import Mathlib.Order.RelClasses
import ReflectiveCalls.Action

/-!
# Proofs.Action — laws of steps

What a step gives and what it leaves, for each operator that steps are built from.  The results and
the states are followed apart: a failing step gives no value but leaves a state all the same.

- `Action.run_bind`: a sequence, by how its first step ends.
- `Action.exists_of_bind_ok`: a sequence that succeeds, taken apart.
- `Action.Keeps`: the state that a step leaves stands in a given relation to the state before,
  however the step ends.  For a reflexive and transitive relation it is enough to look at the
  smallest steps.
- `Action.Mirrors`: two steps fail in the same way or give values that stand in a given relation,
  and leave states that stand in one.
-/

namespace ReflectiveCalls
namespace Action

variable {σ τ α β : Type}

/-! ## Smallest steps -/

@[simp] theorem run_pure (value : α) (state : σ) :
    (pure value : Action σ α).run state = ⟨.ok value, state, []⟩ := rfl

@[simp] theorem run_report (cause : Report) (state : σ) :
    (report cause : Action σ α).run state = ⟨.error (.reported cause), state, []⟩ := rfl

@[simp] theorem run_log (event : Event) (state : σ) :
    (log event : Action σ Unit).run state = ⟨.ok (), state, [event]⟩ := rfl

@[simp] theorem run_state (state : σ) :
    (Action.state : Action σ σ).run state = ⟨.ok state, state, []⟩ := rfl

@[simp] theorem run_put (next state : σ) :
    (put next).run state = ⟨.ok (), next, []⟩ := rfl

@[simp] theorem run_ofExcept (result : Except Failure α) (state : σ) :
    (ofExcept result : Action σ α).run state = ⟨result, state, []⟩ := rfl

@[simp] theorem run_ofShape_ok (value : α) (state : σ) :
    (ofShape (.ok value) : Action σ α).run state = ⟨.ok value, state, []⟩ := rfl

/-- A result that is evaluated to be no failure has a value. -/
theorem exists_eq_ok_of_isOk {result : Except Failure α} (h : result.isOk = true) :
    ∃ value, result = .ok value := by
  cases result with
  | ok value => exact ⟨value, rfl⟩
  | error failure => cases h

/-! ## Sequences -/

section Sequences

variable {action : Action σ α} {next : α → Action σ β} {state : σ}

theorem run_bind :
    (action >>= next).run state =
      match (action.run state).result with
      | .ok value =>
          ⟨((next value).run (action.run state).state).result,
            ((next value).run (action.run state).state).state,
            (action.run state).events ++ ((next value).run (action.run state).state).events⟩
      | .error failure =>
          ⟨.error failure, (action.run state).state, (action.run state).events⟩ := by
  change Action.bind action next state = _
  unfold Action.bind
  cases hrun : action state with
  | mk result after events => cases result <;> simp [run, hrun]

variable (next) in
/-- After a step that succeeds, the sequence goes on from the value and the state of that step. -/
theorem run_bind_of_ok {value : α} (h : (action.run state).result = .ok value) :
    ((action >>= next).run state).result =
        ((next value).run (action.run state).state).result ∧
      ((action >>= next).run state).state =
        ((next value).run (action.run state).state).state := by
  rw [run_bind, h]
  exact ⟨rfl, rfl⟩

variable (next) in
/-- After a step that fails, the sequence ends as that step. -/
theorem run_bind_of_error {failure : Failure} (h : (action.run state).result = .error failure) :
    ((action >>= next).run state).result = .error failure ∧
      ((action >>= next).run state).state = (action.run state).state := by
  rw [run_bind, h]
  exact ⟨rfl, rfl⟩

/-- A sequence that succeeds: both of its steps do, the second from where the first ended. -/
theorem exists_of_bind_ok {value : β} (h : ((action >>= next).run state).result = .ok value) :
    ∃ first, (action.run state).result = .ok first ∧
      ((next first).run (action.run state).state).result = .ok value ∧
      ((action >>= next).run state).state =
        ((next first).run (action.run state).state).state := by
  cases hfirst : (action.run state).result with
  | error failure =>
      rw [(run_bind_of_error next hfirst).1] at h
      cases h
  | ok first =>
      have hrun := run_bind_of_ok next hfirst
      exact ⟨first, rfl, hrun.1 ▸ h, hrun.2⟩

/-- A sequence that fails: its first step does, or the second does from where the first ended. -/
theorem cases_of_bind_error {failure : Failure}
    (h : ((action >>= next).run state).result = .error failure) :
    (action.run state).result = .error failure ∨
      ∃ first, (action.run state).result = .ok first ∧
        ((next first).run (action.run state).state).result = .error failure := by
  cases hfirst : (action.run state).result with
  | error fault =>
      rw [(run_bind_of_error next hfirst).1] at h
      cases h
      exact .inl rfl
  | ok first => exact .inr ⟨first, rfl, (run_bind_of_ok next hfirst).1 ▸ h⟩

end Sequences

section SmallestFirst

variable (state : σ)

@[simp] theorem run_state_bind (next : σ → Action σ β) :
    (Action.state >>= next).run state = (next state).run state := rfl

@[simp] theorem run_pure_bind (value : α) (next : α → Action σ β) :
    (pure value >>= next).run state = (next value).run state := rfl

@[simp] theorem run_put_bind (after : σ) (next : Unit → Action σ β) :
    (put after >>= next).run state = (next ()).run after := rfl

@[simp] theorem run_log_bind (event : Event) (next : Unit → Action σ β) :
    (log event >>= next).run state =
      ⟨((next ()).run state).result, ((next ()).run state).state,
        event :: ((next ()).run state).events⟩ := rfl

@[simp] theorem run_report_bind (cause : Report) (next : α → Action σ β) :
    (report cause >>= next).run state = ⟨.error (.reported cause), state, []⟩ := rfl

@[simp] theorem run_ofExcept_ok_bind (value : α) (next : α → Action σ β) :
    (ofExcept (.ok value) >>= next).run state = (next value).run state := rfl

@[simp] theorem run_ofExcept_error_bind (failure : Failure) (next : α → Action σ β) :
    (ofExcept (.error failure) >>= next).run state = ⟨.error failure, state, []⟩ := rfl

@[simp] theorem run_ofShape_ok_bind (value : α) (next : α → Action σ β) :
    (ofShape (.ok value) >>= next).run state = (next value).run state := rfl

@[simp] theorem run_ofShape_error_bind (fault : ShapeFault) (next : α → Action σ β) :
    (ofShape (.error fault) >>= next).run state = ⟨.error (.escaped (.shape fault)), state, []⟩ :=
  rfl

end SmallestFirst

/-! ## Parts of a state -/

@[simp] theorem run_onFirst (action : Action σ α) (both : σ × τ) :
    (onFirst action : Action (σ × τ) α).run both =
      ⟨(action.run both.1).result, ((action.run both.1).state, both.2),
        (action.run both.1).events⟩ := rfl

@[simp] theorem run_onSecond (action : Action τ α) (both : σ × τ) :
    (onSecond action : Action (σ × τ) α).run both =
      ⟨(action.run both.2).result, (both.1, (action.run both.2).state),
        (action.run both.2).events⟩ := rfl

/-! ## What steps keep -/

/-- The state that the step leaves stands in the relation to the state before. -/
def Keeps (relation : σ → σ → Prop) (action : Action σ α) : Prop :=
  ∀ state, relation state (action.run state).state

namespace Keeps

variable {relation : σ → σ → Prop}

section Smallest

variable [Std.Refl relation]

theorem pure (value : α) : Keeps relation (Pure.pure value : Action σ α) := fun state =>
  Std.Refl.refl state

theorem report (cause : Report) : Keeps relation (Action.report cause : Action σ α) := fun state =>
  Std.Refl.refl state

theorem log (event : Event) : Keeps relation (Action.log event) := fun state =>
  Std.Refl.refl state

theorem state : Keeps relation Action.state := fun state => Std.Refl.refl state

theorem ofExcept (result : Except Failure α) :
    Keeps relation (Action.ofExcept result : Action σ α) := fun state =>
  Std.Refl.refl state

theorem ofShape (result : Except ShapeFault α) :
    Keeps relation (Action.ofShape result : Action σ α) := fun state =>
  Std.Refl.refl state

end Smallest

/-- A sequence keeps a transitive relation that its steps keep. -/
theorem bind [IsTrans σ relation] {action : Action σ α} {next : α → Action σ β}
    (hfirst : Keeps relation action) (hnext : ∀ value, Keeps relation (next value)) :
    Keeps relation (action >>= next) := by
  intro state
  -- A first step that fails ends the sequence, in a state that it has kept all the same.
  cases hresult : (action.run state).result with
  | error failure =>
      rw [(run_bind_of_error next hresult).2]
      exact hfirst state
  | ok value =>
      rw [(run_bind_of_ok next hresult).2]
      exact IsTrans.trans _ _ _ (hfirst state) (hnext value _)

/-- A step on the first of two states keeps what it keeps there. -/
theorem onFirst {action : Action σ α} (h : Keeps relation action) :
    Keeps (Order.Preimage (Prod.fst : σ × τ → σ) relation) (Action.onFirst action) :=
  fun both => h both.1

/-- A step on the second of two states leaves the first one alone. -/
theorem onSecond [Std.Refl relation] (action : Action τ α) :
    Keeps (Order.Preimage (Prod.fst : σ × τ → σ) relation) (Action.onSecond action) :=
  fun both => Std.Refl.refl both.1

end Keeps

/-! ## Steps side by side -/

section SideBySide

variable {σ' α' β' : Type}

/-- Both results are the same failure, or they are values that stand in the relation. -/
inductive Matched (values : α → α' → Prop) : Except Failure α → Except Failure α' → Prop
  | failed (failure : Failure) : Matched values (.error failure) (.error failure)
  | given {value : α} {other : α'} (h : values value other) :
      Matched values (.ok value) (.ok other)

theorem Matched.refl (result : Except Failure α) : Matched Eq result result := by
  cases result with
  | error failure => exact .failed failure
  | ok value => exact .given rfl

/-- Values that are equal match only in equal results. -/
theorem Matched.eq {result other : Except Failure α} (h : Matched Eq result other) :
    other = result := by
  cases h with
  | failed failure => rfl
  | given h => rw [h]

/-- Results that match, matched by what is known of their values. -/
theorem Matched.imp {values others : α → α' → Prop} {result : Except Failure α}
    {other : Except Failure α'} (h : Matched values result other)
    (himp : ∀ value otherValue, result = .ok value → other = .ok otherValue →
      values value otherValue → others value otherValue) : Matched others result other := by
  cases h with
  | failed failure => exact .failed failure
  | given h => exact .given (himp _ _ rfl rfl h)

/-- From states that stand in the relation, the two steps end with matching results, in states that
stand in the relation again. -/
def Mirrors (states : σ → σ' → Prop) (values : α → α' → Prop) (action : Action σ α)
    (other : Action σ' α') : Prop :=
  ∀ state otherState, states state otherState →
    Matched values (action.run state).result (other.run otherState).result ∧
      states (action.run state).state (other.run otherState).state

namespace Mirrors

variable {states : σ → σ' → Prop} {values : α → α' → Prop} {others : β → β' → Prop}

/-- A step mirrors itself. -/
theorem refl (action : Action σ α) : Mirrors Eq Eq action action := by
  rintro state _ rfl
  exact ⟨.refl _, rfl⟩

theorem pure {value : α} {other : α'} (h : values value other) :
    Mirrors states values (Pure.pure value) (Pure.pure other) := fun _ _ hstates =>
  ⟨.given h, hstates⟩

theorem report (cause : Report) :
    Mirrors states values (Action.report cause) (Action.report cause) := fun _ _ hstates =>
  ⟨.failed _, hstates⟩

theorem log (event otherEvent : Event) :
    Mirrors states Eq (Action.log event) (Action.log otherEvent) := fun _ _ hstates =>
  ⟨.given rfl, hstates⟩

theorem state : Mirrors states states Action.state Action.state := fun _ _ hstates =>
  ⟨.given hstates, hstates⟩

theorem put {after : σ} {otherAfter : σ'} (h : states after otherAfter) :
    Mirrors states Eq (Action.put after) (Action.put otherAfter) := fun _ _ _ =>
  ⟨.given rfl, h⟩

theorem ofExcept {result : Except Failure α} {other : Except Failure α'}
    (h : Matched values result other) :
    Mirrors states values (Action.ofExcept result) (Action.ofExcept other) := fun _ _ hstates =>
  ⟨h, hstates⟩

/-- Sequences mirror each other if their steps do. -/
theorem bind {action : Action σ α} {other : Action σ' α'} {next : α → Action σ β}
    {otherNext : α' → Action σ' β'} (hfirst : Mirrors states values action other)
    (hnext : ∀ value otherValue, values value otherValue →
      Mirrors states others (next value) (otherNext otherValue)) :
    Mirrors states others (action >>= next) (other >>= otherNext) := by
  intro state otherState hstates
  rcases hfirst state otherState hstates with ⟨hresults, hafter⟩
  rw [run_bind, run_bind]
  generalize (action.run state).result = result at hresults ⊢
  generalize (other.run otherState).result = otherResult at hresults ⊢
  -- Either both sequences end here, or both go on.
  cases hresults with
  | failed failure => exact ⟨.failed failure, hafter⟩
  | given h => exact hnext _ _ h _ _ hafter

end Mirrors

end SideBySide

end Action
end ReflectiveCalls
