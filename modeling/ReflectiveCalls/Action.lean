import ReflectiveCalls.Event
import ReflectiveCalls.Failure

/-!
# Action — steps that may fail and leave their mark

A step works on a state.  It gives a result or a failure, and in both cases leaves a state behind
and the events that it logged; so a failing step can have changed the state before it failed.

- `Outcome`: what a step gives and leaves.
- `Action`: a step, with the operators to build steps from smaller ones.
-/

namespace ReflectiveCalls

/-- What a step gives and leaves. -/
structure Outcome (σ α : Type) where
  result : Except Failure α
  state : σ
  events : List Event

/-- A step on a state. -/
def Action (σ α : Type) : Type := σ → Outcome σ α

namespace Action

variable {σ τ α β : Type}

/-- Runs a step. -/
def run (action : Action σ α) (state : σ) : Outcome σ α := action state

/-- Gives a value and does nothing. -/
protected def pure (value : α) : Action σ α := fun state => ⟨.ok value, state, []⟩

/-- A step followed by another one, which is left out if the first fails. -/
protected def bind (action : Action σ α) (next : α → Action σ β) : Action σ β := fun state =>
  match action state with
  | ⟨.ok value, state, events⟩ =>
      let outcome := next value state
      ⟨outcome.result, outcome.state, events ++ outcome.events⟩
  | ⟨.error failure, state, events⟩ => ⟨.error failure, state, events⟩

instance : Monad (Action σ) where
  pure := Action.pure
  bind := Action.bind

/-- Fails. -/
def fail (failure : Failure) : Action σ α := fun state => ⟨.error failure, state, []⟩

/-- Fails with a report. -/
def report (cause : Report) : Action σ α := fail (.reported cause)

/-- Logs an event. -/
def log (event : Event) : Action σ Unit := fun state => ⟨.ok (), state, [event]⟩

/-- The state. -/
def state : Action σ σ := fun state => ⟨.ok state, state, []⟩

/-- Replaces the state. -/
def put (state : σ) : Action σ Unit := fun _ => ⟨.ok (), state, []⟩

/-- A result that needs no state. -/
def ofExcept (result : Except Failure α) : Action σ α := fun state => ⟨result, state, []⟩

/-- A reading of parts of dynamic values, whose faults escape. -/
def ofShape (result : Except ShapeFault α) : Action σ α :=
  ofExcept (result.mapError fun fault => .escaped (.shape fault))

/-- A step on a part of the state, which is put back whether the step fails or not. -/
def within (get : σ → τ) (set : τ → σ → σ) (action : Action τ α) : Action σ α := fun state =>
  let outcome := action (get state)
  ⟨outcome.result, set outcome.state state, outcome.events⟩

/-- A step on the first of two states. -/
def onFirst (action : Action σ α) : Action (σ × τ) α :=
  within Prod.fst (fun first both => (first, both.2)) action

/-- A step on the second of two states. -/
def onSecond (action : Action τ α) : Action (σ × τ) α :=
  within Prod.snd (fun second both => (both.1, second)) action

/-- Logs an event after a step, whether the step fails or not. -/
def andAlwaysLog (action : Action σ α) (event : Event) : Action σ α := fun state =>
  let outcome := action state
  ⟨outcome.result, outcome.state, outcome.events ++ [event]⟩

end Action
end ReflectiveCalls
