/-!
# Trace.Operation — the kinds of reflective call

Four operations are traced.  The first two name a class; the last two name a method by its
signature, and such a target has to be known when it is recorded.

- `Operation.token`, `Operation.ofToken?`: the word for an operation in a trace.
- `Operation.all`: the order in which operations are listed.
- `PerOperation`: one value for each operation.
-/

namespace ReflectiveCalls

/-- A kind of reflective call. -/
inductive Operation
  | classForName
  | classNewInstance
  | constructorNewInstance
  | methodInvoke
  deriving DecidableEq, Repr

namespace Operation

/-- The operations in the order in which they are listed. -/
def all : List Operation :=
  [.classForName, .classNewInstance, .constructorNewInstance, .methodInvoke]

/-- The word for an operation. -/
def token : Operation → String
  | .classForName => "Class.forName"
  | .classNewInstance => "Class.newInstance"
  | .constructorNewInstance => "Constructor.newInstance"
  | .methodInvoke => "Method.invoke"

/-- The operation that a word stands for. -/
def ofToken? (token : String) : Option Operation :=
  all.find? (·.token == token)

/-- Is the target of the operation a method? -/
def targetsMethod : Operation → Bool
  | .classForName | .classNewInstance => false
  | .constructorNewInstance | .methodInvoke => true

theorem mem_all (operation : Operation) : operation ∈ all := by
  cases operation <;> decide

/-- Reading the word of an operation gives the operation back. -/
@[simp] theorem ofToken?_token (operation : Operation) :
    ofToken? operation.token = some operation := by
  cases operation <;> decide

/-- Only the word of an operation is read as that operation. -/
theorem eq_token_of_ofToken? {text : String} {operation : Operation}
    (h : ofToken? text = some operation) : text = operation.token := by
  have := List.find?_some h
  simpa using (beq_iff_eq.1 this).symm

end Operation

/-- One value for each operation. -/
structure PerOperation (α : Type) where
  classForName : α
  classNewInstance : α
  constructorNewInstance : α
  methodInvoke : α
  deriving DecidableEq, Repr

namespace PerOperation

variable {α : Type}

/-- The same value for each operation. -/
def all (value : α) : PerOperation α := ⟨value, value, value, value⟩

/-- The value for an operation. -/
def get (values : PerOperation α) : Operation → α
  | .classForName => values.classForName
  | .classNewInstance => values.classNewInstance
  | .constructorNewInstance => values.constructorNewInstance
  | .methodInvoke => values.methodInvoke

/-- The value for an operation replaced. -/
def set (values : PerOperation α) (operation : Operation) (value : α) : PerOperation α :=
  match operation with
  | .classForName => { values with classForName := value }
  | .classNewInstance => { values with classNewInstance := value }
  | .constructorNewInstance => { values with constructorNewInstance := value }
  | .methodInvoke => { values with methodInvoke := value }

@[simp] theorem get_all (value : α) (operation : Operation) :
    (all value).get operation = value := by
  cases operation <;> rfl

@[simp] theorem get_set_self (values : PerOperation α) (operation : Operation) (value : α) :
    (values.set operation value).get operation = value := by
  cases operation <;> rfl

theorem get_set_of_ne (values : PerOperation α) {operation other : Operation} (value : α)
    (h : other ≠ operation) : (values.set operation value).get other = values.get other := by
  cases operation <;> cases other <;> simp_all [get, set]

end PerOperation
end ReflectiveCalls
