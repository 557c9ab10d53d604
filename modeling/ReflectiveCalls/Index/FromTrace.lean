import ReflectiveCalls.Index.Builder
import ReflectiveCalls.Trace.Stream

/-!
# Index.FromTrace — an index from a trace

The records of a trace are added as they are read, so a record that is refused ends the reading, and
the classes loaded until then stay loaded.
-/

namespace ReflectiveCalls

/-- What is left of a stream added to a builder.  A failure of the builder leaves the rest of the
stream to be read. -/
def Builder.addStream (tree : Tree) : Action ((Model × Builder) × TraceStream) Unit :=
  TraceStream.forEach tree (Builder.addRecord tree)

/-- A trace added to a builder. -/
def Builder.addTrace (tree : Tree) (path : Path) (encoding : String) :
    Action (Model × Builder) Unit := fun state =>
  let outcome := (Builder.addStream tree).run (state, .unopened path encoding)
  ⟨outcome.result, outcome.state.1, outcome.events⟩

/-- The index of a trace. -/
def Index.ofTrace (tree : Tree) (path : Path) (encoding : String) : Action Model Index :=
  Action.andAlwaysLog (fun model =>
    let steps : Action (Model × Builder) Index := do
      Builder.addTrace tree path encoding
      Action.onSecond Builder.build
    let outcome := steps.run (model, Builder.empty)
    ⟨outcome.result, outcome.state.1, outcome.events⟩) .timedIndex

end ReflectiveCalls
