import ReflectiveCalls.Proofs.Program.Growth

/-!
# Proofs.History — a model over time

A model is shared: builders and indexes work over it, resolutions and queries load classes into it,
and the files that classes are loaded from change meanwhile.  Here such a history is a list of
moves, each of which may succeed or fail, and what it leaves is a world.

- `World`, `Move`: files, model and builder, and what can happen to them.
- `World.after`, `World.run`: the world after one move, and after a list of them.
- `World.taken`: the records that the builder took on the way.
- `World.grows_run`: over any history the model grows, and does nothing else.
- `World.tables_in_step_run`: over any history classes and signatures stay in step.
-/

namespace ReflectiveCalls

/-! ## Worlds and moves -/

/-- Files, a model that loads classes from them, and a builder over the model. -/
structure World where
  tree : Tree
  model : Model
  builder : Builder

/-- What can happen to a world. -/
inductive Move
  /-- Files are written and removed until they are those of the tree. -/
  | changeFiles (tree : Tree)
  | loadClass (name : String)
  | resolveClass (name : String)
  | resolve (className methodName : String) (line : Int)
  | addRecord (record : Record)
  /-- A record is added to another builder over the same model. -/
  | addElsewhere (builder : Builder) (record : Record)
  | build
  /-- An index over the same model is asked what the names recorded in a method stand for. -/
  | askEntities (index : Index) (operation : Operation) (container : MethodDecl)

namespace World

/-- A world in which nothing has been recorded yet. -/
def start (tree : Tree) (model : Model) : World := ⟨tree, model, .empty⟩

/-- A record added to the builder. -/
def adding (world : World) (record : Record) : Outcome (Model × Builder) Unit :=
  (Builder.addRecord world.tree record).run (world.model, world.builder)

/-- The builder asked for its index. -/
def building (world : World) : Outcome Builder Index := Builder.build.run world.builder

/-- The world after a move, whether the move succeeds or fails. -/
def after (world : World) : Move → World
  | .changeFiles tree => { world with tree := tree }
  | .loadClass name =>
      { world with model := ((Model.loadClass world.tree name).run world.model).state }
  | .resolveClass name =>
      { world with model := ((Model.resolveClass world.tree name).run world.model).state }
  | .resolve className methodName line =>
      { world with
        model := ((Model.resolve world.tree className methodName line).run world.model).state }
  | .addRecord record =>
      { world with
        model := (world.adding record).state.1
        builder := (world.adding record).state.2 }
  | .addElsewhere builder record =>
      { world with
        model := ((Builder.addRecord world.tree record).run (world.model, builder)).state.1 }
  | .build => { world with builder := world.building.state }
  | .askEntities index operation container =>
      { world with
        model := ((index.entities world.tree operation container).run world.model).state }

/-- The world after moves, one after the other. -/
def run (world : World) (moves : List Move) : World := moves.foldl after world

/-- The record that the builder takes at a move, if it takes one. -/
def takes (world : World) : Move → List Record
  | .addRecord record =>
      match (world.adding record).result with
      | .ok () => [record]
      | .error _ => []
  | _ => []

/-- The records that the builder takes in the course of moves, first one first. -/
def taken (world : World) : List Move → List Record
  | [] => []
  | move :: rest => world.takes move ++ (world.after move).taken rest

theorem takes_of_ok {world : World} {record : Record} (h : (world.adding record).result = .ok ()) :
    world.takes (.addRecord record) = [record] := by
  simp [takes, h]

theorem takes_of_error {world : World} {record : Record} {failure : Failure}
    (h : (world.adding record).result = .error failure) :
    world.takes (.addRecord record) = [] := by
  simp [takes, h]

/-- Asked for its index or not, a builder keeps what it has recorded. -/
theorem recorded_building (world : World) :
    world.building.state.recorded = world.builder.recorded := by
  unfold building Builder.build
  cases hbuilt : world.builder.built <;> simp [hbuilt]

/-- A builder gives its index once, and the index holds what the builder has recorded. -/
theorem building_result_iff {world : World} {index : Index} :
    world.building.result = .ok index ↔
      world.builder.built = false ∧ index = ⟨world.builder.recorded⟩ := by
  unfold building Builder.build
  cases hbuilt : world.builder.built with
  | true => simp [hbuilt]
  | false =>
      simp only [Action.run_state_bind, hbuilt]
      exact ⟨fun h => ⟨trivial, (Except.ok.inj h).symm⟩, fun h => congrArg Except.ok h.2.symm⟩

end World

/-! ## A small history -/

namespace Sample

/-- A method of a class, named and typed by texts. -/
def method (owner name : String) (types : List String) (first last : Int) : MethodDecl :=
  ⟨.str owner, .str name, .str "void", types.map .str, some ⟨first, last⟩, none⟩

/-- A class with two methods of one name. -/
def cart : ClassDecl :=
  ⟨.str "shop.Cart",
    [method "shop.Cart" "add" ["int"] 3 5, method "shop.Cart" "add" ["long", "int"] 7 9]⟩

def classPath : Path := ⟨.here, ["classes"]⟩

/-- A model of the one class. -/
def model : Model :=
  ⟨some classPath, [cart],
    [("<shop.Cart: void add(int)>", method "shop.Cart" "add" ["int"] 3 5),
      ("<shop.Cart: void add(long,int)>", method "shop.Cart" "add" ["long", "int"] 7 9)]⟩

/-- Files with one further class. -/
def tree : Tree :=
  let item :=
    "\x7b\"name\": \"shop.Item\", " ++
      "\"methods\": [\x7b\"name\": \"drop\", \"return_type\": \"void\"\x7d]\x7d"
  ⟨[("classes", .folder [("shop", .folder [("Item.json", .file 0)])])], [], [item.toUTF8.toList],
    .usual⟩

/-- A record of a call in a method of the first class. -/
def call (operation : Operation) (target : String) (line : Int) : Record :=
  ⟨operation, target, "shop.Cart", "add", line, 0⟩

/-- A call of a method whose class is not loaded yet, and so is refused, and again when it is; calls
at an unknown line and at lines of one and the other method. -/
def moves : List Move :=
  [.addRecord (call .methodInvoke "<shop.Item: void drop()>" 8),
    .addRecord (call .classForName "shop.Item" (-1)),
    .resolveClass "shop.Item",
    .addRecord (call .methodInvoke "<shop.Item: void drop()>" 8),
    .changeFiles (.withFolder []),
    .loadClass "shop.Gone",
    .addRecord (call .classForName "shop.Cart" 4)]

/-- The index of the history. -/
def index : Index := ⟨((World.start tree model).run moves).builder.recorded⟩

theorem model_built : Model.ofClasses [cart] (some classPath) = .ok model := by rfl

theorem building_run : ((World.start tree model).run moves).building.result = .ok index :=
  World.building_result_iff.2 ⟨by decide +kernel, rfl⟩

theorem textual_run : ((World.start tree model).run moves).model.Textual := by decide +kernel

end Sample

namespace World

/-! ## Growth over a history -/

/-- A move makes the model grow, by classes of the class files as they are. -/
theorem growsFrom_after (world : World) (move : Move) :
    Model.GrowsFrom world.tree world.model (world.after move).model := by
  cases move with
  | changeFiles tree => exact .refl
  | loadClass name => exact Model.keeps_loadClass world.tree name world.model
  | resolveClass name => exact Model.keeps_resolveClass world.tree name world.model
  | resolve className methodName line =>
      exact Model.keeps_resolve world.tree className methodName line world.model
  | addRecord record =>
      exact Builder.keeps_addRecord world.tree record (world.model, world.builder)
  | addElsewhere builder record =>
      exact Builder.keeps_addRecord world.tree record (world.model, builder)
  | build => exact .refl
  | askEntities index operation container =>
      exact Index.keeps_entities world.tree index operation container world.model

/-- A move makes the model grow. -/
theorem grows_after (world : World) (move : Move) : world.model.Grows (world.after move).model :=
  (growsFrom_after world move).grows

/-- Moves make the model grow. -/
theorem grows_run (world : World) (moves : List Move) :
    world.model.Grows (world.run moves).model := by
  induction moves generalizing world with
  | nil => exact .refl
  | cons move rest ih => exact (grows_after world move).trans (ih (world.after move))

theorem run_append (world : World) (moves later : List Move) :
    world.run (moves ++ later) = (world.run moves).run later :=
  List.foldl_append

/-- The model after further moves extends the one before them. -/
theorem extends_run_append (world : World) (h : world.model.Coherent) (moves later : List Move) :
    (world.run (moves ++ later)).model.Extends (world.run moves).model := by
  rw [run_append]
  exact (grows_run _ later).toExtends ((grows_run world moves).coherent h)

/-- A model that was made of classes is coherent at every time after. -/
theorem coherent_run {classes : List ClassDecl} {classPath : Option Path} {world : World}
    (built : Model.ofClasses classes classPath = .ok world.model) (moves : List Move) :
    (world.run moves).model.Coherent :=
  (grows_run world moves).coherent (Model.coherent_ofClasses built)

/-- Whatever happens to a model, its classes and its signatures stay in step: each class is found
under its own name and no two names are equal; no two methods have the same signature; a signature
is known exactly if some class declares a method of it, and it leads to that very method. -/
theorem tables_in_step_run {classes : List ClassDecl} {classPath : Option Path} (world : World)
    (built : Model.ofClasses classes classPath = .ok world.model) (moves : List Move) :
    let known := (world.run moves).model
    (∀ decl ∈ known.classes, ∃ key, decl.name.key? = some key ∧ known.classOf? key = some decl) ∧
      (∀ key decl, known.classOf? key = some decl →
        decl ∈ known.classes ∧ decl.name.key? = some key) ∧
      known.classes.Pairwise (fun decl other => decl.name.same other.name = false) ∧
      (known.classes.flatMap (·.methods)).Pairwise
        (fun method other => method.signature ≠ other.signature) ∧
      (∀ signature, known.containsMethod signature = true ↔
        ∃ decl ∈ known.classes, ∃ method ∈ decl.methods, method.signature = .ok signature) ∧
      ∀ decl ∈ known.classes, ∀ method ∈ decl.methods, ∃ signature,
        method.signature = .ok signature ∧ known.method? signature = some method := by
  intro known
  have hcoherent : known.Coherent := coherent_run built moves
  refine ⟨?_, ?_, hcoherent.pairwise_name_not_same, hcoherent.pairwise_signature_ne, ?_, ?_⟩
  · intro decl hdecl
    rcases hcoherent.named decl hdecl with ⟨key, hkey⟩
    exact ⟨key, hkey, hcoherent.classOf?_eq_some_iff.2 ⟨hdecl, hkey⟩⟩
  · intro key decl hclass
    exact hcoherent.classOf?_eq_some_iff.1 hclass
  · intro signature
    exact hcoherent.containsMethod_iff
  · intro decl hdecl method hmethod
    exact hcoherent.exists_signature hdecl hmethod

theorem tables_in_step_run_sample :
    Model.ofClasses [Sample.cart] (some Sample.classPath) = .ok Sample.model ∧
      ∃ decl ∈ ((start Sample.tree Sample.model).run Sample.moves).model.classes,
        ∃ method ∈ decl.methods, method.signature = .ok "<shop.Item: void drop()>" :=
  ⟨Sample.model_built, ((tables_in_step_run (start Sample.tree Sample.model) Sample.model_built
    Sample.moves).2.2.2.2.1 "<shop.Item: void drop()>").1 (by decide +kernel)⟩

end World
end ReflectiveCalls
