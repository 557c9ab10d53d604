import ReflectiveCalls.Proofs.Attribution
import ReflectiveCalls.Proofs.History
import ReflectiveCalls.Proofs.Index.Recorded

/-!
# Proofs.Index.Exactness — an index holds what the records say

Records are attributed while the model still grows, and the index is asked when it has grown
further.  What is known of a class does not change, so the index agrees with the records as they are
read in the model of any later time.

- `World.Accounts`: what the builder has recorded is what the records taken so far say in the model
  as it is; it holds after any history of textual data (`World.accounts_run`).
- `World.records_iff_tells`: an index lists a target for a method exactly if a record that was taken
  says so.
-/

namespace ReflectiveCalls

/-- The target is among the names recorded for the operation in the container. -/
def Index.Records (index : Index) (operation : Operation) (container : MethodDecl)
    (target : String) : Prop :=
  ∃ names, index.names operation container = .ok names ∧ target ∈ names

/-- The record tells of the operation on the target from the method, going by the class that is
registered in the model under the name of its class. -/
def Record.Tells (record : Record) (model : Model) (operation : Operation) (method : MethodDecl)
    (target : String) : Prop :=
  record.operation = operation ∧ record.target = target ∧
    ∃ decl, model.class? record.sourceClass = some decl ∧
      method ∈ decl.attributed record.sourceMethod record.line

namespace World

/-! ## The books of a history -/

/-- What the builder has recorded is what the records taken so far tell. -/
structure Accounts (world : World) (taken : List Record) : Prop where
  coherent : world.model.Coherent
  sound : Recorded.Sound world.model world.builder.recorded
  /-- The class of each record is registered. -/
  registered : ∀ record ∈ taken, ∃ decl, world.model.class? record.sourceClass = some decl
  has_iff : ∀ operation key target, (world.builder.recorded.get operation).Has key target ↔
    ∃ record ∈ taken, ∃ method, record.Tells world.model operation method target ∧
      method.identity = .ok key

/-- What a record tells does not change while the model grows. -/
theorem tells_iff_of_extends {model later : Model} {record : Record} {decl : ClassDecl}
    (hlater : later.Extends model) (hclass : model.class? record.sourceClass = some decl)
    {operation : Operation} {method : MethodDecl} {target : String} :
    record.Tells later operation method target ↔ record.Tells model operation method target := by
  unfold Record.Tells
  rw [hclass, hlater.class?_eq_some hclass]

namespace Accounts

variable {world : World} {taken : List Record}

theorem start {model : Model} (hmodel : model.Coherent) (tree : Tree) :
    (World.start tree model).Accounts [] where
  coherent := hmodel
  sound := Recorded.Sound.nothing model
  registered := by simp
  has_iff := by simp [World.start, Builder.empty, Receivers.Has]

/-- The books stay in order while the model grows and nothing is recorded. -/
theorem grow {after : World} (h : world.Accounts taken) (hgrows : world.model.Grows after.model)
    (hrecorded : after.builder.recorded = world.builder.recorded) : after.Accounts taken := by
  have hextends := hgrows.toExtends h.coherent
  constructor
  case coherent => exact hgrows.coherent h.coherent
  case sound => exact hrecorded ▸ h.sound.extend hextends
  case registered =>
    intro record hrecord
    rcases h.registered record hrecord with ⟨decl, hclass⟩
    exact ⟨decl, hextends.class?_eq_some hclass⟩
  case has_iff =>
    intro operation key target
    rw [hrecorded, h.has_iff]
    refine exists_congr fun record => and_congr_right fun hrecord => ?_
    rcases h.registered record hrecord with ⟨decl, hclass⟩
    simp only [tells_iff_of_extends hextends hclass]

/-- The books stay in order when a record is added, taken or refused. -/
theorem addRecord (h : world.Accounts taken) (record : Record)
    (htextual : (world.after (.addRecord record)).model.Textual) :
    (world.after (.addRecord record)).Accounts (taken ++ world.takes (.addRecord record)) := by
  have hgrows := world.grows_after (.addRecord record)
  rcases Builder.addRecord_cases world.tree record world.model world.builder with
    ⟨hresult, hbuilder⟩ | ⟨decl, hclass, htarget, -, hresult, hbuilder⟩
  · -- Nothing was recorded, and the record was not taken.
    have htakes : world.takes (.addRecord record) = [] := by
      cases hadding : (world.adding record).result with
      | ok value => exact absurd hadding hresult
      | error failure => exact takes_of_error hadding
    rw [htakes, List.append_nil]
    exact h.grow hgrows (congrArg Builder.recorded hbuilder)
  · -- The target was recorded for methods of a class that is registered by now.
    have hextends := hgrows.toExtends h.coherent
    have hcoherent := hgrows.coherent h.coherent
    have hmethods : ∀ method ∈ decl.attributed record.sourceMethod record.line,
        ∃ key signature, method.identity = .ok key ∧ method.signature = .ok signature ∧
          (world.after (.addRecord record)).model.method? signature = some method :=
      fun method hmethod => hcoherent.exists_key_and_signature htextual hclass
        (ClassDecl.mem_of_mem_attributed hmethod)
    have hrecording := Builder.recordAll_spec hmethods htarget (h.sound.extend hextends)
    have htakes : world.takes (.addRecord record) = [record] :=
      takes_of_ok (hresult.trans hrecording.1)
    have hrecorded := congrArg Builder.recorded hbuilder
    constructor
    case coherent => exact hcoherent
    case sound => exact hrecorded ▸ hrecording.2.2.1
    case registered =>
      intro other hother
      rcases List.mem_append.1 hother with hother | hother
      · rcases h.registered other hother with ⟨found, hfound⟩
        exact ⟨found, hextends.class?_eq_some hfound⟩
      · rw [htakes, List.mem_singleton] at hother
        exact ⟨decl, hother ▸ hclass⟩
    case has_iff =>
      intro operation key target
      -- What was recorded before is told by the earlier records, in the grown model as before.
      have hgrown :
          Accounts { world with model := (world.after (.addRecord record)).model } taken :=
        h.grow hgrows rfl
      have hhas := (hrecording.2.2.2 operation key target).trans
        (or_congr_left (hgrown.has_iff operation key target))
      rw [htakes]
      refine (hrecorded ▸ hhas).trans ?_
      constructor
      · rintro (⟨other, hother, htells⟩ | ⟨rfl, rfl, method, hmethod, hkey⟩)
        · exact ⟨other, List.mem_append_left _ hother, htells⟩
        · exact ⟨record, List.mem_append_right _ (List.mem_singleton_self _), method,
            ⟨rfl, rfl, decl, hclass, hmethod⟩, hkey⟩
      · rintro ⟨other, hother, method, htells, hkey⟩
        rcases List.mem_append.1 hother with hother | hother
        · exact Or.inl ⟨other, hother, method, htells, hkey⟩
        · rcases List.mem_singleton.1 hother with rfl
          rcases htells with ⟨rfl, rfl, found, hfound, hmethod⟩
          rcases Option.some.inj (hfound.symm.trans hclass) with rfl
          exact Or.inr ⟨rfl, rfl, method, hmethod, hkey⟩

/-- The books stay in order at every move. -/
theorem move (h : world.Accounts taken) (move : Move)
    (htextual : (world.after move).model.Textual) :
    (world.after move).Accounts (taken ++ world.takes move) := by
  have hgrows := world.grows_after move
  cases move with
  | addRecord record => exact h.addRecord record htextual
  | build =>
      simpa [takes] using h.grow hgrows world.recorded_building
  | _ => simpa [takes] using h.grow hgrows rfl

end Accounts

/-- The books are in order after any history of textual data. -/
theorem accounts_run {world : World} {taken : List Record} (h : world.Accounts taken)
    (moves : List Move) (htextual : (world.run moves).model.Textual) :
    (world.run moves).Accounts (taken ++ world.taken moves) := by
  induction moves generalizing world taken with
  | nil => simpa [World.taken, run] using h
  | cons move rest ih =>
      have hcoherent := (world.grows_after move).coherent h.coherent
      have hrest : ((world.after move).run rest).model.Textual := htextual
      -- What is textual at the end was so after the first move.
      have hmove : (world.after move).model.Textual :=
        ((grows_run (world.after move) rest).toExtends hcoherent).textual hrest
      have haccounts := ih (h.move move hmove) hrest
      rw [List.append_assoc] at haccounts
      exact haccounts

/-- An index that is built after a history of textual data holds what its books say. -/
theorem accounts_building {classes : List ClassDecl} {classPath : Option Path} {model : Model}
    (built : Model.ofClasses classes classPath = .ok model) (tree : Tree) (moves : List Move)
    {index : Index} (hindex : ((start tree model).run moves).building.result = .ok index)
    (textual : ((start tree model).run moves).model.Textual) :
    ((start tree model).run moves).Accounts ((start tree model).taken moves) ∧
      index.recorded = ((start tree model).run moves).builder.recorded :=
  ⟨accounts_run (.start (Model.coherent_ofClasses built) tree) moves textual,
    by rw [(building_result_iff.1 hindex).2]⟩

/-! ## Exactness -/

/-- An index built after any history can be asked for every textual method, and it lists a target
for a method exactly if a record that was taken tells so, going by the classes registered when the
index is built or at any later time.  Records that were refused leave no trace, and classes that
were loaded or rewritten meanwhile change nothing. -/
theorem records_iff_tells {classes : List ClassDecl} {classPath : Option Path} {model : Model}
    (built : Model.ofClasses classes classPath = .ok model) (tree : Tree) (moves : List Move)
    {index : Index} (hindex : ((start tree model).run moves).building.result = .ok index)
    (textual : ((start tree model).run moves).model.Textual) (later : List Move)
    (operation : Operation) (container : MethodDecl) (target : String) :
    (container.Textual → ∃ names, index.names operation container = .ok names) ∧
      (index.Records operation container target ↔
        ∃ record ∈ (start tree model).taken moves, ∃ method,
          record.Tells ((start tree model).run (moves ++ .build :: later)).model operation method
            target ∧ method.same container = true) := by
  rcases accounts_building built tree moves hindex textual with ⟨haccounts, hrecorded⟩
  have hlater := (start tree model).extends_run_append (Model.coherent_ofClasses built) moves
    (.build :: later)
  have hsound := haccounts.sound.receivers operation
  rw [← hrecorded] at hsound
  have hhas := haccounts.has_iff operation
  rw [← hrecorded] at hhas
  constructor
  · intro hcontainer
    rcases hcontainer.exists_identity with ⟨key, hkey⟩
    exact ⟨_, Index.names_eq_ok_iff.2 ⟨key, hkey, rfl⟩⟩
  · constructor
    · rintro ⟨names, hnames, htarget⟩
      rcases Index.names_eq_ok_iff.1 hnames with ⟨key, hkey, rfl⟩
      rcases (hhas key target).1 (hsound.mem_targets_iff.1 htarget) with
        ⟨record, hrecord, method, htells, hmethod⟩
      rcases haccounts.registered record hrecord with ⟨decl, hclass⟩
      exact ⟨record, hrecord, method, (tells_iff_of_extends hlater hclass).2 htells,
        (MethodDecl.same_iff hmethod container).2 hkey⟩
    · rintro ⟨record, hrecord, method, htells, hsame⟩
      rcases haccounts.registered record hrecord with ⟨decl, hclass⟩
      have htold := (tells_iff_of_extends hlater hclass).1 htells
      rcases htold.2.2 with ⟨found, hfound, hmem⟩
      rcases haccounts.coherent.exists_key_and_signature textual hfound
        (ClassDecl.mem_of_mem_attributed hmem) with ⟨key, -, hmethod, -⟩
      have hkey := (MethodDecl.same_iff hmethod container).1 hsame
      exact ⟨_, Index.names_eq_ok_iff.2 ⟨key, hkey, rfl⟩, hsound.mem_targets_iff.2
        ((hhas key target).2 ⟨record, hrecord, method, htold, hmethod⟩)⟩

theorem records_iff_tells_sample :
    ((start Sample.tree Sample.model).run Sample.moves).building.result = .ok Sample.index ∧
      ((start Sample.tree Sample.model).run Sample.moves).model.Textual ∧
      ∃ record ∈ (start Sample.tree Sample.model).taken Sample.moves, ∃ method,
        record.Tells
          ((start Sample.tree Sample.model).run
            (Sample.moves ++ [.build, .loadClass "shop.Gone"])).model
          .methodInvoke method "<shop.Item: void drop()>" ∧
        method.same (Sample.method "shop.Cart" "add" ["long", "int"] 7 9) = true := by
  have hiff := (records_iff_tells Sample.model_built Sample.tree Sample.moves Sample.building_run
    Sample.textual_run [.loadClass "shop.Gone"] .methodInvoke
    (Sample.method "shop.Cart" "add" ["long", "int"] 7 9) "<shop.Item: void drop()>").2
  exact ⟨Sample.building_run, Sample.textual_run, hiff.1 ⟨_, rfl, by decide +kernel⟩⟩

end World
end ReflectiveCalls
