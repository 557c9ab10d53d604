import ReflectiveCalls.Proofs.Index.Exactness
import ReflectiveCalls.Proofs.Index.Streaming

/-!
# Proofs.Index.Soundness — what is recorded stays in step

What a builder has recorded is in step with the model: an entry leads to the method of its
signature.  Nothing that happens to a world breaks that, whatever data the classes hold, not even a
record that is given up half-way; so every index is in step with the model that it leaves.

- `World.Sound`: model and recorded targets are in step; `World.Sound.run`: they remain so.
- `World.Sound.addRecord`: the ways in which adding a record ends.
- `Index.sound_ofTrace`: the index of a trace is in step with the model.
-/

namespace ReflectiveCalls

namespace World

variable {world : World}

/-! ## Worlds in step -/

/-- The classes and the signatures of the model are in step, and so is what is recorded. -/
structure Sound (world : World) : Prop where
  coherent : world.model.Coherent
  recorded : Recorded.Sound world.model world.builder.recorded

/-- A model that was made of classes is in step with a builder that has recorded nothing. -/
theorem sound_start {model : Model} (hmodel : model.Coherent) (tree : Tree) :
    (start tree model).Sound := ⟨hmodel, Recorded.Sound.nothing model⟩

/-- What is recorded stays in step while the model grows and nothing is recorded. -/
theorem Sound.grow {after : World} (h : world.Sound) (hgrows : world.model.Grows after.model)
    (hrecorded : after.builder.recorded = world.builder.recorded) : after.Sound where
  coherent := hgrows.coherent h.coherent
  recorded := hrecorded ▸ h.recorded.extend (hgrows.toExtends h.coherent)

/-- A record that is added is refused before anything is recorded; or else its target is recorded
for the methods to which the call is attributed, up to the first that cannot be identified. -/
theorem Sound.addRecord (h : world.Sound) (record : Record) :
    let after := world.after (.addRecord record)
    after.Sound ∧ after.builder.built = world.builder.built ∧
      ((world.adding record).result ≠ .ok () ∧ after.builder = world.builder ∨
        ∃ decl done rest, after.model.class? record.sourceClass = some decl ∧
          decl.attributed record.sourceMethod record.line = done ++ rest ∧
          (done = [] → after.builder = world.builder) ∧
          (∀ method ∈ done, ∃ key, method.identity = .ok key) ∧
          (rest = [] ∧ (world.adding record).result = .ok () ∨
            ∃ method later fault, rest = method :: later ∧ method.identity = .error fault ∧
              (world.adding record).result = .error (.escaped (.shape fault))) ∧
          ∀ operation key target, (after.builder.recorded.get operation).Has key target ↔
            (world.builder.recorded.get operation).Has key target ∨
              (operation = record.operation ∧ target = record.target ∧
                ∃ method ∈ done, method.identity = .ok key)) := by
  intro after
  have hgrows : world.model.Grows after.model := world.grows_after (.addRecord record)
  have hcoherent := hgrows.coherent h.coherent
  rcases Builder.addRecord_cases world.tree record world.model world.builder with
    ⟨hresult, hbuilder⟩ | ⟨decl, hclass, htarget, -, hresult, hbuilder⟩
  · have hafter : after.builder = world.builder := hbuilder
    exact ⟨h.grow hgrows (congrArg Builder.recorded hafter), congrArg Builder.built hafter,
      .inl ⟨hresult, hafter⟩⟩
  · -- The methods belong to a class of the model, so they are found by their signatures.
    have hsigned : ∀ method ∈ decl.attributed record.sourceMethod record.line,
        ∃ signature, method.signature = .ok signature ∧
          after.model.method? signature = some method := by
      intro method hmethod
      exact hcoherent.exists_signature (hcoherent.classOf?_eq_some_iff.1 hclass).1
        (ClassDecl.mem_of_mem_attributed hmethod)
    have hextended := h.recorded.extend (hgrows.toExtends h.coherent)
    rcases Builder.recordAll_upTo hsigned htarget hextended with
      ⟨done, rest, hmethods, hnone, hdone, hending, hbuilt, hrecorded, hhas⟩
    have hafter : after.builder = _ := hbuilder
    have hadding : (world.adding record).result = _ := hresult
    rw [hafter, hadding]
    exact ⟨⟨hcoherent, hafter ▸ hrecorded⟩, hbuilt,
      .inr ⟨decl, done, rest, hclass, hmethods, hnone, hdone, hending, hhas⟩⟩

/-- No move gets the world out of step. -/
theorem Sound.after (h : world.Sound) (move : Move) : (world.after move).Sound := by
  have hgrows := world.grows_after move
  cases move with
  | addRecord record => exact (h.addRecord record).1
  | build => exact h.grow hgrows world.recorded_building
  | _ => exact h.grow hgrows rfl

/-- No history gets the world out of step. -/
theorem Sound.run (h : world.Sound) (moves : List Move) : (world.run moves).Sound := by
  induction moves generalizing world with
  | nil => exact h
  | cons move rest ih => exact ih (h.after move)

end World

/-! ## Indexes in step -/

/-- What is recorded for a method, as it shows in an index. -/
theorem Recorded.Sound.records_iff {model : Model} {recorded : PerOperation Receivers}
    (h : Recorded.Sound model recorded) {operation : Operation} {container : MethodDecl}
    {target : String} :
    Index.Records ⟨recorded⟩ operation container target ↔
      ∃ key, container.identity = .ok key ∧ (recorded.get operation).Has key target := by
  have htargets : ∀ key, target ∈ (recorded.get operation).targets key ↔
      (recorded.get operation).Has key target := fun key => (h.receivers operation).mem_targets_iff
  constructor
  · rintro ⟨names, hnames, htarget⟩
    rcases Index.names_eq_ok_iff.1 hnames with ⟨key, hkey, rfl⟩
    exact ⟨key, hkey, (htargets key).1 htarget⟩
  · rintro ⟨key, hkey, hhas⟩
    exact ⟨_, Index.names_eq_ok_iff.2 ⟨key, hkey, rfl⟩, (htargets key).2 hhas⟩

/-- The index of a trace is in step with the model that it leaves. -/
theorem Index.sound_ofTrace {tree : Tree} {path : Path} {encoding : String} {model : Model}
    (hmodel : model.Coherent) {index : Index}
    (h : ((ofTrace tree path encoding).run model).result = .ok index) :
    ((ofTrace tree path encoding).run model).state.Coherent ∧
      Recorded.Sound ((ofTrace tree path encoding).run model).state index.recorded := by
  rcases TraceStream.exists_yields_iff tree (.unopened path encoding) with
    ⟨records, ending, hiff⟩
  rcases run_ofTrace ((hiff records ending).2 ⟨rfl, rfl⟩) model with ⟨hresult, hstate⟩
  -- All records of the trace were taken, so they make up a history.
  cases hadding : ((Builder.addRecords tree records).run (model, .empty)).result with
  | error failure =>
      rw [hadding] at hresult
      cases hresult.symm.trans h
  | ok _ =>
      have hrun := (@World.run_map_addRecord (World.start tree model) records hadding).1
      have hsound := (World.sound_start hmodel tree).run (records.map .addRecord)
      rw [hrun] at hsound
      rw [hadding] at hresult
      have hindex := hresult.symm.trans h
      cases ending with
      | error failure => cases hindex
      | ok _ =>
          cases hindex
          rw [hstate]
          exact ⟨hsound.coherent, hsound.recorded⟩

end ReflectiveCalls
