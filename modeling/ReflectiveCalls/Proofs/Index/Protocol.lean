import ReflectiveCalls.Proofs.Index.Agreement
import ReflectiveCalls.Proofs.Index.Soundness

/-!
# Proofs.Index.Protocol — a builder gives its index once

Records come to a builder one at a time, in lists, or from a stream that is read as they are added;
and at some time it is asked for its index.  Whatever the order of these requests, and whatever
happens to the files and to the model meanwhile, the builder goes through two phases.  Until it has
given its index it is open, and a refused record costs it nothing.  Once it has given its index it
is frozen: it refuses everything, before a file is looked at.

- `Builder.Request`, `World.handle`: what a builder can be asked, and what a request leaves.
- `World.given`: the indexes that are given in the course of requests.
- `World.Batch`: records added together are records added one by one, up to the first that is
  refused.
- `World.Frozen`: everything is refused, and nothing changes.
- `World.given_once_run`: over any requests, one index is given at most, and it stays as it is.
-/

namespace ReflectiveCalls

/-- What a builder can be asked. -/
inductive Builder.Request
  /-- A record is added, or the index is asked for, or something else happens to files and model. -/
  | move (move : Move)
  | addRecords (records : List Record)
  /-- What is left of a stream is added. -/
  | addStream (stream : TraceStream)

open Builder (Request)

namespace World

/-! ## Requests -/

/-- Records added to the builder. -/
def addingAll (world : World) (records : List Record) : Outcome (Model × Builder) Unit :=
  (Builder.addRecords world.tree records).run (world.model, world.builder)

/-- What is left of a stream added to the builder. -/
def addingStream (world : World) (stream : TraceStream) :
    Outcome ((Model × Builder) × TraceStream) Unit :=
  (Builder.addStream world.tree).run ((world.model, world.builder), stream)

/-- The world with another model and another builder. -/
def withState (world : World) (state : Model × Builder) : World :=
  ⟨world.tree, state.1, state.2⟩

/-- The world after a request, whether the request is met or refused. -/
def handle (world : World) : Request → World
  | .move move => world.after move
  | .addRecords records => world.withState (world.addingAll records).state
  | .addStream stream => world.withState (world.addingStream stream).state.1

/-- The world after requests, one after the other. -/
def handleAll (world : World) (requests : List Request) : World := requests.foldl handle world

/-- The index that is given at a request, if one is given. -/
def gives (world : World) : Request → List Index
  | .move .build => world.building.result.toOption.toList
  | _ => []

/-- The indexes that are given in the course of requests, first one first. -/
def given (world : World) : List Request → List Index
  | [] => []
  | request :: rest => world.gives request ++ (world.handle request).given rest

theorem given_append (world : World) (requests later : List Request) :
    world.given (requests ++ later) =
      world.given requests ++ (world.handleAll requests).given later := by
  induction requests generalizing world with
  | nil => rfl
  | cons request rest ih => rw [List.cons_append, given, given, ih, List.append_assoc]; rfl

/-! ## Records added together -/

/-- Records are added by moves, one by one, with the given result and into the given world: all of
them are taken; or the first ones are taken, the next one is refused, and those that are `left` are
not looked at. -/
inductive Batch (world : World) :
    (records left : List Record) → Except Failure Unit → World → Prop
  | taken {records : List Record} (h : world.taken (records.map .addRecord) = records) :
      Batch world records [] (.ok ()) (world.run (records.map .addRecord))
  | refused {before left : List Record} {record : Record} {failure : Failure}
      (h : world.taken (before.map .addRecord) = before)
      (hrecord : ((world.run (before.map .addRecord)).adding record).result = .error failure) :
      Batch world (before ++ record :: left) left (.error failure)
        ((world.run (before.map .addRecord)).after (.addRecord record))

/-- A record that is taken is the first of a batch. -/
theorem Batch.cons {world after : World} {record : Record} {records left : List Record}
    {result : Except Failure Unit} (h : (world.adding record).result = .ok ())
    (hrest : (world.after (.addRecord record)).Batch records left result after) :
    world.Batch (record :: records) left result after := by
  have htaken : ∀ rest, (world.after (.addRecord record)).taken (rest.map .addRecord) = rest →
      world.taken ((record :: rest).map .addRecord) = record :: rest := by
    intro rest hrest
    rw [List.map_cons, World.taken, takes_of_ok h, hrest, List.singleton_append]
  cases hrest with
  | taken hrest => exact .taken (htaken _ hrest)
  | refused hbefore hrecord => exact .refused (htaken _ hbefore) hrecord

/-- Adding a list of records is adding them one by one. -/
theorem batch_addingAll (world : World) (records : List Record) :
    ∃ left, world.Batch records left (world.addingAll records).result
      (world.handle (.addRecords records)) := by
  induction records generalizing world with
  | nil => exact ⟨[], .taken rfl⟩
  | cons record rest ih =>
      rw [handle, addingAll, Builder.addRecords]
      cases hadding : (world.adding record).result with
      | error failure =>
          have hrun := Action.run_bind_of_error
            (fun _ => Builder.addRecords world.tree rest) hadding
          rw [hrun.1, hrun.2]
          exact ⟨rest, @Batch.refused world [] rest record failure rfl hadding⟩
      | ok _ =>
          have hrun := Action.run_bind_of_ok
            (fun _ => Builder.addRecords world.tree rest) hadding
          rw [hrun.1, hrun.2]
          obtain ⟨left, hleft⟩ := ih (world.after (.addRecord record))
          exact ⟨left, hleft.cons hadding⟩

/-- A move has one record taken at most. -/
theorem length_taken_le (world : World) (moves : List Move) :
    (world.taken moves).length ≤ moves.length := by
  induction moves generalizing world with
  | nil => exact Nat.zero_le _
  | cons move rest ih =>
      have htakes : (world.takes move).length ≤ 1 := by
        unfold takes
        split
        · split <;> simp
        · simp
      have hrest := ih (world.after move)
      rw [taken, List.length_append, List.length_cons]
      omega

/-- Records that are all taken one by one are taken together. -/
theorem result_addingAll_of_taken {world : World} {records : List Record}
    (h : world.taken (records.map .addRecord) = records) :
    (world.addingAll records).result = .ok () := by
  induction records generalizing world with
  | nil => rfl
  | cons record rest ih =>
      rw [List.map_cons, taken] at h
      cases hadding : (world.adding record).result with
      | ok _ =>
          rw [takes_of_ok hadding, List.singleton_append, List.cons.injEq] at h
          rw [addingAll, Builder.addRecords, (Action.run_bind_of_ok _ hadding).1]
          exact ih h.2
      | error failure =>
          -- One record is refused, so there are too few moves for all records to be taken.
          have hlength := (world.after (.addRecord record)).length_taken_le (rest.map .addRecord)
          rw [takes_of_error hadding, List.nil_append] at h
          rw [h, List.length_map] at hlength
          exact absurd hlength (Nat.not_succ_le_self _)

/-- What is left of a stream leaves the world as the records that it yields do. -/
theorem handle_addStream {world : World} {stream : TraceStream} {records : List Record}
    {ending : Except Failure Unit} (hyields : TraceStream.Yields world.tree stream records ending) :
    world.handle (.addStream stream) = world.handle (.addRecords records) :=
  congrArg world.withState (Builder.run_addStream hyields (world.model, world.builder)).2

/-- Adding a stream is adding some list of records. -/
theorem exists_handle_addStream (world : World) (stream : TraceStream) :
    ∃ records, world.handle (.addStream stream) = world.handle (.addRecords records) := by
  obtain ⟨records, ending, hiff⟩ := TraceStream.exists_yields_iff world.tree stream
  exact ⟨records, handle_addStream ((hiff records ending).2 ⟨rfl, rfl⟩)⟩

/-- Adding what is left of a stream is adding the records that it yields one by one; if none is
refused, the end is that of the stream, and otherwise the records behind the refused one are left in
the stream. -/
theorem batch_addingStream {world : World} {stream : TraceStream} {records : List Record}
    {ending : Except Failure Unit} (hyields : TraceStream.Yields world.tree stream records ending) :
    let outcome := world.addingStream stream
    ∃ left result, world.Batch records left result (world.handle (.addStream stream)) ∧
      outcome.result = (result.bind fun _ => ending) ∧
      ∀ failure, result = .error failure →
        TraceStream.Yields world.tree outcome.state.2 left ending := by
  intro outcome
  have hrun := Builder.run_addStream hyields (world.model, world.builder)
  obtain ⟨left, hbatch⟩ := world.batch_addingAll records
  refine ⟨left, (world.addingAll records).result, handle_addStream hyields ▸ hbatch, hrun.1, ?_⟩
  intro failure hfailure
  rw [hfailure] at hbatch
  generalize world.handle (.addRecords records) = after at hbatch
  cases hbatch with
  | @refused before _ record _ hbefore hrecord =>
      -- Moves and steps over a list leave the same world behind the records that are taken.
      have hadded := result_addingAll_of_taken hbefore
      rw [(run_map_addRecord hadded).1] at hrecord
      unfold adding at hrecord
      rw [addingAll, Builder.addRecords_eq_each] at hadded
      rw [Builder.addRecords_eq_each] at hrecord
      exact TraceStream.yields_forEach_of_error (Builder.addRecord world.tree) hyields hadded
        hrecord

/-! ## Phases -/

/-- The index has been given, so everything is refused for that one reason.  Model and builder stay
as they are, whatever the files are, and nothing is logged; of a stream one record is read, and the
others are left. -/
structure Frozen (world : World) : Prop where
  addRecord : ∀ files record,
    (Builder.addRecord files record).run (world.model, world.builder) =
      ⟨.error (.reported .indexFrozen), (world.model, world.builder), []⟩
  addRecords : ∀ files record rest,
    (Builder.addRecords files (record :: rest)).run (world.model, world.builder) =
      ⟨.error (.reported .indexFrozen), (world.model, world.builder), []⟩
  addStream : ∀ files stream record rest ending,
    TraceStream.Yields files stream (record :: rest) ending →
      let outcome := (Builder.addStream files).run ((world.model, world.builder), stream)
      outcome.result = .error (.reported .indexFrozen) ∧
        outcome.state.1 = (world.model, world.builder) ∧
        TraceStream.Yields files outcome.state.2 rest ending
  build : world.building = ⟨.error (.reported .indexFrozen), world.builder, []⟩

section Frozen

variable {world : World}

theorem run_addRecord_of_built (h : world.builder.built = true) (files : Tree) (record : Record) :
    (Builder.addRecord files record).run (world.model, world.builder) =
      ⟨.error (.reported .indexFrozen), (world.model, world.builder), []⟩ := by
  simp [Builder.addRecord, Builder.checkOpen, Action.run_bind, h]

theorem run_addRecords_of_built (h : world.builder.built = true) (files : Tree) (record : Record)
    (rest : List Record) :
    (Builder.addRecords files (record :: rest)).run (world.model, world.builder) =
      ⟨.error (.reported .indexFrozen), (world.model, world.builder), []⟩ := by
  rw [Builder.addRecords, Action.run_bind, run_addRecord_of_built h]

/-- A builder that has given its index is frozen. -/
theorem frozen_of_built (h : world.builder.built = true) : world.Frozen where
  addRecord := run_addRecord_of_built h
  addRecords := run_addRecords_of_built h
  addStream := by
    intro files stream record rest ending hyields outcome
    have hrun := Builder.run_addStream hyields (world.model, world.builder)
    rw [run_addRecords_of_built h] at hrun
    have hrefused := congrArg Outcome.result (run_addRecord_of_built h files record)
    have hnone : TraceStream.Yields files stream ([] ++ record :: rest) ending := hyields
    exact ⟨hrun.1, hrun.2,
      TraceStream.yields_forEach_of_error (Builder.addRecord files) hnone rfl hrefused⟩
  build := by simp [building, Builder.build, h]

/-- Whatever is asked of it, a frozen builder stays as it is and gives no index. -/
theorem handle_of_built (h : world.builder.built = true) (request : Request) :
    world.gives request = [] ∧ (world.handle request).builder = world.builder := by
  have hfrozen := frozen_of_built h
  have hall : ∀ records, (world.handle (.addRecords records)).builder = world.builder := by
    intro records
    cases records with
    | nil => rfl
    | cons record rest =>
        rw [handle, addingAll, hfrozen.addRecords]
        rfl
  cases request with
  | move move =>
      cases move with
      | addRecord record =>
          exact ⟨rfl, congrArg (fun outcome => outcome.state.2) (hfrozen.addRecord _ record)⟩
      | build =>
          rw [gives, handle, after, hfrozen.build]
          exact ⟨rfl, rfl⟩
      | _ => exact ⟨rfl, rfl⟩
  | addRecords records => exact ⟨rfl, hall records⟩
  | addStream stream =>
      obtain ⟨records, hsame⟩ := world.exists_handle_addStream stream
      exact ⟨rfl, hsame ▸ hall records⟩

/-- However much is asked of it, a frozen builder stays as it is and gives no index. -/
theorem handleAll_of_built (h : world.builder.built = true) (requests : List Request) :
    world.given requests = [] ∧ (world.handleAll requests).builder = world.builder := by
  induction requests generalizing world with
  | nil => exact ⟨rfl, rfl⟩
  | cons request rest ih =>
      obtain ⟨hgives, hbuilder⟩ := handle_of_built h request
      have hbuilt : (world.handle request).builder.built = true := hbuilder ▸ h
      obtain ⟨hgiven, hrest⟩ := ih hbuilt
      exact ⟨by rw [given, hgives, hgiven, List.nil_append], hrest.trans hbuilder⟩

end Frozen

/-- An open builder stays open at every request but the one at which it gives its index, and then
the index holds what the builder goes on holding. -/
theorem handle_of_open {world : World} (h : world.builder.built = false) (request : Request) :
    let after := (world.handle request).builder
    world.gives request = [] ∧ after.built = false ∨
      ∃ index, world.gives request = [index] ∧ after.built = true ∧
        after.recorded = index.recorded := by
  intro after
  have hall : ∀ records, (world.handle (.addRecords records)).builder.built = false := by
    intro records
    exact (Builder.keeps_asOpen_addRecords world.tree records (world.model, world.builder)).trans h
  cases request with
  | move move =>
      cases move with
      | addRecord record =>
          left
          exact ⟨rfl, (Builder.keeps_asOpen_addRecord world.tree record
            (world.model, world.builder)).trans h⟩
      | build =>
          right
          have hbuilding : world.building.result = .ok ⟨world.builder.recorded⟩ :=
            building_result_iff.2 ⟨h, rfl⟩
          refine ⟨⟨world.builder.recorded⟩, by rw [gives, hbuilding]; rfl, ?_,
            world.recorded_building⟩
          simp [after, handle, World.after, building, Builder.build, h]
      | _ => exact .inl ⟨rfl, h⟩
  | addRecords records => exact .inl ⟨rfl, hall records⟩
  | addStream stream =>
      left
      obtain ⟨records, hsame⟩ := world.exists_handle_addStream stream
      exact ⟨rfl, (congrArg (fun world => world.builder.built) hsame).trans (hall records)⟩

/-- An open builder is still open and has given no index; or it has given one, and is frozen since,
holding what the index holds. -/
theorem handleAll_of_open {world : World} (h : world.builder.built = false)
    (requests : List Request) :
    let after := (world.handleAll requests).builder
    world.given requests = [] ∧ after.built = false ∨
      ∃ index, world.given requests = [index] ∧ after.built = true ∧
        after.recorded = index.recorded := by
  induction requests generalizing world with
  | nil => exact .inl ⟨rfl, h⟩
  | cons request rest ih =>
      intro after
      rcases handle_of_open h request with ⟨hgives, hopen⟩ | ⟨index, hgives, hbuilt, hrecorded⟩
      · rw [given, hgives, List.nil_append]
        exact ih hopen
      · obtain ⟨hgiven, hbuilder⟩ := handleAll_of_built hbuilt rest
        have hafter : after = (world.handle request).builder := hbuilder
        rw [given, hgives, hgiven, hafter]
        exact .inr ⟨index, rfl, hbuilt, hrecorded⟩

/-! ## Over requests -/

/-- In textual data a record that is refused leaves the builder as it is. -/
theorem Sound.builder_of_refused {world : World} (h : world.Sound) {record : Record}
    {failure : Failure} (hrefused : (world.adding record).result = .error failure)
    (htextual : (world.after (.addRecord record)).model.Textual) :
    (world.after (.addRecord record)).builder = world.builder := by
  rcases h.addRecord record with
    ⟨hsound, -, ⟨-, hsame⟩ | ⟨decl, done, rest, hclass, hmethods, -, -, hending, -⟩⟩
  · exact hsame
  · rcases hending with ⟨-, hresult⟩ | ⟨method, later, fault, rfl, hfault, -⟩
    · cases hrefused.symm.trans hresult
    · -- The recording stops at a method without identity, but there are none in textual data.
      have hmethod : method ∈ decl.attributed record.sourceMethod record.line := by
        simp [hmethods]
      obtain ⟨key, -, hkey, -⟩ := hsound.coherent.exists_key_and_signature htextual hclass
        (ClassDecl.mem_of_mem_attributed hmethod)
      cases hfault.symm.trans hkey

/-- What a batch leaves is left by moves. -/
theorem Batch.exists_moves {world after : World} {records left : List Record}
    {result : Except Failure Unit} (h : world.Batch records left result after) :
    ∃ moves, after = world.run moves := by
  cases h with
  | @taken records => exact ⟨records.map .addRecord, rfl⟩
  | @refused before _ record =>
      refine ⟨before.map .addRecord ++ [.addRecord record], ?_⟩
      rw [run_append]
      rfl

/-- Requests make up a history. -/
theorem exists_moves_handleAll (world : World) (requests : List Request) :
    ∃ moves, world.handleAll requests = world.run moves := by
  have hall : ∀ (world : World) records,
      ∃ moves, world.handle (.addRecords records) = world.run moves := by
    intro world records
    obtain ⟨left, hbatch⟩ := world.batch_addingAll records
    exact hbatch.exists_moves
  have hone : ∀ (world : World) request, ∃ moves, world.handle request = world.run moves := by
    intro world request
    cases request with
    | move move => exact ⟨[move], rfl⟩
    | addRecords records => exact hall world records
    | addStream stream =>
        obtain ⟨records, hsame⟩ := world.exists_handle_addStream stream
        exact hsame ▸ hall world records
  induction requests generalizing world with
  | nil => exact ⟨[], rfl⟩
  | cons request rest ih =>
      obtain ⟨moves, hmoves⟩ := hone world request
      obtain ⟨later, hlater⟩ := ih (world.handle request)
      refine ⟨moves ++ later, ?_⟩
      rw [run_append, ← hmoves, ← hlater]
      rfl

/-- A builder over a model is asked for whatever in whatever order, while files change and classes
are loaded.  It gives one index at most, and it does give one when it is asked for the first time.
From then on it refuses every record and every further request for the index, and remains as it is;
so what the index shows is at every later time what the builder holds, and the same as before.
Records that are added together, in a list or from a stream, are added one by one up to the first
that is refused; those before it stay recorded, and those behind it are left.  A record that is
refused leaves the builder as it is, whatever went before, provided that the classes are textual. -/
theorem given_once_run {classes : List ClassDecl} {classPath : Option Path} {model : Model}
    (built : Model.ofClasses classes classPath = .ok model) (tree : Tree)
    (requests : List Request) :
    let world := (start tree model).handleAll requests
    let given := (start tree model).given requests
    given.length ≤ 1 ∧
      (given = [] → world.building.result = .ok ⟨world.builder.recorded⟩) ∧
      (∀ index ∈ given, ∀ later,
        let afterwards := world.handleAll later
        (start tree model).given (requests ++ later) = [index] ∧ afterwards.Frozen ∧
          afterwards.builder = world.builder ∧
          index.Agrees ⟨afterwards.builder.recorded⟩) ∧
      (∀ records, ∃ left, world.Batch records left (world.addingAll records).result
        (world.handle (.addRecords records))) ∧
      (∀ stream records ending, TraceStream.Yields world.tree stream records ending →
        let outcome := world.addingStream stream
        ∃ left result, world.Batch records left result (world.handle (.addStream stream)) ∧
          outcome.result = (result.bind fun _ => ending) ∧
          ∀ failure, result = .error failure →
            TraceStream.Yields world.tree outcome.state.2 left ending) ∧
      ∀ moves record failure,
        let before := world.run moves
        (before.adding record).result = .error failure →
          (before.after (.addRecord record)).model.Textual →
          (before.after (.addRecord record)).builder = before.builder := by
  intro world given
  have hopen : (start tree model).builder.built = false := rfl
  have hphases := handleAll_of_open hopen requests
  refine ⟨?once, ?first, ?frozen, world.batch_addingAll, ?stream, ?refused⟩
  case once =>
    rcases hphases with ⟨hnone, -⟩ | ⟨index, hone, -⟩
    · simp [given, hnone]
    · simp [given, hone]
  case first =>
    intro hnone
    rcases hphases with ⟨-, hopen⟩ | ⟨index, hone, -⟩
    · exact building_result_iff.2 ⟨hopen, rfl⟩
    · cases hone.symm.trans hnone
  case frozen =>
    intro index hindex later afterwards
    rcases hphases with ⟨hnone, -⟩ | ⟨other, hone, hbuilt, hrecorded⟩
    · rw [show given = [] from hnone] at hindex
      cases hindex
    · rw [show given = [other] from hone, List.mem_singleton] at hindex
      subst hindex
      obtain ⟨hgiven, hbuilder⟩ := handleAll_of_built hbuilt later
      have hfrozen : afterwards.builder.built = true := hbuilder ▸ hbuilt
      have hshown : (⟨afterwards.builder.recorded⟩ : Index) = index := by
        rw [show afterwards.builder = world.builder from hbuilder,
          show world.builder.recorded = index.recorded from hrecorded]
      refine ⟨?_, frozen_of_built hfrozen, hbuilder, hshown.symm ▸ .refl index⟩
      rw [given_append, hone, hgiven, List.append_nil]
  case stream =>
    intro stream records ending hyields
    exact batch_addingStream hyields
  case refused =>
    intro moves record failure before hrefused htextual
    obtain ⟨earlier, hearlier⟩ := (start tree model).exists_moves_handleAll requests
    have hsound : world.Sound := by
      rw [show world = (start tree model).run earlier from hearlier]
      exact (sound_start (Model.coherent_ofClasses built) tree).run earlier
    exact (hsound.run moves).builder_of_refused hrefused htextual

end World

namespace Sample

/-- Records in a list, of which the second one is refused, and then the index. -/
def requests : List Request :=
  [.addRecords [call .classForName "shop.Item" (-1),
      call .methodInvoke "<shop.Item: void drop()>" 8, call .classForName "shop.Cart" 4],
    .move .build]

end Sample

/-- The index is given in spite of the refusal, and a class that is loaded afterwards does not make
the builder take the record that was refused. -/
theorem World.given_once_run_sample :
    let world := start Sample.tree Sample.model
    Model.ofClasses [Sample.cart] (some Sample.classPath) = .ok Sample.model ∧
      ∃ index, world.given Sample.requests = [index] ∧
        let afterwards :=
          (world.handleAll Sample.requests).handleAll [.move (.resolveClass "shop.Item")]
        afterwards.Frozen ∧ index.Agrees ⟨afterwards.builder.recorded⟩ := by
  intro world
  have hlength : (world.given Sample.requests).length = 1 := by decide +kernel
  obtain ⟨index, hindex⟩ := List.length_eq_one_iff.1 hlength
  have hmem : index ∈ world.given Sample.requests := by simp [hindex]
  obtain ⟨-, hfrozen, -, hagrees⟩ := (given_once_run Sample.model_built Sample.tree
    Sample.requests).2.2.1 index hmem [.move (.resolveClass "shop.Item")]
  exact ⟨Sample.model_built, index, hindex, hfrozen, hagrees⟩

end ReflectiveCalls
