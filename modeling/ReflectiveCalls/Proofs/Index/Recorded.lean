import ReflectiveCalls.Proofs.Program.Coherence
import ReflectiveCalls.Index.Builder
import ReflectiveCalls.Proofs.Action

/-!
# Proofs.Index.Recorded — what has been recorded

What a builder has recorded for an operation is a list of entries, one for each method.  Here it is
looked at as a relation between keys of methods and targets, and kept in step with the model that
the methods come from.

- `Receivers.Has`: a target is recorded for what counts as a method; `Receivers.has_add` says what
  recording adds to the relation.
- `Receivers.Sound`, `Recorded.Sound`: one entry for each key, the method and signature of an entry
  are those of the model, and targets that name a method are known there.
- `Builder.recordAll_upTo`, `Builder.recordAll_spec`: recording a target for known methods, up to
  the first that cannot be identified.
-/

namespace ReflectiveCalls

/-! ## Ascending order -/

/-- Sorted by texts that are distinct, the texts ascend strictly. -/
theorem pairwise_before_mergeSort {α : Type} {key : α → String} {items : List α}
    (distinct : (items.map key).Nodup) :
    (items.mergeSort fun left right => !Text.before (key right) (key left)).Pairwise
      fun left right => Text.Before (key left) (key right) := by
  have hsorted : (items.mergeSort fun left right => !Text.before (key right) (key left)).Pairwise
      fun left right => (!Text.before (key right) (key left)) = true := by
    apply List.pairwise_mergeSort
    · intro first second third h h'
      rw [Text.not_before_iff] at h h' ⊢
      rcases h with h | h <;> rcases h' with h' | h'
      · exact Or.inl (h'.trans h)
      · exact Or.inr (h ▸ h')
      · exact Or.inr (h' ▸ h)
      · exact Or.inr (h.trans h')
    · intro left right
      rw [Bool.or_eq_true, Text.not_before_iff, Text.not_before_iff]
      rcases Text.Before.trichotomy (key left) (key right) with h | h | h
      · exact Or.inl (Or.inr h)
      · exact Or.inl (Or.inl h.symm)
      · exact Or.inr (Or.inr h)
  have hdistinct : (items.mergeSort fun left right => !Text.before (key right) (key left)).Pairwise
      fun left right => key left ≠ key right :=
    List.pairwise_map.1 (((List.mergeSort_perm items _).map key).nodup_iff.2 distinct)
  -- Sorting alone lets equal texts stand side by side.
  refine hsorted.imp₂ ?_ hdistinct
  intro left right h hne
  exact (Text.not_before_iff.1 h).resolve_left (Ne.symm hne)

@[simp] theorem mem_ascending {texts : List String} {text : String} :
    text ∈ ascending texts ↔ text ∈ texts := List.mem_mergeSort

/-- Distinct texts in ascending order ascend strictly. -/
theorem pairwise_before_ascending {texts : List String} (distinct : texts.Nodup) :
    (ascending texts).Pairwise Text.Before :=
  pairwise_before_mergeSort (by simpa using distinct)

@[simp] theorem length_ascending (texts : List String) :
    (ascending texts).length = texts.length := List.length_mergeSort _

/-! ## Targets of one method -/

@[simp] theorem mem_insertTarget {targets : List String} {target text : String} :
    text ∈ insertTarget targets target ↔ text ∈ targets ∨ text = target := by
  unfold insertTarget
  split
  · next hmem =>
      have hmem : target ∈ targets := by
        simpa using hmem
      constructor
      · exact Or.inl
      · rintro (htext | rfl)
        · exact htext
        · exact hmem
  · simp

theorem nodup_insertTarget {targets : List String} (h : targets.Nodup) (target : String) :
    (insertTarget targets target).Nodup := by
  unfold insertTarget
  split
  · exact h
  · next hnew =>
      rw [List.nodup_append]
      refine ⟨h, by simp, ?_⟩
      intro text htext other hother heq
      have hother : other = target := by
        simpa using hother
      exact hnew (by simpa [← hother, ← heq] using htext)

namespace Entry

variable (key : MethodKey) (target : String) (entry : Entry)

@[simp] theorem key_withTarget : (entry.withTarget key target).key = entry.key := by
  unfold withTarget
  split <;> rfl

@[simp] theorem signature_withTarget :
    (entry.withTarget key target).signature = entry.signature := by
  unfold withTarget
  split <;> rfl

@[simp] theorem method_withTarget : (entry.withTarget key target).method = entry.method := by
  unfold withTarget
  split <;> rfl

@[simp] theorem mem_targets_withTarget {text : String} :
    text ∈ (entry.withTarget key target).targets ↔
      text ∈ entry.targets ∨ (entry.key = key ∧ text = target) := by
  unfold withTarget
  by_cases hkey : entry.key = key <;> simp [hkey]

theorem nodup_targets_withTarget (h : entry.targets.Nodup) :
    (entry.withTarget key target).targets.Nodup := by
  unfold withTarget
  split
  · exact nodup_insertTarget h target
  · exact h

end Entry

namespace Receivers

variable {receivers : Receivers} {model : Model}

/-! ## Recorded targets as a relation -/

/-- The target is recorded for what counts as the method. -/
def Has (receivers : Receivers) (key : MethodKey) (target : String) : Prop :=
  ∃ entry ∈ receivers, entry.key = key ∧ target ∈ entry.targets

theorem isSome_find?_iff {key : MethodKey} :
    (receivers.find? key).isSome = true ↔ ∃ entry ∈ receivers, entry.key = key := by
  simp [find?, List.find?_isSome]

/-- Recording a target for a method adds just that pair. -/
theorem has_add {key other : MethodKey} {signature target text : String} {method : MethodDecl} :
    (receivers.add key signature method target).Has other text ↔
      receivers.Has other text ∨ (other = key ∧ text = target) := by
  unfold add
  split
  · next hfound =>
      -- The key is there: its entry gets the target, and every entry stays in its place.
      rcases isSome_find?_iff.1 hfound with ⟨found, hmem, hkey⟩
      constructor
      · rintro ⟨entry, hentry, hother, htext⟩
        rcases List.mem_map.1 hentry with ⟨old, hold, rfl⟩
        rw [Entry.key_withTarget] at hother
        rcases (old.mem_targets_withTarget key target).1 htext with htext | ⟨holdKey, htext⟩
        · exact Or.inl ⟨old, hold, hother, htext⟩
        · exact Or.inr ⟨hother.symm.trans holdKey, htext⟩
      · rintro (⟨entry, hentry, hother, htext⟩ | ⟨rfl, rfl⟩)
        · exact ⟨_, List.mem_map_of_mem hentry, by simp [hother, htext]⟩
        · exact ⟨_, List.mem_map_of_mem hmem, by simp [hkey]⟩
  · constructor
    · rintro ⟨entry, hentry, hother, htext⟩
      rcases List.mem_append.1 hentry with hentry | hentry
      · exact Or.inl ⟨entry, hentry, hother, htext⟩
      · rcases List.mem_singleton.1 hentry with rfl
        exact Or.inr ⟨hother.symm, by simpa using htext⟩
    · rintro (⟨entry, hentry, hother, htext⟩ | ⟨rfl, rfl⟩)
      · exact ⟨entry, List.mem_append_left _ hentry, hother, htext⟩
      · exact ⟨_, List.mem_append_right _ (List.mem_singleton_self _), rfl, by simp⟩

/-! ## Entries in step with a model -/

/-- One entry for each key, with targets without repetition; the method of an entry is the one of
its signature in the model, and counts as its key. -/
structure Sound (model : Model) (receivers : Receivers) : Prop where
  distinct : (receivers.map (·.key)).Nodup
  known : ∀ entry ∈ receivers,
    model.method? entry.signature = some entry.method ∧ entry.method.identity = .ok entry.key
  targets : ∀ entry ∈ receivers, entry.targets ≠ [] ∧ entry.targets.Nodup

namespace Sound

theorem nil (model : Model) : Sound model [] where
  distinct := by simp
  known := by simp
  targets := by simp

/-- Entries are in step with every model that knows the methods of this one. -/
theorem mono {other : Model} (h : Sound model receivers)
    (hmethods : ∀ signature method, model.method? signature = some method →
      other.method? signature = some method) : Sound other receivers where
  distinct := h.distinct
  known := fun entry hentry => ⟨hmethods _ _ (h.known entry hentry).1, (h.known entry hentry).2⟩
  targets := h.targets

/-- A further entry, of a key that none of the others has. -/
theorem append_singleton {entry : Entry} (h : Sound model receivers)
    (hnew : ∀ other ∈ receivers, other.key ≠ entry.key)
    (hknown : model.method? entry.signature = some entry.method ∧
      entry.method.identity = .ok entry.key)
    (htargets : entry.targets ≠ [] ∧ entry.targets.Nodup) : Sound model (receivers ++ [entry]) := by
  constructor
  case distinct =>
    rw [List.map_append, List.nodup_append]
    refine ⟨h.distinct, by simp, ?_⟩
    intro left hleft right hright heq
    rcases List.mem_map.1 hleft with ⟨other, hother, rfl⟩
    have hright : right = entry.key := by
      simpa using hright
    exact hnew other hother (heq.trans hright)
  case known =>
    intro other hother
    rcases List.mem_append.1 hother with hother | hother
    · exact h.known other hother
    · rcases List.mem_singleton.1 hother with rfl
      exact hknown
  case targets =>
    intro other hother
    rcases List.mem_append.1 hother with hother | hother
    · exact h.targets other hother
    · rcases List.mem_singleton.1 hother with rfl
      exact htargets

/-- Entries stay in step when a target is recorded for a method of the model. -/
theorem add {key : MethodKey} {signature : String} {method : MethodDecl}
    (h : Sound model receivers) (hmethod : model.method? signature = some method)
    (hkey : method.identity = .ok key) (target : String) :
    Sound model (receivers.add key signature method target) := by
  unfold Receivers.add
  split
  · constructor
    case distinct =>
      have hkeys : (fun entry : Entry => entry.key) ∘ Entry.withTarget key target = Entry.key :=
        funext fun entry => entry.key_withTarget key target
      rw [List.map_map, hkeys]
      exact h.distinct
    case known =>
      intro entry hentry
      rcases List.mem_map.1 hentry with ⟨old, hold, rfl⟩
      simpa using h.known old hold
    case targets =>
      intro entry hentry
      rcases List.mem_map.1 hentry with ⟨old, hold, rfl⟩
      -- An entry loses no targets, so it does not run empty.
      rcases List.exists_mem_of_ne_nil _ (h.targets old hold).1 with ⟨text, htext⟩
      refine ⟨?_, old.nodup_targets_withTarget key target (h.targets old hold).2⟩
      exact List.ne_nil_of_mem ((old.mem_targets_withTarget key target).2 (Or.inl htext))
  · next hnone =>
      have hnew : ∀ entry ∈ receivers, entry.key ≠ key := fun entry hentry heq =>
        hnone (isSome_find?_iff.2 ⟨entry, hentry, heq⟩)
      exact h.append_singleton hnew ⟨hmethod, hkey⟩ (by simp)

/-- Looking up a key finds the one entry that has it. -/
theorem find?_eq_some_iff (h : Sound model receivers) {key : MethodKey} {entry : Entry} :
    receivers.find? key = some entry ↔ entry ∈ receivers ∧ entry.key = key :=
  find?_key_eq_some_iff h.distinct

/-- The targets of a key are those of its entry, in ascending order. -/
theorem targets_key (h : Sound model receivers) {entry : Entry} (hentry : entry ∈ receivers) :
    receivers.targets entry.key = ascending entry.targets := by
  unfold Receivers.targets
  rw [h.find?_eq_some_iff.2 ⟨hentry, rfl⟩]

/-- The targets of a key are those that are recorded for it. -/
theorem mem_targets_iff (h : Sound model receivers) {key : MethodKey} {target : String} :
    target ∈ receivers.targets key ↔ receivers.Has key target := by
  unfold Receivers.targets
  cases hfind : receivers.find? key with
  | none =>
      have hnone : ¬ ∃ entry ∈ receivers, entry.key = key := by
        rw [← isSome_find?_iff, hfind]
        simp
      constructor
      · intro hmem
        simp at hmem
      · rintro ⟨entry, hentry, hkey, -⟩
        exact absurd ⟨entry, hentry, hkey⟩ hnone
  | some entry =>
      rcases h.find?_eq_some_iff.1 hfind with ⟨hentry, hkey⟩
      rw [mem_ascending]
      constructor
      · intro hmem
        exact ⟨entry, hentry, hkey, hmem⟩
      · rintro ⟨other, hother, hotherKey, hmem⟩
        have hsome := h.find?_eq_some_iff.2 ⟨hother, hotherKey⟩
        rw [hfind] at hsome
        exact Option.some.inj hsome ▸ hmem

end Sound
end Receivers

/-! ## Names -/

theorem Index.names_eq_ok_iff {index : Index} {operation : Operation} {container : MethodDecl}
    {names : List String} :
    index.names operation container = .ok names ↔
      ∃ key, container.identity = .ok key ∧ names = (index.recorded.get operation).targets key := by
  unfold Index.names
  cases container.identity <;> simp [bind, Except.bind, pure, Except.pure, eq_comm]

/-! ## Recording -/

/-- What is recorded for each operation is in step with the model. -/
structure Recorded.Sound (model : Model) (recorded : PerOperation Receivers) : Prop where
  receivers : ∀ operation, (recorded.get operation).Sound model
  /-- Targets that name a method are known. -/
  known : ∀ operation key target, operation.targetsMethod = true →
    (recorded.get operation).Has key target → model.containsMethod target = true

namespace Recorded.Sound

variable {model : Model} {recorded : PerOperation Receivers}

theorem nothing (model : Model) : Sound model (PerOperation.all []) where
  receivers := fun operation => by simpa using Receivers.Sound.nil model
  known := by simp [Receivers.Has]

/-- What is recorded is in step with every model that knows the methods of this one. -/
theorem mono {other : Model} (h : Sound model recorded)
    (hmethods : ∀ signature method, model.method? signature = some method →
      other.method? signature = some method) : Sound other recorded where
  receivers := fun operation => (h.receivers operation).mono hmethods
  known := fun operation key target htargets hhas => by
    rcases Option.isSome_iff_exists.1 (h.known operation key target htargets hhas) with
      ⟨method, hmethod⟩
    exact Option.isSome_iff_exists.2 ⟨method, hmethods _ _ hmethod⟩

/-- It stays in step while the model grows. -/
theorem extend {later : Model} (h : Sound model recorded) (hlater : later.Extends model) :
    Sound later recorded :=
  h.mono fun _ _ hmethod => hlater.method?_eq_some hmethod

end Recorded.Sound

namespace Builder

variable {model : Model} {method : MethodDecl} {key : MethodKey} {signature : String}

/-- Recording a target for a method that can be identified succeeds. -/
theorem run_record (hkey : method.identity = .ok key)
    (hsignature : method.signature = .ok signature) (operation : Operation) (target : String)
    (builder : Builder) :
    ((record operation target method).run builder).result = .ok () ∧
      ((record operation target method).run builder).state =
        { builder with
          recorded := builder.recorded.set operation
            ((builder.recorded.get operation).add key signature method target) } := by
  simp [record, hkey, hsignature]

/-- Recording a target for one method of the model: it succeeds, keeps what is recorded in step, and
adds just that pair. -/
theorem record_spec (hkey : method.identity = .ok key)
    (hsignature : method.signature = .ok signature)
    (hmethod : model.method? signature = some method) {operation : Operation} {target : String}
    (htarget : operation.targetsMethod = true → model.containsMethod target = true)
    {builder : Builder} (hsound : Recorded.Sound model builder.recorded) :
    let outcome := (record operation target method).run builder
    outcome.result = .ok () ∧ outcome.state.built = builder.built ∧
      Recorded.Sound model outcome.state.recorded ∧
      ∀ asked other text, (outcome.state.recorded.get asked).Has other text ↔
        (builder.recorded.get asked).Has other text ∨
          (asked = operation ∧ text = target ∧ other = key) := by
  intro outcome
  have hrun := run_record hkey hsignature operation target builder
  have hhas : ∀ asked other text, (outcome.state.recorded.get asked).Has other text ↔
      (builder.recorded.get asked).Has other text ∨
        (asked = operation ∧ text = target ∧ other = key) := by
    intro asked other text
    rw [hrun.2]
    by_cases hasked : asked = operation
    · subst hasked
      rw [PerOperation.get_set_self, Receivers.has_add]
      simp [and_comm]
    · rw [PerOperation.get_set_of_ne _ _ hasked]
      simp [hasked]
  refine ⟨hrun.1, by rw [hrun.2], ⟨?_, ?_⟩, hhas⟩
  · intro asked
    rw [hrun.2]
    by_cases hasked : asked = operation
    · subst hasked
      rw [PerOperation.get_set_self]
      exact (hsound.receivers asked).add hmethod hkey target
    · rw [PerOperation.get_set_of_ne _ _ hasked]
      exact hsound.receivers asked
  · intro asked other text htargets hmem
    rcases (hhas asked other text).1 hmem with hmem | ⟨rfl, rfl, -⟩
    · exact hsound.known asked other text htargets hmem
    · exact htarget htargets

/-- Recording a target for methods of the model, one after the other.  It gets as far as the first
that cannot be identified; it keeps what is recorded in step, and adds the target for each of the
methods before that one and nothing else. -/
theorem recordAll_upTo {methods : List MethodDecl}
    (hmethods : ∀ method ∈ methods, ∃ signature, method.signature = .ok signature ∧
      model.method? signature = some method)
    {operation : Operation} {target : String}
    (htarget : operation.targetsMethod = true → model.containsMethod target = true)
    {builder : Builder} (hsound : Recorded.Sound model builder.recorded) :
    let outcome := (recordAll operation target methods).run builder
    ∃ done rest, methods = done ++ rest ∧ (done = [] → outcome.state = builder) ∧
      (∀ method ∈ done, ∃ key, method.identity = .ok key) ∧
      (rest = [] ∧ outcome.result = .ok () ∨
        ∃ method later fault, rest = method :: later ∧ method.identity = .error fault ∧
          outcome.result = .error (.escaped (.shape fault))) ∧
      outcome.state.built = builder.built ∧ Recorded.Sound model outcome.state.recorded ∧
      ∀ asked other text, (outcome.state.recorded.get asked).Has other text ↔
        (builder.recorded.get asked).Has other text ∨
          (asked = operation ∧ text = target ∧ ∃ method ∈ done, method.identity = .ok other) := by
  induction methods generalizing builder with
  | nil =>
      refine ⟨[], [], rfl, fun _ => rfl, nofun, .inl ⟨rfl, rfl⟩, rfl, hsound, ?_⟩
      intro asked other text
      simp [recordAll]
  | cons method rest ih =>
      rcases hmethods method List.mem_cons_self with ⟨signature, hsignature, hmethod⟩
      intro outcome
      cases hkey : method.identity with
      | error fault =>
          -- Nothing has been recorded when the method fails to be identified.
          have hfirst : (record operation target method).run builder =
              ⟨.error (.escaped (.shape fault)), builder, []⟩ := by
            simp [record, hkey]
          have hrun := Action.run_bind_of_error (fun _ => recordAll operation target rest)
            (congrArg Outcome.result hfirst)
          have hresult : outcome.result = .error (.escaped (.shape fault)) := hrun.1
          have hstate : outcome.state = builder := hrun.2.trans (congrArg Outcome.state hfirst)
          rw [hstate]
          refine ⟨[], method :: rest, rfl, fun _ => rfl, nofun,
            .inr ⟨method, rest, fault, rfl, hkey, hresult⟩, rfl, hsound, ?_⟩
          intro asked other text
          simp
      | ok key =>
          have hfirst := record_spec hkey hsignature hmethod htarget hsound
          have hrun := Action.run_bind_of_ok (fun _ => recordAll operation target rest) hfirst.1
          have hresult : outcome.result = _ := hrun.1
          have hstate : outcome.state = _ := hrun.2
          rcases ih (fun other hother => hmethods other (List.mem_cons_of_mem _ hother))
            hfirst.2.2.1 with ⟨done, left, rfl, -, hdone, hending, hbuilt, hrecorded, hhas⟩
          rw [hresult, hstate]
          refine ⟨method :: done, left, rfl, nofun, ?_, hending, hbuilt.trans hfirst.2.1,
            hrecorded, ?_⟩
          · intro found hfound
            rcases List.mem_cons.1 hfound with rfl | hfound
            · exact ⟨key, hkey⟩
            · exact hdone found hfound
          intro asked other text
          -- What is recorded was there before, or came with the first method or with a later one.
          rw [hhas, hfirst.2.2.2]
          constructor
          · rintro ((hbefore | ⟨rfl, rfl, rfl⟩) | ⟨rfl, rfl, found, hfound, hother⟩)
            · exact Or.inl hbefore
            · exact Or.inr ⟨rfl, rfl, method, List.mem_cons_self, hkey⟩
            · exact Or.inr ⟨rfl, rfl, found, List.mem_cons_of_mem _ hfound, hother⟩
          · rintro (hbefore | ⟨rfl, rfl, found, hfound, hother⟩)
            · exact Or.inl (Or.inl hbefore)
            · rcases List.mem_cons.1 hfound with rfl | hfound
              · exact Or.inl (Or.inr ⟨rfl, rfl, Except.ok.inj (hother.symm.trans hkey)⟩)
              · exact Or.inr ⟨rfl, rfl, found, hfound, hother⟩

/-- Recording a target for methods of the model that can be identified: it succeeds, keeps what is
recorded in step, and adds the target for each of them and nothing else. -/
theorem recordAll_spec {methods : List MethodDecl}
    (hmethods : ∀ method ∈ methods, ∃ key signature, method.identity = .ok key ∧
      method.signature = .ok signature ∧ model.method? signature = some method)
    {operation : Operation} {target : String}
    (htarget : operation.targetsMethod = true → model.containsMethod target = true)
    {builder : Builder} (hsound : Recorded.Sound model builder.recorded) :
    let outcome := (recordAll operation target methods).run builder
    outcome.result = .ok () ∧ outcome.state.built = builder.built ∧
      Recorded.Sound model outcome.state.recorded ∧
      ∀ asked other text, (outcome.state.recorded.get asked).Has other text ↔
        (builder.recorded.get asked).Has other text ∨
          (asked = operation ∧ text = target ∧
            ∃ method ∈ methods, method.identity = .ok other) := by
  intro outcome
  have hsigned : ∀ method ∈ methods, ∃ signature, method.signature = .ok signature ∧
      model.method? signature = some method := by
    intro method hmethod
    rcases hmethods method hmethod with ⟨-, signature, -, hsignature, hfound⟩
    exact ⟨signature, hsignature, hfound⟩
  rcases recordAll_upTo hsigned htarget hsound with
    ⟨done, rest, rfl, -, -, ⟨rfl, hresult⟩ | ⟨method, later, fault, rfl, hfault, -⟩, hbooks⟩
  · simp only [outcome, List.append_nil] at hresult hbooks ⊢
    exact ⟨hresult, hbooks⟩
  · rcases hmethods method (by simp) with ⟨key, -, hkey, -⟩
    cases hfault.symm.trans hkey

end Builder
end ReflectiveCalls
