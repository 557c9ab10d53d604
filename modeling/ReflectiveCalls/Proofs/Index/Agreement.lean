import Mathlib.Data.List.Sort
import ReflectiveCalls.Proofs.Index.Exports

/-!
# Proofs.Index.Agreement — indexes that show the same

An index keeps its entries and their targets in the order in which they were recorded, but every
view of it is put in order first.  So two indexes over one model that have the same targets recorded
for the same methods cannot be told apart by looking at them.

- `Index.Agrees`: all views of two indexes are equal.
- `Index.agrees_of_has_iff`: indexes agree if they record the same as a relation.
-/

namespace ReflectiveCalls

/-! ## Ascending lists -/

instance : Std.Asymm Text.Before := ⟨fun _ _ h h' => Text.Before.irrefl _ (h.trans h')⟩

instance : Std.Asymm MethodDecl.Precedes where
  asymm := by
    rintro method other ⟨signature, otherSignature, h, hother, hbefore⟩
      ⟨otherAgain, again, hotherAgain, hagain, hafter⟩
    cases hagain.symm.trans h
    cases hotherAgain.symm.trans hother
    exact asymm hbefore hafter

theorem Receivers.Sound.pairwise_targets {model : Model} {receivers : Receivers}
    (h : Receivers.Sound model receivers) (key : MethodKey) :
    (receivers.targets key).Pairwise Text.Before := by
  unfold Receivers.targets
  cases hfind : receivers.find? key with
  | none => exact List.Pairwise.nil
  | some entry =>
      have hentry := (h.find?_eq_some_iff.1 hfind).1
      exact pairwise_before_ascending (h.targets entry hentry).2

namespace Index

/-- The two indexes show the same: the names for each operation and method, the methods of the call
sites, the counts and the rows. -/
structure Agrees (index other : Index) : Prop where
  names : ∀ operation container, index.names operation container = other.names operation container
  callSites : ∀ operation,
    (index.callSites operation).map (·.method) = (other.callSites operation).map (·.method)
  summary : index.summary = other.summary
  sections : index.sections = other.sections
  toJson : index.toJson = other.toJson

theorem Agrees.refl (index : Index) : index.Agrees index :=
  ⟨fun _ _ => rfl, fun _ => rfl, rfl, rfl, rfl⟩

section Views

variable {model : Model} {index other : Index}

/-- Where the same targets are recorded for a method, the same names are listed. -/
theorem names_congr (h : Recorded.Sound model index.recorded)
    (hother : Recorded.Sound model other.recorded) {operation : Operation}
    (hhas : ∀ key target, (index.recorded.get operation).Has key target ↔
      (other.recorded.get operation).Has key target) (container : MethodDecl) :
    index.names operation container = other.names operation container := by
  -- The lists ascend strictly, so their members settle them.
  have htargets : ∀ key, (index.recorded.get operation).targets key =
      (other.recorded.get operation).targets key := by
    intro key
    have hsound := h.receivers operation
    have hotherSound := hother.receivers operation
    refine (hsound.pairwise_targets key).eq_of_mem_iff (hotherSound.pairwise_targets key) ?_
    intro target
    rw [hsound.mem_targets_iff, hotherSound.mem_targets_iff, hhas]
  unfold names
  simp only [htargets]

/-- Where the same names are listed for every method, the rows are the same. -/
theorem rows_congr (hmodel : model.Coherent) (htextual : model.Textual)
    (h : Recorded.Sound model index.recorded) (hother : Recorded.Sound model other.recorded)
    {operation : Operation}
    (hnames : ∀ container, index.names operation container = other.names operation container) :
    index.rows operation = other.rows operation := by
  have hordered : (index.rows operation).Pairwise (Order.Preimage Prod.fst Text.Before) :=
    (pairwise_rows h operation).1
  have hotherOrdered : (other.rows operation).Pairwise (Order.Preimage Prod.fst Text.Before) :=
    (pairwise_rows hother operation).1
  -- What stands in a row is said by the names and the model, which the two indexes share.
  refine hordered.eq_of_mem_iff hotherOrdered ?_
  rintro ⟨signature, texts⟩
  rw [mem_rows_iff h hmodel htextual (.refl model) hmodel,
    mem_rows_iff hother hmodel htextual (.refl model) hmodel]
  simp only [hnames]

/-- Where the rows are the same, the call sites are of the same methods. -/
theorem methods_callSites_some_congr (h : Recorded.Sound model index.recorded)
    (hother : Recorded.Sound model other.recorded) {operation : Operation}
    (hrows : index.rows operation = other.rows operation) :
    (index.callSites (some operation)).map (·.method) =
      (other.callSites (some operation)).map (·.method) := by
  -- A row leads to its method through the model, so equal rows lead to equal methods.
  have hmethods := map_method?_rows h operation
  rw [hrows, map_method?_rows hother operation] at hmethods
  exact ((List.map_injective_iff.2 (Option.some_injective _)) hmethods).symm

/-- Where the call sites of each operation are of the same methods, so are those of all. -/
theorem methods_callSites_none_congr (hmodel : model.Coherent) (htextual : model.Textual)
    (h : Recorded.Sound model index.recorded) (hother : Recorded.Sound model other.recorded)
    (hsites : ∀ operation, (index.callSites (some operation)).map (·.method) =
      (other.callSites (some operation)).map (·.method)) :
    (index.callSites none).map (·.method) = (other.callSites none).map (·.method) := by
  refine (pairwise_methods_callSites_none h hmodel htextual).1.eq_of_mem_iff
    (pairwise_methods_callSites_none hother hmodel htextual).1 ?_
  intro method
  rw [mem_methods_callSites_none_iff h hmodel htextual,
    mem_methods_callSites_none_iff hother hmodel htextual]
  simp only [hsites]

/-- Indexes over one model of textual data agree if the same targets are recorded for the same
methods, in whatever order. -/
theorem agrees_of_has_iff (hmodel : model.Coherent) (htextual : model.Textual)
    (h : Recorded.Sound model index.recorded) (hother : Recorded.Sound model other.recorded)
    (hhas : ∀ operation key target, (index.recorded.get operation).Has key target ↔
      (other.recorded.get operation).Has key target) : index.Agrees other := by
  have hnames : ∀ operation container,
      index.names operation container = other.names operation container :=
    fun operation => names_congr h hother (hhas operation)
  have hrows : ∀ operation, index.rows operation = other.rows operation :=
    fun operation => rows_congr hmodel htextual h hother (hnames operation)
  have hsites : ∀ operation, (index.callSites (some operation)).map (·.method) =
      (other.callSites (some operation)).map (·.method) :=
    fun operation => methods_callSites_some_congr h hother (hrows operation)
  have hsections : index.sections = other.sections :=
    List.map_congr_left fun operation _ => congrArg (Prod.mk operation) (hrows operation)
  constructor
  case names => exact hnames
  case callSites =>
    intro operation
    cases operation with
    | none => exact methods_callSites_none_congr hmodel htextual h hother hsites
    | some operation => exact hsites operation
  case summary => rw [summary_eq h, summary_eq hother, hsections]
  case sections => exact hsections
  case toJson => rw [toJson, hsections, toJson]

end Views

end Index
end ReflectiveCalls
