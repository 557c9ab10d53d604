import ReflectiveCalls.Proofs.Index.Exactness

/-!
# Proofs.Index.Exports — the views of an index

An index keeps its entries by what counts as a method and shows them under signatures.  Methods that
count as different ones have different signatures, so nothing is lost on the way, and the views that
are computed apart from each other agree.

- `Receivers.Sound.nodup_signatures`: no two entries share a signature.
- `Index.rows_eq_map`: a row for each entry.
- `Index.sound_callSites`: call sites, of one operation or all, are entries in step with the model.
- `World.exports_agree_run`: sections, summary and call sites of an index say the same.
-/

namespace ReflectiveCalls

/-- The first method stands before the second in the order of signatures. -/
def MethodDecl.Precedes (method other : MethodDecl) : Prop :=
  ∃ signature otherSignature, method.signature = .ok signature ∧
    other.signature = .ok otherSignature ∧ Text.Before signature otherSignature

/-! ## Entries by signature -/

namespace Receivers

variable {receivers others : Receivers} {model : Model}

namespace Sound

/-- Entries of one signature are of one method, and of one key. -/
theorem eq_of_signature_eq (h : Sound model receivers) (hothers : Sound model others)
    {entry other : Entry} (hentry : entry ∈ receivers) (hother : other ∈ others)
    (heq : entry.signature = other.signature) :
    entry.method = other.method ∧ entry.key = other.key := by
  rcases h.known entry hentry with ⟨hmethod, hkey⟩
  rcases hothers.known other hother with ⟨hotherMethod, hotherKey⟩
  rw [heq, hotherMethod] at hmethod
  have hmethods : other.method = entry.method := Option.some.inj hmethod
  rw [hmethods, hkey] at hotherKey
  exact ⟨hmethods.symm, Except.ok.inj hotherKey⟩

/-- No two entries share a signature. -/
theorem nodup_signatures (h : Sound model receivers) : (receivers.map (·.signature)).Nodup := by
  refine List.pairwise_map.2 ((List.pairwise_map.1 h.distinct).imp_of_mem ?_)
  intro entry other hentry hother hne heq
  exact hne (h.eq_of_signature_eq h hentry hother heq).2

theorem perm (h : Sound model receivers) (hperm : others.Perm receivers) : Sound model others where
  distinct := (hperm.map _).nodup_iff.2 h.distinct
  known := fun entry hentry => h.known entry (hperm.subset hentry)
  targets := fun entry hentry => h.targets entry (hperm.subset hentry)

end Sound

theorem bySignature_perm (receivers : Receivers) : receivers.bySignature.Perm receivers :=
  List.mergeSort_perm _ _

/-- In the order of signatures, the signatures ascend strictly. -/
theorem Sound.pairwise_bySignature (h : Sound model receivers) :
    receivers.bySignature.Pairwise fun entry other => Text.Before entry.signature other.signature :=
  pairwise_before_mergeSort h.nodup_signatures

end Receivers

namespace Index

variable {model : Model} {index : Index}

/-! ## Merging entries -/

/-- An entry is dropped for one of its key, or else it comes last. -/
theorem mergeEntry_cases (done : List Entry) (entry : Entry) :
    ((∃ other ∈ done, other.key = entry.key) ∧ mergeEntry done entry = done) ∨
      ((∀ other ∈ done, other.key ≠ entry.key) ∧ mergeEntry done entry = done ++ [entry]) := by
  unfold mergeEntry
  by_cases hseen : ∃ other ∈ done, other.key = entry.key
  · left
    exact ⟨hseen, by simp [hseen]⟩
  · right
    have hnew : ∀ other ∈ done, other.key ≠ entry.key := fun other hother heq =>
      hseen ⟨other, hother, heq⟩
    exact ⟨hnew, by simpa using hnew⟩

/-- Merged entries are in step with the model. -/
theorem sound_mergeEntries {done entries : List Entry} (hdone : Receivers.Sound model done)
    (hknown : ∀ entry ∈ entries,
      model.method? entry.signature = some entry.method ∧ entry.method.identity = .ok entry.key)
    (htargets : ∀ entry ∈ entries, entry.targets ≠ [] ∧ entry.targets.Nodup) :
    Receivers.Sound model (mergeEntries done entries) := by
  induction entries generalizing done with
  | nil => exact hdone
  | cons entry rest ih =>
      have hmerge : Receivers.Sound model (mergeEntry done entry) := by
        rcases mergeEntry_cases done entry with ⟨-, heq⟩ | ⟨hnew, heq⟩
        · rw [heq]
          exact hdone
        · rw [heq]
          exact hdone.append_singleton hnew (hknown entry List.mem_cons_self)
            (htargets entry List.mem_cons_self)
      exact ih hmerge (fun other hother => hknown other (List.mem_cons_of_mem _ hother))
        (fun other hother => htargets other (List.mem_cons_of_mem _ hother))

/-- Merging makes up no entries. -/
theorem mem_of_mem_mergeEntries {done entries : List Entry} {entry : Entry}
    (h : entry ∈ mergeEntries done entries) : entry ∈ done ∨ entry ∈ entries := by
  induction entries generalizing done with
  | nil => exact Or.inl h
  | cons first rest ih =>
      rcases ih h with hentry | hentry
      · rcases mergeEntry_cases done first with ⟨-, heq⟩ | ⟨-, heq⟩
        · exact Or.inl (heq ▸ hentry)
        · rw [heq, List.mem_append, List.mem_singleton] at hentry
          rcases hentry with hentry | rfl
          · exact Or.inl hentry
          · exact Or.inr List.mem_cons_self
      · exact Or.inr (List.mem_cons_of_mem _ hentry)

/-- Merging keeps the entries that are done, and every key. -/
theorem exists_mem_mergeEntries {done entries : List Entry} :
    done ⊆ mergeEntries done entries ∧
      ∀ entry ∈ entries, ∃ kept ∈ mergeEntries done entries, kept.key = entry.key := by
  induction entries generalizing done with
  | nil => exact ⟨fun _ h => h, by simp⟩
  | cons first rest ih =>
      have hstep : done ⊆ mergeEntry done first ∧
          ∃ kept ∈ mergeEntry done first, kept.key = first.key := by
        rcases mergeEntry_cases done first with ⟨hseen, heq⟩ | ⟨-, heq⟩
        · rw [heq]
          exact ⟨fun _ h => h, hseen⟩
        · rw [heq]
          exact ⟨List.subset_append_left _ _, first, by simp, rfl⟩
      have hrest : mergeEntry done first ⊆ mergeEntries (mergeEntry done first) rest ∧ _ := ih
      refine ⟨fun entry hentry => hrest.1 (hstep.1 hentry), ?_⟩
      intro entry hentry
      rcases List.mem_cons.1 hentry with rfl | hentry
      · rcases hstep.2 with ⟨kept, hkept, hkey⟩
        exact ⟨kept, hrest.1 hkept, hkey⟩
      · exact hrest.2 entry hentry

/-- Entries of distinct keys are merged as they are. -/
theorem mergeEntries_of_nodup {done entries : List Entry}
    (distinct : ((done ++ entries).map (·.key)).Nodup) :
    mergeEntries done entries = done ++ entries := by
  induction entries generalizing done with
  | nil => exact (List.append_nil done).symm
  | cons entry rest ih =>
      -- The key of the entry is not among those that are done, so it is not dropped.
      have hnew : mergeEntry done entry = done ++ [entry] := by
        rcases mergeEntry_cases done entry with ⟨⟨other, hother, hkey⟩, -⟩ | ⟨-, heq⟩
        · rw [List.map_append, List.nodup_append] at distinct
          exact absurd hkey (distinct.2.2 _ (List.mem_map_of_mem hother) _ (by simp))
        · exact heq
      change mergeEntries (mergeEntry done entry) rest = _
      rw [hnew, ih (by simpa using distinct)]
      simp

/-! ## Call sites -/

/-- The call sites of one operation are its entries. -/
theorem callSites_some (h : Recorded.Sound model index.recorded) (operation : Operation) :
    index.callSites (some operation) = (index.recorded.get operation).bySignature := by
  have hmerge : mergeEntries [] (index.recorded.get operation) = index.recorded.get operation :=
    mergeEntries_of_nodup (h.receivers operation).distinct
  simp [callSites, hmerge]

theorem callSites_none :
    index.callSites none =
      Receivers.bySignature (mergeEntries [] (Operation.all.flatMap index.recorded.get)) := by
  simp only [callSites, mergeEntries, List.foldl_flatMap]

/-- The call sites of all operations are in step with the model. -/
theorem sound_callSites_none (h : Recorded.Sound model index.recorded) :
    Receivers.Sound model (index.callSites none) := by
  rw [callSites_none]
  refine Receivers.Sound.perm (sound_mergeEntries (.nil model) ?_ ?_)
    (Receivers.bySignature_perm _)
  · intro entry hentry
    rcases List.mem_flatMap.1 hentry with ⟨operation, -, hentry⟩
    exact (h.receivers operation).known entry hentry
  · intro entry hentry
    rcases List.mem_flatMap.1 hentry with ⟨operation, -, hentry⟩
    exact (h.receivers operation).targets entry hentry

/-- The call sites of all operations are call sites of some operation, and all of them. -/
theorem mem_methods_callSites_none_iff (h : Recorded.Sound model index.recorded)
    (hmodel : model.Coherent) (htextual : model.Textual) {method : MethodDecl} :
    method ∈ (index.callSites none).map (·.method) ↔
      ∃ operation, method ∈ (index.callSites (some operation)).map (·.method) := by
  have hsome : ∀ operation entry,
      entry ∈ index.callSites (some operation) ↔ entry ∈ index.recorded.get operation := by
    intro operation entry
    rw [callSites_some h]
    exact (Receivers.bySignature_perm _).mem_iff
  have hnone : ∀ entry, entry ∈ index.callSites none ↔
      entry ∈ mergeEntries [] (Operation.all.flatMap index.recorded.get) := by
    intro entry
    rw [callSites_none]
    exact (Receivers.bySignature_perm _).mem_iff
  constructor
  · intro hmethod
    rcases List.mem_map.1 hmethod with ⟨entry, hentry, rfl⟩
    rcases mem_of_mem_mergeEntries ((hnone entry).1 hentry) with hmem | hmem
    · exact absurd hmem List.not_mem_nil
    · rcases List.mem_flatMap.1 hmem with ⟨operation, -, hmem⟩
      exact ⟨operation, List.mem_map_of_mem ((hsome operation entry).2 hmem)⟩
  · rintro ⟨operation, hmethod⟩
    rcases List.mem_map.1 hmethod with ⟨entry, hentry, rfl⟩
    have hmem : entry ∈ Operation.all.flatMap index.recorded.get :=
      List.mem_flatMap.2 ⟨operation, Operation.mem_all operation, (hsome operation entry).1 hentry⟩
    rcases exists_mem_mergeEntries.2 entry hmem with ⟨kept, hkept, hkey⟩
    have hkeptSite := (hnone kept).2 hkept
    -- The entry that was kept may be of another operation, but it is of the same method.
    rcases (h.receivers operation).known entry ((hsome operation entry).1 hentry) with
      ⟨hentryMethod, hentryKey⟩
    rcases (sound_callSites_none h).known kept hkeptSite with ⟨hkeptMethod, hkeptKey⟩
    have hsignature := hmodel.signature_eq_of_identity htextual hkeptMethod hkeptKey hentryMethod
      (hkey ▸ hentryKey)
    rw [hsignature, hentryMethod] at hkeptMethod
    exact List.mem_map.2 ⟨kept, hkeptSite, (Option.some.inj hkeptMethod).symm⟩

/-- The call sites of all operations ascend strictly in their signatures, and no two of them count
as the same method. -/
theorem pairwise_methods_callSites_none (h : Recorded.Sound model index.recorded)
    (hmodel : model.Coherent) (htextual : model.Textual) :
    ((index.callSites none).map (·.method)).Pairwise MethodDecl.Precedes ∧
      ((index.callSites none).map (·.method)).Pairwise
        fun method other => method.same other = false := by
  have hsound := sound_callSites_none h
  have hordered : (index.callSites none).Pairwise
      fun entry other => Text.Before entry.signature other.signature := by
    rw [callSites_none] at hsound ⊢
    exact (hsound.perm (Receivers.bySignature_perm _).symm).pairwise_bySignature
  have hsignature : ∀ entry ∈ index.callSites none,
      entry.method.signature = .ok entry.signature := fun entry hentry =>
    (hmodel.textual_of_method? htextual (hsound.known entry hentry).1).2
  refine ⟨List.pairwise_map.2 (hordered.imp_of_mem ?_), List.pairwise_map.2
    ((List.pairwise_map.1 hsound.distinct).imp_of_mem ?_)⟩
  · intro entry other hentry hother hlt
    exact ⟨entry.signature, other.signature, hsignature entry hentry, hsignature other hother, hlt⟩
  · intro entry other hentry hother hne
    rw [Bool.eq_false_iff]
    intro hsame
    have hkey := (MethodDecl.same_iff (hsound.known entry hentry).2 _).1 hsame
    rw [(hsound.known other hother).2] at hkey
    exact hne (Except.ok.inj hkey).symm

/-! ## Rows -/

/-- Putting targets into rows of distinct signatures gives rows of distinct signatures. -/
theorem nodup_setRow {rows : List (String × List String)} (h : (rows.map (·.1)).Nodup)
    (signature : String) (targets : List String) :
    ((setRow rows signature targets).map (·.1)).Nodup := by
  unfold setRow
  split
  · -- A row that is replaced has the same signature.
    have hsame : (rows.map fun row => if row.1 == signature then (signature, targets) else row).map
        (·.1) = rows.map (·.1) := by
      rw [List.map_map]
      refine List.map_congr_left fun row _ => ?_
      by_cases hrow : row.1 = signature
      · simp [hrow]
      · simp [hrow]
    rw [hsame]
    exact h
  · next hnew =>
      rw [List.map_append, List.nodup_append]
      refine ⟨h, by simp, ?_⟩
      rintro name hname other hother rfl
      rcases List.mem_map.1 hname with ⟨row, hrow, rfl⟩
      rw [List.map_singleton, List.mem_singleton] at hother
      exact hnew (List.any_eq_true.2 ⟨row, hrow, beq_iff_eq.2 hother⟩)

/-- No signature has two rows. -/
theorem nodup_rows (index : Index) (operation : Operation) :
    ((index.rows operation).map (·.1)).Nodup := by
  unfold rows
  generalize hstart : ([] : List (String × List String)) = start
  have hnodup : (start.map (·.1)).Nodup := by
    rw [← hstart]
    exact List.nodup_nil
  clear hstart
  induction (index.recorded.get operation).bySignature generalizing start with
  | nil => exact hnodup
  | cons entry rest ih => exact ih _ (nodup_setRow hnodup _ _)

/-- Targets are put into rows at the end as long as no signature comes twice. -/
theorem foldl_setRow {rows : List (String × List String)} {entries : List Entry}
    (distinct : (rows.map (·.1) ++ entries.map (·.signature)).Nodup) :
    entries.foldl (fun rows entry => setRow rows entry.signature (ascending entry.targets)) rows =
      rows ++ entries.map fun entry => (entry.signature, ascending entry.targets) := by
  induction entries generalizing rows with
  | nil => simp
  | cons entry rest ih =>
      -- No row is overwritten, since none has the signature yet.
      have hnew : ∀ row ∈ rows, row.1 ≠ entry.signature := fun row hrow =>
        (List.nodup_append.1 distinct).2.2 _ (List.mem_map_of_mem hrow) _ (by simp)
      have hstep : setRow rows entry.signature (ascending entry.targets) =
          rows ++ [(entry.signature, ascending entry.targets)] := by
        have hfree : rows.any (·.1 == entry.signature) = false := by
          rw [List.any_eq_false]
          intro row hrow
          simpa using hnew row hrow
        simp [setRow, hfree]
      rw [List.foldl_cons, hstep, ih (by simpa using distinct)]
      simp

/-- There is a row for each entry, in the order of signatures. -/
theorem rows_eq_map (h : Recorded.Sound model index.recorded) (operation : Operation) :
    index.rows operation = (index.recorded.get operation).bySignature.map
      fun entry => (entry.signature, ascending entry.targets) := by
  have hsound := (h.receivers operation).perm (Receivers.bySignature_perm _)
  exact foldl_setRow hsound.nodup_signatures

/-- The signatures of rows ascend strictly, and so do the targets of each. -/
theorem pairwise_rows (h : Recorded.Sound model index.recorded) (operation : Operation) :
    (index.rows operation).Pairwise (fun row other => Text.Before row.1 other.1) ∧
      ∀ row ∈ index.rows operation, row.2.Pairwise Text.Before := by
  have hsound := h.receivers operation
  rw [rows_eq_map h]
  refine ⟨List.pairwise_map.2 hsound.pairwise_bySignature, ?_⟩
  intro row hrow
  rcases List.mem_map.1 hrow with ⟨entry, hentry, rfl⟩
  exact pairwise_before_ascending
    (hsound.targets entry ((Receivers.bySignature_perm _).subset hentry)).2

/-- The rows count as the summary says. -/
theorem summary_eq (h : Recorded.Sound model index.recorded) :
    index.summary = index.sections.map fun (operation, rows) =>
      (operation, rows.length, (rows.map (·.2.length)).foldr (· + ·) 0) := by
  unfold summary sections
  rw [List.map_map]
  refine List.map_congr_left fun operation _ => ?_
  have hperm := Receivers.bySignature_perm (index.recorded.get operation)
  have hlength : (index.rows operation).length = (index.recorded.get operation).length := by
    rw [rows_eq_map h, List.length_map, hperm.length_eq]
  have hcount : ((index.rows operation).map (·.2.length)).foldr (· + ·) 0 =
      (index.recorded.get operation).targetCount := by
    have hsum := (hperm.map fun entry => entry.targets.length).foldr_eq'
      (fun first _ second _ count => Nat.add_left_comm second first count) 0
    simpa [rows_eq_map h, Receivers.targetCount, Function.comp_def] using hsum
  simp [hlength, hcount]

/-- The methods of rows are the call sites of the operation. -/
theorem map_method?_rows {later : Model} (h : Recorded.Sound later index.recorded)
    (operation : Operation) :
    (index.rows operation).map (fun row => later.method? row.1) =
      ((index.callSites (some operation)).map (·.method)).map some := by
  rw [rows_eq_map h, callSites_some h, List.map_map, List.map_map]
  refine List.map_congr_left fun entry hentry => ?_
  exact ((h.receivers operation).known entry ((Receivers.bySignature_perm _).subset hentry)).1

/-- The row of a signature comes from an entry of the signature. -/
theorem mem_rows_iff_exists_entry (h : Recorded.Sound model index.recorded) {operation : Operation}
    {row : String × List String} :
    row ∈ index.rows operation ↔ ∃ entry ∈ index.recorded.get operation,
      row = (entry.signature, ascending entry.targets) := by
  rw [rows_eq_map h, List.mem_map]
  constructor
  · rintro ⟨entry, hentry, rfl⟩
    exact ⟨entry, (Receivers.bySignature_perm _).mem_iff.1 hentry, rfl⟩
  · rintro ⟨entry, hentry, rfl⟩
    exact ⟨entry, (Receivers.bySignature_perm _).mem_iff.2 hentry, rfl⟩

/-- A signature has a row exactly if the model has a method under it for which targets are recorded,
and the row gives those targets. -/
theorem mem_rows_iff {later : Model} (h : Recorded.Sound model index.recorded)
    (hmodel : model.Coherent) (htextual : model.Textual) (hextends : later.Extends model)
    (hlater : later.Coherent) {operation : Operation} {signature : String} {texts : List String} :
    (signature, texts) ∈ index.rows operation ↔
      ∃ method, later.method? signature = some method ∧
        index.names operation method = .ok texts ∧ texts ≠ [] := by
  have hsound := h.receivers operation
  rw [mem_rows_iff_exists_entry h]
  constructor
  · rintro ⟨entry, hentry, hrow⟩
    rcases Prod.mk.inj hrow with ⟨rfl, rfl⟩
    rcases hsound.known entry hentry with ⟨hmethod, hkey⟩
    refine ⟨entry.method, hextends.method?_eq_some hmethod,
      names_eq_ok_iff.2 ⟨entry.key, hkey, (hsound.targets_key hentry).symm⟩, ?_⟩
    intro hnil
    have hlength := congrArg List.length hnil
    rw [length_ascending] at hlength
    exact (hsound.targets entry hentry).1 (List.length_eq_zero_iff.1 hlength)
  · rintro ⟨method, hmethod, hnames, hne⟩
    rcases names_eq_ok_iff.1 hnames with ⟨key, hkey, rfl⟩
    rcases List.exists_mem_of_ne_nil _ hne with ⟨target, htarget⟩
    rcases hsound.mem_targets_iff.1 htarget with ⟨entry, hentry, rfl, -⟩
    rcases hsound.known entry hentry with ⟨hentryMethod, hentryKey⟩
    -- The method counts as that of the entry, whose data are textual, so their signatures agree.
    rcases hmodel.textual_of_method? htextual hentryMethod with ⟨hentryTextual, hentrySignature⟩
    have hsignature := hentryTextual.signature_eq hentryKey hkey
    rw [hentrySignature, (hlater.method?_eq_some_iff.1 hmethod).2] at hsignature
    exact ⟨entry, hentry, Prod.ext (Except.ok.inj hsignature) (hsound.targets_key hentry)⟩

end Index

/-! ## Agreement of the views -/

/-- The views of an index agree, whatever happens to the model after it is built.  There is a
section for each operation, its rows are precisely the methods for which names are recorded, with
those names, and everything ascends strictly; the summary counts the rows and their names; the call
sites of an operation are the methods of its rows, in their order; and the call sites of all
operations ascend strictly in their signatures and are those of the single operations, each once. -/
theorem World.exports_agree_run {classes : List ClassDecl} {classPath : Option Path}
    {model : Model} (built : Model.ofClasses classes classPath = .ok model) (tree : Tree)
    (moves : List Move) {index : Index}
    (hindex : ((start tree model).run moves).building.result = .ok index)
    (textual : ((start tree model).run moves).model.Textual) (later : List Move) :
    let known := ((start tree model).run (moves ++ .build :: later)).model
    let sites := fun operation => (index.callSites operation).map (·.method)
    index.sections.map (·.1) = Operation.all ∧
      (∀ operation rows, (operation, rows) ∈ index.sections →
        (∀ signature texts, (signature, texts) ∈ rows ↔
          ∃ method, known.method? signature = some method ∧
            index.names operation method = .ok texts ∧ texts ≠ []) ∧
          rows.Pairwise (fun row other => Text.Before row.1 other.1) ∧
          (∀ row ∈ rows, row.2.Pairwise Text.Before) ∧
          rows.map (fun row => known.method? row.1) = (sites (some operation)).map some) ∧
      index.summary = index.sections.map (fun (operation, rows) =>
        (operation, rows.length, (rows.map (·.2.length)).foldr (· + ·) 0)) ∧
      (sites none).Pairwise MethodDecl.Precedes ∧
      (sites none).Pairwise (fun method other => method.same other = false) ∧
      ∀ method, method ∈ sites none ↔ ∃ operation, method ∈ sites (some operation) := by
  intro known sites
  rcases accounts_building built tree moves hindex textual with ⟨haccounts, hrecorded⟩
  have hmodel := Model.coherent_ofClasses built
  have hextends : known.Extends ((start tree model).run moves).model :=
    (start tree model).extends_run_append hmodel moves (.build :: later)
  have hknown : known.Coherent := (grows_run (start tree model) _).coherent hmodel
  have hsound := haccounts.sound
  rw [← hrecorded] at hsound
  have hordered := Index.pairwise_methods_callSites_none hsound haccounts.coherent textual
  refine ⟨rfl, ?_, Index.summary_eq hsound, hordered.1, hordered.2, ?_⟩
  · intro operation rows hrows
    rcases List.mem_map.1 hrows with ⟨operation, -, heq⟩
    rcases Prod.mk.inj heq with ⟨rfl, rfl⟩
    have hpairwise := Index.pairwise_rows hsound operation
    refine ⟨?_, hpairwise.1, hpairwise.2, Index.map_method?_rows (hsound.extend hextends) operation⟩
    intro signature texts
    exact Index.mem_rows_iff hsound haccounts.coherent textual hextends hknown
  · intro method
    exact Index.mem_methods_callSites_none_iff hsound haccounts.coherent textual

theorem World.exports_agree_run_sample :
    ((start Sample.tree Sample.model).run Sample.moves).building.result = .ok Sample.index ∧
      ((start Sample.tree Sample.model).run Sample.moves).model.Textual ∧
      Sample.index.summary = Sample.index.sections.map (fun (operation, rows) =>
        (operation, rows.length, (rows.map (·.2.length)).foldr (· + ·) 0)) :=
  ⟨Sample.building_run, Sample.textual_run, (exports_agree_run Sample.model_built Sample.tree
    Sample.moves Sample.building_run Sample.textual_run []).2.2.1⟩

end ReflectiveCalls
