import ReflectiveCalls.Proofs.Index.Acceptance
import ReflectiveCalls.Proofs.Trace.Reading

/-!
# Proofs.Index.Escapes — failures that nothing reports

Loading a program model and the index of a trace over it is meant to end with an index or with a
report.  There are gaps, where a fault of the files ends the loading as it is; here they are listed,
each with what has to be in the files for it, and it is shown that there are no others.

- `Index.load`: a model from a file, and the index of a trace over it.
- `Index.Overlooked`: what has to be in the files for a failure to escape.
- `Index.load_cases`: an index, a report, or a failure that escapes through one of the gaps.
- `Index.load_may_escape`: there are such gaps.
-/

namespace ReflectiveCalls

open Octets (Utf8.readable)

/-- A class that cannot be registered or recorded: its name or one of its methods cannot identify
anything, or there is no signature for one of its methods. -/
def ClassDecl.Unfit (decl : ClassDecl) (fault : ShapeFault) : Prop :=
  decl.name.identity = .error fault ∨
    ∃ method ∈ decl.methods, method.signature = .error fault ∨ method.identity = .error fault

namespace Index

/-- A model from a file, and the index of a trace in UTF-8 over it. -/
def load (tree : Tree) (program : Path) (classPath : Option Path) (trace : Path) :
    Except Failure Index :=
  ((Model.load tree program classPath).run ()).result.bind fun model =>
    ((ofTrace tree trace Octets.Encoding.defaultName).run model).result

section Files

variable (tree : Tree) (program : Path) (classPath : Option Path) (trace : Path)
  (records : List Record)

/-- The files of class data are that of the program model and the class files of the records. -/
inductive ClassFile : Path → Prop
  | program : ClassFile program
  | ofRecord {record : Record} {path : Path} (hrecord : record ∈ records)
      (hpath : (Model.empty classPath).classFile? record.sourceClass = .ok (some path)) :
      ClassFile path

/-- The class is described in one of the files. -/
inductive Described (decl : ClassDecl) : Prop
  | listed {classes : List ClassDecl} (hread : Model.readClasses tree program = .ok classes)
      (hdecl : decl ∈ classes)
  | alone {record : Record} {path : Path} (hrecord : record ∈ records)
      (hpath : (Model.empty classPath).classFile? record.sourceClass = .ok (some path))
      (hread : Model.readClass tree path = .ok decl)

/-- What has to be in the files for a failure to escape. -/
inductive Overlooked : Escape → Prop
  /-- In the data of classes, members are looked up in something that is no object. -/
  | noObject {path : Path} {value : Json} {found : Json.Kind}
      (hfile : ClassFile program classPath records path)
      (hvalue : Model.readValue tree path = .ok value)
      (hfault : Model.classesOf value = .error (.noLookUp found) ∨
        ClassDecl.ofJson value = .error (.noLookUp found)) :
      Overlooked (.shape (.noLookUp found))
  | unfit {decl : ClassDecl} {fault : ShapeFault}
      (hdecl : Described tree program classPath records decl) (hfault : decl.Unfit fault) :
      Overlooked (.shape fault)
  | nestedTooDeep {path : Path} {octets : List UInt8} {text : List Char}
      (hfile : ClassFile program classPath records path) (hoctets : tree.readFile path = .ok octets)
      (htext : Octets.Utf8.decodeAll octets = .ok text)
      (hvalue : Json.readWithin tree.runtime.nesting (Text.unifyLineEnds text) = .error .tooDeep) :
      Overlooked .nestedTooDeep
  | nameTooLong {path : Path} (hfile : ClassFile program classPath records path)
      (hlocate : tree.locate path = .error .nameTooLong) : Overlooked (.file path .nameTooLong)
  /-- The name of a class leads to no component at all. -/
  | noFileName {record : Record} {path : Path} (hrecord : record ∈ records)
      (hpath : (Model.empty classPath).classFile? record.sourceClass =
        .error (.escaped (.noFileName path))) : Overlooked (.noFileName path)
  | nulInPath (hopen : tree.openFile trace = .error .nul) : Overlooked (.file trace .nul)
  | tooManyDigits {file lineNo count : Nat} {line : List Char}
      (hopen : tree.openFile trace = .ok file)
      (hline : line ∈ Text.lines (Utf8.readable (tree.octets file)))
      (hfault : Record.ofLine lineNo line = .error (.tooManyDigits count)) :
      Overlooked (.tooManyDigits count)

end Files

variable {tree : Tree} {program path trace : Path} {classPath : Option Path}
  {records : List Record} {cause : Escape}

/-! ## Class data -/

section ClassData

theorem locate_of_exists?_error {fault : Files.Fault} (h : tree.exists? path = .error fault) :
    fault = .nameTooLong ∧ tree.locate path = .error .nameTooLong := by
  unfold Tree.exists? at h
  split at h <;> cases h
  exact ⟨rfl, by assumption⟩

theorem locate_of_isFile_error {fault : Files.Fault} (h : tree.isFile path = .error fault) :
    fault = .nameTooLong ∧ tree.locate path = .error .nameTooLong := by
  unfold Tree.isFile at h
  split at h <;> cases h
  exact ⟨rfl, by assumption⟩

theorem overlooked_of_readValue (hfile : ClassFile program classPath records path)
    (h : Model.readValue tree path = .error (.escaped cause)) :
    Overlooked tree program classPath trace records cause := by
  unfold Model.readValue at h
  dsimp only at h
  split at h
  · next fault hexists =>
      cases h
      obtain ⟨rfl, hlocate⟩ := locate_of_exists?_error hexists
      exact .nameTooLong hfile hlocate
  · cases h
  · split at h
    · cases h
    · next octets hoctets =>
        split at h
        · cases h
        · next text htext =>
            split at h
            · next hdeep =>
                cases h
                exact .nestedTooDeep hfile hoctets htext hdeep
            · cases h
            · cases h

/-- Of the faults of shape in a file, only a failed look-up escapes. -/
theorem eq_of_toFailure {fault : ShapeFault} (h : fault.toFailure path = .escaped cause) :
    ∃ found, fault = .noLookUp found ∧ cause = .shape (.noLookUp found) := by
  cases fault with
  | noLookUp found =>
      cases h
      exact ⟨found, rfl, rfl⟩
  | _ => cases h

theorem overlooked_of_readClass (hfile : ClassFile program classPath records path)
    (h : Model.readClass tree path = .error (.escaped cause)) :
    Overlooked tree program classPath trace records cause := by
  unfold Model.readClass at h
  cases hvalue : Model.readValue tree path with
  | error failure =>
      simp only [hvalue, Except.error.injEq] at h
      exact overlooked_of_readValue hfile (h ▸ hvalue)
  | ok value =>
      simp only [hvalue] at h
      cases hdecl : ClassDecl.ofJson value with
      | ok decl => simp [hdecl, Except.mapError] at h
      | error fault =>
          rw [hdecl] at h
          obtain ⟨found, rfl, rfl⟩ := eq_of_toFailure (Except.error.inj h)
          exact .noObject hfile hvalue (.inr hdecl)

theorem overlooked_of_readNamed {name : String} (hfile : ClassFile program classPath records path)
    (h : Model.readNamed tree path name = .error (.escaped cause)) :
    Overlooked tree program classPath trace records cause := by
  unfold Model.readNamed at h
  cases hclass : Model.readClass tree path with
  | error failure =>
      simp only [hclass, Except.error.injEq] at h
      exact overlooked_of_readClass hfile (h ▸ hclass)
  | ok decl =>
      simp only [hclass] at h
      split at h <;> cases h

theorem overlooked_of_readClasses (h : Model.readClasses tree program = .error (.escaped cause)) :
    Overlooked tree program classPath trace records cause := by
  unfold Model.readClasses at h
  cases hvalue : Model.readValue tree program with
  | error failure =>
      simp only [hvalue, Except.error.injEq] at h
      exact overlooked_of_readValue .program (h ▸ hvalue)
  | ok value =>
      simp only [hvalue] at h
      cases hclasses : Model.classesOf value with
      | ok classes => simp [hclasses, Except.mapError] at h
      | error fault =>
          rw [hclasses] at h
          obtain ⟨found, rfl, rfl⟩ := eq_of_toFailure (Except.error.inj h)
          exact .noObject .program hvalue (.inl hclasses)

end ClassData

/-! ## Registering and loading -/

/-- Signing methods fails with a failure that escapes only at a method without a signature. -/
theorem exists_unsigned_of_signMethods {taken : List (String × MethodDecl)}
    {methods : List MethodDecl} (h : Model.signMethods taken methods = .error (.escaped cause)) :
    ∃ fault, cause = .shape fault ∧ ∃ method ∈ methods, method.signature = .error fault := by
  induction methods generalizing taken with
  | nil => cases h
  | cons method rest ih =>
      unfold Model.signMethods at h
      split at h
      · next fault hfault =>
          cases h
          exact ⟨fault, rfl, method, List.mem_cons_self, hfault⟩
      · split at h
        · cases h
        · obtain ⟨fault, hcause, other, hother, hfault⟩ := ih h
          exact ⟨fault, hcause, other, List.mem_cons_of_mem _ hother, hfault⟩

theorem unfit_of_register {model : Model} {decl : ClassDecl}
    (h : model.register decl = .error (.escaped cause)) :
    ∃ fault, cause = .shape fault ∧ decl.Unfit fault := by
  rcases Model.register_eq_error_iff.1 h with
    ⟨fault, hfault, hcause⟩ | ⟨_, -, ⟨-, hreported⟩ | ⟨-, hsign⟩⟩
  · cases hcause
    exact ⟨fault, rfl, .inl hfault⟩
  · cases hreported
  · obtain ⟨fault, hcause, method, hmethod, hfault⟩ := exists_unsigned_of_signMethods hsign
    exact ⟨fault, hcause, .inr ⟨method, hmethod, .inl hfault⟩⟩

theorem unfit_of_registerAll {model : Model} {classes : List ClassDecl}
    (h : model.registerAll classes = .error (.escaped cause)) :
    ∃ decl ∈ classes, ∃ fault, cause = .shape fault ∧ decl.Unfit fault := by
  induction classes generalizing model with
  | nil => cases h
  | cons decl rest ih =>
      unfold Model.registerAll at h
      cases hregister : model.register decl with
      | error failure =>
          simp only [hregister, Except.error.injEq] at h
          exact ⟨decl, List.mem_cons_self, unfit_of_register (h ▸ hregister)⟩
      | ok middle =>
          simp only [hregister] at h
          obtain ⟨other, hother, hfault⟩ := ih h
          exact ⟨other, List.mem_cons_of_mem _ hother, hfault⟩

theorem overlooked_of_loadModel
    (h : ((Model.load tree program classPath).run ()).result = .error (.escaped cause)) :
    Overlooked tree program classPath trace records cause := by
  rw [Model.result_load] at h
  cases hread : Model.readClasses tree program with
  | error failure =>
      rw [hread] at h
      cases h
      exact overlooked_of_readClasses hread
  | ok classes =>
      rw [hread] at h
      obtain ⟨decl, hdecl, fault, rfl, hunfit⟩ := unfit_of_registerAll h
      exact .unfit (.listed hread hdecl) hunfit

section OnModel

variable {model : Model} {record : Record} (hpath : model.classPath = classPath)

include hpath

theorem classFile?_eq_empty (name : String) :
    model.classFile? name = (Model.empty classPath).classFile? name :=
  Model.classFile?_congr hpath name

theorem overlooked_of_probeClass (hrecord : record ∈ records)
    (h : model.probeClass tree record.sourceClass = .error (.escaped cause)) :
    Overlooked tree program classPath trace records cause := by
  unfold Model.probeClass at h
  rw [classFile?_eq_empty hpath] at h
  split at h
  · next failure hfailure =>
      cases h
      have hname := hfailure
      unfold Model.classFile? at hname
      dsimp only at hname
      split at hname
      · cases hname
      · split at hname
        · cases hname
        · cases hname
          exact .noFileName hrecord hfailure
  · cases h
  · next path hfile =>
      split at h
      · next fault hfault =>
          cases h
          obtain ⟨rfl, hlocate⟩ := locate_of_isFile_error hfault
          exact .nameTooLong (.ofRecord hrecord hfile) hlocate
      · cases h

/-- A search for a class ends with a failure that escapes only through a gap. -/
theorem overlooked_of_loadClass (hrecord : record ∈ records)
    (h : ((Model.loadClass tree record.sourceClass).run model).result = .error (.escaped cause)) :
    Overlooked tree program classPath trace records cause := by
  rcases Model.loadClass_cases tree record.sourceClass model with
    ⟨-, found, hresult, -⟩ | ⟨-, failure, hresult, hfailure⟩ | ⟨-, hresult, -⟩
  · cases hresult.symm.trans h
  · cases hresult.symm.trans h
    rcases hfailure with hprobe | ⟨path, hfile, hread | ⟨decl, hread, hregister⟩⟩
    · exact overlooked_of_probeClass hpath hrecord hprobe
    · rw [classFile?_eq_empty hpath] at hfile
      exact overlooked_of_readNamed (.ofRecord hrecord hfile) hread
    · rw [classFile?_eq_empty hpath] at hfile
      obtain ⟨fault, rfl, hunfit⟩ := unfit_of_register hregister
      exact .unfit (.alone hrecord hfile (Model.readNamed_eq_ok_iff.1 hread).1) hunfit
  · cases hresult.symm.trans h

/-- So does the search for the class of a call site. -/
theorem overlooked_of_sourceClass (hrecord : record ∈ records)
    (h : ((Model.sourceClass tree record.sourceClass).run model).result = .error (.escaped cause)) :
    Overlooked tree program classPath trace records cause := by
  have hregistered : ∀ before : Model,
      ((Model.registeredClass record.sourceClass).run before).result ≠ .error (.escaped cause) := by
    intro before hresult
    rw [Model.run_registeredClass] at hresult
    cases hclass : before.class? record.sourceClass <;> simp [hclass] at hresult
  rw [Model.sourceClass, Action.run_state_bind] at h
  split at h
  · exact absurd h (hregistered model)
  · rcases Action.cases_of_bind_error h with hload | ⟨_, -, hlast⟩
    · exact overlooked_of_loadClass hpath hrecord hload
    · exact absurd hlast (hregistered _)

end OnModel

/-! ## Adding records -/

/-- Methods that are known by their signatures are found without a failure that escapes. -/
theorem not_escaped_of_methodsMeant {model known : Model} (hcoherent : model.Coherent)
    {decl : ClassDecl} (hdecl : decl ∈ model.classes) (className methodName : String) (line : Int) :
    ((Model.methodsMeant decl className methodName line).run known).result ≠
      .error (.escaped cause) := by
  intro h
  obtain ⟨-, ⟨-, hresult⟩ | ⟨-, hresult⟩ | ⟨method, hmethod, fault, hfault, -⟩⟩ :=
    Model.methodsMeant_cases decl className methodName line known
  · cases hresult.symm.trans h
  · cases hresult.symm.trans h
  · obtain ⟨signature, hsignature, -⟩ := hcoherent.exists_signature hdecl hmethod
    cases hfault.symm.trans hsignature

theorem unfit_of_record {operation : Operation} {target : String} {method : MethodDecl}
    {builder : Builder}
    (h : ((Builder.record operation target method).run builder).result =
      .error (.escaped cause)) :
    ∃ fault, cause = .shape fault ∧
      (method.signature = .error fault ∨ method.identity = .error fault) := by
  unfold Builder.record at h
  cases hkey : method.identity with
  | error fault =>
      rw [hkey] at h
      cases h
      exact ⟨fault, rfl, .inr rfl⟩
  | ok key =>
      cases hsignature : method.signature with
      | error fault =>
          rw [hkey, hsignature] at h
          cases h
          exact ⟨fault, rfl, .inl rfl⟩
      | ok signature =>
          rw [hkey, hsignature] at h
          cases h

theorem unfit_of_recordAll {operation : Operation} {target : String} {methods : List MethodDecl}
    {builder : Builder}
    (h : ((Builder.recordAll operation target methods).run builder).result =
      .error (.escaped cause)) :
    ∃ fault, cause = .shape fault ∧
      ∃ method ∈ methods, method.signature = .error fault ∨ method.identity = .error fault := by
  induction methods generalizing builder with
  | nil => cases h
  | cons method rest ih =>
      rcases Action.cases_of_bind_error h with hfirst | ⟨_, -, hrest⟩
      · obtain ⟨fault, hcause, hfault⟩ := unfit_of_record hfirst
        exact ⟨fault, hcause, method, List.mem_cons_self, hfault⟩
      · obtain ⟨fault, hcause, other, hother, hfault⟩ := ih hrest
        exact ⟨fault, hcause, other, List.mem_cons_of_mem _ hother, hfault⟩

theorem not_escaped_of_checkOpen (builder : Builder) :
    (Builder.checkOpen.run builder).result ≠ .error (.escaped cause) := by
  unfold Builder.checkOpen
  cases hbuilt : builder.built <;> simp [hbuilt]

theorem not_escaped_of_checkTarget (record : Record) (known : Model) :
    ((Builder.checkTarget record).run known).result ≠ .error (.escaped cause) := by
  unfold Builder.checkTarget
  by_cases htargets : record.operation.targetsMethod = true
  · by_cases hknown : known.containsMethod record.target = true <;> simp [htargets, hknown]
  · simp [htargets]

section Adding

variable {known : Model} {record : Record} {builder : Builder} (hrecord : record ∈ records)
  (hpath : known.classPath = classPath) (hcoherent : known.Coherent)
  (hdescribed : ∀ decl ∈ known.classes, Described tree program classPath records decl)

include hrecord hpath hcoherent hdescribed

/-- The class of a call site is described in the files, if the classes registered so far are. -/
theorem described_of_sourceClass {decl : ClassDecl}
    (h : ((Model.sourceClass tree record.sourceClass).run known).result = .ok decl) :
    Described tree program classPath records decl := by
  rcases Model.sourceClass_cases hcoherent h with
    ⟨hclass, -⟩ | ⟨-, ⟨path, hfile, -, hread, -⟩, -⟩
  · exact hdescribed decl (hcoherent.class?_eq_some_iff.1 hclass).1
  · rw [classFile?_eq_empty hpath] at hfile
    exact .alone hrecord hfile hread

/-- A record is refused with a failure that escapes only through a gap. -/
theorem overlooked_of_addRecord
    (h : ((Builder.addRecord tree record).run (known, builder)).result = .error (.escaped cause)) :
    Overlooked tree program classPath trace records cause := by
  -- The steps are gone through one by one; only the first to fail matters.
  rcases Action.cases_of_bind_error h with hopen | ⟨_, -, h⟩
  · exact absurd hopen (not_escaped_of_checkOpen builder)
  rcases Action.cases_of_bind_error h with hresolve | ⟨methods, hresolve, h⟩
  · have hresolve : ((Model.resolve tree record.sourceClass record.sourceMethod record.line).run
        known).result = .error (.escaped cause) := hresolve
    rcases Action.cases_of_bind_error hresolve with hclass | ⟨decl, hclass, hmeant⟩
    · exact overlooked_of_sourceClass hpath hrecord hclass
    · -- A class that is registered has signatures for all its methods.
      have hgrown := (Model.keeps_sourceClass tree record.sourceClass known).grows.coherent
        hcoherent
      have hdecl := (hgrown.class?_eq_some_iff.1 (Model.class?_of_sourceClass_ok hclass)).1
      exact absurd hmeant (not_escaped_of_methodsMeant hgrown hdecl _ _ _)
  rcases Action.cases_of_bind_error h with htarget | ⟨_, -, h⟩
  · exact absurd htarget (not_escaped_of_checkTarget record _)
  · -- The methods are those of a class that is described.
    have hresolve : ((Model.resolve tree record.sourceClass record.sourceMethod record.line).run
        known).result = .ok methods := hresolve
    obtain ⟨decl, hclass, hmeant, -⟩ := Action.exists_of_bind_ok hresolve
    obtain ⟨rfl, -⟩ := (Model.run_methodsMeant _ _ _ _ _).2 methods hmeant
    obtain ⟨fault, rfl, method, hmethod, hfault⟩ := unfit_of_recordAll h
    exact .unfit (described_of_sourceClass hrecord hpath hcoherent hdescribed hclass)
      (.inr ⟨method, ClassDecl.mem_of_mem_attributed hmethod, hfault⟩)

end Adding

/-- The first of several records that is refused with a failure that escapes is so through a gap. -/
theorem overlooked_of_addRecords {model : Model} {classes : List ClassDecl}
    (hread : Model.readClasses tree program = .ok classes)
    (hmodel : Model.ofClasses classes classPath = .ok model)
    (h : ((Builder.addRecords tree records).run (model, .empty)).result =
      .error (.escaped cause)) :
    Overlooked tree program classPath trace records cause := by
  obtain ⟨before, record, after, hsplit, htaking, hrefusing, -⟩ :=
    Builder.result_addRecords_eq_error_iff.1 h
  have hcoherent := Model.coherent_ofClasses hmodel
  have hpath : model.classPath = classPath :=
    ((Model.grows_registerAll hmodel).toExtends (Model.coherent_empty classPath)).classPath
  have hcovers := ((Model.Covers.start hcoherent tree).addRecords htaking).2
  -- The records before have loaded classes from class files, and no others.
  refine overlooked_of_addRecord (hsplit ▸ by simp) (hcovers.grown.classPath.trans hpath)
    hcovers.coherent ?_ hrefusing
  intro decl hdecl
  refine ((hcovers.mem_classes_iff decl).1 hdecl).of_files ?_ ?_
  · intro listed hlisted
    rw [Model.classes_of_ofClasses hmodel] at hlisted
    exact .listed hread hlisted
  · intro other hother path found hfile hfound
    rw [classFile?_eq_empty hpath] at hfile
    exact .alone (hsplit ▸ List.mem_append_left _ hother) hfile hfound

/-! ## Reading the trace -/

theorem tooManyDigits_of_toFailure {lineNo : Int} {fault : RecordFault}
    (h : fault.toFailure path lineNo = .escaped cause) :
    ∃ count, fault = .tooManyDigits count ∧ cause = .tooManyDigits count := by
  cases fault with
  | tooManyDigits count =>
      cases h
      exact ⟨count, rfl, rfl⟩
  | _ => cases h

/-- Lines end with a failure that escapes only where a line number has too many digits. -/
theorem exists_line_of_reads {lineNo : Nat} {lines : List (List Char)} {records : List Record}
    {ending : Except Failure Unit} (h : Record.Reads trace lineNo lines records ending)
    (hending : ending = .error (.escaped cause)) :
    ∃ line ∈ lines, ∃ number count, Record.ofLine (number : Nat) line =
      .error (.tooManyDigits count) ∧ cause = .tooManyDigits count := by
  induction h with
  | nothing => cases hending
  | @fault lineNo line lines fault hsome hline =>
      obtain ⟨count, rfl, rfl⟩ := tooManyDigits_of_toFailure (Except.error.inj hending)
      exact ⟨line, List.mem_cons_self, lineNo, count, hline, rfl⟩
  | blank _ ih =>
      obtain ⟨line, hline, hfault⟩ := ih hending
      exact ⟨line, List.mem_cons_of_mem _ hline, hfault⟩
  | record _ _ _ ih =>
      obtain ⟨line, hline, hfault⟩ := ih hending
      exact ⟨line, List.mem_cons_of_mem _ hline, hfault⟩

theorem encodingOf_defaultName (runtime : Runtime) :
    runtime.encodingOf Octets.Encoding.defaultName = .ok .utf8 := by
  rfl

/-- A trace in UTF-8 is opened, or a report says why not, or there is the character zero in its
path. -/
theorem readerOf_defaultName_cases (tree : Tree) (trace : Path) :
    (∃ file, tree.openFile trace = .ok file ∧
        TraceStream.readerOf tree trace Octets.Encoding.defaultName =
          .ok (.openAt file .utf8)) ∨
      (∃ report, TraceStream.readerOf tree trace Octets.Encoding.defaultName =
        .error (.reported report)) ∨
      tree.openFile trace = .error .nul ∧
        TraceStream.readerOf tree trace Octets.Encoding.defaultName =
          .error (.escaped (.file trace .nul)) := by
  have hnul : Octets.Encoding.defaultName.toList.contains (Char.ofNat 0) = false := by
    rfl
  unfold TraceStream.readerOf
  rw [hnul]
  cases hopen : tree.openFile trace with
  | ok file => exact .inl ⟨file, rfl, by simp [encodingOf_defaultName]⟩
  | error fault => cases fault <;> simp

/-- A trace ends with a failure that escapes only through a gap. -/
theorem overlooked_of_yields {yielded : List Record}
    (h : TraceStream.Yields tree (.unopened trace Octets.Encoding.defaultName) yielded
      (.error (.escaped cause))) : Overlooked tree program classPath trace records cause := by
  obtain ⟨file, hopen, hreader⟩ | ⟨report, hreader⟩ | ⟨hnul, hreader⟩ :=
    readerOf_defaultName_cases tree trace
  · cases hdecode : Octets.Utf8.decodeAll (tree.octets file) with
    | ok text =>
        have hreads := (TraceStream.yields_iff_of_decodeAll_ok hreader hdecode
          (Text.broken_lines text)).1 h
        obtain ⟨line, hline, number, count, hfault, rfl⟩ := exists_line_of_reads hreads rfl
        have hreadable : Utf8.readable (tree.octets file) = text := by
          rw [Octets.Utf8.decodeAll_eq_ok_iff.1 hdecode, Octets.Utf8.readable_encode]
        exact .tooManyDigits hopen (hreadable ▸ hline) hfault
    | error fault =>
        obtain ⟨earlier, found, ending, octetFault, hbegins, hreads, hyields⟩ :=
          TraceStream.exists_yields_of_decodeAll_error hreader hdecode (Text.broken_lines _)
        -- The fault of the octets is reported, so it was one of the lines before.
        obtain ⟨-, hending⟩ := hyields.unique h
        cases ending with
        | ok value => cases hending
        | error failure =>
            obtain ⟨line, hline, number, count, hfault, rfl⟩ :=
              exists_line_of_reads hreads hending.symm
            exact .tooManyDigits hopen (hbegins.subset hline) hfault
  · obtain ⟨-, hending⟩ := (TraceStream.yields_of_readerOf_error hreader).unique h
    cases hending
  · obtain ⟨-, hending⟩ := (TraceStream.yields_of_readerOf_error hreader).unique h
    cases hending
    exact .nulInPath hnul

/-! ## Loading as a whole -/

/-- The index of a trace over a model from a file ends with a failure that escapes only through a
gap. -/
theorem overlooked_of_ofTrace {model : Model} {classes : List ClassDecl}
    (hread : Model.readClasses tree program = .ok classes)
    (hmodel : Model.ofClasses classes classPath = .ok model) {ending : Except Failure Unit}
    (hyields : TraceStream.Yields tree (.unopened trace Octets.Encoding.defaultName) records ending)
    (h : ((ofTrace tree trace Octets.Encoding.defaultName).run model).result =
      .error (.escaped cause)) : Overlooked tree program classPath trace records cause := by
  rw [(run_ofTrace hyields model).1] at h
  cases hadding : ((Builder.addRecords tree records).run (model, .empty)).result with
  | error failure =>
      rw [hadding] at h
      cases h
      exact overlooked_of_addRecords hread hmodel hadding
  | ok value =>
      rw [hadding] at h
      cases ending with
      | ok _ => cases h
      | error failure =>
          cases h
          exact overlooked_of_yields hyields

theorem overlooked_of_load {ending : Except Failure Unit}
    (hyields : TraceStream.Yields tree (.unopened trace Octets.Encoding.defaultName) records ending)
    (h : load tree program classPath trace = .error (.escaped cause)) :
    Overlooked tree program classPath trace records cause := by
  unfold load at h
  cases hmodel : ((Model.load tree program classPath).run ()).result with
  | error failure =>
      rw [hmodel] at h
      cases h
      exact overlooked_of_loadModel hmodel
  | ok model =>
      rw [hmodel] at h
      rcases Model.exists_of_load_ok hmodel with ⟨classes, hread, hbuilt⟩
      exact overlooked_of_ofTrace hread hbuilt hyields h

/-- Loading a program model and the index of a trace in UTF-8 over it gives an index or ends with a
report; or it ends with a failure that nothing reports, and then one of these things is in the
files: class data in which members are looked up in something that is no object; a described class
whose name or one of whose methods cannot be told from others, or a method without a signature;
values nested too deep; the name of a class file that is too long or empty; the character zero in
the path of the trace; or a line number of too many digits.  The class files are those of the
classes that the records of the trace name. -/
theorem load_cases (tree : Tree) (program : Path) (classPath : Option Path) (trace : Path) :
    ∃ records ending,
      TraceStream.Yields tree (.unopened trace Octets.Encoding.defaultName) records ending ∧
      ((∃ index, load tree program classPath trace = .ok index) ∨
        (∃ report, load tree program classPath trace = .error (.reported report)) ∨
        ∃ cause, load tree program classPath trace = .error (.escaped cause) ∧
          Overlooked tree program classPath trace records cause) := by
  obtain ⟨records, ending, hiff⟩ :=
    TraceStream.exists_yields_iff tree (.unopened trace Octets.Encoding.defaultName)
  have hyields := (hiff records ending).2 ⟨rfl, rfl⟩
  refine ⟨records, ending, hyields, ?_⟩
  cases hload : load tree program classPath trace with
  | ok index => exact .inl ⟨index, rfl⟩
  | error failure =>
      cases failure with
      | reported report => exact .inr (.inl ⟨report, rfl⟩)
      | escaped cause => exact .inr (.inr ⟨cause, rfl, overlooked_of_load hyields hload⟩)

end Index

namespace Sample

/-- A program model in which a list stands in place of the body of a method. -/
def bodyless : Tree :=
  let content :=
    "\x7b\"classes\": [\x7b\"name\": \"p.A\", \"methods\": [\x7b\"name\": \"f\", " ++
      "\"return_type\": \"void\", \"body\": []\x7d]\x7d]\x7d"
  ⟨[("program.json", .file 0)], [], [content.toUTF8.toList], .usual⟩

end Sample

/-- A list in place of a body is a fault that is not reported. -/
theorem Index.load_may_escape :
    ¬ ∀ tree program classPath trace, (∃ index, load tree program classPath trace = .ok index) ∨
      ∃ report, load tree program classPath trace = .error (.reported report) := by
  let loaded := load Sample.bodyless ⟨.here, ["program.json"]⟩ none ⟨.here, ["trace.log"]⟩
  have hescapes : (match loaded with
      | .error (.escaped _) => true
      | .error (.reported _) | .ok _ => false) = true := by
    decide +kernel
  intro h
  rcases h Sample.bodyless ⟨.here, ["program.json"]⟩ none ⟨.here, ["trace.log"]⟩ with
    ⟨index, hindex⟩ | ⟨report, hreport⟩
  · have hloaded : loaded = .ok index := hindex
    rw [hloaded] at hescapes
    cases hescapes
  · have hloaded : loaded = .error (.reported report) := hreport
    rw [hloaded] at hescapes
    cases hescapes

end ReflectiveCalls
