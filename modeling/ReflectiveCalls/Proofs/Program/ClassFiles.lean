import ReflectiveCalls.Proofs.Files.Joining
import ReflectiveCalls.Proofs.History
import ReflectiveCalls.Proofs.Program.OnDemand

/-!
# Proofs.Program.ClassFiles — where class files are looked for

The parts of a class name between points are put after the class path, and the extension of what
comes out is replaced.  For a name whose parts are neither empty nor hold slashes this is a file
below the class path, one for each name.  Other names may lead elsewhere: a part that begins with a
slash begins anew at a root, and a name without any parts leaves it to the class path itself to have
its extension replaced.

- `ClassName.parts`: the parts of a name; `ClassName.Qualified`: a name that is written as parts.
- `ClassName.Confined`: a name whose class file is below the class path, whichever that is.
- `Model.classFile?_of_components`: the class file of a name whose parts have no roots.
- `Model.run_loadClass_congr`: a search for a class looks at nothing but the class file.
- `Model.classFile_beneath_iff`: the names whose class files are always below the class path.
- `Model.classFile_exact`: the class file of a qualified name, which is that of no other.
-/

namespace ReflectiveCalls

/-! ## Names -/

namespace ClassName

/-- The parts of a name, between its points. -/
def parts (name : String) : List String := (Text.split '.' name.toList).map String.ofList

/-- The components that the parts of a name add to a path. -/
def components (name : String) : List String :=
  (parts name).flatMap fun part => Path.componentsOf part.toList

/-- A name is confined if none of its parts begins with a slash and one of them is not empty. -/
structure Confined (name : String) : Prop where
  unrooted : ∀ part ∈ parts name, ¬Path.Rooted part
  named : ∃ part ∈ parts name, part ≠ ""

/-- The name is written as the parts with points between them, and none of the parts is empty or
holds a slash. -/
structure Qualified (name : String) (written : List String) : Prop where
  joined : Text.Joined '.' name.toList (written.map String.toList)
  proper : ∀ part ∈ written, part ≠ "" ∧ '/' ∉ part.toList

variable {name other part : String} {written front : List String} {last : String}

/-- There is no point in any part. -/
theorem not_mem_of_mem_parts (h : part ∈ parts name) : '.' ∉ part.toList := by
  obtain ⟨piece, hpiece, rfl⟩ := List.mem_map.1 h
  rw [String.toList_ofList]
  exact (Text.joined_split '.' name.toList).not_mem hpiece

theorem not_mem_of_mem_components {component : String} (h : component ∈ components name) :
    '.' ∉ component.toList := by
  obtain ⟨part, hpart, hcomponent⟩ := List.mem_flatMap.1 h
  exact Path.not_mem_of_mem_componentsOf (not_mem_of_mem_parts hpart) hcomponent

theorem confined_iff :
    Confined name ↔ (∀ part ∈ parts name, ¬Path.Rooted part) ∧ ∃ part ∈ parts name, part ≠ "" :=
  ⟨fun h => ⟨h.unrooted, h.named⟩, fun h => ⟨h.1, h.2⟩⟩

instance : DecidablePred Confined := fun _ => decidable_of_iff _ confined_iff.symm

/-- There is no way up among components without points and a file that is named with an
extension. -/
theorem not_up_mem {stem : String} (h : ∀ component ∈ front, '.' ∉ component.toList) :
    ".." ∉ front ++ [stem ++ ".json"] := by
  intro hmem
  rcases List.mem_append.1 hmem with hfront | hlast
  · exact h ".." hfront (by decide)
  · have hlength := congrArg String.length (List.mem_singleton.1 hlast)
    rw [String.length_append] at hlength
    have hextension : ".json".length = 5 := by decide
    have hup : "..".length = 2 := by decide
    omega

/-- Some part of a confined name adds a component. -/
theorem Confined.exists_components (h : Confined name) :
    ∃ front last, components name = front ++ [last] := by
  obtain ⟨part, hpart, hne⟩ := h.named
  -- The part that is not empty does not begin with a slash, so its first piece stays.
  have hcomponents : components name ≠ [] := by
    obtain ⟨c, rest, hchars⟩ := List.exists_cons_of_ne_nil (mt String.toList_eq_nil_iff.1 hne)
    have hslash : c ≠ '/' := by
      rintro rfl
      exact h.unrooted part hpart (Path.rooted_iff.2 ⟨rest, hchars⟩)
    have hpoint := not_mem_of_mem_parts hpart
    rw [hchars] at hpoint
    obtain ⟨component, hcomponent⟩ :=
      List.exists_mem_of_ne_nil _ (Path.componentsOf_ne_nil hslash hpoint)
    exact List.ne_nil_of_mem (List.mem_flatMap.2 ⟨part, hpart, hchars ▸ hcomponent⟩)
  exact ⟨_, _, (List.dropLast_append_getLast hcomponents).symm⟩

theorem Qualified.parts_eq (h : Qualified name written) : parts name = written := by
  rw [parts, h.joined.split_eq, List.map_map]
  simp

/-- A name is qualified exactly if none of its parts is empty or holds a slash. -/
theorem qualified_iff :
    Qualified name written ↔
      parts name = written ∧ ∀ part ∈ written, part ≠ "" ∧ '/' ∉ part.toList := by
  refine ⟨fun h => ⟨h.parts_eq, h.proper⟩, ?_⟩
  rintro ⟨rfl, hproper⟩
  refine ⟨?_, hproper⟩
  have htexts : (parts name).map String.toList = Text.split '.' name.toList := by
    rw [parts, List.map_map]
    simp
  rw [htexts]
  exact Text.joined_split '.' name.toList

instance : DecidableRel Qualified := fun _ _ => decidable_of_iff _ qualified_iff.symm

/-- The parts of a qualified name are its components. -/
theorem Qualified.components_eq (h : Qualified name written) : components name = written := by
  rw [components, h.parts_eq]
  -- Neither slashes nor points take a part apart or make it vanish.
  have hone : ∀ part ∈ written, Path.componentsOf part.toList = [part] := by
    intro part hpart
    have hpoint : '.' ∉ part.toList := not_mem_of_mem_parts (h.parts_eq.symm ▸ hpart)
    have hne : part.toList ≠ [] := mt String.toList_eq_nil_iff.1 (h.proper part hpart).1
    rw [Path.componentsOf_of_plain hne (h.proper part hpart).2 hpoint, String.ofList_toList]
  rw [List.flatMap_congr hone]
  simp

theorem Qualified.unrooted (h : Qualified name written) :
    ∀ part ∈ parts name, ¬Path.Rooted part := by
  intro part hpart hrooted
  obtain ⟨rest, hchars⟩ := Path.rooted_iff.1 hrooted
  exact (h.proper part (h.parts_eq ▸ hpart)).2 (hchars ▸ List.mem_cons_self)

/-- The class file of a qualified name is reached without a way up. -/
theorem Qualified.not_up_mem (h : Qualified name (front ++ [last])) :
    ".." ∉ front ++ [last ++ ".json"] := by
  apply ClassName.not_up_mem
  intro component hcomponent
  have hpart : component ∈ parts name := by simp [h.parts_eq, hcomponent]
  exact not_mem_of_mem_parts hpart

/-- Components that lead from a folder to the same file, once its extension is put on, are the
same. -/
theorem written_inj {front front' : List String} {last last' : String}
    (h : front ++ [last ++ ".json"] = front' ++ [last' ++ ".json"]) :
    front ++ [last] = front' ++ [last'] := by
  obtain ⟨hfront, hlast⟩ := List.append_inj' h rfl
  rw [hfront, (String.append_left_inj ".json").1 (List.singleton_inj.1 hlast)]

/-- Parts make up one name only. -/
theorem Qualified.name_eq (h : Qualified name written) (hother : Qualified other written) :
    other = name :=
  String.toList_inj.1 (hother.joined.eq_intercalate.trans h.joined.eq_intercalate.symm)

theorem Qualified.exists_last (h : Qualified name written) :
    ∃ front last, written = front ++ [last] := by
  have hne : written ≠ [] := by
    rintro rfl
    exact Text.split_ne_nil '.' name.toList h.joined.split_eq
  exact ⟨_, _, (List.dropLast_append_getLast hne).symm⟩

end ClassName

/-! ## Files -/

namespace Model

open ReflectiveCalls.ClassName

variable {model : Model} {folder file : Path} {name : String} {front : List String} {last : String}

/-- The class file of a name is what its parts lead to from the class path, with the extension
replaced. -/
theorem classFile?_eq (hfolder : model.classPath = some folder) (name : String) :
    model.classFile? name =
      ((folder.joinAll (parts name)).withExtension? ".json").elim
        (.error (.escaped (.noFileName (folder.joinAll (parts name)))))
        fun file => .ok (some file) := by
  unfold classFile? parts
  rw [hfolder]
  dsimp only
  generalize folder.joinAll _ = joined
  cases joined.withExtension? ".json" with
  | none => rfl
  | some file => rfl

theorem classFile?_eq_some_iff (hfolder : model.classPath = some folder) :
    model.classFile? name = .ok (some file) ↔
      (folder.joinAll (parts name)).withExtension? ".json" = some file := by
  rw [classFile?_eq hfolder]
  cases (folder.joinAll (parts name)).withExtension? ".json" with
  | none => simp
  | some other => simp

/-- The class file of a name whose parts have no roots and some components. -/
theorem classFile?_of_components (hfolder : model.classPath = some folder)
    (hunrooted : ∀ part ∈ parts name, ¬Path.Rooted part)
    (hcomponents : components name = front ++ [last]) :
    model.classFile? name = .ok (some ⟨folder.root, folder.parts ++
      (front ++ [String.ofList (Path.stemOf last.toList) ++ ".json"])⟩) := by
  rw [classFile?_eq_some_iff hfolder, Path.joinAll_of_unrooted hunrooted]
  have hparts : folder.parts ++ components name = (folder.parts ++ front) ++ [last] := by
    rw [hcomponents, List.append_assoc]
  rw [← List.append_assoc]
  exact Path.withExtension?_of_parts hparts ".json"

/-- A part that begins with a slash leads to a class file that has nothing to do with the class
path. -/
theorem classFile?_of_rooted (h : ∃ part ∈ parts name, Path.Rooted part) {other : Model}
    {otherFolder : Path} (hfolder : model.classPath = some folder)
    (hother : other.classPath = some otherFolder) :
    other.classFile? name = model.classFile? name := by
  rw [classFile?_eq hfolder, classFile?_eq hother,
    (Path.joinAll_of_rooted h otherFolder folder).1]

/-- A name without any parts leads to the class path itself, with its own extension replaced. -/
theorem classFile?_of_unnamed (h : ∀ part ∈ parts name, part = "")
    (hfolder : model.classPath = some folder) :
    model.classFile? name = .ok (some file) ↔ folder.withExtension? ".json" = some file := by
  -- Empty parts have no roots and add no components.
  have hjoined : folder.joinAll (parts name) = folder := by
    have hunrooted : ∀ part ∈ parts name, ¬Path.Rooted part := by
      intro part hpart
      rw [h part hpart]
      decide
    have hcomponents : components name = [] := by
      apply List.flatMap_eq_nil_iff.2
      intro part hpart
      rw [h part hpart]
      exact Path.componentsOf_nil
    rw [Path.joinAll_of_unrooted hunrooted]
    change Path.mk folder.root (folder.parts ++ components name) = folder
    rw [hcomponents, List.append_nil]
  rw [classFile?_eq_some_iff hfolder, hjoined]

/-! ## Searches -/

/-- A file that is there is read in the same way in any tree of the runtime in which it is there and
holds the same. -/
theorem readNamed_congr {tree other : Tree} (hruntime : other.runtime = tree.runtime)
    (hfound : tree.isFile file = .ok true) (hother : other.isFile file = .ok true)
    (hread : other.readFile file = tree.readFile file) (name : String) :
    readNamed other file name = readNamed tree file name := by
  have hvalue : readValue other file = readValue tree file := by
    unfold readValue
    rw [Tree.exists?_of_isFile hfound, Tree.exists?_of_isFile hother, hread, hruntime]
  unfold readNamed readClass
  rw [hvalue]

/-- A search for a class looks at nothing in the tree but the class file: whether it is there, and
what it holds. -/
theorem run_loadClass_congr {tree other : Tree} (hruntime : other.runtime = tree.runtime)
    (h : ∀ file, model.classFile? name = .ok (some file) →
      other.isFile file = tree.isFile file ∧ other.readFile file = tree.readFile file) :
    (loadClass other name).run model = (loadClass tree name).run model := by
  by_cases hknown : model.containsClass name = true
  · rw [run_loadClass_of_containsClass hknown, run_loadClass_of_containsClass hknown]
  have hprobe : model.probeClass other name = model.probeClass tree name := by
    unfold probeClass
    cases hfile : model.classFile? name with
    | error failure => rfl
    | ok found =>
        cases found with
        | none => rfl
        | some file => simp only [(h file hfile).1]
  cases hfound : model.probeClass tree name with
  | error failure => simp [loadClass, hknown, hprobe, hfound]
  | ok probe =>
      obtain ⟨_ | file, found⟩ := probe
      · simp [loadClass, hknown, hprobe, hfound]
      · cases found with
        | false => simp [loadClass, hknown, hprobe, hfound]
        | true =>
            -- Only here the file is read, and it is there in both trees.
            obtain ⟨hfile, hthere⟩ := probeClass_eq_found_iff.1 hfound
            obtain ⟨hsame, hread⟩ := h file hfile
            have hnamed := readNamed_congr hruntime hthere (hsame.trans hthere) hread name
            simp [loadClass, hknown, hprobe, hfound, hnamed]

/-! ## Below the class path -/

/-- The class file of a confined name is reached from the class path by components that lead
down. -/
theorem exists_below_of_confined (hfolder : model.classPath = some folder) (h : Confined name) :
    ∃ below, below ≠ [] ∧ ".." ∉ below ∧
      model.classFile? name = .ok (some ⟨folder.root, folder.parts ++ below⟩) := by
  obtain ⟨front, last, hcomponents⟩ := h.exists_components
  refine ⟨_, by simp, not_up_mem ?_, classFile?_of_components hfolder h.unrooted hcomponents⟩
  intro component hcomponent
  have hmem : component ∈ components name := by simp [hcomponents, hcomponent]
  exact not_mem_of_mem_components hmem

/-- A name whose class file is below the class path, wherever that is, is confined. -/
theorem confined_of_beneath
    (h : ∀ folder : Path, ∃ file, (empty (some folder)).classFile? name = .ok (some file) ∧
      file.Beneath folder) : Confined name := by
  -- A relative class path without components shows both ways in which a file may leave it.
  obtain ⟨file, hfile, hbeneath⟩ := h ⟨.here, []⟩
  have hfound := (classFile?_eq_some_iff rfl).1 hfile
  constructor
  case unrooted =>
    intro part hpart hrooted
    have hroot := (Path.joinAll_of_rooted ⟨part, hpart, hrooted⟩ ⟨.here, []⟩ ⟨.here, []⟩).2
    rw [← (Path.of_withExtension? hfound).1] at hroot
    exact Path.not_beneath_of_root hroot hbeneath
  case named =>
    by_contra hnone
    have hunnamed : ∀ part ∈ parts name, part = "" := by
      intro part hpart
      by_contra hne
      exact hnone ⟨part, hpart, hne⟩
    have hnamed := (classFile?_of_unnamed hunnamed rfl).1 hfile
    cases hnamed

/-- The class file of a name is below the class path, whichever that is, exactly if no part of the
name begins with a slash and some part is not empty.  It is then reached from the class path by
components that lead down, and so what is found there in a tree is found below the class path.
A part that begins with a slash leads to the same class file from any class path, and a name of
nothing but points to the class path itself, under another extension.  In any case a search for a
class looks at nothing among the files but the class file. -/
theorem classFile_beneath_iff (name : String) :
    ((∀ folder : Path, ∃ file, (empty (some folder)).classFile? name = .ok (some file) ∧
        file.Beneath folder) ↔ Confined name) ∧
      ∀ (model : Model) (folder : Path), model.classPath = some folder →
        (Confined name → ∃ below, below ≠ [] ∧ ".." ∉ below ∧
          model.classFile? name = .ok (some ⟨folder.root, folder.parts ++ below⟩) ∧
          ∀ (tree : Tree) (place : Tree.Place),
            tree.reach (tree.fullWay ⟨folder.root, folder.parts ++ below⟩) = .ok place →
              ∃ base, tree.reach (tree.fullWay folder) = .ok base ∧
                place.way = base.way ++ below) ∧
        ((∃ part ∈ parts name, Path.Rooted part) →
          ∀ (other : Model) (otherFolder : Path), other.classPath = some otherFolder →
            other.classFile? name = model.classFile? name) ∧
        ((∀ part ∈ parts name, part = "") →
          ∀ file, model.classFile? name = .ok (some file) →
            folder.withExtension? ".json" = some file ∧ ¬file.Beneath folder) ∧
        ∀ tree other : Tree, other.runtime = tree.runtime →
          (∀ file, model.classFile? name = .ok (some file) →
            other.isFile file = tree.isFile file ∧ other.readFile file = tree.readFile file) →
          (loadClass other name).run model = (loadClass tree name).run model := by
  refine ⟨⟨confined_of_beneath, ?_⟩, ?_⟩
  · intro h folder
    have hfolder : (empty (some folder)).classPath = some folder := rfl
    obtain ⟨below, hne, -, hfile⟩ := exists_below_of_confined hfolder h
    exact ⟨_, hfile, rfl, below, hne, rfl⟩
  · intro model folder hfolder
    refine ⟨?confined, ?rooted, ?unnamed, fun tree other => run_loadClass_congr⟩
    case confined =>
      intro h
      obtain ⟨below, hne, hdown, hfile⟩ := exists_below_of_confined hfolder h
      exact ⟨below, hne, hdown, hfile, fun tree place => Tree.exists_reach_folder hdown⟩
    case rooted =>
      intro h other otherFolder hother
      exact classFile?_of_rooted h hfolder hother
    case unnamed =>
      intro h file hfile
      have hextension := (classFile?_of_unnamed h hfolder).1 hfile
      exact ⟨hextension, Path.not_beneath_of_length (Path.of_withExtension? hextension).2⟩

/-- The file of one class is found below the class path. -/
theorem classFile_beneath_iff_sample :
    Confined "shop.Item" ∧
      Sample.model.classFile? "shop.Item" = .ok (some ⟨.here, ["classes", "shop", "Item.json"]⟩) ∧
      ∃ base place, Sample.tree.reach (Sample.tree.fullWay Sample.classPath) = .ok base ∧
        Sample.tree.reach (Sample.tree.fullWay ⟨.here, ["classes", "shop", "Item.json"]⟩) =
          .ok place ∧
        place.way = base.way ++ ["shop", "Item.json"] := by
  have hconfined : Confined "shop.Item" := by decide +kernel
  obtain ⟨below, -, -, hfile, hbelow⟩ :=
    ((classFile_beneath_iff "shop.Item").2 Sample.model Sample.classPath rfl).1 hconfined
  have hitem : Sample.model.classFile? "shop.Item" =
      .ok (some ⟨.here, ["classes", "shop", "Item.json"]⟩) :=
    (classFile?_eq_some_iff rfl).2 (by decide)
  cases hitem.symm.trans hfile
  obtain ⟨base, hbase, hway⟩ := hbelow Sample.tree _ rfl
  exact ⟨hconfined, hitem, base, _, hbase, rfl, hway⟩

/-- The class file of a name of one point stands beside the class path. -/
theorem classFile_may_leave :
    ¬∀ (folder : Path) (name : String), ∃ file,
      (empty (some folder)).classFile? name = .ok (some file) ∧ file.Beneath folder := by
  intro h
  obtain ⟨file, hfile, hbeneath⟩ := h ⟨.here, ["lib", "classes"]⟩ "."
  have hbeside : (empty (some ⟨.here, ["lib", "classes"]⟩)).classFile? "." =
      .ok (some ⟨.here, ["lib", "classes.json"]⟩) := (classFile?_eq_some_iff rfl).2 (by decide)
  cases hbeside.symm.trans hfile
  exact absurd hbeneath (Path.not_beneath_of_length rfl)

/-! ## One file for each name -/

/-- The class file of a qualified name. -/
theorem classFile?_of_qualified (hfolder : model.classPath = some folder)
    (h : Qualified name (front ++ [last])) :
    model.classFile? name =
      .ok (some ⟨folder.root, folder.parts ++ (front ++ [last ++ ".json"])⟩) := by
  have hlast : last ∈ parts name := by simp [h.parts_eq]
  have hstem := Path.stemOf_of_not_mem (not_mem_of_mem_parts hlast)
  rw [classFile?_of_components hfolder h.unrooted h.components_eq, hstem, String.ofList_toList]

/-- A class name whose parts between points are not empty and hold no slashes has the class file to
which its parts lead from the class path, the extension being put after the last of them.  Another
name of this kind has another class file, and the two are in different places in any tree. -/
theorem classFile_exact (hfolder : model.classPath = some folder)
    (h : Qualified name (front ++ [last])) :
    model.classFile? name =
        .ok (some ⟨folder.root, folder.parts ++ (front ++ [last ++ ".json"])⟩) ∧
      ∀ other written, Qualified other written → other ≠ name →
        model.classFile? other ≠ model.classFile? name ∧
          ∀ (tree : Tree) (file otherFile : Path) (place otherPlace : Tree.Place),
            model.classFile? name = .ok (some file) →
            model.classFile? other = .ok (some otherFile) →
            tree.reach (tree.fullWay file) = .ok place →
            tree.reach (tree.fullWay otherFile) = .ok otherPlace →
              otherPlace.way ≠ place.way := by
  have hname := classFile?_of_qualified hfolder h
  refine ⟨hname, ?_⟩
  intro other written hother hne
  obtain ⟨front', last', rfl⟩ := hother.exists_last
  have hfile := classFile?_of_qualified hfolder hother
  have hbelow : front' ++ [last' ++ ".json"] ≠ front ++ [last ++ ".json"] := by
    intro hsame
    rw [written_inj hsame] at hother
    exact hne (h.name_eq hother)
  constructor
  · intro hsame
    rw [hname, hfile] at hsame
    simp only [Except.ok.injEq, Option.some.injEq, Path.mk.injEq, true_and] at hsame
    exact hbelow (List.append_cancel_left hsame)
  · intro tree file otherFile place otherPlace hf hof hreach hreachOther hway
    cases hname.symm.trans hf
    cases hfile.symm.trans hof
    -- Both files are reached through the class path, which is in one place only.
    obtain ⟨base, hbase, hplace⟩ := Tree.exists_reach_folder h.not_up_mem hreach
    obtain ⟨base', hbase', hplace'⟩ := Tree.exists_reach_folder hother.not_up_mem hreachOther
    cases hbase.symm.trans hbase'
    rw [hplace, hplace'] at hway
    exact hbelow (List.append_cancel_left hway)

/-- The class files of two classes of one package. -/
theorem classFile_exact_sample :
    Sample.model.classFile? "shop.Item" = .ok (some ⟨.here, ["classes", "shop", "Item.json"]⟩) ∧
      Sample.model.classFile? "shop.Cart" ≠ Sample.model.classFile? "shop.Item" := by
  have hitem : Qualified "shop.Item" (["shop"] ++ ["Item"]) := by decide +kernel
  have hcart : Qualified "shop.Cart" ["shop", "Cart"] := by decide +kernel
  have hexact := classFile_exact (rfl : Sample.model.classPath = some Sample.classPath) hitem
  exact ⟨hexact.1, (hexact.2 "shop.Cart" _ hcart (by decide)).1⟩

end Model
end ReflectiveCalls
