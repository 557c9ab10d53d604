import Mathlib.Data.List.Basic
import ReflectiveCalls.Files.Tree

/-!
# Proofs.Files.Writing — a file written and read back

A file that is written anew changes the folders on the way to it, and a path may lead up and down
through these very folders.  So a walk in the tree before is compared with the walk in the tree
after: whatever was below the root is there still, a folder as a folder, and both walks go the same
way.

- `Node.below?`: the node to which names lead down from a node.
- `Node.below?_putAt`, `Node.exists_below?_putAt`, `Node.below?_of_putAt`: what is below a folder
  once a file has been put in place.
- `Tree.Steps`: where one component leads; `Tree.exists_steps_of_walk`: the first step of a walk.
- `Tree.Stands`: a place whose folders are those of the tree; `Tree.exists_walk`: walks in two
  trees.
- `Tree.Stocked`: every file of the tree has octets; `Tree.Stocked.writeFile`: writing preserves it.
- `Tree.readFile_of_writeFile`: what was written is read.
-/

namespace ReflectiveCalls

namespace Node

variable {entries inside : List (String × Node)} {node new : Node} {name : String}
  {way : List String}

/-! ## Entries -/

theorem entry?_cons (entry : String × Node) (rest : List (String × Node)) (name : String) :
    entry? (entry :: rest) name = if entry.1 = name then some entry.2 else entry? rest name := by
  unfold entry?
  by_cases hname : entry.1 = name
  · simp [hname]
  · simp [hname]

theorem entry?_append_of_not_any (h : ¬entries.any (·.1 == name) = true)
    (rest : List (String × Node)) : entry? (entries ++ rest) name = entry? rest name := by
  have hnone : entries.find? (·.1 == name) = none := by
    rw [List.find?_eq_none]
    exact fun entry hentry hname => h (List.any_eq_true.2 ⟨entry, hentry, hname⟩)
  unfold entry?
  simp [List.find?_append, hnone]

theorem entry?_setEntry_self (entries : List (String × Node)) (name : String) (node : Node) :
    entry? (setEntry entries name node) name = some node := by
  unfold setEntry
  by_cases hany : entries.any (·.1 == name) = true
  · rw [if_pos hany]
    induction entries with
    | nil => cases hany
    | cons entry rest ih =>
        rw [List.map_cons, entry?_cons]
        by_cases hname : entry.1 = name
        · simp [hname]
        · have hrest : rest.any (·.1 == name) = true := by simpa [hname] using hany
          simpa [hname] using ih hrest
  · rw [if_neg hany, entry?_append_of_not_any hany, entry?_cons, if_pos rfl]

theorem entry?_setEntry_of_ne {other : String} (h : other ≠ name) :
    entry? (setEntry entries name node) other = entry? entries other := by
  have hmap : entry? (entries.map fun entry => if entry.1 == name then (name, node) else entry)
      other = entry? entries other := by
    induction entries with
    | nil => rfl
    | cons entry rest ih =>
        rw [List.map_cons, entry?_cons, entry?_cons, ih]
        by_cases hname : entry.1 = name
        · simp [hname, h.symm]
        · simp [hname]
  unfold setEntry
  split
  · exact hmap
  · have hlast : (name == other) = false := by simpa using h.symm
    unfold entry?
    simp [List.find?_append, hlast]

/-! ## What is below a folder -/

/-- The node to which names lead down from a node. -/
def below? : Node → List String → Option Node
  | node, [] => some node
  | .file _, _ :: _ => none
  | .folder entries, name :: rest =>
      match entry? entries name with
      | some inside => below? inside rest
      | none => none

@[simp] theorem below?_nil (node : Node) : node.below? [] = some node := by
  cases node <;> rfl

theorem below?_append (node : Node) (way more : List String) :
    node.below? (way ++ more) = (node.below? way).bind (·.below? more) := by
  induction way generalizing node with
  | nil => simp
  | cons name rest ih =>
      cases node with
      | file number => rfl
      | folder entries =>
          simp only [List.cons_append, below?]
          cases entry? entries name with
          | none => rfl
          | some inside => exact ih inside

theorem below?_folder_singleton (entries : List (String × Node)) (name : String) :
    (Node.folder entries).below? [name] = entry? entries name := by
  simp only [below?]
  cases entry? entries name with
  | none => rfl
  | some inside => exact below?_nil inside

theorem putAt_cons {rest : List String} (h : rest ≠ [])
    (hfolder : entry? entries name = some (.folder inside)) :
    putAt new (name :: rest) entries = setEntry entries name (.folder (putAt new rest inside)) := by
  cases rest with
  | nil => exact absurd rfl h
  | cons next rest => simp [putAt, hfolder]

/-- Is the node a folder? -/
def isFolder : Node → Bool
  | .folder _ => true
  | .file _ => false

/-- The way to a folder goes through folders. -/
theorem exists_of_below?_cons {first : String} {rest : List String}
    (h : (Node.folder entries).below? (first :: rest) = some (.folder inside)) :
    ∃ middle, entry? entries first = some (.folder middle) ∧
      (Node.folder middle).below? rest = some (.folder inside) := by
  simp only [below?] at h
  cases hentry : entry? entries first with
  | none => simp [hentry] at h
  | some next =>
      rw [hentry] at h
      cases next with
      | folder middle => exact ⟨middle, rfl, h⟩
      | file number => cases rest <;> simp [below?] at h

section Put

variable (hway : (Node.folder entries).below? way = some (.folder inside))

include hway

/-- A node that was put in place is found there. -/
theorem below?_putAt :
    (Node.folder (putAt new (way ++ [name]) entries)).below? (way ++ [name]) = some new := by
  induction way generalizing entries with
  | nil => simp [putAt, below?, entry?_setEntry_self]
  | cons first rest ih =>
      rcases exists_of_below?_cons hway with ⟨middle, hentry, hrest⟩
      rw [List.cons_append, putAt_cons (by simp) hentry]
      simpa only [below?, entry?_setEntry_self] using ih hrest

/-- Whatever was below the folder is there still once a node was put where nothing was, a folder as
a folder. -/
theorem exists_below?_putAt (hnew : entry? inside name = none) {other : List String}
    (h : (Node.folder entries).below? other = some node) :
    ∃ after, (Node.folder (putAt new (way ++ [name]) entries)).below? other = some after ∧
      after.isFolder = node.isFolder := by
  induction way generalizing entries other with
  | nil =>
      cases hway
      cases other with
      | nil =>
          cases h
          exact ⟨_, below?_nil _, rfl⟩
      | cons first rest =>
          -- Something is at the first name, so it is not the new one.
          have hne : first ≠ name := by
            rintro rfl
            simp [below?, hnew] at h
          refine ⟨node, ?_, rfl⟩
          simpa only [List.nil_append, putAt, below?, entry?_setEntry_of_ne hne] using h
  | cons next rest ih =>
      rcases exists_of_below?_cons hway with ⟨middle, hentry, hrest⟩
      rw [List.cons_append, putAt_cons (by simp) hentry]
      cases other with
      | nil =>
          cases h
          exact ⟨_, below?_nil _, rfl⟩
      | cons first others =>
          by_cases hfirst : first = next
          · subst hfirst
            simp only [below?, hentry] at h
            simpa only [below?, entry?_setEntry_self] using ih hrest h
          · refine ⟨node, ?_, rfl⟩
            simpa only [below?, entry?_setEntry_of_ne hfirst] using h

/-- A file that is below the folder once another file was put in place was there before, or it is
the one that was put there. -/
theorem below?_of_putAt {number found : Nat} {other : List String}
    (h : (Node.folder (putAt (.file number) (way ++ [name]) entries)).below? other =
      some (.file found)) :
    found = number ∨ (Node.folder entries).below? other = some (.file found) := by
  induction way generalizing entries other with
  | nil =>
      cases other with
      | nil => cases h
      | cons first rest =>
          by_cases hfirst : first = name
          · subst hfirst
            simp only [List.nil_append, putAt, below?, entry?_setEntry_self] at h
            cases rest with
            | nil =>
                cases h
                exact .inl rfl
            | cons second rest => cases h
          · right
            simpa only [List.nil_append, putAt, below?, entry?_setEntry_of_ne hfirst] using h
  | cons next rest ih =>
      rcases exists_of_below?_cons hway with ⟨middle, hentry, hrest⟩
      rw [List.cons_append, putAt_cons (by simp) hentry] at h
      cases other with
      | nil => cases h
      | cons first others =>
          by_cases hfirst : first = next
          · subst hfirst
            simp only [below?, entry?_setEntry_self] at h
            simpa only [below?, hentry] using ih hrest h
          · right
            simpa only [below?, entry?_setEntry_of_ne hfirst] using h

end Put

end Node

namespace Tree

/-! ## Walks -/

/-- A component leads from a folder to a place. -/
inductive Steps : Place → String → Place → Prop
  | up {outer : String × List (String × Node)} {above : List (String × List (String × Node))}
      {entries : List (String × Node)} :
      Steps ⟨outer :: above, .folder entries⟩ ".." ⟨above, .folder outer.2⟩
  /-- Above the root there is the root. -/
  | top {entries : List (String × Node)} : Steps ⟨[], .folder entries⟩ ".." ⟨[], .folder entries⟩
  | into {above : List (String × List (String × Node))} {entries : List (String × Node)}
      {part : String} {node : Node} (hup : part ≠ "..")
      (hlong : part.utf8ByteSize ≤ componentLimit) (hentry : Node.entry? entries part = some node) :
      Steps ⟨above, .folder entries⟩ part ⟨(part, entries) :: above, node⟩

/-- A walk goes on from where its first component leads. -/
theorem Steps.walk_cons {place middle : Place} {part : String} (h : Steps place part middle)
    (rest : List String) : walk place (part :: rest) = walk middle rest := by
  cases h with
  | up => simp [walk]
  | top => simp [walk]
  | into hup hlong hentry => simp [walk, hup, Nat.not_lt.2 hlong, hentry]

/-- A walk that leads somewhere has made its first step. -/
theorem exists_steps_of_walk {place found : Place} {part : String} {rest : List String}
    (h : walk place (part :: rest) = .ok found) :
    ∃ middle, Steps place part middle ∧ walk middle rest = .ok found := by
  rcases place with ⟨above, node⟩
  cases node with
  | file number => simp [walk] at h
  | folder entries =>
      simp only [walk] at h
      by_cases hup : part = ".."
      · subst hup
        rw [if_pos rfl] at h
        cases above with
        | nil => exact ⟨_, .top, h⟩
        | cons outer above => exact ⟨_, .up, h⟩
      · rw [if_neg hup] at h
        by_cases hlong : componentLimit < part.utf8ByteSize
        · simp [hlong] at h
        · rw [if_neg hlong] at h
          cases hentry : Node.entry? entries part with
          | none => simp [hentry] at h
          | some node =>
              rw [hentry] at h
              exact ⟨_, .into hup (Nat.le_of_not_lt hlong) hentry, h⟩

theorem walk_append {place middle : Place} {parts : List String} (h : walk place parts = .ok middle)
    (more : List String) : walk place (parts ++ more) = walk middle more := by
  induction parts generalizing place with
  | nil =>
      cases h
      rfl
  | cons part rest ih =>
      rcases exists_steps_of_walk h with ⟨next, hstep, hrest⟩
      rw [List.cons_append, hstep.walk_cons]
      exact ih hrest

/-! ## Walks in two trees -/

/-- The folders of the place are those of the tree with the given root. -/
inductive Stands (root : List (String × Node)) : Place → Prop
  | root : Stands root ⟨[], .folder root⟩
  | into {above : List (String × List (String × Node))} {entries : List (String × Node)}
      {name : String} {node : Node} (hfolder : Stands root ⟨above, .folder entries⟩)
      (hentry : Node.entry? entries name = some node) : Stands root ⟨(name, entries) :: above, node⟩

theorem Place.way_cons {name : String} {entries : List (String × Node)}
    {above : List (String × List (String × Node))} {node : Node} :
    (Place.mk ((name, entries) :: above) node).way =
      (Place.mk above (.folder entries)).way ++ [name] := by
  simp [Place.way]

/-- The way of a place leads to its node. -/
theorem Stands.below?_way {root : List (String × Node)} {place : Place} (h : Stands root place) :
    (Node.folder root).below? place.way = some place.node := by
  induction h with
  | root => rfl
  | @into above entries name node _ hentry ih =>
      rw [Place.way_cons, Node.below?_append, ih, Option.bind_some, Node.below?_folder_singleton,
        hentry]

/-- What a folder has under a name is below the root, one step further. -/
theorem Stands.below?_way_append {root entries : List (String × Node)} {place : Place}
    (h : Stands root place) (hfolder : place.node = .folder entries) (name : String) :
    (Node.folder root).below? (place.way ++ [name]) = Node.entry? entries name := by
  rw [Node.below?_append, h.below?_way, hfolder, Option.bind_some, Node.below?_folder_singleton]

theorem Stands.outer {root : List (String × Node)} {above : List (String × List (String × Node))}
    {name : String} {entries : List (String × Node)} {node : Node}
    (h : Stands root ⟨(name, entries) :: above, node⟩) : Stands root ⟨above, .folder entries⟩ := by
  cases h with
  | into hfolder _ => exact hfolder

/-- Whatever is below the first root is below the second, a folder as a folder. -/
def Kept (root after : List (String × Node)) : Prop :=
  ∀ way node, (Node.folder root).below? way = some node →
    ∃ kept, (Node.folder after).below? way = some kept ∧ kept.isFolder = node.isFolder

section Kept

variable {root after entries : List (String × Node)} {place place' : Place}

/-- Where a folder is in the first tree, there is one in the second. -/
theorem Stands.exists_folder (hkept : Kept root after) (hplace : Stands root place)
    (hplace' : Stands after place') (hway : place'.way = place.way)
    (hfolder : place.node = .folder entries) : ∃ entries', place'.node = .folder entries' := by
  rcases hkept _ _ hplace.below?_way with ⟨kept, hbelow, hkind⟩
  rw [← hway, hplace'.below?_way] at hbelow
  cases hbelow
  rw [hfolder] at hkind
  cases hnode : place'.node with
  | folder entries' => exact ⟨entries', rfl⟩
  | file number =>
      rw [hnode] at hkind
      cases hkind

/-- What a folder has an entry for in the first tree, it has one for in the second. -/
theorem Stands.exists_entry (hkept : Kept root after) (hplace : Stands root place)
    (hplace' : Stands after place') (hway : place'.way = place.way)
    (hfolder : place.node = .folder entries) {entries' : List (String × Node)}
    (hfolder' : place'.node = .folder entries') {name : String} {node : Node}
    (hentry : Node.entry? entries name = some node) :
    ∃ node', Node.entry? entries' name = some node' := by
  have hbelow := (hplace.below?_way_append hfolder name).trans hentry
  rcases hkept _ _ hbelow with ⟨node', hbelow', -⟩
  rw [← hway, hplace'.below?_way_append hfolder'] at hbelow'
  exact ⟨node', hbelow'⟩

/-- A component that leads somewhere in the first tree leads there in the second. -/
theorem Steps.exists_steps {part : String} {next : Place} (hkept : Kept root after)
    (hplace : Stands root place) (hplace' : Stands after place') (hway : place'.way = place.way)
    (h : Steps place part next) :
    ∃ next', Steps place' part next' ∧ Stands root next ∧ Stands after next' ∧
      next'.way = next.way := by
  have hfolder : ∃ entries, place.node = .folder entries := by
    cases h <;> exact ⟨_, rfl⟩
  rcases hfolder with ⟨entries, hfolder⟩
  rcases hplace.exists_folder hkept hplace' hway hfolder with ⟨entries', hfolder'⟩
  rcases place' with ⟨above', node'⟩
  cases hfolder'
  cases h with
  | top =>
      cases above' with
      | nil => exact ⟨_, .top, hplace, hplace', rfl⟩
      | cons => simp [Place.way] at hway
  | @up outer above entries =>
      cases above' with
      | nil => simp [Place.way] at hway
      | cons outer' above' =>
          refine ⟨_, .up, hplace.outer, hplace'.outer, ?_⟩
          rw [Place.way_cons, Place.way_cons] at hway
          exact (List.append_inj' hway rfl).1
  | @into above entries part node hup hlong hentry =>
      rcases hplace.exists_entry hkept hplace' hway rfl rfl hentry with ⟨node', hentry'⟩
      refine ⟨_, .into hup hlong hentry', .into hplace hentry, .into hplace' hentry', ?_⟩
      rw [Place.way_cons, Place.way_cons]
      exact congrArg (· ++ [part]) hway

end Kept

/-- A walk that leads somewhere leads there in a tree in which everything is kept. -/
theorem exists_walk {root after : List (String × Node)} (hkept : Kept root after)
    {parts : List String} {place place' found : Place} (hplace : Stands root place)
    (hplace' : Stands after place') (hway : place'.way = place.way)
    (h : walk place parts = .ok found) :
    ∃ found', walk place' parts = .ok found' ∧ Stands root found ∧ Stands after found' ∧
      found'.way = found.way := by
  -- By induction on the components; the two places are as far from their roots at every step.
  induction parts generalizing place place' with
  | nil =>
      cases h
      exact ⟨place', rfl, hplace, hplace', hway⟩
  | cons part rest ih =>
      rcases exists_steps_of_walk h with ⟨next, hstep, hrest⟩
      rcases hstep.exists_steps hkept hplace hplace' hway with
        ⟨next', hstep', hnext, hnext', hnextWay⟩
      rw [hstep'.walk_cons]
      exact ih hnext hnext' hnextWay hrest

/-- What the tree holds stands in it. -/
theorem stands_of_reach {tree : Tree} {components : List String} {place : Place}
    (h : tree.reach components = .ok place) : Stands tree.root place := by
  have hkept : Kept tree.root tree.root := fun _ node hnode => ⟨node, hnode, rfl⟩
  rcases exists_walk hkept .root .root rfl h with ⟨_, -, hplace, -, -⟩
  exact hplace

/-! ## Files written -/

section Written

variable {tree after : Tree} {path : Path} {content : List UInt8}

/-- The components to walk end with the name of the path. -/
theorem fullWay_eq_append {name : String} (h : path.parts.getLast? = some name) :
    tree.fullWay path = (tree.fullWay path).dropLast ++ [name] := by
  have hlast : (tree.fullWay path).getLast? = some name := by
    unfold fullWay
    split
    · rw [List.getLast?_append, h]
      rfl
    · exact h
  exact (List.dropLast_append_getLast? name hlast).symm

theorem exists_of_bind_ok {α β : Type} {result : Except Files.Fault α}
    {next : α → Except Files.Fault β} {value : β} (h : (result >>= next) = .ok value) :
    ∃ found, result = .ok found ∧ next found = .ok value := by
  cases result with
  | error fault => cases h
  | ok found => exact ⟨found, rfl, h⟩

/-- What writing a file does: its folder is there, and the file is there too and gets other octets,
or nothing is there and the file is put in place. -/
theorem exists_of_writeFile (h : tree.writeFile path content = .ok after) :
    admits path = .ok () ∧ ∃ name place entries, path.parts.getLast? = some name ∧
      tree.reach (tree.fullWay path).dropLast = .ok place ∧ place.node = .folder entries ∧
      name ≠ ".." ∧ name.utf8ByteSize ≤ componentLimit ∧
      ((∃ number, Node.entry? entries name = some (.file number) ∧
          after = { tree with contents := tree.contents.set number content }) ∨
        (after = { tree with
            root := Node.putAt (.file tree.contents.length) (place.way ++ [name]) tree.root
            contents := tree.contents ++ [content] } ∧ Node.entry? entries name = none)) := by
  unfold writeFile at h
  rcases exists_of_bind_ok h with ⟨_, hadmits, hnaming⟩
  refine ⟨hadmits, ?_⟩
  cases hname : path.parts.getLast? with
  | none =>
      rw [hname] at hnaming
      cases hnaming
  | some name =>
      rw [hname] at hnaming
      rcases exists_of_bind_ok hnaming with ⟨place, hreach, hplacing⟩
      cases hnode : place.node with
      | file number =>
          rw [hnode] at hplacing
          cases hplacing
      | folder entries =>
          simp only [hnode] at hplacing
          by_cases hup : name = ".."
          · simp [hup] at hplacing
          by_cases hlong : componentLimit < name.utf8ByteSize
          · simp [hup, hlong] at hplacing
          rw [if_neg hup, if_neg hlong] at hplacing
          refine ⟨name, place, entries, rfl, hreach, hnode, hup, Nat.le_of_not_lt hlong, ?_⟩
          -- What the folder has under the name decides which of the two it is.
          cases hentry : Node.entry? entries name with
          | none =>
              rw [hentry] at hplacing
              cases hplacing
              exact .inr ⟨rfl, rfl⟩
          | some node =>
              rw [hentry] at hplacing
              cases node with
              | folder inside => cases hplacing
              | file number =>
                  cases hplacing
                  exact .inl ⟨number, rfl, rfl⟩

/-- A path leads to what its folder has under its name. -/
theorem locate_of_entry {name : String} {place : Place} {entries : List (String × Node)}
    {node : Node} (hadmits : admits path = .ok ()) (hname : path.parts.getLast? = some name)
    (hreach : tree.reach (tree.fullWay path).dropLast = .ok place)
    (hfolder : place.node = .folder entries) (hup : name ≠ "..")
    (hlong : name.utf8ByteSize ≤ componentLimit) (hentry : Node.entry? entries name = some node) :
    tree.locate path = .ok node := by
  have hwalk : tree.reach (tree.fullWay path) = .ok ⟨(name, entries) :: place.above, node⟩ := by
    rcases place with ⟨above, folder⟩
    cases hfolder
    rw [fullWay_eq_append hname, reach, walk_append hreach,
      (Steps.into hup hlong hentry).walk_cons]
    rfl
  rw [locate, hadmits, hwalk]
  rfl

/-! ## Trees in order -/

/-- Every file of the tree has octets. -/
def Stocked (tree : Tree) : Prop :=
  ∀ way number, (Node.folder tree.root).below? way = some (.file number) →
    number < tree.contents.length

/-- Writing a file preserves that every file has octets. -/
theorem Stocked.writeFile (stocked : tree.Stocked) (h : tree.writeFile path content = .ok after) :
    after.Stocked := by
  intro way number hbelow
  rcases exists_of_writeFile h with
    ⟨-, name, place, entries, -, hreach, hfolder, -, -, ⟨number', -, rfl⟩ | ⟨rfl, -⟩⟩
  · have hlength := stocked way number hbelow
    simpa using hlength
  · have hplace := (stands_of_reach hreach).below?_way
    rw [hfolder] at hplace
    rcases Node.below?_of_putAt hplace hbelow with rfl | hbefore
    · simp
    · have hlength := stocked way number hbefore
      rw [List.length_append]
      exact Nat.lt_of_lt_of_le hlength (Nat.le_add_right _ _)

/-- A file that was put where nothing was is found there. -/
theorem exists_locate_of_putAt {name : String} {place : Place} {entries : List (String × Node)}
    {number : Nat} (hadmits : admits path = .ok ()) (hname : path.parts.getLast? = some name)
    (hreach : tree.reach (tree.fullWay path).dropLast = .ok place)
    (hfolder : place.node = .folder entries) (hup : name ≠ "..")
    (hlong : name.utf8ByteSize ≤ componentLimit) (hnew : Node.entry? entries name = none) :
    ({ tree with
        root := Node.putAt (.file number) (place.way ++ [name]) tree.root
        contents := tree.contents ++ [content] } : Tree).locate path = .ok (.file number) := by
  have hplace := stands_of_reach hreach
  have hbelow := hplace.below?_way
  rw [hfolder] at hbelow
  -- The walk to the folder is the one before, and the folder has the file now.
  have hkept : Kept tree.root (Node.putAt (.file number) (place.way ++ [name]) tree.root) :=
    fun _ _ h => Node.exists_below?_putAt hbelow hnew h
  rcases exists_walk hkept .root .root rfl hreach with ⟨place', hreach', -, hplace', hway⟩
  rcases hplace.exists_folder hkept hplace' hway hfolder with ⟨entries', hfolder'⟩
  have hput := hplace'.below?_way_append hfolder' name
  rw [hway, Node.below?_putAt hbelow] at hput
  exact locate_of_entry hadmits hname hreach' hfolder' hup hlong hput.symm

/-- What was written is read. -/
theorem readFile_of_writeFile (stocked : tree.Stocked)
    (h : tree.writeFile path content = .ok after) :
    after.exists? path = .ok true ∧ after.readFile path = .ok content := by
  suffices hfile : ∃ number, after.locate path = .ok (.file number) ∧
      after.octets number = content by
    rcases hfile with ⟨number, hlocate, hoctets⟩
    constructor
    · rw [exists?, hlocate]
    · rw [readFile, openFile, hlocate]
      exact congrArg Except.ok hoctets
  rcases exists_of_writeFile h with
    ⟨hadmits, name, place, entries, hname, hreach, hfolder, hup, hlong, hcase⟩
  rcases hcase with ⟨number, hentry, rfl⟩ | ⟨rfl, hnew⟩
  · -- The file was there, so it has octets that are replaced.
    have hbelow := (stands_of_reach hreach).below?_way_append hfolder name
    have hlength := stocked _ number (hbelow.trans hentry)
    refine ⟨number, locate_of_entry hadmits hname hreach hfolder hup hlong hentry, ?_⟩
    simp [octets, hlength]
  · refine ⟨_, exists_locate_of_putAt hadmits hname hreach hfolder hup hlong hnew, ?_⟩
    simp [octets]

end Written

end Tree
end ReflectiveCalls
