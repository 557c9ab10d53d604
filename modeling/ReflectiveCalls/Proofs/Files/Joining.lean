import ReflectiveCalls.Proofs.Files.Writing
import ReflectiveCalls.Proofs.Text.Pieces

/-!
# Proofs.Files.Joining — paths that lead on from a folder

Texts put after a path add their components to it, unless one of them has a root of its own: then
the path is forgotten.  Components that do not lead up lead from a folder to what is below it, so
different ones lead to different places.

- `Path.Rooted`: a text that begins anew.
- `Path.joinAll_of_unrooted`, `Path.joinAll_of_rooted`: texts put after a path.
- `Path.componentsOf_of_plain`, `Path.componentsOf_ne_nil`: the components of a text without points.
- `Path.Beneath`: a path that leads on from a folder.
- `Tree.way_of_walk`: where a walk leads that does not lead up.
-/

namespace ReflectiveCalls

namespace Path

variable {path : Path} {text name : String} {texts front : List String} {cs : List Char}

/-! ## Components of a text -/

theorem componentsOf_nil : componentsOf [] = [] := rfl

/-- A text in which there is neither a slash nor a point is one component. -/
theorem componentsOf_of_plain (hne : cs ≠ []) (hslash : '/' ∉ cs) (hpoint : '.' ∉ cs) :
    componentsOf cs = [String.ofList cs] := by
  have hpiece : isComponent cs = true := by
    have hdot : cs ≠ ['.'] := by
      rintro rfl
      exact hpoint List.mem_cons_self
    simp [isComponent, hne, hdot]
  simp [componentsOf, Text.split_of_not_mem hslash, hpiece]

/-- A text that is not empty and does not begin with a slash has a component, if there is no point
in it. -/
theorem componentsOf_ne_nil {c : Char} {rest : List Char} (hslash : c ≠ '/')
    (hpoint : '.' ∉ c :: rest) : componentsOf (c :: rest) ≠ [] := by
  obtain ⟨piece, pieces, hsplit⟩ := List.exists_cons_of_ne_nil (Text.split_ne_nil '/' rest)
  have hdot : c ≠ '.' := fun h => hpoint (h ▸ List.mem_cons_self)
  -- The piece up to the first slash begins with the first character.
  have hpiece : isComponent (c :: piece) = true := by simp [isComponent, hdot]
  simp [componentsOf, Text.split_cons_of_ne hslash hsplit, hpiece]

/-- There is no point in the components of a text without points. -/
theorem not_mem_of_mem_componentsOf (hpoint : '.' ∉ cs) (hname : name ∈ componentsOf cs) :
    '.' ∉ name.toList := by
  obtain ⟨piece, hpiece, rfl⟩ := List.mem_map.1 hname
  have hsubset := (Text.joined_split '/' cs).subset (List.mem_filter.1 hpiece).1
  rw [String.toList_ofList]
  exact fun h => hpoint (hsubset h)

/-! ## Texts put after a path -/

/-- The text has a root of its own. -/
def Rooted (text : String) : Prop := rootOf text.toList ≠ .here

instance : DecidablePred Rooted := fun text =>
  inferInstanceAs (Decidable (rootOf text.toList ≠ .here))

/-- A text has a root exactly if it begins with a slash. -/
theorem rooted_iff : Rooted text ↔ ∃ rest, text.toList = '/' :: rest := by
  unfold Rooted
  generalize text.toList = cs
  constructor
  · intro h
    by_contra hnone
    apply h
    unfold rootOf
    split
    · exact absurd ⟨_, rfl⟩ hnone
    · exact absurd ⟨_, rfl⟩ hnone
    · exact absurd ⟨_, rfl⟩ hnone
    · rfl
  · rintro ⟨rest, rfl⟩
    unfold rootOf
    split
    · simp
    · simp
    · simp
    · next h => exact absurd rfl (h rest)

theorem join_of_unrooted (h : ¬Rooted text) :
    path.join text = ⟨path.root, path.parts ++ componentsOf text.toList⟩ := by
  have hroot : (ofText text).root = .here := not_not.1 h
  unfold join
  simp only [hroot]
  rfl

theorem join_of_rooted (h : Rooted text) : path.join text = ofText text := by
  unfold join
  dsimp only
  split
  · next hroot => exact absurd hroot h
  · rfl

theorem joinAll_cons (path : Path) (text : String) (rest : List String) :
    path.joinAll (text :: rest) = (path.join text).joinAll rest := rfl

/-- Texts without roots add their components. -/
theorem joinAll_of_unrooted (h : ∀ text ∈ texts, ¬Rooted text) (path : Path) :
    path.joinAll texts =
      ⟨path.root, path.parts ++ texts.flatMap fun text => componentsOf text.toList⟩ := by
  -- By induction on the texts, whatever path they are put after.
  induction texts generalizing path with
  | nil => simp [joinAll]
  | cons text rest ih =>
      have hrest : ∀ text ∈ rest, ¬Rooted text := fun other hother =>
        h other (List.mem_cons_of_mem _ hother)
      rw [joinAll_cons, ih hrest, join_of_unrooted (h text List.mem_cons_self), List.flatMap_cons,
        List.append_assoc]

/-- A text with a root begins anew, whatever path it is put after. -/
theorem joinAll_of_rooted (h : ∃ text ∈ texts, Rooted text) (path other : Path) :
    path.joinAll texts = other.joinAll texts ∧ (path.joinAll texts).root ≠ .here := by
  induction texts generalizing path other with
  | nil =>
      obtain ⟨text, htext, -⟩ := h
      cases htext
  | cons text rest ih =>
      by_cases hrest : ∃ text ∈ rest, Rooted text
      · exact ih hrest (path.join text) (other.join text)
      · -- The first text is the last one with a root, so its root stays.
        have hunrooted : ∀ text ∈ rest, ¬Rooted text :=
          fun later hlater hrooted => hrest ⟨later, hlater, hrooted⟩
        have hfirst : Rooted text := by
          obtain ⟨found, hfound, hrooted⟩ := h
          rcases List.mem_cons.1 hfound with rfl | hfound
          · exact hrooted
          · exact absurd hrooted (hunrooted found hfound)
        rw [joinAll_cons, joinAll_cons, join_of_rooted hfirst, join_of_rooted hfirst,
          joinAll_of_unrooted hunrooted]
        exact ⟨rfl, hfirst⟩

/-! ## The last component -/

/-- A name without points has no extension. -/
theorem stemOf_of_not_mem (h : '.' ∉ cs) : stemOf cs = cs := by
  unfold stemOf
  rw [Text.splitLast?_of_not_mem h]

/-- The extension of the last component is replaced, and no other component is changed. -/
theorem withExtension?_of_parts (h : path.parts = front ++ [name]) (extension : String) :
    path.withExtension? extension =
      some ⟨path.root, front ++ [String.ofList (stemOf name.toList) ++ extension]⟩ := by
  simp [withExtension?, h]

/-- A path with another extension has the root and as many components as before. -/
theorem of_withExtension? {file : Path} {extension : String}
    (h : path.withExtension? extension = some file) :
    file.root = path.root ∧ file.parts.length = path.parts.length := by
  unfold withExtension? at h
  cases hlast : path.parts.getLast? with
  | none => simp [hlast] at h
  | some last =>
      rw [hlast] at h
      cases h
      obtain ⟨front, hparts⟩ := List.getLast?_eq_some_iff.1 hlast
      simp [hparts]

/-! ## Beneath a folder -/

/-- The path leads on from the folder: its components are those of the folder and then others. -/
def Beneath (path folder : Path) : Prop :=
  path.root = folder.root ∧ ∃ below, below ≠ [] ∧ path.parts = folder.parts ++ below

/-- A path whose root is not that of the folder does not lead on from it. -/
theorem not_beneath_of_root {folder : Path} (h : path.root ≠ folder.root) :
    ¬path.Beneath folder := fun hbeneath => h hbeneath.1

/-- A path with as many components as the folder does not lead on from it. -/
theorem not_beneath_of_length {folder : Path} (h : path.parts.length = folder.parts.length) :
    ¬path.Beneath folder := by
  rintro ⟨-, below, hne, hparts⟩
  rw [hparts, List.length_append] at h
  exact hne (List.length_eq_zero_iff.1 (Nat.add_eq_left.1 h))

end Path

/-! ## Walks -/

namespace Tree

variable {tree : Tree} {place found : Place} {parts more : List String}

/-- A walk along components and further ones is a walk along the first and then one along the
others. -/
theorem exists_of_walk_append (h : walk place (parts ++ more) = .ok found) :
    ∃ middle, walk place parts = .ok middle ∧ walk middle more = .ok found := by
  induction parts generalizing place with
  | nil => exact ⟨place, rfl, h⟩
  | cons part rest ih =>
      obtain ⟨next, hstep, hrest⟩ := exists_steps_of_walk h
      obtain ⟨middle, hmiddle, hmore⟩ := ih hrest
      exact ⟨middle, (hstep.walk_cons rest).trans hmiddle, hmore⟩

/-- A walk that does not lead up leads down along just its components. -/
theorem way_of_walk (hdown : ".." ∉ parts) (h : walk place parts = .ok found) :
    found.way = place.way ++ parts := by
  -- By induction on the components: each step adds one, wherever the walk has come to.
  induction parts generalizing place with
  | nil =>
      cases h
      rw [List.append_nil]
  | cons part rest ih =>
      obtain ⟨next, hstep, hrest⟩ := exists_steps_of_walk h
      rw [List.mem_cons, not_or] at hdown
      rw [ih hdown.2 hrest]
      cases hstep with
      | up => exact absurd rfl hdown.1
      | top => exact absurd rfl hdown.1
      | into _ _ _ => rw [Place.way_cons, List.append_assoc, List.singleton_append]

/-- Where there is a file, there is something. -/
theorem exists?_of_isFile {path : Path} (h : tree.isFile path = .ok true) :
    tree.exists? path = .ok true := by
  unfold isFile at h
  unfold exists?
  cases hlocate : tree.locate path with
  | ok node => rfl
  | error fault => cases fault <;> simp [hlocate] at h

theorem fullWay_append (tree : Tree) (folder : Path) (below : List String) :
    tree.fullWay ⟨folder.root, folder.parts ++ below⟩ = tree.fullWay folder ++ below := by
  unfold fullWay
  cases folder.root <;> simp

/-- What is found at a path that leads down from a folder is below that folder. -/
theorem exists_reach_folder {folder : Path} {below : List String} (hdown : ".." ∉ below)
    (h : tree.reach (tree.fullWay ⟨folder.root, folder.parts ++ below⟩) = .ok found) :
    ∃ base, tree.reach (tree.fullWay folder) = .ok base ∧ found.way = base.way ++ below := by
  rw [fullWay_append] at h
  obtain ⟨base, hbase, hbelow⟩ := exists_of_walk_append h
  exact ⟨base, hbase, way_of_walk hdown hbelow⟩

end Tree
end ReflectiveCalls
