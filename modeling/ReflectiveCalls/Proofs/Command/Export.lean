import ReflectiveCalls.Proofs.Command.Query
import ReflectiveCalls.Proofs.Files.Writing
import ReflectiveCalls.Proofs.Index.Exports
import ReflectiveCalls.Proofs.Json.RoundTrip
import ReflectiveCalls.Proofs.Octets.Utf8

/-!
# Proofs.Command.Export — the exported file

The index command writes the index to a file as JSON.  Read again with the reader that the program
has for its own files, the file gives the value that was written: whatever texts the signatures and
targets are, the sections, their rows and the targets of each come back in their order.

- `Index.worded_toJson`: the value of an index is made of words and texts;
  `Index.exists_members_toJson`: its members spell the sections.
- `Command.exported`: the octets that are written for an index; `Command.decodeAll_exported`: they
  spell the value of the index.
- `Command.Exported`: they have been written; `Command.Unexported`: how that may fail.
- `Command.exportIndex_cases`: the export fails and leaves the files, or it writes these octets.
- `Command.index_exports`: the file that the index command writes is read back.
-/

namespace ReflectiveCalls

/-! ## The value of an index -/

namespace Index

/-- The value of an index is made of words and texts, an object of objects of arrays. -/
theorem worded_toJson (index : Index) (room : Nat) : Json.Worded (room + 3) index.toJson := by
  refine .obj ?_ ?_
  · have htokens :
        (index.sections.map fun entry => entry.1.token) = Operation.all.map (·.token) := by
      simp [sections]
    rw [List.map_map]
    exact htokens ▸ (by decide : (Operation.all.map (·.token)).Nodup)
  · intro member hmember
    rcases List.mem_map.1 hmember with ⟨⟨operation, rows⟩, hsection, rfl⟩
    rcases List.mem_map.1 hsection with ⟨_, -, heq⟩
    cases heq
    refine .obj ?_ ?_
    · rw [List.map_map]
      exact index.nodup_rows operation
    · intro member hmember
      rcases List.mem_map.1 hmember with ⟨⟨signature, targets⟩, -, rfl⟩
      refine .arr fun item hitem => ?_
      rcases List.mem_map.1 hitem with ⟨target, -, rfl⟩
      exact .str room target

/-- The member spells the row: the signature with the array of its targets. -/
def SpellsRow (row : String × List String) (member : String × Json) : Prop :=
  member = (row.1, .arr (row.2.map .str))

/-- The member spells the section: the token of the operation with an object of the rows. -/
def SpellsSection (entry : Operation × List (String × List String)) (member : String × Json) :
    Prop :=
  ∃ rows, member = (entry.1.token, .obj rows) ∧ List.Forall₂ SpellsRow entry.2 rows

/-- The members of the value of an index spell its sections, one after the other. -/
theorem exists_members_toJson (index : Index) :
    ∃ members, index.toJson = .obj members ∧
      List.Forall₂ SpellsSection index.sections members := by
  refine ⟨_, rfl, List.forall₂_map_right_iff.2 (List.forall₂_same.2 fun entry _ => ?_)⟩
  exact ⟨_, rfl, List.forall₂_map_right_iff.2 (List.forall₂_same.2 fun row _ => rfl)⟩

end Index

namespace Command

variable {settings : Settings} {sources : Sources} {screen after : Screen} {output : String}

/-! ## What is written -/

/-- The octets that are written for an index. -/
def exported (index : Index) : List UInt8 := (Json.write index.toJson).toUTF8.toList

/-- The octets are a text, and the text spells the value of the index. -/
theorem decodeAll_exported (index : Index) :
    ∃ text, Octets.Utf8.decodeAll (exported index) = .ok text ∧
      ∀ room, Json.readWithin (room + 3) (Text.unifyLineEnds text) = .ok index.toJson := by
  refine ⟨(Json.write index.toJson).toList, ?_, fun room =>
    Json.readWithin_write (index.worded_toJson room)⟩
  rw [Octets.Utf8.decodeAll_eq_ok_iff]
  exact Octets.Utf8.toList_toUTF8 _

/-- The index has been written to the path, and the program reads its value from there. -/
structure Exported (index : Index) (path : Path) (screen after : Screen) : Prop where
  written : after.written = screen.written ++ [(path, exported index)]
  read : Model.readValue after.tree path = .ok index.toJson

/-- How the index command may fail to export an index that has been built. -/
inductive Unexported (index : Index) (output : String) (tree : Tree) : Ending → Prop
  /-- The path has tags of its own, so that it cannot be printed. -/
  | unsaid (fault : Markup.Fault) (hplain : ¬Markup.Plain output) :
      Unexported index output tree (.markup fault)
  /-- The files do not let it write to the path. -/
  | unwritten {fault : Files.Fault}
      (hfault : tree.writeFile (Path.ofText output) (exported index) = .error fault) :
      Unexported index output tree (.escaped (.file (Path.ofText output) fault))

theorem readValue_of_readFile {tree : Tree} {path : Path} {index : Index}
    (hexists : tree.exists? path = .ok true) (hread : tree.readFile path = .ok (exported index)) :
    Model.readValue tree path = .ok index.toJson := by
  rcases decodeAll_exported index with ⟨text, htext, hvalue⟩
  rcases Nat.exists_eq_add_of_le' tree.runtime.roomy with ⟨room, hroom⟩
  simp only [Model.readValue, hexists, hread, htext, hroom, hvalue]

/-- The export fails and leaves the files as they are, or the index has been written. -/
theorem exportIndex_cases {index : Index} {result : Except Ending Unit}
    (h : (exportIndex index output).on screen = (result, after)) (stocked : screen.tree.Stocked) :
    (∃ ending, result = .error ending ∧ SameFiles screen after ∧
        Unexported index output screen.tree ending) ∨
      (result = .ok () ∧ Exported index (Path.ofText output) screen after) := by
  unfold exportIndex at h
  rcases (keepsFiles_printStyled _ _).bind_cases h with
    ⟨ending, rfl, hprint, hsame⟩ | ⟨_, middle, -, hsame, hrest⟩
  · rcases not_plain_of_printStyled hprint with ⟨hplain, fault, rfl⟩
    have hunsaid : ¬Markup.Plain output := fun houtput =>
      hplain ((by decide : Markup.Plain "Exporting reflection index to: ").append houtput)
    exact .inl ⟨_, rfl, hsame, .unsaid fault hunsaid⟩
  rw [on_bind_of_ok (on_get middle)] at hrest
  cases hwrite : middle.tree.writeFile (Path.ofText output) (exported index) with
  | error fault =>
      have hunwritten : Unexported index output screen.tree _ := .unwritten (hsame.tree ▸ hwrite)
      unfold exported at hwrite
      rw [hwrite] at hrest
      cases hrest
      exact .inl ⟨_, rfl, hsame, hunwritten⟩
  | ok tree =>
      have hread := Tree.readFile_of_writeFile (hsame.tree ▸ stocked) hwrite
      unfold exported at hwrite
      rw [hwrite] at hrest
      cases hrest
      refine .inr ⟨rfl, congrArg (· ++ _) hsame.written, ?_⟩
      exact readValue_of_readFile hread.1 hread.2

/-- Once the index is built, the index command with a path fails to export it and leaves the files
as they are, or it writes the index to the path. -/
theorem index_cases {built : Index} {middle : Screen} {result : Except Ending Unit}
    (hbuild : (buildIndex settings sources).on screen = (.ok built, middle))
    (h : (index settings sources (some output)).on screen = (result, after))
    (stocked : screen.tree.Stocked) (named : output ≠ "") :
    (∃ ending, result = .error ending ∧ SameFiles screen after ∧
        Unexported built output screen.tree ending) ∨
      (result = .ok () ∧ Exported built (Path.ofText output) screen after) := by
  have hbuilt : SameFiles screen middle := (keepsFiles_buildIndex _ _).sameFiles hbuild
  have hannounced : Markup.Plain "Reflection index built." := by decide
  have htable : (Notice.table (summaryTable built)).written = .ok (summaryTable built).text := rfl
  unfold index at h
  rw [on_bind_of_ok hbuild, on_bind_of_ok (shows_printStyled hannounced.contained .green middle),
    on_bind_of_ok (shows_print htable _), Screen.showing_showing] at h
  have hnonempty : ¬output.isEmpty = true := by simpa using named
  dsimp only at h
  rw [if_neg hnonempty] at h
  -- The files are those of the screen at the start until the index is exported.
  have hstocked : middle.tree.Stocked := hbuilt.tree ▸ stocked
  rcases exportIndex_cases h hstocked with ⟨ending, rfl, hleft, hunexported⟩ | ⟨rfl, hexported⟩
  · rw [Screen.tree_showing, hbuilt.tree] at hunexported
    exact .inl ⟨ending, rfl, hbuilt.trans ((SameFiles.showing middle _).trans hleft), hunexported⟩
  · refine .inr ⟨rfl, ?_, hexported.read⟩
    exact hexported.written.trans (congrArg (· ++ _) hbuilt.written)

/-- The value of an index has members that spell its sections, their rows and the targets of each in
their order.  The octets that are written for the index are a text, and read as JSON, wherever there
is room for three levels, the text gives this value.  Whenever the index is built, the index command
with a path writes these octets there, and the program reads the value of the index from the path
then; if it does not, the files are as they were, and the path has tags for the console or cannot be
written. -/
theorem index_exports (stocked : screen.tree.Stocked) (named : output ≠ "") :
    (∀ index : Index,
        (∃ members, index.toJson = .obj members ∧
          List.Forall₂ Index.SpellsSection index.sections members) ∧
        ∃ text, Octets.Utf8.decodeAll (exported index) = .ok text ∧
          ∀ room, Json.readWithin (room + 3) (Text.unifyLineEnds text) = .ok index.toJson) ∧
      ∀ built middle, (buildIndex settings sources).on screen = (.ok built, middle) →
        match (index settings sources (some output)).on screen with
        | (.ok (), after) => Exported built (Path.ofText output) screen after
        | (.error ending, after) =>
            SameFiles screen after ∧ Unexported built output screen.tree ending := by
  refine ⟨fun index => ⟨index.exists_members_toJson, decodeAll_exported index⟩, ?_⟩
  intro built middle hbuild
  cases hrun : (index settings sources (some output)).on screen with
  | mk result after =>
      rcases index_cases hbuild hrun stocked named with ⟨ending, rfl, hfailed⟩ | ⟨rfl, hexported⟩
      · exact hfailed
      · exact hexported

end Command

/-! ## The small program exported -/

namespace Sample

theorem traced_stocked : traced.Stocked := by
  have hfiles : ∀ entry ∈ traced.root, ∃ number, entry.2 = .file number ∧ number < 2 := by
    simp [traced]
  intro way number hbelow
  cases way with
  | nil => cases hbelow
  | cons name rest =>
      rw [Node.below?] at hbelow
      cases hentry : Node.entry? traced.root name with
      | none => simp [hentry] at hbelow
      | some node =>
          rcases Option.map_eq_some_iff.1 hentry with ⟨entry, hfind, rfl⟩
          rcases hfiles entry (List.mem_of_find?_eq_some hfind) with ⟨found, hfile, hfound⟩
          rw [hentry, hfile] at hbelow
          -- Nothing is below a file.
          cases rest with
          | nil =>
              cases hbelow
              exact hfound
          | cons => cases hbelow

end Sample

namespace Command

/-- The index of the small program is exported, and what the program reads from the file is its
value. -/
theorem index_exports_sample :
    ∃ built after,
      (index Sample.settings Sample.sources (some "out.json")).on Sample.screen = (.ok (), after) ∧
        Exported built (Path.ofText "out.json") Sample.screen after := by
  have hfound : (Sample.shown? "<p.A: void run()>").isSome = true := by
    decide +kernel
  rcases Option.isSome_iff_exists.1 hfound with ⟨found, hfound⟩
  rcases Sample.exists_of_shown? hfound with ⟨built, middle, hbuild, -⟩
  have hexports := (@index_exports Sample.settings Sample.sources Sample.screen "out.json"
    Sample.traced_stocked (by decide)).2 built middle hbuild
  cases hrun : (index Sample.settings Sample.sources (some "out.json")).on Sample.screen with
  | mk result after =>
      rw [hrun] at hexports
      cases result with
      | ok value => exact ⟨built, after, rfl, hexports⟩
      | error ending =>
          -- The path is plain, and there is room for a file in the working folder.
          cases hexports.2 with
          | unsaid fault hplain => exact absurd (by decide) hplain
          | unwritten hfault => cases hfault

end Command
end ReflectiveCalls
