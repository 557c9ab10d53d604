import ReflectiveCalls.Proofs.Json.Strings
import ReflectiveCalls.Proofs.Text.Lines

/-!
# Proofs.Json.RoundTrip — a written value read back

The reader undoes the writer on values that are made of words and texts.  Arrays and objects are
written over several lines and the reader skips the white space between tokens, so what stands
between two tokens never matters; what counts is that every token is followed by something that
cannot be mistaken for a part of it.

- `Json.Worded`: values of words, texts, arrays and objects, nested to some depth, in which no
  object has two members of one name.
- `Json.ReadsBack`: up to some bound the reader undoes the writer; `Json.readsBack` proves it of
  every bound, by induction.
- `Json.readWithin_write`: a written value is read back from the whole text.
-/

namespace ReflectiveCalls
namespace Json

/-! ## Values of words and texts -/

/-- The value is made of words, texts, arrays and objects of distinct names, nested at most as deep
as there is room. -/
inductive Worded : Nat → Json → Prop
  | null (room : Nat) : Worded room .null
  | bool (room : Nat) (truth : Bool) : Worded room (.bool truth)
  | str (room : Nat) (text : String) : Worded room (.str text)
  | arr {room : Nat} {items : List Json} (h : ∀ item ∈ items, Worded room item) :
      Worded (room + 1) (.arr items)
  | obj {room : Nat} {members : List (String × Json)} (distinct : (members.map (·.1)).Nodup)
      (h : ∀ member ∈ members, Worded room member.2) : Worded (room + 1) (.obj members)

/-- Members of distinct names describe the object that has them as they are. -/
theorem ofMembers_of_nodup {members : List (String × Json)}
    (distinct : (members.map (·.1)).Nodup) : ofMembers members = .obj members := by
  suffices hfold : ∀ seen : List (String × Json), ((seen ++ members).map (·.1)).Nodup →
      members.foldl (fun seen entry => setMember seen entry.1 entry.2) seen = seen ++ members by
    exact congrArg Json.obj (hfold [] distinct)
  clear distinct
  induction members with
  | nil => exact fun seen _ => (List.append_nil seen).symm
  | cons member rest ih =>
      intro seen hdistinct
      -- No member that has been seen has the name, so this one comes last.
      have hnew : seen.any (·.1 == member.1) = false := by
        rw [List.map_append, List.nodup_append] at hdistinct
        rw [List.any_eq_false]
        intro other hother hname
        exact hdistinct.2.2 _ (List.mem_map_of_mem hother) _ (by simp) (beq_iff_eq.1 hname)
      have hset : setMember seen member.1 member.2 = seen ++ [member] := by
        simp [setMember, hnew]
      rw [List.foldl_cons, hset, ih _ (by simpa using hdistinct)]
      simp

/-! ## White space -/

theorem skipSpace_cons {c : Char} (h : isSpace c = false) (rest : List Char) :
    skipSpace (c :: rest) = c :: rest := by
  simp [skipSpace, h]

theorem skipSpace_newLine (level : Nat) (rest : List Char) :
    skipSpace (newLine level ++ rest) = skipSpace rest := by
  have hspaces : ∀ c ∈ newLine level, isSpace c = true := by
    intro c hc
    rcases List.mem_cons.1 hc with rfl | hc
    · rfl
    · rw [List.eq_of_mem_replicate hc]
      rfl
  exact List.dropWhile_append_of_pos hspaces

/-- A written value begins with a character that is no white space and closes nothing. -/
theorem exists_written {room : Nat} {value : Json} (h : Worded room value) (level : Nat) :
    ∃ first rest, written level value = first :: rest ∧ isSpace first = false ∧ first ≠ ']' ∧
      Printable first := by
  cases h with
  | null => exact ⟨'n', ['u', 'l', 'l'], by rw [written]; rfl, by decide⟩
  | bool _ truth =>
      cases truth with
      | true => exact ⟨'t', ['r', 'u', 'e'], by rw [written]; rfl, by decide⟩
      | false => exact ⟨'f', ['a', 'l', 's', 'e'], by rw [written]; rfl, by decide⟩
  | str _ text => exact ⟨'"', _, by rw [written, writtenString], by decide⟩
  | @arr _ items =>
      cases items with
      | nil => exact ⟨'[', _, by rw [written], by decide⟩
      | cons item rest => exact ⟨'[', _, by rw [written], by decide⟩
  | @obj _ members =>
      cases members with
      | nil => exact ⟨'\x7b', _, by rw [written], by decide⟩
      | cons member rest => exact ⟨'\x7b', _, by rw [written], by decide⟩

/-! ## Reading what is written -/

/-- Up to the bound, the reader undoes the writer: on a value, on the items of an array from one of
them on, and on the members of an object from one of them on, whatever follows them. -/
structure ReadsBack (bound : Nat) : Prop where
  value : ∀ {room : Nat} {json : Json}, Worded room json → ∀ (level : Nat) (rest : List Char),
    (written level json).length ≤ bound →
    Json.value room bound (written level json ++ rest) = .ok (json, rest)
  items : ∀ {room : Nat} {item : Json} {others : List Json}, Worded room item →
    (∀ other ∈ others, Worded room other) →
    ∀ (level outer : Nat) (done : List Json) (rest : List Char),
    (written level item ++ writtenItems level others).length < bound →
    Json.items room bound done
      (written level item ++ (writtenItems level others ++ (newLine outer ++ ']' :: rest))) =
      .ok (.arr (done.reverse ++ item :: others), rest)
  members : ∀ {room : Nat} {name : String} {json : Json} {others : List (String × Json)},
    Worded room json → (∀ other ∈ others, Worded room other.2) →
    ∀ (level outer : Nat) (done : List (String × Json)) (rest : List Char),
    (writtenString name ++ ([':', ' '] ++ (written level json ++
      writtenMembers level others))).length < bound →
    Json.members room bound done
      (writtenString name ++ ([':', ' '] ++ (written level json ++
        (writtenMembers level others ++ (newLine outer ++ '\x7d' :: rest))))) =
      .ok (ofMembers (done.reverse ++ (name, json) :: others), rest)

namespace ReadsBack

variable {bound room : Nat}

/-- The first item of an array is where the white space after the bracket ends. -/
theorem value_arr_cons (ih : ReadsBack bound) {item : Json} {others : List Json}
    (hitems : ∀ other ∈ item :: others, Worded room other) (level : Nat) (rest : List Char)
    (hbound : (written level (.arr (item :: others))).length ≤ bound + 1) :
    Json.value (room + 1) (bound + 1) (written level (.arr (item :: others)) ++ rest) =
      .ok (.arr (item :: others), rest) := by
  have hitem := hitems item List.mem_cons_self
  have hothers : ∀ other ∈ others, Worded room other := fun other hother =>
    hitems other (List.mem_cons_of_mem _ hother)
  rcases exists_written hitem (level + 1) with ⟨first, tail, hwritten, hspace, hclose, -⟩
  rw [written] at hbound ⊢
  simp only [List.cons_append, List.append_assoc, List.length_cons, List.length_append] at hbound ⊢
  have hread := ih.items hitem hothers (level + 1) level [] rest
    (by rw [List.length_append]; omega)
  rw [Json.value, if_neg (Nat.succ_ne_zero room), skipSpace_newLine]
  rw [hwritten, List.cons_append] at hread ⊢
  rw [skipSpace_cons hspace]
  split
  · next heq =>
      cases heq
      exact absurd rfl hclose
  · exact hread

/-- The name of the first member is where the white space after the brace ends. -/
theorem value_obj_cons (ih : ReadsBack bound) {name : String} {json : Json}
    {others : List (String × Json)} (hdistinct : (((name, json) :: others).map (·.1)).Nodup)
    (hmembers : ∀ member ∈ (name, json) :: others, Worded room member.2) (level : Nat)
    (rest : List Char)
    (hbound : (written level (.obj ((name, json) :: others))).length ≤ bound + 1) :
    Json.value (room + 1) (bound + 1) (written level (.obj ((name, json) :: others)) ++ rest) =
      .ok (.obj ((name, json) :: others), rest) := by
  have hjson := hmembers (name, json) List.mem_cons_self
  have hothers : ∀ other ∈ others, Worded room other.2 := fun other hother =>
    hmembers other (List.mem_cons_of_mem _ hother)
  rw [written] at hbound ⊢
  simp only [List.cons_append, List.nil_append, List.append_assoc, List.length_cons,
    List.length_append] at hbound ⊢
  have hread := @ReadsBack.members _ ih _ name _ _ hjson hothers (level + 1) level [] rest
    (by simp only [List.length_cons, List.length_append, List.length_nil]; omega)
  rw [List.reverse_nil, List.nil_append, ofMembers_of_nodup hdistinct] at hread
  rw [Json.value, if_neg (Nat.succ_ne_zero room), skipSpace_newLine]
  rw [writtenString, List.cons_append] at hread ⊢
  rw [skipSpace_cons (by decide : isSpace '"' = false)]
  exact hread

/-- After an item, either the bracket closes or a comma leads to the next item. -/
theorem items_cons (ih : ReadsBack bound) {item : Json} {others : List Json}
    (hitem : Worded room item) (hothers : ∀ other ∈ others, Worded room other)
    (level outer : Nat) (done : List Json) (rest : List Char)
    (hbound : (written level item ++ writtenItems level others).length < bound + 1) :
    Json.items room (bound + 1) done
      (written level item ++ (writtenItems level others ++ (newLine outer ++ ']' :: rest))) =
      .ok (.arr (done.reverse ++ item :: others), rest) := by
  rw [List.length_append] at hbound
  rw [Json.items, ih.value hitem level _ (by omega)]
  cases others with
  | nil =>
      rw [writtenItems, List.nil_append]
      simp only [skipSpace_newLine, skipSpace_cons (by decide : isSpace ']' = false),
        List.reverse_cons]
  | cons next others =>
      have hnext := hothers next List.mem_cons_self
      rcases exists_written hnext level with ⟨first, tail, hwritten, hspace, -⟩
      rw [writtenItems] at hbound ⊢
      simp only [List.cons_append, List.append_assoc, List.length_cons, List.length_append]
        at hbound ⊢
      have hread := ih.items hnext
        (fun other hother => hothers other (List.mem_cons_of_mem _ hother))
        level outer (item :: done) rest (by rw [List.length_append]; omega)
      rw [hwritten, List.cons_append] at hread ⊢
      simp only [skipSpace_cons (by decide : isSpace ',' = false), skipSpace_newLine,
        skipSpace_cons hspace]
      rw [hread]
      simp

/-- After a member, either the brace closes or a comma leads to the next member. -/
theorem members_cons (ih : ReadsBack bound) {name : String} {json : Json}
    {others : List (String × Json)} (hjson : Worded room json)
    (hothers : ∀ other ∈ others, Worded room other.2)
    (level outer : Nat) (done : List (String × Json)) (rest : List Char)
    (hbound : (writtenString name ++ ([':', ' '] ++ (written level json ++
      writtenMembers level others))).length < bound + 1) :
    Json.members room (bound + 1) done
      (writtenString name ++ ([':', ' '] ++ (written level json ++
        (writtenMembers level others ++ (newLine outer ++ '\x7d' :: rest))))) =
      .ok (ofMembers (done.reverse ++ (name, json) :: others), rest) := by
  simp only [List.length_append, List.length_cons, List.length_nil] at hbound
  -- The blank after the colon is skipped, and the value begins where it ends.
  have hvalue : ∀ more, Json.value room bound (skipSpace (' ' :: (written level json ++ more))) =
      .ok (json, more) := by
    intro more
    rcases exists_written hjson level with ⟨first, tail, hwritten, hspace, -⟩
    have hskip : skipSpace (' ' :: (written level json ++ more)) = written level json ++ more := by
      rw [hwritten, List.cons_append]
      exact skipSpace_cons hspace _
    rw [hskip]
    exact ih.value hjson level more (by omega)
  simp only [writtenString, List.cons_append, List.append_assoc, List.nil_append, Json.members,
    string_written, skipSpace_cons (by decide : isSpace ':' = false), hvalue]
  cases others with
  | nil =>
      rw [writtenMembers, List.nil_append]
      simp only [skipSpace_newLine, skipSpace_cons (by decide : isSpace '\x7d' = false),
        List.reverse_cons]
  | cons next others =>
      rcases next with ⟨name', json'⟩
      have hnext := hothers (name', json') List.mem_cons_self
      rw [writtenMembers] at hbound ⊢
      simp only [List.cons_append, List.append_assoc, List.nil_append, List.length_cons,
        List.length_append] at hbound ⊢
      have hread := @ReadsBack.members _ ih _ name' _ _ hnext
        (fun other hother => hothers other (List.mem_cons_of_mem _ hother))
        level outer ((name, json) :: done) rest
        (by simp only [List.length_cons, List.length_append, List.length_nil]; omega)
      rw [writtenString, List.cons_append] at hread ⊢
      simp only [skipSpace_cons (by decide : isSpace ',' = false), skipSpace_newLine,
        skipSpace_cons (by decide : isSpace '"' = false)]
      simp only [List.cons_append, List.append_assoc, List.nil_append] at hread ⊢
      rw [hread]
      simp

end ReadsBack

/-- Whatever the bound, the reader undoes the writer up to it. -/
theorem readsBack (bound : Nat) : ReadsBack bound := by
  -- By induction on the bound: each token that is read takes a character and one of the bound.
  induction bound with
  | zero =>
      constructor
      case value =>
        intro room json hjson level rest hbound
        rcases exists_written hjson level with ⟨first, tail, hwritten, -⟩
        rw [hwritten] at hbound
        cases hbound
      case items =>
        intro room item others _ _ level outer done rest hbound
        exact absurd hbound (Nat.not_lt_zero _)
      case members =>
        intro room name json others _ _ level outer done rest hbound
        exact absurd hbound (Nat.not_lt_zero _)
  | succ bound ih =>
      constructor
      case value =>
        intro room json hjson level rest hbound
        cases hjson with
        | null => simp [written, value]
        | bool _ truth => cases truth <;> simp [written, value]
        | str _ text => simp [written, writtenString, value, string_written]
        | @arr room items hitems =>
            cases items with
            | nil => simp [written, value, skipSpace_cons (by decide : isSpace ']' = false)]
            | cons item others => exact ih.value_arr_cons hitems level rest hbound
        | @obj room members hdistinct hmembers =>
            cases members with
            | nil => simp [written, value, skipSpace_cons (by decide : isSpace '\x7d' = false)]
            | cons member others => exact ih.value_obj_cons hdistinct hmembers level rest hbound
      case items =>
        intro room item others hitem hothers level outer done rest hbound
        exact ih.items_cons hitem hothers level outer done rest hbound
      case members =>
        intro room name json others hjson hothers level outer done rest hbound
        exact ih.members_cons hjson hothers level outer done rest hbound

/-! ## Whole texts -/

/-- The characters are printable ones and line feeds. -/
def Laid (cs : List Char) : Prop := ∀ c ∈ cs, Printable c ∨ c = '\n'

instance : DecidablePred Laid := fun cs =>
  List.decidableBAll (fun c => Printable c ∨ c = '\n') cs

theorem laid_cons {c : Char} {cs : List Char} :
    Laid (c :: cs) ↔ (Printable c ∨ c = '\n') ∧ Laid cs := List.forall_mem_cons

theorem laid_append {cs others : List Char} : Laid (cs ++ others) ↔ Laid cs ∧ Laid others :=
  List.forall_mem_append

theorem laid_newLine (level : Nat) : Laid (newLine level) := by
  refine laid_cons.2 ⟨.inr rfl, fun c hc => .inl ?_⟩
  rw [List.eq_of_mem_replicate hc]
  decide

theorem laid_writtenString (text : String) : Laid (writtenString text) :=
  fun _ hc => .inl (printable_of_mem_writtenString hc)

theorem laid_writtenItems {level : Nat} {items : List Json}
    (h : ∀ item ∈ items, Laid (written level item)) : Laid (writtenItems level items) := by
  induction items with
  | nil => exact List.forall_mem_nil _
  | cons item rest ih =>
      rw [List.forall_mem_cons] at h
      rw [writtenItems]
      simp only [laid_cons, laid_append]
      exact ⟨.inl (by decide), ⟨laid_newLine level, h.1⟩, ih h.2⟩

theorem laid_writtenMembers {level : Nat} {members : List (String × Json)}
    (h : ∀ member ∈ members, Laid (written level member.2)) :
    Laid (writtenMembers level members) := by
  induction members with
  | nil => exact List.forall_mem_nil _
  | cons member rest ih =>
      rw [List.forall_mem_cons] at h
      rw [writtenMembers]
      simp only [laid_cons, laid_append]
      exact ⟨.inl (by decide), ⟨⟨⟨laid_newLine level, laid_writtenString _⟩, .inl (by decide),
        .inl (by decide), List.forall_mem_nil _⟩, h.1⟩, ih h.2⟩

/-- A value of words and texts is written with printable characters and line feeds. -/
theorem laid_written {room : Nat} {value : Json} (h : Worded room value) (level : Nat) :
    Laid (written level value) := by
  -- By induction on the value; what stands between its parts is laid at any level.
  induction h generalizing level with
  | null => rw [written]; decide
  | bool _ truth => cases truth <;> rw [written] <;> decide
  | str _ text => rw [written]; exact laid_writtenString text
  | @arr _ items _ ih =>
      cases items with
      | nil => rw [written]; decide
      | cons item rest =>
          have hitem := ih item List.mem_cons_self (level + 1)
          have hrest := laid_writtenItems fun other hother =>
            ih other (List.mem_cons_of_mem _ hother) (level + 1)
          rw [written]
          simp only [laid_cons, laid_append]
          exact ⟨.inl (by decide), ⟨⟨⟨laid_newLine _, hitem⟩, hrest⟩, laid_newLine _⟩,
            .inl (by decide), List.forall_mem_nil _⟩
  | @obj _ members _ _ ih =>
      cases members with
      | nil => rw [written]; decide
      | cons member rest =>
          have hmember := ih member List.mem_cons_self (level + 1)
          have hrest := laid_writtenMembers fun other hother =>
            ih other (List.mem_cons_of_mem _ hother) (level + 1)
          rw [written]
          simp only [laid_cons, laid_append]
          exact ⟨.inl (by decide), ⟨⟨⟨⟨⟨laid_newLine _, laid_writtenString _⟩, .inl (by decide),
            .inl (by decide), List.forall_mem_nil _⟩, hmember⟩, hrest⟩, laid_newLine _⟩,
            .inl (by decide), List.forall_mem_nil _⟩

/-- The text of a value of words and texts is read back as that value, where there is room for
it. -/
theorem readWithin_write {room : Nat} {value : Json} (h : Worded room value) :
    readWithin room (Text.unifyLineEnds (write value).toList) = .ok value := by
  have hreturn : '\r' ∉ written 0 value := by
    intro hmem
    rcases laid_written h 0 _ hmem with hprintable | hfeed
    · exact absurd hprintable (by decide)
    · exact absurd hfeed (by decide)
  rcases exists_written h 0 with ⟨first, rest, hwritten, hspace, -, hfirst⟩
  have hmark : (written 0 value).head? ≠ some '\uFEFF' := by
    rw [hwritten, List.head?_cons, Ne, Option.some.injEq]
    rintro rfl
    exact absurd hfirst (by decide)
  have hskip : skipSpace (written 0 value) = written 0 value := by
    rw [hwritten, skipSpace_cons hspace]
  have hvalue := (readsBack (2 * (written 0 value).length + 2)).value h 0 [] (by omega)
  rw [List.append_nil] at hvalue
  rw [write, String.toList_ofList, Text.unifyLineEnds_of_not_mem hreturn, readWithin, if_neg hmark,
    hskip, hvalue]
  rfl

end Json
end ReflectiveCalls
