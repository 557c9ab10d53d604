import ReflectiveCalls.Command.Run
import ReflectiveCalls.Proofs.Action
import ReflectiveCalls.Proofs.Console.Markup

/-!
# Proofs.Command.Steps — laws of commands

What a command does on a screen, for the operators that commands are built from, and what building
the index does: it looks at the files of the screen and leaves them alone.

- `Command.on`: how a command ends on a screen, and the screen that it leaves.
- `Command.on_bind`, `Command.exists_of_bind_ok`: a sequence, and one that succeeds taken apart.
- `Command.KeepsFiles`: a command that neither changes nor writes files.
- `Command.Shows`: a command that hands something to the console and does nothing else;
  `Command.shows_printStyled`: a text in which no tag comes up is printed.
- `Command.exists_of_buildIndex`: an index that has been built is that of the trace over the model;
  `Command.exists_on_buildIndex`: over files with plain names that index is built.
-/

namespace ReflectiveCalls
namespace Command

variable {α β : Type}

/-- How the command ends on a screen, and what it leaves there. -/
def on (command : Command α) (screen : Screen) : Except Ending α × Screen :=
  (ExceptT.run command).run screen

/-! ## Operators -/

section Operators

variable {command : Command α} {next : α → Command β} {screen after : Screen}

theorem on_get (screen : Screen) : (get : Command Screen).on screen = (.ok screen, screen) :=
  rfl

theorem on_modify (change : Screen → Screen) (screen : Screen) :
    (modify change : Command Unit).on screen = (.ok (), change screen) := rfl

theorem on_bind (command : Command α) (next : α → Command β) (screen : Screen) :
    (command >>= next).on screen =
      match command.on screen with
      | (.ok value, after) => (next value).on after
      | (.error ending, after) => (.error ending, after) := by
  change StateT.run (ExceptT.run (command >>= next)) screen = _
  rw [ExceptT.run_bind, StateT.run_bind]
  unfold on
  cases StateT.run (ExceptT.run command) screen with
  | mk result after => cases result <;> rfl

theorem on_bind_of_ok {value : α} (h : command.on screen = (.ok value, after))
    (next : α → Command β) : (command >>= next).on screen = (next value).on after := by
  rw [on_bind, h]

/-- A sequence that succeeds: both of its steps do, the second from where the first ended. -/
theorem exists_of_bind_ok {value : β} (h : (command >>= next).on screen = (.ok value, after)) :
    ∃ first middle, command.on screen = (.ok first, middle) ∧
      (next first).on middle = (.ok value, after) := by
  rw [on_bind] at h
  cases hfirst : command.on screen with
  | mk result middle =>
      rw [hfirst] at h
      cases result with
      | ok first => exact ⟨first, middle, rfl, h⟩
      | error ending => cases h

end Operators

/-! ## Files -/

/-- The one screen has the files of the other, and the same files have been written. -/
structure SameFiles (screen after : Screen) : Prop where
  tree : after.tree = screen.tree
  written : after.written = screen.written

theorem SameFiles.trans {screen middle after : Screen} (h : SameFiles screen middle)
    (hafter : SameFiles middle after) : SameFiles screen after :=
  ⟨hafter.tree.trans h.tree, hafter.written.trans h.written⟩

theorem SameFiles.showing (screen : Screen) (notices : List Notice) :
    SameFiles screen (screen.showing notices) := ⟨rfl, rfl⟩

/-- The command neither changes nor writes files. -/
def KeepsFiles (command : Command α) : Prop := ∀ screen, SameFiles screen (command.on screen).2

namespace KeepsFiles

theorem pure (value : α) : KeepsFiles (Pure.pure value : Command α) := fun _ => ⟨rfl, rfl⟩

theorem throw (ending : Ending) : KeepsFiles (throw ending : Command α) := fun _ => ⟨rfl, rfl⟩

theorem get : KeepsFiles (get : Command Screen) := fun _ => ⟨rfl, rfl⟩

theorem bind {command : Command α} {next : α → Command β} (hfirst : KeepsFiles command)
    (hnext : ∀ value, KeepsFiles (next value)) : KeepsFiles (command >>= next) := by
  intro screen
  have hmiddle := hfirst screen
  rw [on_bind]
  cases hon : command.on screen with
  | mk result middle =>
      rw [hon] at hmiddle
      cases result with
      | error ending => exact hmiddle
      | ok value =>
          exact hmiddle.trans (hnext value middle)

/-- A command that succeeds leaves the files that it keeps. -/
theorem sameFiles {command : Command α} (h : KeepsFiles command) {screen after : Screen} {value : α}
    (hon : command.on screen = (.ok value, after)) : SameFiles screen after := by
  have hsame := h screen
  rw [hon] at hsame
  exact hsame

/-- A sequence whose first step keeps the files: it ends as that step does, and the files are the
same, or it goes on with the same files. -/
theorem bind_cases {command : Command α} {next : α → Command β} (h : KeepsFiles command)
    {screen after : Screen} {result : Except Ending β}
    (hon : (command >>= next).on screen = (result, after)) :
    (∃ ending, result = .error ending ∧ command.on screen = (.error ending, after) ∧
        SameFiles screen after) ∨
      ∃ value middle, command.on screen = (.ok value, middle) ∧ SameFiles screen middle ∧
        (next value).on middle = (result, after) := by
  have hsame := h screen
  rw [on_bind] at hon
  cases hfirst : command.on screen with
  | mk first middle =>
      rw [hfirst] at hon hsame
      cases first with
      | error ending =>
          cases hon
          exact .inl ⟨ending, rfl, rfl, hsame⟩
      | ok value => exact .inr ⟨value, middle, rfl, hsame, hon⟩

end KeepsFiles

theorem keepsFiles_print (notice : Notice) : KeepsFiles (print notice) := by
  unfold print
  cases notice.written with
  | error fault => exact .throw _
  | ok written => exact fun screen => .showing screen _

theorem keepsFiles_printStyled (text : String) (colour : Markup.Colour) :
    KeepsFiles (printStyled text colour) := keepsFiles_print _

theorem keepsFiles_perform {σ : Type} (action : Action σ α) (state : σ) :
    KeepsFiles (perform action state) := by
  unfold perform
  refine .bind (fun _ => ⟨rfl, rfl⟩) fun _ => ?_
  split
  · exact .pure _
  · exact .pure _
  · exact .throw _

theorem keepsFiles_giveUp (intro : String) (report : Report) :
    KeepsFiles (giveUp intro report : Command α) :=
  .bind (keepsFiles_printStyled _ _) fun _ => .throw _

theorem keepsFiles_configured (setting : Except Failure α) : KeepsFiles (configured setting) := by
  unfold configured
  split
  · exact .pure _
  · exact keepsFiles_giveUp _ _
  · exact .throw _

/-! ## Printing -/

/-- The command gives the value and hands the notices to the console, and does nothing else. -/
def Shows (command : Command α) (value : α) (notices : List Notice) : Prop :=
  ∀ screen, command.on screen = (.ok value, screen.showing notices)

theorem shows_print {notice : Notice} {written : String} (h : notice.written = .ok written) :
    Shows (print notice) () [notice] := by
  intro screen
  unfold print
  rw [h]
  rfl

/-- A text in which no tag comes up is printed in a style. -/
theorem shows_printStyled {text : String} (h : Markup.Contained text.toList)
    (colour : Markup.Colour) :
    Shows (printStyled text colour) () [.marked (Markup.style text colour .bold)] := by
  rcases Markup.exists_written_style h colour .bold with ⟨shown, hshown⟩
  have hnotice : (Notice.marked (Markup.style text colour .bold)).written = .ok shown := hshown
  exact shows_print hnotice

namespace Shows

theorem pure (value : α) : Shows (Pure.pure value) value [] := by
  intro screen
  rw [Screen.showing, List.append_nil]
  rfl

theorem bind {first : Command α} {next : α → Command β} {value : α} {result : β}
    {notices later : List Notice} (hfirst : Shows first value notices)
    (hnext : Shows (next value) result later) :
    Shows (first >>= next) result (notices ++ later) := by
  intro screen
  rw [on_bind_of_ok (hfirst screen), hnext, Screen.showing_showing]

end Shows

/-- A text that is not printed in a style is not plain. -/
theorem not_plain_of_printStyled {text : String} {colour : Markup.Colour} {screen after : Screen}
    {ending : Ending} (h : (printStyled text colour).on screen = (.error ending, after)) :
    ¬Markup.Plain text ∧ ∃ fault, ending = .markup fault := by
  constructor
  · intro hplain
    rw [shows_printStyled hplain.contained] at h
    cases h
  · unfold printStyled print at h
    split at h
    · cases h
      exact ⟨_, rfl⟩
    · cases h

/-! ## Performing steps -/

/-- A step that gives a value can be performed. -/
theorem exists_on_perform {σ : Type} {action : Action σ α} {state : σ} {value : α}
    (h : (action.run state).result = .ok value) (screen : Screen) : ∃ after,
      (perform action state).on screen = (.ok (.ok value, (action.run state).state), after) := by
  unfold perform
  rw [on_bind_of_ok (on_modify _ screen), h]
  exact ⟨_, rfl⟩

theorem on_configured_ok (value : α) (screen : Screen) :
    (configured (.ok value)).on screen = (.ok value, screen) := rfl

/-- The settings and sources name a program model and a trace, the model can be loaded from the
files, and over it the trace has the index; `left` is what has become of the model then. -/
def Builds (settings : Settings) (sources : Sources) (tree : Tree) (index : Index) (left : Model) :
    Prop :=
  ∃ program trace model, settings.programFor sources.program = .ok program ∧
    settings.traceFor sources.trace = .ok trace ∧
    ((Model.load tree program (settings.classFolderFor sources.classPath)).run ()).result =
      .ok model ∧
    ((Index.ofTrace tree trace settings.traceEncoding).run model).result = .ok index ∧
    ((Index.ofTrace tree trace settings.traceEncoding).run model).state = left

theorem keepsFiles_buildIndex (settings : Settings) (sources : Sources) :
    KeepsFiles (buildIndex settings sources) := by
  refine .bind (keepsFiles_configured _) fun program => ?_
  refine .bind (keepsFiles_configured _) fun trace => ?_
  refine .bind (keepsFiles_printStyled _ _) fun _ => ?_
  refine .bind (keepsFiles_printStyled _ _) fun _ => ?_
  refine .bind .get fun screen => ?_
  refine .bind (keepsFiles_perform _ _) fun loaded => ?_
  split
  · exact keepsFiles_giveUp _ _
  · refine .bind (keepsFiles_perform _ _) fun found => ?_
    split
    · exact keepsFiles_giveUp _ _
    · exact .pure _

/-- What is built over files with plain names is built by the command. -/
theorem exists_on_buildIndex {settings : Settings} {sources : Sources} {screen : Screen}
    {index : Index} {left : Model} (h : Builds settings sources screen.tree index left)
    (hprogram : ∀ path, settings.programFor sources.program = .ok path → Markup.Plain path.text)
    (htrace : ∀ path, settings.traceFor sources.trace = .ok path → Markup.Plain path.text) :
    ∃ after, (buildIndex settings sources).on screen = (.ok index, after) := by
  rcases h with ⟨program, trace, model, hprogramFor, htraceFor, hload, hindex, -⟩
  have hloading := (by decide : Markup.Plain "Loading program model from: ").append
    (hprogram program hprogramFor)
  have hreading := (by decide : Markup.Plain "Reading reflection trace: ").append
    (htrace trace htraceFor)
  unfold buildIndex
  rw [hprogramFor, htraceFor, on_bind_of_ok (on_configured_ok _ _),
    on_bind_of_ok (on_configured_ok _ _), on_bind_of_ok (shows_printStyled hloading.contained _ _),
    on_bind_of_ok (shows_printStyled hreading.contained _ _), on_bind_of_ok (on_get _)]
  -- Nothing that was handed to the console has changed the files.
  rcases exists_on_perform hload _ with ⟨third, hthird⟩
  rcases exists_on_perform hindex third with ⟨fourth, hfourth⟩
  rw [Screen.tree_showing, Screen.tree_showing, on_bind_of_ok hthird]
  dsimp only
  rw [on_bind_of_ok hfourth]
  exact ⟨fourth, rfl⟩

end Command
end ReflectiveCalls
