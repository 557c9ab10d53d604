import ReflectiveCalls.Command.Invocation
import ReflectiveCalls.Console.Markup
import ReflectiveCalls.Console.Table
import ReflectiveCalls.Index.FromTrace
import ReflectiveCalls.Json.Writer
import ReflectiveCalls.Settings

/-!
# Command.Run — the commands

A command prints on the console, logs, may write a file, and ends with an exit code.  It is a
function from the settings, the files and the command line to what it leaves behind.

- `Notice`: what is handed to the console.
- `Screen`: what a command has handed to the console, logged and written so far.
- `Ending`: how a command ends before its last step.
- `Command.run`: a command line carried out.
-/

namespace ReflectiveCalls

/-- What is handed to the console. -/
inductive Notice
  /-- A text with markup. -/
  | marked (text : String)
  /-- A text in which brackets are plain text. -/
  | plain (text : String)
  | table (rows : Table)
  deriving DecidableEq, Repr

/-- How the console writes what is handed to it. -/
def Notice.written : Notice → Except Markup.Fault String
  | .marked text => Markup.written text
  | .plain text => .ok (Markup.writtenPlain text)
  | .table rows => .ok rows.text

/-- What a command has done so far. -/
structure Screen where
  tree : Tree
  /-- What was handed to the console, and written by it. -/
  notices : List Notice
  events : List Event
  /-- The files that were written, with their octets. -/
  written : List (Path × List UInt8)

/-- What stands on the console. -/
def Screen.printed (screen : Screen) : String :=
  String.join (screen.notices.map fun notice => notice.written.toOption.getD "")

/-- The screen after more was handed to the console. -/
def Screen.showing (screen : Screen) (notices : List Notice) : Screen :=
  { screen with notices := screen.notices ++ notices }

@[simp]
theorem Screen.tree_showing (screen : Screen) (notices : List Notice) :
    (screen.showing notices).tree = screen.tree := rfl

theorem Screen.showing_showing (screen : Screen) (notices later : List Notice) :
    (screen.showing notices).showing later = screen.showing (notices ++ later) := by
  simp [showing]

/-- How a command ends early. -/
inductive Ending
  | exit (code : Nat)
  | escaped (escape : Escape)
  /-- Text for the console has tags that are not in order. -/
  | markup (fault : Markup.Fault)

/-- The exit code that an ending makes. -/
def Ending.code : Ending → Nat
  | .exit code => code
  | .escaped _ | .markup _ => 1

/-- A step of a command. -/
abbrev Command (α : Type) := ExceptT Ending (StateM Screen) α

/-- What a command leaves behind. -/
structure Transcript where
  exitCode : Nat
  printed : String
  events : List Event
  /-- The least important events that the log shows. -/
  level : Level
  tree : Tree
  written : List (Path × List UInt8)
  ending : Option Ending

/-- The events that the log shows. -/
def Transcript.log (transcript : Transcript) : List Event :=
  transcript.events.filter fun event => transcript.level.rank ≤ event.level.rank

/-- The first line of a message; a carriage return before the end of the line belongs to the end. -/
def firstLine (message : String) : String :=
  let line := message.toList.takeWhile (· ≠ '\n')
  String.ofList (if line.getLast? = some '\r' then line.dropLast else line)

/-- The lines of the log that begin with a level; a message of several lines goes on without one. -/
def Transcript.logLines (transcript : Transcript) : List (Level × String) :=
  transcript.log.map fun event => (event.level, firstLine event.message)

/-- The text of a file that a command leaves behind, with every line end written as a line feed. -/
def Transcript.text? (transcript : Transcript) (path : Path) : Option String :=
  match transcript.tree.readFile path with
  | .error _ => none
  | .ok content =>
      (Octets.Utf8.decodeAll content).toOption.map fun text =>
        String.ofList (Text.unifyLineEnds text)

namespace Command

/-! ## Steps -/

/-- Hands something to the console; the command ends if the console cannot write it. -/
def print (notice : Notice) : Command Unit :=
  match notice.written with
  | .error fault => throw (.markup fault)
  | .ok _ => modify fun screen => screen.showing [notice]

/-- Prints a text in bold and a colour. -/
def printStyled (text : String) (colour : Markup.Colour) : Command Unit :=
  print (.marked (Markup.style text colour .bold))

/-- A step on a state of its own: its events are logged, its failures are handed back unless they
escape. -/
def perform {σ α : Type} (action : Action σ α) (state : σ) : Command (Except Report α × σ) := do
  let outcome := action.run state
  modify fun screen => { screen with events := screen.events ++ outcome.events }
  match outcome.result with
  | .ok value => return (.ok value, outcome.state)
  | .error (.reported report) => return (.error report, outcome.state)
  | .error (.escaped escape) => throw (.escaped escape)

/-- Prints a report and ends. -/
def giveUp {α : Type} (intro : String) (report : Report) : Command α := do
  printStyled (intro ++ Markup.escape report.message) .red
  throw (.exit 1)

/-- A setting that has to be there. -/
def configured {α : Type} (setting : Except Failure α) : Command α :=
  match setting with
  | .ok value => return value
  | .error (.reported report) => giveUp "Configuration Error: " report
  | .error (.escaped escape) => throw (.escaped escape)

/-- The index of the trace, over the program model. -/
def buildIndex (settings : Settings) (sources : Sources) : Command Index := do
  let program ← configured (settings.programFor sources.program)
  let trace ← configured (settings.traceFor sources.trace)
  printStyled ("Loading program model from: " ++ program.text) .cyan
  printStyled ("Reading reflection trace: " ++ trace.text) .cyan
  let tree := (← get).tree
  let intro := "Failed to build reflection index: "
  match ← perform (Model.load tree program (settings.classFolderFor sources.classPath)) () with
  | (.error report, _) => giveUp intro report
  | (.ok model, _) =>
      match ← perform (Index.ofTrace tree trace settings.traceEncoding) model with
      | (.error report, _) => giveUp intro report
      | (.ok index, _) => return index

/-- The summary of an index as a table. -/
def summaryTable (index : Index) : Table :=
  { title := "Reflection Index Summary"
    columns := [⟨"Operation", false⟩, ⟨"Call sites", true⟩, ⟨"Targets", true⟩]
    rows := index.summary.map fun (operation, callSites, targets) =>
      [operation.token, toString callSites, toString targets] }

/-- Writes the index to a file. -/
def exportIndex (index : Index) (output : String) : Command Unit := do
  printStyled ("Exporting reflection index to: " ++ output) .cyan
  let path := Path.ofText output
  let content := (Json.write index.toJson).toUTF8.toList
  match (← get).tree.writeFile path content with
  | .error fault => throw (.escaped (.file path fault))
  | .ok tree => modify fun screen =>
      { screen with tree := tree, written := screen.written ++ [(path, content)] }

/-- The command `index`. -/
def index (settings : Settings) (sources : Sources) (output : Option String) : Command Unit := do
  let index ← buildIndex settings sources
  printStyled "Reflection index built." .green
  print (.table (summaryTable index))
  match output with
  | some output => unless output.isEmpty do exportIndex index output
  | none => return ()

/-- Prints the operations seen in the method of a signature, each with its targets. -/
def printFound (signature : String) (found : List (Operation × List String)) : Command Unit := do
  printStyled ("Reflective targets of " ++ Markup.escape signature ++ ":") .green
  for (operation, targets) in found do
    printStyled operation.token .cyan
    for target in targets do
      print (.plain ("  " ++ target))

/-- The command `query`. -/
def query (settings : Settings) (sources : Sources) (signature : String) : Command Unit := do
  let index ← buildIndex settings sources
  match index.query signature with
  | none =>
      printStyled ("No reflective operations recorded for: " ++ Markup.escape signature) .yellow
  | some found => printFound signature found

/-! ## Whole commands -/

/-- The steps that an invocation asks for. -/
def ofInvocation (settings : Settings) : Invocation → Command Unit
  | .index sources output _ => index settings sources output
  | .query sources signature => query settings sources signature
  | .help => return ()

/-- The level of the log: `-v` asks for a finer one than the settings. -/
def logLevel (settings : Settings) : Invocation → Except Escape Level
  | .index _ _ true => .ok .debug
  | _ =>
      match Level.ofName? settings.logLevel with
      | some level => .ok level
      | none => .error (.unknownLevel settings.logLevel)

/-- A transcript in which nothing was done. -/
def idle (tree : Tree) (exitCode : Nat) (ending : Option Ending) : Transcript :=
  ⟨exitCode, "", [], .info, tree, [], ending⟩

/-- Carries out an invocation. -/
def runInvocation (settings : Settings) (tree : Tree) (invocation : Invocation) : Transcript :=
  match logLevel settings invocation with
  | .error escape => idle tree 1 (some (.escaped escape))
  | .ok level =>
      let (result, screen) := (ofInvocation settings invocation).run.run ⟨tree, [], [], []⟩
      let transcript (exitCode : Nat) (ending : Option Ending) : Transcript :=
        ⟨exitCode, screen.printed, screen.events, level, screen.tree, screen.written, ending⟩
      match result with
      | .ok () => transcript 0 none
      | .error ending => transcript ending.code (some ending)

/-- Carries out a command line; one that is not in order ends with the code 2. -/
def run (settings : Settings) (tree : Tree) (arguments : List String) : Transcript :=
  match Invocation.ofArguments? arguments with
  | none => idle tree 2 none
  | some .help => idle tree 0 none
  | some invocation => runInvocation settings tree invocation

end Command
end ReflectiveCalls
