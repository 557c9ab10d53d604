import ReflectiveCalls.Command.Run
import ReflectiveCalls.Files.Placing

/-!
# Main — the program

The command line is carried out on a tree that holds the files of the command line.  Class files are
only known when they have been looked for, so the command is carried out again with the ones that
were missing but exist, until there is no such file; then what it has printed, logged and written is
made real.

Texts are sequences of Unicode scalar values throughout, and an escape of half a surrogate pair
stands for `U+FFFD`.  What differs between installations is left to `Runtime`.  Files have neither
permissions nor links, what is logged has no time, and the console writes without colours and in
lines of a fixed width.
-/

namespace ReflectiveCalls
namespace Main

/-- The names under which a setting may stand in the environment. -/
def environmentNames : List String := Settings.names ++ Settings.names.map String.toLower

/-- The settings that the environment makes. -/
def environment : IO (List (String × String)) :=
  environmentNames.filterMapM fun name => do
    return (← IO.getEnv name).map (name, ·)

/-- The paths on the way to a path, the path itself being the last. -/
def wayTo (path : Path) : List Path :=
  (List.range path.parts.length).map fun count => ⟨path.root, path.parts.take (count + 1)⟩

/-- The file or folder at a path, copied from the disk if it is there. -/
def fetch (tree : Tree) (path : Path) : IO Tree := do
  let place := (← IO.currentDir) / path.text
  if ← place.isDir then
    return (tree.put path .folder).tree
  else if ← place.pathExists then
    return (tree.put path (.file (← IO.FS.readBinFile place).toList)).tree
  else
    return tree

/-- The files and folders on the ways to some paths, copied from the disk. -/
def fetchAll (tree : Tree) (paths : List Path) : IO Tree :=
  (paths.flatMap wayTo).foldlM (fun tree path => do
    match tree.exists? path with
    | .ok true => return tree
    | _ => fetch tree path) tree

/-- The paths that a command line names. -/
def namedPaths (settings : Settings) : Option Invocation → List Path
  | some (.index sources output _) => pathsOf sources ++ (output.map Path.ofText).toList
  | some (.query sources _) => pathsOf sources
  | _ => []
where
  /-- The program and the trace of a command. -/
  pathsOf (sources : Sources) : List Path :=
    (settings.programFor sources.program).toOption.toList ++
      (settings.traceFor sources.trace).toOption.toList

/-- The class files that a command has looked for in vain. -/
def missingFiles (transcript : Transcript) : List Path :=
  transcript.events.filterMap fun event =>
    match event with
    | .classFileMissing _ path => path
    | _ => none

/-- Carries out a command line with the class files that it turns out to need. -/
partial def settle (settings : Settings) (arguments : List String) (tree : Tree)
    (sought : List Path) : IO Transcript := do
  let transcript := Command.run settings tree arguments
  let missing := (missingFiles transcript).filter (!sought.contains ·)
  if missing.isEmpty then
    return transcript
  else
    settle settings arguments (← fetchAll tree missing) (sought ++ missing)

/-- Makes real what a command has done. -/
def publish (transcript : Transcript) : IO Unit := do
  for event in transcript.log do
    IO.eprintln s!"{event.level.name} | {event.message}"
  IO.print transcript.printed
  for (path, content) in transcript.written do
    IO.FS.writeBinFile ((← IO.currentDir) / path.text) (ByteArray.mk content.toArray)
  match transcript.ending with
  | some (.escaped escape) => IO.eprintln escape.message
  | some (.markup fault) => IO.eprintln fault.message
  | _ => return ()

/-- Carries out a command line and gives its exit code. -/
def run (arguments : List String) : IO UInt32 := do
  let folder := (Path.ofText (← IO.currentDir).toString).parts
  let tree ← fetchAll (.withFolder folder) [.ofText ".env"]
  match Settings.resolve? ⟨[], ← environment, Settings.ofFile tree⟩ with
  | none =>
      IO.eprintln "The settings are not in order."
      return 1
  | some settings =>
      let named := namedPaths settings (Invocation.ofArguments? arguments)
      let transcript ← settle settings arguments (← fetchAll tree named) []
      publish transcript
      return transcript.exitCode.toUInt32

end Main
end ReflectiveCalls

/-- Runs the program. -/
def main (arguments : List String) : IO UInt32 := ReflectiveCalls.Main.run arguments
