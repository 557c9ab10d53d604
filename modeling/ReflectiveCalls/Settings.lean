import ReflectiveCalls.Failure
import ReflectiveCalls.Text.Lines
import ReflectiveCalls.Text.LowerCase
import ReflectiveCalls.Text.UpperCase

/-!
# Settings — where the files are and how they are read

A setting is taken from the arguments, else from the environment, else from a settings file, else it
has its default.  The case of a name does not matter.  Of several settings of one name the last
counts in the environment and in the settings file, where a name that is written again in the same
letters keeps its place; of several arguments the one with the exact name counts, or else the first.

- `Settings.resolve?`: the settings, unless an argument has the wrong kind of value or a name in the
  arguments or in the settings file is not known.
- `Settings.traceFor`, `Settings.programFor`, `Settings.classFolderFor`: the paths to use, an
  argument given with a command coming before the setting; an empty text counts as none.
-/

namespace ReflectiveCalls

/-- The settings of the program. -/
structure Settings where
  traceFile : Option String
  programModelFile : Option String
  classPath : Option String
  traceEncoding : String
  logLevel : String
  deriving DecidableEq, Repr

namespace Settings

/-! ## Sources of settings -/

/-- Where settings come from. -/
structure Sources where
  arguments : List (String × Json)
  environment : List (String × String)
  file : List (String × String)

/-- The names of the settings. -/
def names : List String :=
  ["TRACE_FILE", "PROGRAM_MODEL_FILE", "CLASS_PATH", "TRACE_ENCODING", "LOG_LEVEL"]

/-- Do two names agree but for the case of their letters? -/
def sameName (name other : String) : Bool :=
  Text.lower name.toList == Text.lower other.toList

/-- The last value of a name, whatever its case. -/
def lastOf? (name : String) (entries : List (String × String)) : Option String :=
  (entries.reverse.find? fun entry => sameName entry.1 name).map (·.2)

/-- The argument of a name: the one of exactly that name, or else the first but for its case. -/
def argument? (name : String) (arguments : List (String × Json)) : Option Json :=
  match Json.member? name arguments with
  | some value => some value
  | none => (arguments.find? fun entry => sameName entry.1 name).map (·.2)

/-- The setting that a line of a settings file makes, if it makes one: a name, an equals sign and a
value, with white space around them left out. -/
def ofLine? (line : List Char) : Option (String × String) :=
  let name := Text.trim (line.takeWhile (· ≠ '='))
  match line.dropWhile (· ≠ '=') with
  | [] => none
  | _ :: value =>
      if name.isEmpty || name.head? = some '#' then none
      else some (String.ofList name, String.ofList (Text.trim value))

/-- An entry put in place of the one of exactly its name, or after all others. -/
def put (entry : String × String) : List (String × String) → List (String × String)
  | [] => [entry]
  | other :: rest => if other.1 = entry.1 then entry :: rest else other :: put entry rest

/-- The settings that a settings file makes: a name that comes again, in the same letters, gives its
value to the entry that is there. -/
def ofFileText (text : List Char) : List (String × String) :=
  ((Text.lines text).filterMap ofLine?).foldl (fun entries entry => put entry entries) []

/-- The settings that the settings file of a folder makes. -/
def ofFile (tree : Tree) : List (String × String) :=
  match tree.readFile (.ofText ".env") with
  | .ok content =>
      match Octets.Utf8.decodeAll content with
      | .ok text => ofFileText text
      | .error _ => []
  | .error _ => []

/-! ## Resolution -/

/-- Has a name a value in the settings file that is not empty?  The last entry of the name
counts. -/
def Sources.fileGives (sources : Sources) (name : String) : Bool :=
  (lastOf? name sources.file).any (!·.isEmpty)

/-- Is every argument the name of a setting, and every name with a value in the settings file? -/
def Sources.known (sources : Sources) : Bool :=
  sources.arguments.all (fun entry => names.any (sameName entry.1)) &&
    sources.file.all fun entry => !sources.fileGives entry.1 || names.any (sameName entry.1)

/-- A setting from the environment or the settings file. -/
def Sources.outer? (sources : Sources) (name : String) : Option String :=
  match lastOf? name sources.environment with
  | some value => some value
  | none => lastOf? name sources.file

/-- A setting that may be absent; as an argument it may be `null`. -/
def Sources.optional? (sources : Sources) (name : String) : Option (Option String) :=
  match argument? name sources.arguments with
  | some .null => some none
  | some (.str value) => some (some value)
  | some _ => none
  | none => some (sources.outer? name)

/-- A setting with a default. -/
def Sources.text? (sources : Sources) (name default : String) : Option String :=
  match argument? name sources.arguments with
  | some (.str value) => some value
  | some _ => none
  | none => some ((sources.outer? name).getD default)

/-- The settings that the sources make; the log level is in upper case. -/
def resolve? (sources : Sources) : Option Settings := do
  guard sources.known
  let traceFile ← sources.optional? "TRACE_FILE"
  let programModelFile ← sources.optional? "PROGRAM_MODEL_FILE"
  let classPath ← sources.optional? "CLASS_PATH"
  let traceEncoding ← sources.text? "TRACE_ENCODING" Octets.Encoding.defaultName
  let logLevel ← sources.text? "LOG_LEVEL" "INFO"
  return ⟨traceFile, programModelFile, classPath, traceEncoding, Text.upper logLevel⟩

/-! ## Paths to use -/

/-- The first of two texts that is there and not empty. -/
def firstText? (argument setting : Option String) : Option String :=
  match argument.filter (!·.isEmpty) with
  | some text => some text
  | none => setting.filter (!·.isEmpty)

/-- The trace to read. -/
def traceFor (settings : Settings) (argument : Option String) : Except Failure Path :=
  match firstText? argument settings.traceFile with
  | some text => .ok (.ofText text)
  | none => .error (.reported .traceNotConfigured)

/-- The program model to read. -/
def programFor (settings : Settings) (argument : Option String) : Except Failure Path :=
  match firstText? argument settings.programModelFile with
  | some text => .ok (.ofText text)
  | none => .error (.reported (.model .notConfigured))

/-- The folder of class files, if there is one. -/
def classFolderFor (settings : Settings) (argument : Option String) : Option Path :=
  (firstText? argument settings.classPath).map .ofText

end Settings
end ReflectiveCalls
