import ReflectiveCalls.Command.Arguments

/-!
# Command.Invocation — what the program is asked to do

Two commands read a program model and a trace: `index` summarises the index and can export it, and
`query` shows what was seen in one method.
-/

namespace ReflectiveCalls

/-- The files given with a command. -/
structure Sources where
  program : Option String
  trace : Option String
  classPath : Option String
  deriving DecidableEq, Repr

/-- What the program is asked to do. -/
inductive Invocation
  | index (sources : Sources) (output : Option String) (verbose : Bool)
  | query (sources : Sources) (signature : String)
  | help
  deriving DecidableEq, Repr

namespace Invocation

/-- The options of the commands. -/
inductive OptionId
  | program
  | trace
  | classPath
  | output
  | verbose
  | method
  | help
  deriving DecidableEq, Repr

/-- The options that may stand before the command. -/
def programOptions : List (Arguments.Opt OptionId) := [⟨.help, ["--help"], false⟩]

/-- The options that both commands have. -/
def sourceOptions : List (Arguments.Opt OptionId) :=
  [ ⟨.program, ["--program"], true⟩,
    ⟨.trace, ["--trace"], true⟩,
    ⟨.classPath, ["--class-path"], true⟩,
    ⟨.help, ["--help"], false⟩ ]

/-- The options of `index`. -/
def indexOptions : List (Arguments.Opt OptionId) :=
  sourceOptions ++ [⟨.output, ["-o", "--output"], true⟩, ⟨.verbose, ["-v", "--verbose"], false⟩]

/-- The options of `query`. -/
def queryOptions : List (Arguments.Opt OptionId) :=
  sourceOptions ++ [⟨.method, ["--method"], true⟩]

/-- The files that the options give. -/
def sourcesOf (found : Arguments.Found OptionId) : Sources :=
  ⟨found.value? .program, found.value? .trace, found.value? .classPath⟩

/-- What a command with its options asks for; none if they are not in order. -/
def ofFound (command : String) (found : Arguments.Found OptionId) : Option Invocation :=
  if found.has .help then some .help
  else if !found.others.isEmpty then none
  else if command = "index" then
    some (.index (sourcesOf found) (found.value? .output) (found.has .verbose))
  else (found.value? .method).map (.query (sourcesOf found))

/-- What a command line that begins with a command asks for. -/
def ofCommand? : List String → Option Invocation
  | "index" :: rest => Arguments.scan indexOptions true rest >>= ofFound "index"
  | "query" :: rest => Arguments.scan queryOptions true rest >>= ofFound "query"
  | _ => none

/-- What a command line asks for; none if it is not in order.  Help asked for before the command
leaves the command aside. -/
def ofArguments? (arguments : List String) : Option Invocation := do
  let found ← Arguments.scan programOptions false arguments
  if found.has .help then return .help else ofCommand? found.others

end Invocation
end ReflectiveCalls
