/-!
# Command.Arguments — options on a command line

A command has options, each with long names `--name` or short names `-n`; an option takes a value or
is a flag.  The value of a long option follows an equals sign or is the next argument, whatever it
looks like; that of a short option is the rest of its argument or the next one.  Flags with short
names may share an argument.  After `--` nothing is an option.  Options may stand among the other
arguments, or only before them.

- `Arguments.scan`: the options on a command line, in order, and what is left over.
-/

namespace ReflectiveCalls
namespace Arguments

/-- An option of a command; `ι` tells which. -/
structure Opt (ι : Type) where
  id : ι
  names : List String
  takesValue : Bool

/-- The options found, with their values, and what else stands on the command line. -/
structure Found (ι : Type) where
  options : List (ι × String)
  others : List String

variable {ι : Type}

/-- The option of a name. -/
def optionOf? (options : List (Opt ι)) (name : String) : Option (Opt ι) :=
  options.find? (·.names.contains name)

/-- The long option that an argument names, with the value after its equals sign. -/
def splitLong (argument : String) : String × Option String :=
  let cs := argument.toList
  match cs.dropWhile (· ≠ '=') with
  | [] => (argument, none)
  | _ :: value => (String.ofList (cs.takeWhile (· ≠ '=')), some (String.ofList value))

/-- The options in an argument of short names, with the arguments left after it. -/
def scanShort (options : List (Opt ι)) :
    List Char → List String → Option (List (ι × String) × List String)
  | [], rest => some ([], rest)
  | letter :: more, rest =>
      match optionOf? options (String.ofList ['-', letter]) with
      | none => none
      | some option =>
          if option.takesValue then
            match more, rest with
            | [], [] => none
            | [], value :: rest => some ([(option.id, value)], rest)
            | more, rest => some ([(option.id, String.ofList more)], rest)
          else
            match scanShort options more rest with
            | none => none
            | some (found, rest) => some ((option.id, "") :: found, rest)

/-- The options in one argument that begins with a dash, with the arguments left after it. -/
def scanOption (options : List (Opt ι)) (argument : String) (rest : List String) :
    Option (List (ι × String) × List String) :=
  let (name, value?) := splitLong argument
  match if name.startsWith "--" then optionOf? options name else none with
  | some option =>
      match option.takesValue, value? with
      | true, some value => some ([(option.id, value)], rest)
      | true, none =>
          match rest with
          | [] => none
          | value :: rest => some ([(option.id, value)], rest)
      | false, some _ => none
      | false, none => some ([(option.id, "")], rest)
  | none =>
      if argument.startsWith "--" then none
      else scanShort options (argument.toList.drop 1) rest

/-- At most `bound` arguments scanned; `among` says whether options may stand among the other
arguments. -/
def scanUpTo (options : List (Opt ι)) (among : Bool) :
    (bound : Nat) → List String → Option (Found ι)
  | _, [] => some ⟨[], []⟩
  | 0, others => some ⟨[], others⟩
  | bound + 1, argument :: rest =>
      if argument = "--" then some ⟨[], rest⟩
      else if argument.startsWith "-" && argument != "-" then
        match scanOption options argument rest with
        | none => none
        | some (found, rest) =>
            (scanUpTo options among bound rest).map fun further =>
              ⟨found ++ further.options, further.others⟩
      else if among then
        (scanUpTo options among bound rest).map fun further =>
          ⟨further.options, argument :: further.others⟩
      else some ⟨[], argument :: rest⟩

/-- The options on a command line and what else stands on it; none if the command line is not in
order. -/
def scan (options : List (Opt ι)) (among : Bool) (arguments : List String) : Option (Found ι) :=
  scanUpTo options among arguments.length arguments

/-- The value of an option; the last one counts. -/
def Found.value? [DecidableEq ι] (found : Found ι) (id : ι) : Option String :=
  (found.options.reverse.find? (·.1 = id)).map (·.2)

/-- Is the option there? -/
def Found.has [DecidableEq ι] (found : Found ι) (id : ι) : Bool :=
  found.options.any (·.1 = id)

end Arguments
end ReflectiveCalls
