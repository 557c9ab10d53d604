import ReflectiveCalls.Console.Literal.Misreading
import ReflectiveCalls.Console.Literal.Term
import ReflectiveCalls.Text.SmallLetter

/-!
# Console.Literal.Grammar — the grammar of expressions

The grammar gives the alternatives of each part of an expression in the order in which they are
tried; the first that fits is taken.  Besides the parts of expressions it has *slips*: forms that
are no expressions, but are often written in place of one.  They are looked for only in a text that
is no expression, to tell what is wrong with it.

- `Literal.Part`: the parts of expressions, and the slips.
- `Literal.Symbol`, `Literal.Item`, `Literal.Alternative`: what an alternative asks for, and what it
  makes.
- `Literal.alternatives`: the grammar.
-/

namespace ReflectiveCalls
namespace Literal

/-! ## Words -/

/-- The words that are constants. -/
def constants : List String := ["True", "False", "None"]

/-- The words that are no names. -/
def keywords : List String :=
  constants ++
    ["and", "as", "assert", "async", "await", "break", "class", "continue", "def", "del", "elif",
      "else", "except", "finally", "for", "from", "global", "if", "import", "in", "is", "lambda",
      "nonlocal", "not", "or", "pass", "raise", "return", "try", "while", "with", "yield"]

/-- The words that are keywords in some places only. -/
def softKeywords : List String := ["_", "case", "match"]

/-- The names of statements of old that have become functions. -/
def oldStatements : List String := ["print", "exec"]

/-! ## Parts -/

/-- A part of an expression, or a slip. -/
inductive Part
  /-- A whole text that is one expression or several. -/
  | whole
  /-- The expression of a field. -/
  | field
  | expressions
  | furtherExpression
  | expression
  | handing
  | starExpressions
  | furtherStarExpression
  | starExpression
  | members
  | member
  | binding
  | named
  | disjunction
  | orOperand
  | conjunction
  | andOperand
  | inversion
  | comparison
  | compared
  | union
  | exclusion
  | intersection
  | shift
  | sum
  | product
  | factor
  | power
  | waiting
  | primary
  | atom
  | bracketed
  | braced
  | quotations
  | group
  | groupInside
  | tuple
  | tupleInside
  | set
  | dictionary
  | entries
  | entry
  | keyValue
  | clauses
  | clause
  | condition
  | generator
  | generated
  | setComprehension
  | dictionaryComprehension
  | arguments
  | argumentList
  | positional
  | positionalValue
  | furtherNamed
  | namedArguments
  | namedOrStarred
  | namedOrUnpacked
  | starredArgument
  | targets
  | furtherTarget
  | target
  | unstarredTarget
  | plainTarget
  | targetAtom
  | targetTuple
  | targetPrimary
  | targetGoesOn
  | function
  | parameters
  | parameterList
  | bareBeforeSlash
  | givenBeforeSlash
  | afterStar
  | doubleStarParameter
  | bareParameter
  | givenParameter
  | anyParameter
  | parameter
  | default
  | anyBeforeSlash
  -- slips and what stands in them
  | expressionSlip
  | wordSlip
  | uncheckedExpression
  | statementSlip
  | elseOrColon
  | bindingSlip
  | fixedTarget
  | assignmentSign
  | comprehensionSlip
  | opening
  | entryComprehensionSlip
  | groupSlip
  | entriesSlip
  | entrySlip
  | braceOrComma
  | argumentsSlip
  | argumentsWithNames
  | starredOnly
  | argumentsOrGenerator
  | namedSlip
  | nameEquals
  | starSlip
  | targetSlip
  | parametersSlip
  | givenParameters
  | afterStarSlip
  | nothingAfterStar
  | colonOrDoubleStar
  | bareOrComma
  | doubleStarSlip
  | starOrSlash
  | defaultSlip
  | bracketOrComma
  deriving DecidableEq, Hashable, Repr

/-- The parts that may begin with themselves. -/
def Part.isLeftRecursive : Part → Bool
  | union | exclusion | intersection | shift | sum | product | primary | targetPrimary => true
  | _ => false

/-- The parts of which it is kept what was read at a place. -/
def Part.isKept : Part → Bool
  | expression | starExpression | disjunction | conjunction | inversion | factor | waiting
  | quotations | arguments | target | plainTarget | bindingSlip => true
  | part => part.isLeftRecursive

/-! ## Alternatives -/

/-- What may stand at a place. -/
inductive Symbol
  | sign (text : String)
  | word (text : String)
  /-- A word that is no keyword. -/
  | name
  /-- A word that begins a word that is a keyword in some places. -/
  | softKeyword
  | constant
  | number
  | quotation
  | lineEnd
  | finish
  | part (part : Part)
  deriving DecidableEq, Repr

/-- What an alternative asks for. -/
inductive Item
  | one (symbol : Symbol)
  | maybe (symbol : Symbol)
  | many (symbol : Symbol)
  | some (symbol : Symbol)
  /-- The symbol, once or more, with signs between. -/
  | separated (symbol : Symbol) (sign : String)
  | ahead (symbol : Symbol)
  | notAhead (symbol : Symbol)
  /-- If the items after this one do not fit, the alternatives after this one are not tried. -/
  | cut
  deriving DecidableEq, Repr

/-- What an alternative that fits makes. -/
inductive Made
  | terms (terms : List Term)
  /-- Nothing; the part is not there. -/
  | nothing
  | misread (misreading : Misreading)
  deriving DecidableEq, Repr

/-- An alternative of a part; it makes something of the terms that its items give, and is told
whether the last token of them stands in brackets. -/
structure Alternative where
  items : List Item
  make : (inBrackets : Bool) → List Term → Made
  /-- Does it lead to a slip? -/
  isSlip : Bool

/-! ### Making terms -/

/-- An alternative that makes something of its terms. -/
def Alternative.of (items : List Item) (make : List Term → Made) : Alternative :=
  ⟨items, fun _ => make, false⟩

/-- An alternative that makes what its terms are. -/
def Alternative.same (items : List Item) : Alternative := .of items .terms

/-- An alternative that makes one term of its terms. -/
def Alternative.term (items : List Item) (term : List Term → Term) : Alternative :=
  .of items fun terms => .terms [term terms]

/-- An alternative that makes a term of a form. -/
def Alternative.form (items : List Item) (form : Form) : Alternative :=
  .term items fun _ => .plain form

/-- An alternative that leads to a slip. -/
def Alternative.slip (items : List Item) : Alternative := ⟨items, fun _ => .terms, true⟩

/-- An alternative of a slip, which is a misreading. -/
def Alternative.misreading (items : List Item) (misreading : Misreading) : Alternative :=
  .of items fun _ => .misread misreading

/-- A sign. -/
def sign (text : String) : Item := .one (.sign text)

/-- A word. -/
def word (text : String) : Item := .one (.word text)

/-- A part. -/
def part (part : Part) : Item := .one (.part part)

/-- A name. -/
def name : Item := .one .name

/-- A binary operation. -/
def operation (left : Part) (text : String) (right : Part) : Alternative :=
  .form [part left, sign text, part right] .operation

/-- An operation with signs that make numbers of numbers. -/
def joining (text : String) : Alternative :=
  .term [part .sum, sign text, part .product] fun
    | [left, right] => left.joined text right
    | _ => .plain .operation

/-- A term after a sign. -/
def signing (text : String) : Alternative :=
  .term [sign text, part .factor] fun
    | [term] => term.signed text
    | _ => .plain .operation

/-- A comparison with what stands after its sign. -/
def comparing (items : List Item) (byMembership : Bool) : Alternative :=
  .form (items ++ [part .union]) (.compared byMembership)

/-- A comparison of a first term. -/
def comparisonOf : List Term → Term
  | first :: ⟨.compared byMembership, _, _⟩ :: _ => .comparison first byMembership
  | _ => .plain .comparison

/-- A starred term. -/
def starring (symbol : Symbol) : Alternative :=
  .term [sign "*", .one symbol] fun
    | [term] => .starred term
    | _ => .plain .starred

/-- A call; without arguments the function `set` makes an empty set. -/
def callOf : List Term → Term
  | [⟨.name name, _, _⟩] =>
      if name = "set".toList then .valued .call (.changing "set") else .plain .call
  | _ => .plain .call

/-- An entry of a key and a value. -/
def entryOf : List Term → Term
  | [key, value] => .valued .entry (Worth.entry key.worth value.worth)
  | _ => .plain .entry

/-- Arguments together: how many are not given by name, and whether some are unpacked. -/
def argumentsOf (terms : List Term) : Term :=
  let counts (term : Term) : Nat × Bool :=
    match term.form with
    | .arguments positional unpacked => (positional, unpacked)
    | .namedArgument => (0, false)
    | .unpackedArgument => (0, true)
    | _ => (1, false)
  let all := terms.map counts
  .plain (.arguments ((all.map (·.1)).foldr (· + ·) 0) (all.any (·.2)))

/-! ### Making misreadings -/

/-- Is a term the name of a statement of old? -/
def oldStatement? : List Term → Option String
  | ⟨.name name, _, _⟩ :: _ => oldStatements.find? (·.toList = name)
  | _ => none

/-- Two expressions side by side. -/
def sideBySide (inBrackets : Bool) (terms : List Term) : Made :=
  if (oldStatement? terms).isSome || !inBrackets then .nothing else .misread .missingComma

/-- What the first term is called, put into a misreading. -/
def misreadFirst (misreading : String → Misreading) : List Term → Made
  | first :: _ => .misread (misreading first.form.described)
  | [] => .nothing

/-- A generator that stands among the given arguments without brackets. -/
def openGenerator : List Term → Made
  | ⟨.arguments positional _, _, _⟩ :: _ =>
      if positional ≤ 1 then .nothing else .misread .openGenerator
  | _ => .nothing

/-- Arguments after arguments that are given by name. -/
def argumentsAfter : List Term → Made
  | ⟨.arguments _ unpacked, _, _⟩ :: _ =>
      .misread (if unpacked then .positionalAfterUnpacking else .positionalAfterKeyword)
  | _ => .nothing

/-- Something that is not to be given a value where values are given. -/
def badTarget : List Term → Made
  | ⟨_, _, some what⟩ :: _ => .misread (.assigned what)
  | _ => .nothing

/-! ## The grammar -/

/-- The alternatives of the parts of lists and of operations. -/
def operationAlternatives : Part → List Alternative
  | .whole => [.same [part .expressions, .many .lineEnd, .one .finish]]
  | .field => [.same [part .starExpressions]]
  | .expressions =>
      [ .term [part .expression, .some (.part .furtherExpression), .maybe (.sign ",")] .tuple,
        .term [part .expression, sign ","] .tuple,
        .same [part .expression] ]
  | .furtherExpression => [.same [sign ",", part .expression]]
  | .expression =>
      [ .slip [part .expressionSlip],
        .slip [part .statementSlip],
        .form [part .disjunction, word "if", part .disjunction, word "else", part .expression]
          .conditional,
        .same [part .disjunction],
        .same [part .function] ]
  | .handing =>
      [ .form [word "yield", word "from", part .expression] .handing,
        .form [word "yield", .maybe (.part .starExpressions)] .handing ]
  | .starExpressions =>
      [ .term [part .starExpression, .some (.part .furtherStarExpression), .maybe (.sign ",")]
          .tuple,
        .term [part .starExpression, sign ","] .tuple,
        .same [part .starExpression] ]
  | .furtherStarExpression => [.same [sign ",", part .starExpression]]
  | .starExpression => [starring (.part .union), .same [part .expression]]
  | .members => [.same [.separated (.part .member) ",", .maybe (.sign ",")]]
  | .member => [starring (.part .union), .same [part .named]]
  | .binding => [.form [name, sign ":=", .cut, part .expression] .binding]
  | .named =>
      [ .same [part .binding],
        .slip [part .bindingSlip],
        .same [part .expression, .notAhead (.sign ":=")] ]
  | .disjunction =>
      [ .form [part .conjunction, .some (.part .orOperand)] .operation,
        .same [part .conjunction] ]
  | .orOperand => [.same [word "or", part .conjunction]]
  | .conjunction =>
      [.form [part .inversion, .some (.part .andOperand)] .operation, .same [part .inversion]]
  | .andOperand => [.same [word "and", part .inversion]]
  | .inversion => [.form [word "not", part .inversion] .operation, .same [part .comparison]]
  | .comparison =>
      [.term [part .union, .some (.part .compared)] comparisonOf, .same [part .union]]
  | .compared =>
      [ comparing [sign "=="] false, comparing [sign "!="] false, comparing [sign "<="] false,
        comparing [sign "<"] false, comparing [sign ">="] false, comparing [sign ">"] false,
        comparing [word "not", word "in"] false, comparing [word "in"] true,
        comparing [word "is", word "not"] false, comparing [word "is"] false ]
  | .union => [operation .union "|" .exclusion, .same [part .exclusion]]
  | .exclusion => [operation .exclusion "^" .intersection, .same [part .intersection]]
  | .intersection => [operation .intersection "&" .shift, .same [part .shift]]
  | .shift =>
      [operation .shift "<<" .sum, operation .shift ">>" .sum, .same [part .sum]]
  | .sum => [joining "+", joining "-", .same [part .product]]
  | .product =>
      [ operation .product "*" .factor, operation .product "/" .factor,
        operation .product "//" .factor, operation .product "%" .factor,
        operation .product "@" .factor, .same [part .factor] ]
  | .factor => [signing "+", signing "-", signing "~", .same [part .power]]
  | .power => [operation .waiting "**" .factor, .same [part .waiting]]
  | .waiting => [.form [word "await", part .primary] .waiting, .same [part .primary]]
  | .primary =>
      [ .form [part .primary, sign ".", name] .member,
        .form [part .primary, part .generator] .call,
        .term [part .primary, sign "(", .maybe (.part .arguments), sign ")"] callOf,
        .same [part .atom] ]
  | _ => []

/-- The alternatives of the parts that stand in brackets, and of the clauses of comprehensions. -/
def atomAlternatives : Part → List Alternative
  | .atom =>
      [ .same [name],
        .same [.one .constant],
        .same [.ahead .quotation, part .quotations],
        .same [.one .number],
        .same [.ahead (.sign "("), part .bracketed],
        .same [.ahead (.sign "\x7b"), part .braced],
        .term [sign "..."] fun _ => .valued .ellipsis .fixed ]
  | .bracketed => [.same [part .tuple], .same [part .group], .same [part .generator]]
  | .braced =>
      [ .same [part .dictionary], .same [part .set], .same [part .dictionaryComprehension],
        .same [part .setComprehension] ]
  | .group => [.same [sign "(", part .groupInside, sign ")"], .slip [part .groupSlip]]
  | .groupInside => [.same [part .handing], .same [part .named]]
  | .tuple => [.term [sign "(", .maybe (.part .tupleInside), sign ")"] .tuple]
  | .tupleInside => [.same [part .member, sign ",", .maybe (.part .members)]]
  | .set =>
      [ .term [sign "\x7b", part .members, sign "\x7d"] fun terms =>
          .valued .set (Worth.set (terms.map (·.worth))) ]
  | .dictionary =>
      [ .term [sign "\x7b", .maybe (.part .entries), sign "\x7d"] fun terms =>
          .valued .dictionary (Worth.dictionary (terms.map (·.worth))),
        .slip [sign "\x7b", part .entriesSlip, sign "\x7d"] ]
  | .entries => [.same [.separated (.part .entry) ",", .maybe (.sign ",")]]
  | .entry =>
      [ .term [sign "**", part .union] fun _ => .valued .entry (.nothing .noKey),
        .same [part .keyValue] ]
  | .keyValue => [.term [part .expression, sign ":", part .expression] entryOf]
  | .clauses => [.same [.some (.part .clause)]]
  | .clause =>
      [ .same [word "async", word "for", part .targets, word "in", .cut, part .disjunction,
          .many (.part .condition)],
        .same [word "for", part .targets, word "in", .cut, part .disjunction,
          .many (.part .condition)],
        .slip [part .targetSlip] ]
  | .condition => [.same [word "if", part .disjunction]]
  | .generator =>
      [ .form [sign "(", part .generated, part .clauses, sign ")"] .generator,
        .slip [part .comprehensionSlip] ]
  | .generated => [.same [part .binding], .same [part .expression, .notAhead (.sign ":=")]]
  | .setComprehension =>
      [ .form [sign "\x7b", part .named, part .clauses, sign "\x7d"] .setComprehension,
        .slip [part .comprehensionSlip] ]
  | .dictionaryComprehension =>
      [ .form [sign "\x7b", part .keyValue, part .clauses, sign "\x7d"] .dictionaryComprehension,
        .slip [part .entryComprehensionSlip] ]
  | _ => []

/-- The alternatives of arguments, and of what may be given a value. -/
def argumentAlternatives : Part → List Alternative
  | .arguments =>
      [ .same [part .argumentList, .maybe (.sign ","), .ahead (.sign ")")],
        .slip [part .argumentsSlip] ]
  | .argumentList =>
      [ .term [.separated (.part .positional) ",", .maybe (.part .furtherNamed)] argumentsOf,
        .same [part .namedArguments] ]
  | .positional =>
      [ .same [part .starredArgument],
        .same [part .positionalValue, .notAhead (.sign "=")] ]
  | .positionalValue =>
      [.same [part .binding], .same [part .expression, .notAhead (.sign ":=")]]
  | .furtherNamed => [.same [sign ",", part .namedArguments]]
  | .namedArguments =>
      [ .term [.separated (.part .namedOrStarred) ",", sign ",",
          .separated (.part .namedOrUnpacked) ","] argumentsOf,
        .term [.separated (.part .namedOrStarred) ","] argumentsOf,
        .term [.separated (.part .namedOrUnpacked) ","] argumentsOf ]
  | .namedOrStarred =>
      [ .slip [part .namedSlip],
        .form [name, sign "=", part .expression] .namedArgument,
        .same [part .starredArgument] ]
  | .namedOrUnpacked =>
      [ .slip [part .namedSlip],
        .form [name, sign "=", part .expression] .namedArgument,
        .form [sign "**", part .expression] .unpackedArgument ]
  | .starredArgument => [starring (.part .expression), .slip [part .starSlip]]
  | .targets =>
      [ .same [part .target, .notAhead (.sign ",")],
        .same [part .target, .many (.part .furtherTarget), .maybe (.sign ",")] ]
  | .furtherTarget => [.same [sign ",", part .target]]
  | .target => [.same [sign "*", part .unstarredTarget], .same [part .plainTarget]]
  | .unstarredTarget => [.same [.notAhead (.sign "*"), part .target]]
  | .plainTarget =>
      [ .same [part .targetPrimary, sign ".", name, .notAhead (.part .targetGoesOn)],
        .same [part .targetAtom] ]
  | .targetAtom =>
      [ .same [name],
        .same [sign "(", part .plainTarget, sign ")"],
        .same [sign "(", .maybe (.part .targetTuple), sign ")"] ]
  | .targetTuple =>
      [ .same [part .target, .some (.part .furtherTarget), .maybe (.sign ",")],
        .same [part .target, sign ","] ]
  | .targetPrimary =>
      [ .same [part .targetPrimary, sign ".", name, .ahead (.part .targetGoesOn)],
        .same [part .targetPrimary, part .generator, .ahead (.part .targetGoesOn)],
        .same [part .targetPrimary, sign "(", .maybe (.part .arguments), sign ")",
          .ahead (.part .targetGoesOn)],
        .same [part .atom, .ahead (.part .targetGoesOn)] ]
  | .targetGoesOn => [.same [sign "("], .same [sign "["], .same [sign "."]]
  | _ => []

/-- The alternatives of functions and their parameters. -/
def parameterAlternatives : Part → List Alternative
  | .function =>
      [ .form [word "lambda", .maybe (.part .parameters), sign ":", part .expression] .function ]
  | .parameters => [.slip [part .parametersSlip], .same [part .parameterList]]
  | .parameterList =>
      [ .same [part .bareBeforeSlash, .many (.part .bareParameter), .many (.part .givenParameter),
          .maybe (.part .afterStar)],
        .same [part .givenBeforeSlash, .many (.part .givenParameter), .maybe (.part .afterStar)],
        .same [.some (.part .bareParameter), .many (.part .givenParameter),
          .maybe (.part .afterStar)],
        .same [.some (.part .givenParameter), .maybe (.part .afterStar)],
        .same [part .afterStar] ]
  | .bareBeforeSlash =>
      [ .same [.some (.part .bareParameter), sign "/", sign ","],
        .same [.some (.part .bareParameter), sign "/", .ahead (.sign ":")] ]
  | .givenBeforeSlash =>
      [ .same [.many (.part .bareParameter), .some (.part .givenParameter), sign "/", sign ","],
        .same [.many (.part .bareParameter), .some (.part .givenParameter), sign "/",
          .ahead (.sign ":")] ]
  | .afterStar =>
      [ .slip [part .afterStarSlip],
        .same [sign "*", part .bareParameter, .many (.part .anyParameter),
          .maybe (.part .doubleStarParameter)],
        .same [sign "*", sign ",", .some (.part .anyParameter),
          .maybe (.part .doubleStarParameter)],
        .same [part .doubleStarParameter] ]
  | .doubleStarParameter =>
      [.slip [part .doubleStarSlip], .same [sign "**", part .bareParameter]]
  | .bareParameter =>
      [.same [part .parameter, sign ","], .same [part .parameter, .ahead (.sign ":")]]
  | .givenParameter =>
      [ .same [part .parameter, part .default, sign ","],
        .same [part .parameter, part .default, .ahead (.sign ":")] ]
  | .anyParameter =>
      [ .same [part .parameter, .maybe (.part .default), sign ","],
        .same [part .parameter, .maybe (.part .default), .ahead (.sign ":")] ]
  | .parameter => [.same [name]]
  | .default => [.same [sign "=", part .expression], .slip [part .defaultSlip]]
  | .anyBeforeSlash => [.same [part .bareBeforeSlash], .same [part .givenBeforeSlash]]
  | _ => []

/-- The alternatives of slips in expressions, in brackets and in arguments. -/
def slipAlternatives : Part → List Alternative
  | .expressionSlip =>
      [ ⟨[.notAhead (.part .wordSlip), part .disjunction, part .uncheckedExpression],
          sideBySide, false⟩,
        .misreading [part .disjunction, word "if", part .disjunction,
          .notAhead (.part .elseOrColon)] .missingElse ]
  | .wordSlip => [.same [name, .one .quotation], .same [.one .softKeyword]]
  | .elseOrColon => [.same [word "else"], .same [sign ":"]]
  | .uncheckedExpression =>
      [ .form [part .disjunction, word "if", part .disjunction, word "else", part .expression]
          .conditional,
        .same [part .disjunction],
        .same [part .function] ]
  | .statementSlip =>
      [ .of [name, .notAhead (.sign "("), part .starExpressions] fun terms =>
          match oldStatement? terms with
          | some statement => .misread (.oldStatement statement)
          | none => .nothing ]
  | .bindingSlip =>
      [ .of [part .expression, sign ":=", part .expression] (misreadFirst .bound),
        .misreading [name, sign "=", part .union, .notAhead (.part .assignmentSign)]
          .assignedName,
        .of [.notAhead (.part .fixedTarget), part .union, sign "=", part .union,
          .notAhead (.part .assignmentSign)] (misreadFirst .assignedHere) ]
  | .assignmentSign => [.same [sign "="], .same [sign ":="]]
  | .fixedTarget => [.same [part .tuple], .same [part .generator], .same [.one .constant]]
  | .comprehensionSlip =>
      [ .misreading [part .opening, part .starredArgument, part .clauses] .starredComprehension,
        .misreading [sign "\x7b", part .member, sign ",", part .members, part .clauses]
          .openTarget,
        .misreading [sign "\x7b", part .member, sign ",", part .clauses] .openTarget ]
  | .opening => [.same [sign "("], .same [sign "\x7b"]]
  | .entryComprehensionSlip =>
      [ .misreading [sign "\x7b", sign "**", part .union, part .clauses, sign "\x7d"]
          .unpackedComprehension ]
  | .groupSlip =>
      [ .misreading [sign "(", part .starredArgument, sign ")"] .starred,
        .misreading [sign "(", sign "**", part .expression, sign ")"] .doubleStarred ]
  | .entriesSlip =>
      [ .same [.separated (.part .entry) ",", sign ",", part .entrySlip],
        .misreading [part .expression, sign ":", sign "*", part .union] .starredValue,
        .misreading [part .expression, sign ":", .ahead (.part .braceOrComma)] .missingValue ]
  | .entrySlip =>
      [ .misreading [part .expression, .notAhead (.sign ":")] .missingColon,
        .misreading [part .expression, sign ":", sign "*", part .union] .starredValue,
        .misreading [part .expression, sign ":", .ahead (.part .braceOrComma)] .missingValue ]
  | .braceOrComma => [.same [sign "\x7d"], .same [sign ","]]
  | .argumentsSlip =>
      [ .misreading [part .argumentsWithNames, sign ",", .separated (.part .starredOnly) ","]
          .starAfterUnpacking,
        .misreading [part .expression, part .clauses, sign ",",
          .maybe (.part .argumentsOrGenerator)] .openGenerator,
        .misreading [name, sign "=", part .expression, part .clauses] .assignedName,
        .of [part .argumentList, part .clauses] openGenerator,
        .misreading [part .argumentList, sign ",", part .expression, part .clauses]
          .openGenerator,
        .of [part .argumentList, sign ",", part .argumentList] argumentsAfter ]
  | .argumentsWithNames =>
      [ .same [.separated (.part .positional) ",", sign ",", part .namedArguments],
        .same [part .namedArguments] ]
  | .starredOnly => [.same [part .starredArgument, .notAhead (.sign "=")]]
  | .argumentsOrGenerator =>
      [.same [part .argumentList], .same [part .expression, part .clauses]]
  | .namedSlip =>
      [ .of [.one .constant, sign "="] (misreadFirst .assigned),
        .misreading [name, sign "=", part .expression, part .clauses] .assignedName,
        .misreading [.notAhead (.part .nameEquals), part .expression, sign "="]
          .assignedArgument ]
  | .nameEquals => [.same [name, sign "="]]
  | .starSlip => [.misreading [sign "*"] .bareStar]
  | .targetSlip =>
      [.of [.maybe (.word "async"), word "for", part .starExpressions] badTarget]
  | _ => []

/-- The alternatives of slips in parameters. -/
def parameterSlipAlternatives : Part → List Alternative
  | .parametersSlip =>
      [ .misreading [.many (.part .bareParameter), part .givenParameters, part .bareParameter]
          .noDefaultAfterDefault,
        .misreading [.many (.part .bareParameter), sign "(", .separated (.part .parameter) ",",
          .maybe (.sign ","), sign ")"] .bracketedParameters,
        .misreading [sign "/", sign ","] .nothingBeforeSlash,
        .misreading [part .anyBeforeSlash, .many (.part .anyParameter), sign "/"] .secondSlash,
        .misreading [.maybe (.part .anyBeforeSlash), .many (.part .anyParameter), sign "*",
          part .bareOrComma, .many (.part .anyParameter), sign "/"] .slashAfterStar,
        .misreading [.some (.part .anyParameter), sign "/", sign "*"] .noCommaBeforeStar ]
  | .givenParameters =>
      [.same [part .givenBeforeSlash], .same [.some (.part .givenParameter)]]
  | .bareOrComma => [.same [sign ","], .same [part .bareParameter]]
  | .afterStarSlip =>
      [ .misreading [sign "*", part .nothingAfterStar] .nothingAfterStar,
        .misreading [sign "*", part .parameter, sign "="] .defaultOfStar,
        .misreading [sign "*", part .bareOrComma, .many (.part .anyParameter), sign "*",
          part .bareOrComma] .secondStar ]
  | .nothingAfterStar => [.same [sign ":"], .same [sign ",", part .colonOrDoubleStar]]
  | .colonOrDoubleStar => [.same [sign ":"], .same [sign "**"]]
  | .doubleStarSlip =>
      [ .misreading [sign "**", part .parameter, sign "="] .defaultOfDoubleStar,
        .misreading [sign "**", part .parameter, sign ",", part .parameter] .afterDoubleStar,
        .misreading [sign "**", part .parameter, sign ",", part .starOrSlash] .afterDoubleStar ]
  | .starOrSlash => [.same [sign "*"], .same [sign "**"], .same [sign "/"]]
  | .defaultSlip => [.misreading [sign "=", .ahead (.part .bracketOrComma)] .missingDefault]
  | .bracketOrComma => [.same [sign ")"], .same [sign ","]]
  | _ => []

/-- The alternatives of a part, in the order in which they are tried. -/
def alternatives (part : Part) : List Alternative :=
  match operationAlternatives part with
  | [] =>
      match atomAlternatives part with
      | [] =>
          match argumentAlternatives part with
          | [] =>
              match parameterAlternatives part with
              | [] =>
                  match slipAlternatives part with
                  | [] => parameterSlipAlternatives part
                  | found => found
              | found => found
          | found => found
      | found => found
  | found => found

end Literal
end ReflectiveCalls
