import ReflectiveCalls.Console.Literal.Grammar
import ReflectiveCalls.Console.Literal.Quotation
import Std.Data.HashMap

/-!
# Console.Literal.Recognition — tokens read by the grammar

Tokens are read by trying the alternatives of a part one after the other.  A part that may begin
with itself is read with a beginning that grows: first without any, then with what has been read so
far, as long as more is read.  What was read of some parts at a place is kept, so that it is not
read again.

- `Literal.Source`: the tokens that are read, and what is known of the text around them.
- `Literal.Source.read`: a part at the start of the tokens.
-/

namespace ReflectiveCalls
namespace Literal

/-! ## What is read -/

/-- The tokens that are read.  Faults that the grammar finds are put into a form by `wrap`, and
`expression` looks at the expressions in the fields of quotations. -/
structure Source where
  tokens : Tokens
  wrap : Misreading → Misreading
  expression : (line : Nat) → List Char → Option Stop

/-- The state of reading: the place of the next token, how many tokens have been looked at, and what
was read of parts at places. -/
structure Walk where
  place : Nat
  seen : Nat
  kept : Std.HashMap (Part × Nat) (Option (List Term × Nat))

/-- What a step of reading makes. -/
inductive Found
  | terms (terms : List Term) (walk : Walk)
  /-- Nothing that fits; `final` says whether later alternatives are not tried. -/
  | nothing (final : Bool) (walk : Walk)
  | stopped (stop : Stop) (walk : Walk)

/-- The next token; the end of the tokens stops reading, unless it is in order. -/
def Source.peek (source : Source) (walk : Walk) : Except (Stop × Walk) (Option Token × Walk) :=
  let walk := { walk with seen := max walk.seen (walk.place + 1) }
  match source.tokens.tokens[walk.place]? with
  | some token => .ok (some token, walk)
  | none =>
      match source.tokens.ending with
      | .finished => .ok (none, walk)
      | .broken misreading => .error (.misread misreading, walk)
      | .stuck misreading => .error (.misread (source.wrap misreading), walk)

/-- Does a word begin a word that is a keyword in some places? -/
def beginsSoftKeyword (text : String) : Bool :=
  softKeywords.any fun keyword => text.toList.isPrefixOf keyword.toList

/-- The terms that a token gives where a symbol is asked for, if it is one. -/
def Source.ofToken (source : Source) (symbol : Symbol) (token : Token) :
    Except Stop (Option (List Term)) :=
  let when (holds : Bool) (terms : List Term) : Except Stop (Option (List Term)) :=
    .ok (if holds then some terms else none)
  match symbol, token.kind with
  | .sign text, .sign found => when (text = found) []
  | .word text, .word found => when (text = found) []
  | .name, .word found =>
      when (!keywords.contains found) [.name (Text.plainName found.toList)]
  | .softKeyword, .word found => when (!keywords.contains found && beginsSoftKeyword found) []
  | .constant, .word found =>
      when (constants.contains found) [.valued (.constant found) .fixed]
  | .number, .number digits =>
      match Numeral.ofText digits with
      | .ok numeral => when true [.valued (.number numeral) .fixed]
      | .error count => .error (.misread (source.wrap (.tooManyDigits count)))
  | .quotation, .quotation _ => when true []
  | .lineEnd, .lineEnd => when true []
  | .finish, .finish => when true []
  | _, _ => .ok none

/-- Reads a symbol that is no part. -/
def Source.token (source : Source) (symbol : Symbol) (walk : Walk) : Found :=
  match source.peek walk with
  | .error (stop, walk) => .stopped stop walk
  | .ok (none, walk) => .nothing false walk
  | .ok (some token, walk) =>
      match source.ofToken symbol token with
      | .error stop => .stopped stop walk
      | .ok none => .nothing false walk
      | .ok (some terms) => .terms terms { walk with place := walk.place + 1 }

/-- Does the last token before a place stand in brackets? -/
def Source.inBrackets (source : Source) (place : Nat) : Bool :=
  match source.tokens.tokens[place - 1]? with
  | some token => token.depth ≠ 0
  | none => false

/-! ## Quotations -/

/-- The quotations side by side at the start of some tokens. -/
def quotationsOf : List Token → List Quotation
  | ⟨.quotation quotation, _, _, _⟩ :: rest => quotation :: quotationsOf rest
  | _ => []

/-- What keeps quotations side by side from being one text; `octets` says whether those before are
sequences of octets.  Fields are looked at only in quotations that may stand side by side. -/
def Source.quotationsFault? (source : Source) (octets : Option Bool) :
    List Quotation → Option Stop
  | [] => none
  | quotation :: rest =>
      let mixed? :=
        if octets.any (· ≠ quotation.isOctets) then
          some (Stop.misread (source.wrap .mixedTexts))
        else none
      let inside? := quotation.fault? source.wrap source.expression
      let fault? := if quotation.hasFields then mixed?.or inside? else inside?.or mixed?
      fault?.or (source.quotationsFault? (some quotation.isOctets) rest)

/-- Reads quotations side by side as one text. -/
def Source.quotations (source : Source) (walk : Walk) : Found :=
  let found := quotationsOf (source.tokens.tokens.toList.drop walk.place)
  let after := { walk with place := walk.place + found.length }
  match source.peek after with
  | .error (stop, after) => .stopped stop after
  | .ok (_, after) =>
      match source.quotationsFault? none found with
      | some stop => .stopped stop after
      | none =>
          if found.any (·.hasFields) then .terms [.plain .fieldText] after
          else .terms [.valued .text .fixed] after

/-! ## Reading -/

/-- The depth to which parts may be nested. -/
def maxDepth : Nat := 6000

/-- What has been found when reading begins again at a place. -/
def Walk.at (walk : Walk) (place : Nat) : Walk := { walk with place := place }

/-- Keeps what was read of a part at a place. -/
def Walk.keep (walk : Walk) (part : Part) (place : Nat) (terms : Option (List Term)) : Walk :=
  { walk with kept := walk.kept.insert (part, place) (terms.map (·, walk.place)) }

mutual

/-- Reads a part; `slips` says whether slips are looked for, and `depth` counts the parts around
it. -/
def Source.part (source : Source) (slips : Bool) (depth : Nat) (part : Part) (walk : Walk)
    (fuel : Nat) : Found :=
  match fuel with
  | 0 => .stopped .tooDeep walk
  | fuel + 1 =>
      let slips := slips && part ≠ .uncheckedExpression
      if maxDepth ≤ depth then .stopped .tooDeep walk
      else if part = .quotations then source.quotations walk
      else if !part.isKept then
        source.choice slips (depth + 1) walk.place (alternatives part) walk fuel
      else
        match source.peek walk with
        | .error (stop, walk) => .stopped stop walk
        | .ok (_, walk) =>
            match walk.kept[(part, walk.place)]? with
            | some (some (terms, place)) => .terms terms (walk.at place)
            | some none => .nothing false walk
            | none =>
                if part.isLeftRecursive then
                  source.grow slips (depth + 1) part walk.place none
                    (walk.keep part walk.place none) fuel
                else
                  match source.choice slips (depth + 1) walk.place (alternatives part) walk
                      fuel with
                  | .terms terms after => .terms terms (after.keep part walk.place (some terms))
                  | .nothing false after => .nothing false (after.keep part walk.place none)
                  | found => found
  termination_by structural fuel

/-- Reads a part that may begin with itself, from a place on; `best` is what has been read so far,
which ends at the place of the walk. -/
def Source.grow (source : Source) (slips : Bool) (depth : Nat) (part : Part) (start : Nat)
    (best : Option (List Term)) (walk : Walk) (fuel : Nat) : Found :=
  match fuel with
  | 0 => .stopped .tooDeep walk
  | fuel + 1 =>
      let finish (after : Walk) : Found :=
        match best with
        | some terms => .terms terms (after.at walk.place)
        | none => .nothing false (after.at start)
      match source.choice slips (depth + 1) start (alternatives part) (walk.at start) fuel with
      | .terms terms after =>
          if after.place ≤ walk.place then finish after
          else
            source.grow slips depth part start (some terms)
              (after.keep part start (some terms)) fuel
      | .nothing _ after => finish after
      | stopped => stopped
  termination_by structural fuel

/-- Tries alternatives at a place. -/
def Source.choice (source : Source) (slips : Bool) (depth place : Nat)
    (alternatives : List Alternative) (walk : Walk) (fuel : Nat) : Found :=
  match fuel, alternatives with
  | 0, _ => .stopped .tooDeep walk
  | _, [] => .nothing false (walk.at place)
  | fuel + 1, alternative :: rest =>
      if alternative.isSlip && !slips then source.choice slips depth place rest walk fuel
      else
        match source.items slips depth alternative.items [] false (walk.at place) fuel with
        | .terms terms after =>
            match alternative.make (source.inBrackets after.place) terms with
            | .terms terms => .terms terms after
            | .nothing => .nothing false (after.at place)
            | .misread misreading => .stopped (.misread (source.wrap misreading)) after
        | .nothing false after => source.choice slips depth place rest after fuel
        | .nothing true after => .nothing true (after.at place)
        | stopped => stopped
  termination_by structural fuel

/-- Reads items one after the other; `before` holds the terms that have been read. -/
def Source.items (source : Source) (slips : Bool) (depth : Nat) (items : List Item)
    (before : List Term) (final : Bool) (walk : Walk) (fuel : Nat) : Found :=
  match fuel, items with
  | 0, _ => .stopped .tooDeep walk
  | _, [] => .terms before walk
  | fuel + 1, .cut :: rest =>
      source.items slips depth rest before true walk fuel
  | fuel + 1, .one symbol :: rest =>
      match source.symbol slips depth symbol walk fuel with
      | .terms terms walk => source.items slips depth rest (before ++ terms) final walk fuel
      | .nothing _ walk => .nothing final walk
      | stopped => stopped
  | fuel + 1, .maybe symbol :: rest =>
      match source.symbol slips depth symbol walk fuel with
      | .terms terms walk => source.items slips depth rest (before ++ terms) final walk fuel
      | .nothing _ after =>
          source.items slips depth rest before final (after.at walk.place) fuel
      | stopped => stopped
  | fuel + 1, .many symbol :: rest =>
      match source.repeated slips (depth + 1) symbol none [] walk fuel with
      | .terms terms walk => source.items slips depth rest (before ++ terms) final walk fuel
      | found => found
  | fuel + 1, .some symbol :: rest =>
      match source.symbol slips (depth + 1) symbol walk fuel with
      | .terms terms walk =>
          match source.repeated slips (depth + 1) symbol none terms walk fuel with
          | .terms terms walk => source.items slips depth rest (before ++ terms) final walk fuel
          | found => found
      | .nothing _ walk => .nothing final walk
      | stopped => stopped
  | fuel + 1, .separated symbol sign :: rest =>
      match source.symbol slips (depth + 1) symbol walk fuel with
      | .terms terms walk =>
          match source.repeated slips (depth + 2) symbol (some (.sign sign)) terms walk fuel with
          | .terms terms walk => source.items slips depth rest (before ++ terms) final walk fuel
          | found => found
      | .nothing _ walk => .nothing final walk
      | stopped => stopped
  | fuel + 1, .ahead symbol :: rest =>
      match source.symbol slips depth symbol walk fuel with
      | .terms _ after => source.items slips depth rest before final (after.at walk.place) fuel
      | .nothing _ walk => .nothing final walk
      | stopped => stopped
  | fuel + 1, .notAhead symbol :: rest =>
      match source.symbol slips depth symbol walk fuel with
      | .terms _ walk => .nothing final walk
      | .nothing _ after =>
          source.items slips depth rest before final (after.at walk.place) fuel
      | stopped => stopped
  termination_by structural fuel

/-- Reads a symbol as often as it comes, each time after a separator if there is one. -/
def Source.repeated (source : Source) (slips : Bool) (depth : Nat) (symbol : Symbol)
    (separator : Option Symbol) (before : List Term) (walk : Walk) (fuel : Nat) : Found :=
  match fuel with
  | 0 => .stopped .tooDeep walk
  | fuel + 1 =>
      let first : Found :=
        match separator with
        | some separator => source.token separator walk
        | none => .terms [] walk
      match first with
      | .terms _ inside =>
          match source.symbol slips depth symbol inside fuel with
          | .terms terms after =>
              source.repeated slips depth symbol separator (before ++ terms) after fuel
          | .nothing _ after => .terms before (after.at walk.place)
          | stopped => stopped
      | .nothing _ after => .terms before (after.at walk.place)
      | stopped => stopped
  termination_by structural fuel

/-- Reads a symbol. -/
def Source.symbol (source : Source) (slips : Bool) (depth : Nat) (symbol : Symbol) (walk : Walk)
    (fuel : Nat) : Found :=
  match fuel with
  | 0 => .stopped .tooDeep walk
  | fuel + 1 =>
      match symbol with
      | .part part => source.part slips depth part walk fuel
      | symbol => source.token symbol walk
  termination_by structural fuel

end

/-! ## Whole texts -/

/-- Steps that suffice for all nesting up to the greatest depth. -/
def Source.fuel (source : Source) : Nat := 40 * maxDepth + 40 * source.tokens.tokens.size + 40

/-- The fault of the tokens that have not been looked at, if they have one. -/
def Source.faultAhead? (source : Source) (walk : Walk) : Option Misreading :=
  match source.tokens.ending with
  | .finished => none
  | .broken misreading => some misreading
  | .stuck _ =>
      match source.tokens.opened, source.tokens.tokens[walk.seen - 1]? with
      | some (opening, line), some token =>
          if line < token.line then some (source.wrap (.unclosed opening)) else none
      | _, _ => none

/-- A misreading gives way to a fault of the tokens that have not been looked at. -/
def Source.settled (source : Source) (stop : Stop) (walk : Walk) : Stop :=
  match stop, source.tokens.tokens[walk.seen - 1]? with
  | .misread misreading, some token =>
      if token.seesEnd then stop else .misread ((source.faultAhead? walk).getD misreading)
  | stop, _ => stop

/-- Why tokens that are in no order that the grammar has are no expression. -/
def Source.disorder (source : Source) (last : Option Token) (walk : Walk) : Misreading :=
  match last.map Token.kind with
  | some .indent => source.wrap .indented
  | some .dedent => source.wrap .unindented
  | _ => (source.faultAhead? walk).getD (source.wrap .invalid)

/-- A part at the start of the tokens.  Slips are looked for only if it is not there. -/
def Source.read (source : Source) (part : Part) : Except Stop (List Term) :=
  match source.part false 0 part ⟨0, 0, {}⟩ source.fuel with
  | .terms terms _ => .ok terms
  | .stopped stop walk => .error (source.settled stop walk)
  | .nothing _ walk =>
      let last := source.tokens.tokens[walk.seen - 1]?
      match source.part true 0 part ⟨0, walk.seen, {}⟩ source.fuel with
      | .stopped stop walk => .error (source.settled stop walk)
      | .terms _ walk | .nothing _ walk => .error (.misread (source.disorder last walk))

end Literal
end ReflectiveCalls
