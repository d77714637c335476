import Reckon.CommandLine.Switch
import Reckon.Json.Value
import Reckon.Text.Numeral

/-!
# Commands

There are four commands: to evaluate a formula, to decode names of arguments into indices, to
encode indices, and to list the functions.  The words of a command line either spell one of
them or are wrong.
-/

namespace Reckon.CommandLine

inductive Command where
  | evaluate (formula : Option String) (arguments : List Float) (showValue : Bool)
      (epsilon : Option Json)
  | decode (names : List String)
  | encode (indices : List Int)
  | functions

/-- A command and how much is to be told about its work. -/
structure Invocation where
  logLevel : Option String
  command : Command

namespace Words

/-- All operands as the operands of one kind.  The separator is none of them. -/
def allOperands (words : Words) : List String :=
  words.operands ++ words.behindSeparator.getD []

/-- The first operand and those behind it.  A separator next to the first operand belongs to
it; then one double hyphen among the others is dropped as their separator. -/
def firstOperand? (words : Words) : Option (String × List String) :=
  match words.operands, words.behindSeparator with
  | [], some (first :: rest) | [first], some rest => some (first, rest.erase separatorWord)
  | first :: rest, _ => some (first, rest ++ words.behindSeparator.getD [])
  | [], _ => none

end Words

namespace Command

/-- The value for an option that a numeral spells.  Without a numeral there is a list of no
values. -/
def optionValue? : Option String → Option Json
  | some numeral => (Text.writtenDouble? numeral).map .double
  | none => some (.array [])

def evaluate? (words : List String) : Option Command := do
  let words ← Words.ofList? [.help, .value, .epsilon] words
  guard (words.values .help).isEmpty
  let epsilons ← (words.values .epsilon).mapM optionValue?
  let showValue := !(words.values .value).isEmpty
  match words.firstOperand? with
  | none => return evaluate none [] showValue epsilons.getLast?
  | some (formula, numerals) =>
      let arguments ← numerals.mapM Text.writtenDouble?
      return evaluate (some formula) arguments showValue epsilons.getLast?

def operands? (words : List String) : Option (List String) := do
  let words ← Words.ofList? [.help] words
  guard (words.values .help).isEmpty
  return words.allOperands

/-- The operands that some words spell where at least one must stand. -/
def someOperands? (words : List String) : Option (List String) := do
  let operands ← operands? words
  guard !operands.isEmpty
  return operands

/-- The command with a given name that some words spell. -/
def ofWords? (name : String) (words : List String) : Option Command :=
  match name with
  | "eval" => evaluate? words
  | "decode" => return decode (← someOperands? words)
  | "encode" => return encode (← (← someOperands? words).mapM Text.writtenInteger?)
  | "functions" => if words.isEmpty then some functions else none
  | _ => none

end Command

/-- The invocation that the words of a command line spell, if they are right. -/
def Invocation.ofWords? (words : List String) : Option Invocation := do
  let (settings, words) ← takeSettings [.help, .logLevel] words
  guard (settings.all (·.switch ≠ .help))
  match words with
  | [] => none
  | name :: words =>
      let command ← Command.ofWords? name words
      let levels := (settings.filter (·.switch = .logLevel)).map (·.value)
      return { logLevel := levels.getLast?.join, command }

end Reckon.CommandLine
