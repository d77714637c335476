import Reckon.CommandLine.Invocation
import Reckon.Double.Decimal
import Reckon.Judge
import Reckon.Text.BoxedTable
import Reckon.Text.Uppercase

/-!
# Carrying out commands

A command answers in text and with an exit status: zero upon success, one upon a reported
fault, two if the words of the command line are wrong.  Options that are not valid, an
unknown level of telling, and faults that are not reported end the run without an answer.
-/

namespace Reckon.CommandLine

/-- Where a command line is used. -/
structure Place where
  environment : List (String × String)
  /-- The width of the screen. -/
  screen : Nat
  /-- How many constructs may be open at once while a text is read. -/
  capacity : Nat := Reader.usualCapacity

/-- What a command writes, and its exit status. -/
structure Answer where
  status : Nat
  output : String := ""
  messages : String := ""
  deriving DecidableEq, Repr

/-- Why a run ends without an answer. -/
inductive Abort where
  | invalidOptions (problems : List Validation.Problem)
  | unknownLevel (level : String)
  | fault (fault : Fault)

def Abort.message : Abort → String
  | invalidOptions problems =>
      let name : Validation.Step → String
        | .name name => name
        | .index index => toString index
      let lines := problems.map fun problem =>
        problem.complaint.label ++ " at " ++ ".".intercalate (problem.place.map name)
      "\n".intercalate lines
  | unknownLevel level => s!"Unknown level: {Text.quoted level}"
  | fault reason => reason.message

def Answer.usage : Answer :=
  { status := 2 }

def asLine (text : String) : String :=
  text ++ "\n"

def Answer.success (lines : List String) : Answer :=
  { status := 0, output := String.join (lines.map asLine) }

/-- The answer upon a fault, behind what is told about the work. -/
def Answer.failure (told : List String) (message : String) : Answer :=
  { status := 1, messages := String.join ((told ++ ["Błąd: " ++ message]).map asLine) }

/-- The options of a place, with some values given explicitly. -/
def Place.options (place : Place) (explicit : List (String × Json)) :
    Except Abort Options :=
  match Options.ofSources place.environment explicit with
  | .ok options => .ok options
  | .error problems => .error (.invalidOptions problems)

/-- The judge of a place, with some options given explicitly. -/
def Place.judge (place : Place) (explicit : List (String × Json)) : Except Abort Judge := do
  return { options := ← place.options explicit, capacity := place.capacity }

/-- The levels of telling, from the most silent one on. -/
def levels : List String :=
  ["CRITICAL", "FATAL", "ERROR", "WARN", "WARNING", "INFO", "DEBUG", "NOTSET"]

/-- Whether the work is told about in detail at a level, if it exists. -/
def tellsDetails? (level : String) : Except Abort Bool :=
  let level := Text.uppercase level
  if level ∈ levels then
    .ok (level = "DEBUG" || level = "NOTSET")
  else
    .error (.unknownLevel level)

/-- What there is to tell about a refused formula. -/
def details (formula : String) (fault : Fault) (notice : Fault.Notice) : List String :=
  let quoted := Text.quoted formula
  let evaluation := s!"DEBUG:mathex.engine:Evaluation of {quoted} failed: {notice.message}"
  match fault with
  | .misread misreading =>
      [s!"DEBUG:mathex.peg_parser:Parse failed for {quoted}: {misreading.message}", evaluation]
  | _ => [evaluation]

/-- How a verdict is written. -/
def truthWord (truth : Bool) : String :=
  if truth then "TRUE" else "FALSE"

/-- The table that shows a formula, what it was evaluated with, and its value. -/
def valueTable (formula : String) (arguments : List Float) (value epsilon : Float)
    (truth : Bool) : BoxedTable where
  title := "Mathex"
  left := { heading := "Key" }
  right := { heading := "Value", wraps := true }
  headed := false
  rows :=
    let numerals := ", ".intercalate (arguments.map Double.toText)
    [("expression", formula),
      ("arguments", if numerals.isEmpty then "-" else numerals),
      ("value", Double.toText value),
      ("epsilon", Double.toText epsilon),
      ("result", truthWord truth)]

/-- The formula and the arguments that are evaluated if none are given. -/
def demonstration : String × List Float :=
  ("max(1,!2)", [0.1, 0.2, 0.3])

/-- Evaluate a formula. -/
def evaluate (place : Place) (telling : Bool) (formula : Option String)
    (arguments : List Float) (showValue : Bool) (epsilon : Option Json) :
    Except Abort Answer := do
  let (formula, arguments) :=
    match formula with
    | some formula => (formula, arguments)
    | none => demonstration
  let judge ← place.judge (epsilon.toList.map fun value => ("epsilon", value))
  match judge.check formula arguments with
  | .error fault => throw (.fault fault)
  | .ok (.refused fault notice) =>
      let told := if telling then details formula fault notice else []
      return .failure told s!"[{notice.kind}, code {notice.code}] {notice.message}"
  | .ok (.decided value truth) =>
      if showValue then
        return .success
          ((valueTable formula arguments value judge.options.epsilon truth).draw place.screen)
      else
        return .success [s!"{formula} : {truthWord truth}"]

def nameColumn : BoxedTable.Column :=
  { heading := "Token" }

def indexColumn : BoxedTable.Column :=
  { heading := "Index", flushRight := true, wraps := true }

/-- Draw a table of names and indices. -/
def drawIndices (place : Place) (left right : BoxedTable.Column)
    (rows : List (String × String)) : Answer :=
  .success (({ title := "Variables", left, right, rows } : BoxedTable).draw place.screen)

def decode (place : Place) (names : List String) : Except Abort Answer := do
  let row (name : String) : Except Fault (String × String) := do
    let index ← Argument.decode name
    return (name, ← Argument.indexText index)
  match names.mapM row with
  | .ok rows => return drawIndices place nameColumn indexColumn rows
  | .error .unwritableIndex => throw (.fault .unwritableIndex)
  | .error fault => return .failure [] fault.message

def encode (place : Place) (indices : List Int) : Except Abort Answer :=
  let row (index : Int) : Except Fault (String × String) := do
    let name ← Argument.encode index none
    return (toString index, name)
  match indices.mapM row with
  | .ok rows => .ok (drawIndices place indexColumn nameColumn rows)
  | .error fault => .ok (.failure [] fault.message)

def listFunctions (place : Place) : Answer :=
  let row (arity : Int) : String × String :=
    (toString arity, ", ".intercalate (Function.builtin.names arity))
  let table : BoxedTable :=
    { title := "Functions"
      left := { heading := "Arity", flushRight := true }
      right := { heading := "Names", wraps := true }
      rows := [row 1, row 2] }
  .success (table.draw place.screen)

def Command.run (place : Place) (telling : Bool) : Command → Except Abort Answer
  | evaluate formula arguments showValue epsilon =>
      CommandLine.evaluate place telling formula arguments showValue epsilon
  | decode names => CommandLine.decode place names
  | encode indices => CommandLine.encode place indices
  | functions => .ok (listFunctions place)

/-- The level of telling that is given, or else the one among the options. -/
def Invocation.level (place : Place) (invocation : Invocation) :
    Except Abort String := do
  match invocation.logLevel with
  | none | some "" => return (← place.options []).logLevel
  | some level => return level

/-- Carry out what the words of a command line ask for. -/
def run (place : Place) (words : List String) : Except Abort Answer := do
  match Invocation.ofWords? words with
  | none => return .usage
  | some invocation =>
      let telling ← tellsDetails? (← invocation.level place)
      invocation.command.run place telling

end Reckon.CommandLine
