import Reckon.Grammar.Expected
import Reckon.Text.Quoted

/-!
# Faults

A fault says why a formula has no value, or a word or an index no counterpart.  Most faults
are reported by a kind and a negative code; the others are not part of any report and pass
through every caller.
-/

namespace Reckon

/-- A text that does not continue as a formula. -/
structure Misreading where
  text : List Char
  expected : Grammar.Expected
  deriving DecidableEq, Repr

namespace Misreading

/-- The line of a position, counted from one.  A line ends with its line feed. -/
def line (misreading : Misreading) : Nat :=
  (misreading.text.take misreading.expected.position).count '\n' + 1

def column (misreading : Misreading) : Nat :=
  let before := misreading.text.take misreading.expected.position
  (before.reverse.takeWhile (· ≠ '\n')).length + 1

/-- The characters around the position, which a star marks, in one line. -/
def excerpt (misreading : Misreading) : List Char :=
  let position := misreading.expected.position
  let before := (misreading.text.take position).drop (position - 10)
  let behind := (misreading.text.drop position).take 10
  ((before ++ '*' :: behind).filter (· ≠ '\r')).map fun c => if c = '\n' then ' ' else c

def message (misreading : Misreading) : String :=
  let wanted := " or ".intercalate (misreading.expected.terminals.map (·.label))
  let place := s!"({misreading.line}, {misreading.column})"
  s!"Expected {wanted} at position {place} => '{String.ofList misreading.excerpt}'."

end Misreading

/-- Why there is no value. -/
inductive Fault where
  /-- The text is no formula. -/
  | misread (misreading : Misreading)
  /-- There is no expression where one must be. -/
  | unknownNode (label : String)
  /-- An argument name stands for an index behind the last argument. -/
  | outOfRange (letters : String) (index : Nat) (count : Int)
  /-- No function has this name and takes so many inputs. -/
  | unknownFunction (name : String) (arity : Int)
  /-- More constructs stand inside each other than allowed. -/
  | tooDeep (depth limit : Int)
  | noLetters
  /-- A character does not belong into an argument name. -/
  | badLetter (letter : Char) (letters : String)
  /-- An index has too many digits to be written out. -/
  | unwritableIndex
  | negativeIndex (index : Int)
  /-- An index needs more letters than there is room for. -/
  | tooNarrow (needed : Nat) (width : Int)
  | unknownOperator (symbol : String)
  /-- What stands in place of a link has no operand. -/
  | noOperand (owner : String)
  deriving DecidableEq, Repr

namespace Fault

/-- The least number that has too many digits to be written out. -/
abbrev unwritable : Nat := Nat.pow 10 4300

/-- An argument name that stands for an index behind the last argument.  The report quotes
the index, so an index that cannot be written out is a fault of its own. -/
def beyondArguments (letters : String) (index : Nat) (count : Int) : Fault :=
  if unwritable ≤ index then unwritableIndex else outOfRange letters index count

def message : Fault → String
  | misread misreading =>
      s!"Parse error at position {misreading.expected.position}: {misreading.message}"
  | unknownNode label => s!"Unknown AST node: {Text.quoted label}"
  | outOfRange letters index count =>
      s!"Variable {Text.quoted letters} decodes to index {index}, " ++
        s!"but only {count} argument(s) were given"
  | unknownFunction name arity =>
      s!"Unknown function {Text.quoted name} with {arity} argument(s)"
  | tooDeep depth limit => s!"Expression nesting depth {depth} exceeds limit {limit}"
  | noLetters => "Empty variable token"
  | badLetter letter letters =>
      s!"Invalid variable letter {Text.quoted letter.toString} in {Text.quoted letters}"
  | unwritableIndex =>
      "Exceeds the limit (4300 digits) for integer string conversion; " ++
        "use sys.set_int_max_str_digits() to increase the limit"
  | negativeIndex index => s!"Negative index: {index}"
  | tooNarrow needed width => s!"Index needs {needed} letters, width={width}"
  | unknownOperator symbol => Text.quoted symbol
  | noOperand owner => s!"{Text.quoted owner} object has no attribute 'operand'"

/-- What is reported of a fault. -/
structure Notice where
  kind : String
  code : Int
  message : String
  deriving DecidableEq, Repr

/-- The kind and the code of a fault, if it is one of those that are reported. -/
def classification? : Fault → Option (String × Int)
  | misread _ => some ("parse_error", -2)
  | unknownNode _ => some ("unknown_node", -3)
  | outOfRange .. => some ("variable_index_out_of_range", -4)
  | unknownFunction .. => some ("unknown_function", -5)
  | tooDeep .. => some ("expression_too_complex", -6)
  | _ => none

/-- The report of a fault, if it is one of those that are reported. -/
def notice? (fault : Fault) : Option Notice :=
  fault.classification?.map fun (kind, code) => { kind, code, message := fault.message }

end Fault

end Reckon
