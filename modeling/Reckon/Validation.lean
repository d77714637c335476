import Reckon.Double.Integer
import Reckon.Json.Value
import Reckon.Text.Numeral

/-!
# Validation of input

What comes from outside is converted generously: numbers and truth values may come as text,
numbers as truth values and the other way round.  A value that cannot be converted, or lies
out of bounds, is a problem with a place; all problems of an input are found together.
-/

namespace Reckon.Validation

inductive Complaint where
  | missing
  | textType
  | textTooShort
  | listType
  | doubleType
  | doubleParsing
  | integerType
  | integerParsing
  | integerParsingSize
  | integerFromDouble
  | finiteNumber
  | truthType
  | truthParsing
  | tooSmall
  | recordType
  | invalidJson
  | unknownWord
  | unknownChoice
  | tooFew
  | tooMany
  | formulaType
  deriving DecidableEq, Repr

def Complaint.label : Complaint → String
  | missing => "missing"
  | textType => "string_type"
  | textTooShort => "string_too_short"
  | listType => "list_type"
  | doubleType => "float_type"
  | doubleParsing => "float_parsing"
  | integerType => "int_type"
  | integerParsing => "int_parsing"
  | integerParsingSize => "int_parsing_size"
  | integerFromDouble => "int_from_float"
  | finiteNumber => "finite_number"
  | truthType => "bool_type"
  | truthParsing => "bool_parsing"
  | tooSmall => "greater_than_equal"
  | recordType => "model_attributes_type"
  | invalidJson => "json_invalid"
  | unknownWord => "literal_error"
  | unknownChoice => "enum"
  | tooFew => "too_short"
  | tooMany => "too_long"
  | formulaType => "model_type"

/-- One step on the way to a value inside an input. -/
inductive Step where
  | name (name : String)
  | index (index : Nat)
  deriving DecidableEq, Repr

/-- What is wrong where. -/
structure Problem where
  complaint : Complaint
  place : List Step
  deriving DecidableEq, Repr

/-- The part of an input that a place leads to, or the last one on the way there. -/
def partAt (input : Json) : List Step → Json
  | [] => input
  | step :: steps =>
      let part? :=
        match step with
        | .name name => input.member? name
        | .index index => input.element? index
      match part? with
      | some part => partAt part steps
      | none => input

/-- A value or all problems of an input. -/
abbrev Checked (α : Type) := Except (List Problem) α

/-- A value at a place, or one problem there. -/
def place {α : Type} (steps : List Step) : Except Complaint α → Checked α
  | .ok value => .ok value
  | .error complaint => .error [{ complaint, place := steps }]

/-- The problems of an input, if there are any. -/
def problems {α : Type} : Checked α → List Problem
  | .ok _ => []
  | .error found => found

/-- Two values, or the problems of both. -/
def both {α β : Type} (first : Checked α) (second : Checked β) : Checked (α × β) :=
  match first, second with
  | .ok a, .ok b => .ok (a, b)
  | first, second => .error (problems first ++ problems second)

/-- All values, or the problems of all. -/
def all {α : Type} : List (Checked α) → Checked (List α)
  | [] => .ok []
  | first :: rest => (both first (all rest)).map fun (value, values) => value :: values

/-- The double that a value converts to. -/
def toDouble : Json → Except Complaint Float
  | .double value => .ok value
  | .integer value =>
      let converted := Double.ofInt value
      if converted.isInf then .error .doubleType else .ok converted
  | .truth value => .ok (Double.ofTruth value)
  | .text value =>
      match Text.lenientDouble? value with
      | some converted => .ok converted
      | none => .error .doubleParsing
  | _ => .error .doubleType

/-- The integer that a double stands for, if it has no fraction and fits 64 bits. -/
def integerOfDouble (value : Float) : Except Complaint Int :=
  match Double.read value with
  | .finite negative units =>
      let whole := units / Double.unitsPerOne
      if units % Double.unitsPerOne ≠ 0 then
        .error .integerFromDouble
      else if Nat.pow 2 63 ≤ whole then
        .error .integerParsingSize
      else
        .ok (if negative then -(whole : Int) else whole)
  | _ => .error .finiteNumber

/-- The integer that a value converts to. -/
def toInteger : Json → Except Complaint Int
  | .integer value => .ok value
  | .double value => integerOfDouble value
  | .truth value => .ok (if value then 1 else 0)
  | .text value =>
      match Text.lenientInteger value with
      | .ok converted => .ok converted
      | .error .malformed => .error .integerParsing
      | .error .oversized => .error .integerParsingSize
  | _ => .error .integerType

/-- The truth value that a word stands for. -/
def truthOfWord? (word : String) : Option Bool :=
  let word := word.map Char.toLower
  if word ∈ ["1", "t", "y", "on", "yes", "true"] then
    some true
  else if word ∈ ["0", "f", "n", "no", "off", "false"] then
    some false
  else
    none

/-- The truth value that an integer stands for.  Beyond 64 bits it is not even of the right
type. -/
def truthOfInteger (value : Int) : Except Complaint Bool :=
  if value = 0 then
    .ok false
  else if value = 1 then
    .ok true
  else if Double.leastWord ≤ value ∧ value ≤ Double.greatestWord then
    .error .truthParsing
  else
    .error .truthType

/-- The truth value that a value converts to. -/
def toTruth : Json → Except Complaint Bool
  | .truth value => .ok value
  | .text word => ((truthOfWord? word).map .ok).getD (.error .truthParsing)
  | .integer value => truthOfInteger value
  | .double value =>
      match integerOfDouble value with
      | .ok whole => truthOfInteger whole
      | .error _ => .error .truthType
  | _ => .error .truthType

/-- A value that is text. -/
def toText : Json → Except Complaint String
  | .text value => .ok value
  | _ => .error .textType

end Reckon.Validation
