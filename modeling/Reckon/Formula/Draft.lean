import Reckon.Formula.Description

/-!
# Drafts of formulas

A draft is a tree that is put together by hand.  It may be taken as it is.  It may also be
checked part by part, the parts before the whole and from left to right; then operators and
levels must exist, calls take one or two inputs, chains have links, and a formula, or a
record that describes one, must stand wherever one is needed.  The first part that is not
right tells all its problems.
-/

namespace Reckon

open Validation (Checked)

/-- A formula put together by hand, or a part of one. -/
inductive Draft where
  | number (value : Float)
  | argument (letters : String)
  | call (name : String) (inputs : List Draft)
  | prefixed (operator : String) (operand : Draft)
  | chain (level : String) (first : Draft) (links : List Draft)
  | group (inside : Draft)
  | link (operator : String) (operand : Draft)
  | plain (value : Json)

def PlainKind.ofJson : Json → PlainKind
  | .null => .null
  | .truth _ => .truth
  | .integer _ => .integer
  | .double _ => .double
  | .text _ => .text
  | .array _ => .list
  | .object _ => .mapping

namespace Draft

open Formula (Description Outcome Record)

/-! ## Unchecked drafts -/

mutual

/-- A draft taken as it is. -/
def toFormula : Draft → Formula
  | number value => .number value
  | argument letters => .argument letters
  | call name inputs => .call name (toFormulas inputs)
  | prefixed operator operand => .prefixed operator (toFormula operand)
  | chain level first links => .chain level (toFormula first) (toLinks links)
  | group inside => .group (toFormula inside)
  | link operator operand => .link operator (toFormula operand)
  | plain value => .plain (.ofJson value)

def toFormulas : List Draft → List Formula
  | [] => []
  | draft :: drafts => toFormula draft :: toFormulas drafts

/-- The links of a chain taken as they are.  Whatever has an operator and an operand serves as
a link, and nothing else does. -/
def toLinks : List Draft → List (String × Formula)
  | [] => []
  | draft :: drafts =>
      match toFormula draft with
      | .link operator operand => (operator, operand) :: toLinks drafts
      | .prefixed operator operand => (operator, operand) :: toLinks drafts
      | other => ("", .noOperand other.label) :: toLinks drafts

end

/-! ## Checked drafts -/

/-- The node that a record must describe. -/
def node (read : Record → Outcome Formula) (record : Record) : Checked Description :=
  (read record).map fun (formula, _) => .ofNode formula

def word (name : String) : Description :=
  .ofPlain (.text name)

mutual

/-- The description of a draft whose nodes have been checked. -/
def describe : Draft → Checked Description
  | number value => .ok (.ofNode (.number value))
  | argument letters => .ok (.ofNode (.argument letters))
  | call name inputs => do
      let inputs ← describeAll inputs
      node (·.call) [("name", word name), ("args", .ofList .null inputs)]
  | prefixed operator operand => do
      let operand ← describe operand
      node (·.prefixed) [("op", word operator), ("operand", operand)]
  | chain level first links => do
      let first ← describe first
      let links ← describeAll links
      node (·.chain) [("level", word level), ("first", first), ("rest", .ofList .null links)]
  | group inside => do
      let inside ← describe inside
      node (·.group) [("inner", inside)]
  | link operator operand => do
      let operand ← describe operand
      let ((operator, operand), _) ←
        Record.link [("op", word operator), ("operand", operand)]
      return .ofLink operator operand
  | plain value => .ok (Formula.describe value)

def describeAll : List Draft → Checked (List Description)
  | [] => .ok []
  | draft :: drafts => do
      let first ← describe draft
      let others ← describeAll drafts
      return first :: others

end

/-- The formula that a draft is, if its nodes are right.  Nothing is asked of a plain value
that stands alone. -/
def check (draft : Draft) : Checked Formula := do
  let description ← draft.describe
  match draft with
  | plain value => return .plain (.ofJson value)
  | link _ _ => description.link.map fun ((operator, operand), _) => .link operator operand
  | _ => description.formula.map (·.1)

end Draft

end Reckon
