import Reckon.Formula.Basic
import Reckon.Formula.Operator
import Reckon.Grammar.Rule
import Reckon.Validation

/-!
# Descriptions of formulas

A part of a tree that is put together by hand may be a node, but also a record: an object
whose members are the parts of a node.  A record that states no kind may describe nodes of
several kinds.  The kind that uses the most members counts, where the members of the records
inside count as well; among kinds that use equally many, one that takes all values as they
are comes before one that converts some.  A record that describes no node has problems as a
node of each kind, and so has anything else that stands in place of a node.
-/

namespace Reckon.Formula

open Validation (Checked Complaint Problem Step)

/-- How well a part fits what is made of it. -/
structure Fit where
  /-- How many members of records are used. -/
  used : Nat
  /-- Whether no value has been converted. -/
  exact : Bool
  deriving DecidableEq, Repr

/-- The fit of a value that is taken as it is. -/
def Fit.asIs : Fit where
  used := 0
  exact := true

def Fit.and (first second : Fit) : Fit where
  used := first.used + second.used
  exact := first.exact && second.exact

def Fit.all (fits : List Fit) : Fit :=
  fits.foldr Fit.and Fit.asIs

/-- The fit of a member of a record whose value fits as given. -/
def Fit.ofMember (value : Fit) : Fit :=
  { value with used := value.used + 1 }

/-- Whether one fit is better than another. -/
def Fit.exceeds (first second : Fit) : Bool :=
  second.used < first.used ||
    (second.used = first.used && first.exact && !second.exact)

/-- What is made of a part, and how well it fits; or all problems of the part. -/
abbrev Outcome (α : Type) := Checked (α × Fit)

/-- The problems of a part, placed where the part stands. -/
def within {α : Type} (step : Step) : Checked α → Checked α
  | .ok value => .ok value
  | .error problems =>
      .error (problems.map fun problem => { problem with place := step :: problem.place })

/-- Two outcomes as one. -/
def together {α β : Type} (first : Outcome α) (second : Outcome β) : Outcome (α × β) :=
  (Validation.both first second).map fun ((a, fit), (b, otherFit)) => ((a, b), fit.and otherFit)

/-- The outcomes of the elements of a list as one. -/
def ofElements {α : Type} (outcomes : List (Outcome α)) : Outcome (List α) :=
  let placed := outcomes.mapIdx fun index outcome => within (.index index) outcome
  (Validation.all placed).map fun found => (found.map (·.1), .all (found.map (·.2)))

/-- The outcome that is a problem with the part itself. -/
def refused {α : Type} (complaint : Complaint) : Outcome α :=
  .error [{ complaint, place := [] }]

/-- A part of a tree, read as each of the things that a part of a node may be. -/
structure Description where
  /-- The plain value of the part; a node has none. -/
  value : Json
  formula : Outcome Formula
  link : Outcome (String × Formula)
  inputs : Outcome (List Formula)
  links : Outcome (List (String × Formula))

/-- A part read as a plain value that is taken as it is. -/
def Description.plain {α : Type} (convert : Json → Except Complaint α)
    (description : Description) : Outcome α :=
  match convert description.value with
  | .ok value => .ok (value, .asIs)
  | .error complaint => refused complaint

/-- A part read as a number.  Texts and truth values are converted to numbers. -/
def Description.number (description : Description) : Outcome Float :=
  let exact :=
    match description.value with
    | .text _ | .truth _ => false
    | _ => true
  (description.plain Validation.toDouble).map fun (value, fit) => (value, { fit with exact })

/-- A part read as one of some words, of which each stands for a choice. -/
def Description.choice (read : Json → Except Complaint String)
    (description : Description) : Outcome String :=
  (description.plain read).map fun (word, fit) => (word, { fit with exact := false })

/-! ## Records -/

/-- The parts of a node by their names. -/
abbrev Record := List (String × Description)

/-- A part of a record that is read in some way. -/
def Record.part {α : Type} (record : Record) (name : String)
    (read : Description → Outcome α) : Outcome α :=
  match record.lookup name with
  | some description =>
      (within (.name name) (read description)).map fun (value, fit) => (value, fit.ofMember)
  | none => within (.name name) (refused .missing)

/-- A word that belongs to a class. -/
def wordIf (belongs : String → Bool) (complaint : Complaint) :
    Json → Except Complaint String
  | .text word => if belongs word then .ok word else .error complaint
  | _ => .error complaint

/-- The kind of node that a record states.  It must be the given one, if it is stated. -/
def Record.kind (record : Record) (kind : String) : Outcome String :=
  if (record.lookup "node_type").isSome then
    record.part "node_type" (·.plain (wordIf (· = kind) .unknownWord))
  else
    .ok (kind, .asIs)

def Record.number (record : Record) : Outcome Formula :=
  let value := record.part "value" (·.number)
  (together (record.kind "number") value).map fun ((_, value), fit) => (.number value, fit)

def Record.argument (record : Record) : Outcome Formula :=
  let letters := record.part "token" (·.plain Validation.toText)
  (together (record.kind "variable") letters).map fun ((_, letters), fit) =>
    (.argument letters, fit)

def Record.call (record : Record) : Outcome Formula :=
  let name := record.part "name" (·.plain Validation.toText)
  let inputs := record.part "args" (·.inputs)
  (together (record.kind "call") (together name inputs)).map fun ((_, name, inputs), fit) =>
    (.call name inputs, fit)

def Record.prefixed (record : Record) : Outcome Formula :=
  let isOperator (word : String) : Bool := (Operator.unary? word).isSome
  let operator := record.part "op" (·.plain (wordIf isOperator .unknownWord))
  let operand := record.part "operand" (·.formula)
  (together (record.kind "unary") (together operator operand)).map
    fun ((_, operator, operand), fit) => (.prefixed operator operand, fit)

def Record.chain (record : Record) : Outcome Formula :=
  let isLevel (word : String) : Bool := (Grammar.Level.ofLabel? word).isSome
  let level := record.part "level" (·.choice (wordIf isLevel .unknownChoice))
  let first := record.part "first" (·.formula)
  let links := record.part "rest" (·.links)
  (together (record.kind "chain") (together level (together first links))).map
    fun ((_, level, first, links), fit) => (.chain level first links, fit)

def Record.group (record : Record) : Outcome Formula :=
  let inside := record.part "inner" (·.formula)
  (together (record.kind "group") inside).map fun ((_, inside), fit) => (.group inside, fit)

def Record.link (record : Record) : Outcome (String × Formula) :=
  let isOperator (word : String) : Bool := (Operator.binary? word).isSome
  let operator := record.part "op" (·.plain (wordIf isOperator .unknownWord))
  together operator (record.part "operand" (·.formula))

/-- The kinds of nodes, and how a record is read as a node of each. -/
def nodeKinds : List (String × (Record → Outcome Formula)) :=
  [("NumberNode", (·.number)), ("VariableNode", (·.argument)), ("FunctionCallNode", (·.call)),
    ("UnaryOpNode", (·.prefixed)), ("OperatorChainNode", (·.chain)), ("GroupNode", (·.group))]

/-- The one that fits better, the first one if there is no difference. -/
def fitter (first second : Formula × Fit) : Formula × Fit :=
  if second.2.exceeds first.2 then second else first

/-- The node that a record describes. -/
def Record.formula (record : Record) : Outcome Formula :=
  let outcomes := nodeKinds.map fun (kind, read) => within (.name kind) (read record)
  match outcomes.filterMap Except.toOption with
  | first :: others => .ok (others.foldl fitter first)
  | [] => .error (outcomes.flatMap Validation.problems)

/-! ## Parts -/

/-- What is no node is none of any kind. -/
def stranger : Outcome Formula :=
  .error <| nodeKinds.map fun (kind, _) => { complaint := .formulaType, place := [.name kind] }

def Description.ofPlain (value : Json) : Description where
  value
  formula := stranger
  link := refused .formulaType
  inputs := refused .listType
  links := refused .listType

def Description.ofNode (formula : Formula) : Description :=
  { Description.ofPlain .null with formula := .ok (formula, .asIs) }

def Description.ofLink (operator : String) (operand : Formula) : Description :=
  { Description.ofPlain .null with link := .ok ((operator, operand), .asIs) }

def Description.ofRecord (value : Json) (record : Record) : Description :=
  { Description.ofPlain value with formula := record.formula, link := record.link }

/-- An outcome that is a list, which must hold something. -/
def nonempty {α : Type} : Outcome (List α) → Outcome (List α)
  | .ok ([], _) => refused .tooFew
  | outcome => outcome

/-- The description of a list.  A call has one or two inputs; of more than two none is looked
at. -/
def Description.ofList (value : Json) (elements : List Description) : Description :=
  { Description.ofPlain value with
    inputs :=
      if 2 < elements.length then
        refused .tooMany
      else
        nonempty (ofElements (elements.map (·.formula)))
    links := nonempty (ofElements (elements.map (·.link))) }

mutual

/-- The description of a JSON value. -/
def describe : Json → Description
  | .array elements => .ofList (.array elements) (describeAll elements)
  | .object members => .ofRecord (.object members) (describeMembers members)
  | value => .ofPlain value

def describeAll : List Json → List Description
  | [] => []
  | value :: values => describe value :: describeAll values

def describeMembers : List (String × Json) → Record
  | [] => []
  | (name, value) :: members => (name, describe value) :: describeMembers members

end

end Reckon.Formula
