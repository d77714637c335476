import Reckon.Fault

/-!
# Tables of functions

A table holds functions of doubles by name and by the number of their inputs, so that functions
of different numbers of inputs do not share their names.  What is added last counts.
-/

namespace Reckon.Function

structure Table where
  unary : List (String × (Float → Float))
  binary : List (String × (Float → Float → Float))
  /-- The functions of any other number of doubles, with that number. -/
  others : List ((String × Nat) × (List Float → Float)) := []

namespace Table

def empty : Table :=
  { unary := [], binary := [] }

def insertUnary (table : Table) (name : String) (function : Float → Float) : Table :=
  { table with unary := (name, function) :: table.unary }

def insertBinary (table : Table) (name : String) (function : Float → Float → Float) : Table :=
  { table with binary := (name, function) :: table.binary }

/-- Whether the table holds a function with this name for so many inputs. -/
def contains (table : Table) (name : String) (arity : Int) : Bool :=
  match arity with
  | 1 => (table.unary.lookup name).isSome
  | 2 => (table.binary.lookup name).isSome
  | .ofNat arity => (table.others.lookup (name, arity)).isSome
  | .negSucc _ => false

/-- Insist that the table holds a function with this name for so many inputs. -/
def require (table : Table) (name : String) (arity : Int) : Except Fault Unit :=
  if table.contains name arity then .ok () else .error (.unknownFunction name arity)

/-- Apply the function with this name that takes so many inputs as are given. -/
def apply (table : Table) (name : String) (inputs : List Float) : Except Fault Float :=
  match inputs with
  | [x] =>
      match table.unary.lookup name with
      | some function => .ok (function x)
      | none => .error (.unknownFunction name 1)
  | [x, y] =>
      match table.binary.lookup name with
      | some function => .ok (function x y)
      | none => .error (.unknownFunction name 2)
  | inputs =>
      match table.others.lookup (name, inputs.length) with
      | some function => .ok (function inputs)
      | none => .error (.unknownFunction name inputs.length)

/-- The names of the functions for so many inputs, ascending. -/
def names (table : Table) (arity : Int) : List String :=
  let all : List String :=
    match arity with
    | 1 => table.unary.map Prod.fst
    | 2 => table.binary.map Prod.fst
    | .ofNat arity => (table.others.filter (·.1.2 = arity)).map (·.1.1)
    | .negSucc _ => []
  all.eraseDups.mergeSort (· ≤ ·)

end Table

end Reckon.Function
