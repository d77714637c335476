/-!
# How deep a text is nested

`Nesting.depth` tells from the characters alone how many groups, calls and prefixes stand
inside each other.  A parenthesis is one level until it is closed; a prefix is one level
until a binary operator, a comma or the end of its parenthesis.
-/

namespace Reckon.Grammar

/-- The prefixes that wait for an operand, in the innermost open parenthesis and in those
around it. -/
structure Nesting where
  pending : Nat
  around : List Nat
  deriving DecidableEq, Repr

namespace Nesting

def outermost : Nesting :=
  { pending := 0, around := [] }

/-- The levels that are open. -/
def level (nesting : Nesting) : Nat :=
  nesting.around.length + nesting.pending + nesting.around.foldr (· + ·) 0

/-- The effect of one character, given the one behind it. -/
def step (nesting : Nesting) (c : Char) (next : Option Char) : Nesting :=
  if (c = '!' ∨ c = '~') ∧ next ≠ some '=' then
    { nesting with pending := nesting.pending + 1 }
  else if c = '(' then
    { pending := 0, around := nesting.pending :: nesting.around }
  else if c = ')' then
    match nesting.around with
    | [] => nesting
    | pending :: around => { pending, around }
  else if c ∈ ['+', '-', '*', '/', '%', '<', '>', '=', '&', '|', '^', ',', '!'] then
    { nesting with pending := 0 }
  else
    nesting

/-- The most levels that are open behind any character of a text. -/
def deepest (nesting : Nesting) : List Char → Nat
  | [] => 0
  | c :: text =>
      let nesting := nesting.step c text.head?
      max nesting.level (nesting.deepest text)

/-- The nesting depth of a text. -/
def depth (text : List Char) : Nat :=
  outermost.deepest text

end Nesting

end Reckon.Grammar
