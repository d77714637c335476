import Reckon.Grammar.Terminal

/-!
# What was expected where

While a text is read, the terminals that fail are kept for the furthest position at which
any failed.  `Expected.merge` combines what two attempts have seen: the further one counts,
and at one position the terminals are listed in the order of their first failure.
-/

namespace Reckon.Grammar

/-- The terminals that failed at the furthest position. -/
structure Expected where
  position : Nat
  terminals : List Terminal
  deriving DecidableEq, Repr

namespace Expected

def none : Expected :=
  { position := 0, terminals := [] }

def single (position : Nat) (terminal : Terminal) : Expected :=
  { position, terminals := [terminal] }

/-- The second list behind the first one, without what the first one holds. -/
def union (first second : List Terminal) : List Terminal :=
  first ++ second.filter (· ∉ first)

/-- What an earlier and a later attempt have seen together. -/
def merge (earlier later : Expected) : Expected :=
  if earlier.position < later.position then
    later
  else if later.position < earlier.position then
    earlier
  else
    { earlier with terminals := union earlier.terminals later.terminals }

end Expected

end Reckon.Grammar
