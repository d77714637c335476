import Reckon.Formula.Build
import Reckon.Grammar.Nesting
import Reckon.Grammar.Packrat

/-!
# Formulas of texts

A text that is nested deeper than the limit is refused before it is read.  Reading may also
give up on a text that is nested deeper than the reader's capacity; that too is reported as a
text that is nested too deep.
-/

namespace Reckon

open Grammar (ParseTree Result)

/-- How many constructs may usually be open at once while a text is read. -/
abbrev Reader.usualCapacity : Nat := 256

/-- How texts are read. -/
structure Reader where
  /-- How many constructs may stand inside each other. -/
  limit : Int
  /-- Whether reading remembers what it has found out. -/
  packrat : Bool := true
  /-- How many constructs may be open at once while a text is read. -/
  capacity : Nat := Reader.usualCapacity

namespace Reader

/-- Read a whole text. -/
def result (reader : Reader) (text : List Char) : Result :=
  let expression := Grammar.Rule.formula.body
  if reader.packrat then
    expression.runWithMemory reader.capacity text
  else
    expression.run reader.capacity (.start text)

def tooDeep (reader : Reader) (text : List Char) : Fault :=
  .tooDeep (max (Grammar.Nesting.depth text) (reader.limit + 1)) reader.limit

/-- The parse tree of a text, however deep it is nested. -/
def parseTree (reader : Reader) (text : List Char) : Except Fault ParseTree :=
  match reader.result text with
  | .matched trees _ _ => .ok (.node .formula trees)
  | .failed expected => .error (.misread { text, expected })
  | .exhausted => .error (reader.tooDeep text)

/-- The formula of a text. -/
def read (reader : Reader) (text : String) : Except Fault Formula := do
  let text := text.toList
  if reader.limit < Grammar.Nesting.depth text then
    throw (.tooDeep (Grammar.Nesting.depth text) reader.limit)
  let tree ← reader.parseTree text
  Formula.build reader.limit 0 tree

/-- The formula of the first part of a text that was read by the labelled rule, as if it
stood inside `depth` constructs.  The text is read however deep it is nested. -/
def readPart (reader : Reader) (text : String) (label : Option String) (depth : Int) :
    Except Fault Formula := do
  let tree ← reader.parseTree text.toList
  match label with
  | none => Formula.build reader.limit depth tree
  | some label =>
      match tree.find? label with
      | some part => Formula.build reader.limit depth part
      | none => throw (.unknownNode label)

end Reader

end Reckon
