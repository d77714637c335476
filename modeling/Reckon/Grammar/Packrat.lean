import Std.Data.HashMap
import Reckon.Grammar.Run

/-!
# Reading with a memory

`Peg.runPackrat` reads like `Peg.run`, but remembers for every parsing expression and
position whether it matched there, and with which trees and rest.  What was expected is kept
in one record for the whole text; an answer from memory leaves that record alone, since the
attempt that filled the memory has already been recorded.
-/

namespace Reckon.Grammar

/-- How an attempt to read ends, apart from what was expected. -/
inductive Outcome where
  | matched (trees : List ParseTree) (rest : Cursor)
  | failed
  | exhausted

/-- The outcome with some trees that were read before. -/
def Outcome.after (trees : List ParseTree) : Outcome → Outcome
  | matched trees' rest => matched (trees ++ trees') rest
  | other => other

/-- The outcome with its trees under a rule. -/
def Outcome.under (rule : Rule) : Outcome → Outcome
  | matched trees rest => matched [.node rule trees] rest
  | other => other

/-- The memory of one reading. -/
structure Packrat where
  /-- A success holds the trees and the rest; `none` is a failure. -/
  known : Std.HashMap (Peg × Nat) (Option (List ParseTree × Cursor))
  expected : Expected

namespace Packrat

def empty : Packrat :=
  { known := ∅, expected := .none }

def expect (memory : Packrat) (position : Nat) (terminal : Terminal) : Packrat :=
  { memory with expected := memory.expected.merge (.single position terminal) }

/-- Remember an outcome; giving up is not remembered. -/
def store (memory : Packrat) (expression : Peg) (position : Nat) : Outcome → Packrat
  | .matched trees rest =>
      { memory with known := memory.known.insert (expression, position) (some (trees, rest)) }
  | .failed =>
      { memory with known := memory.known.insert (expression, position) none }
  | .exhausted => memory

/-- Answer from memory, or find out and remember. -/
def answer (memory : Packrat) (expression : Peg) (position : Nat)
    (attempt : Packrat → Outcome × Packrat) : Outcome × Packrat :=
  match memory.known[(expression, position)]? with
  | some (some (trees, rest)) => (.matched trees rest, memory)
  | some none => (.failed, memory)
  | none =>
      let (outcome, memory) := attempt memory
      (outcome, memory.store expression position outcome)

end Packrat

/-- Read one word behind any blanks. -/
def Terminal.runPackrat (terminal : Terminal) (cursor : Cursor) (memory : Packrat) :
    Outcome × Packrat :=
  let place := cursor.skipWhile isBlank
  match terminal.take? place.ahead with
  | some word =>
      (.matched (ParseTree.ofWord terminal word) (place.advance word.length), memory)
  | none => (.failed, memory.expect place.position terminal)

/-- Read by a parsing expression with a memory, with at most `spare` further constructs open
at once. -/
def Peg.runPackrat (spare : Nat) (expression : Peg) (cursor : Cursor) (memory : Packrat) :
    Outcome × Packrat :=
  match expression with
  | .terminal kind => kind.runPackrat cursor memory
  | .rule name =>
      memory.answer (.rule name) cursor.position fun memory =>
        let (outcome, memory) := Peg.runPackrat spare name.body cursor memory
        (outcome.under name, memory)
  | .sequence first second =>
      memory.answer (.sequence first second) cursor.position fun memory =>
        match Peg.runPackrat spare first cursor memory with
        | (.matched trees rest, memory) =>
            let (outcome, memory) := Peg.runPackrat spare second rest memory
            (outcome.after trees, memory)
        | stopped => stopped
  | .choice first second =>
      memory.answer (.choice first second) cursor.position fun memory =>
        match Peg.runPackrat spare first cursor memory with
        | (.failed, memory) => Peg.runPackrat spare second cursor memory
        | decided => decided
  | .many repeated =>
      memory.answer (.many repeated) cursor.position fun memory =>
        match Peg.runPackrat spare repeated cursor memory with
        | (.matched trees rest, memory) =>
            if rest.ahead.length < cursor.ahead.length then
              let (outcome, memory) := Peg.runPackrat spare (.many repeated) rest memory
              (outcome.after trees, memory)
            else
              (.matched trees rest, memory)
        | (.failed, memory) => (.matched [] cursor, memory)
        | (.exhausted, memory) => (.exhausted, memory)
  | .nested inside =>
      memory.answer (.nested inside) cursor.position fun memory =>
        match spare with
        | 0 => (.exhausted, memory)
        | spare + 1 => Peg.runPackrat spare inside cursor memory
termination_by (spare, expression.height, cursor.ahead.length)
decreasing_by
  all_goals simp [Prod.lex_def, Peg.height, Rule.height_body_lt]
  all_goals omega

/-- The result of reading a whole text from its start with an empty memory. -/
def Peg.runWithMemory (spare : Nat) (expression : Peg) (text : List Char) : Result :=
  match expression.runPackrat spare (.start text) .empty with
  | (.matched trees rest, memory) => .matched trees rest memory.expected
  | (.failed, memory) => .failed memory.expected
  | (.exhausted, _) => .exhausted

end Reckon.Grammar
