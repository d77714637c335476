import Reckon.Grammar.Expected
import Reckon.Grammar.ParseTree
import Reckon.Text.Cursor

/-!
# Reading a text by a parsing expression

`Peg.run` reads a text by ordered choice and greedy repetition.  Its first argument bounds
how many nested constructs may be open at once; reading is given up where one more would be
opened.  Since all recursion of the grammar passes through nested constructs, that bound is
also what makes reading terminate.
-/

namespace Reckon.Grammar

/-- How an attempt to read ends. -/
inductive Result where
  | matched (trees : List ParseTree) (rest : Cursor) (expected : Expected)
  | failed (expected : Expected)
  /-- More constructs would be open than allowed. -/
  | exhausted

namespace Result

/-- The result of what follows some trees that were read before. -/
def after (trees : List ParseTree) (expected : Expected) : Result → Result
  | matched trees' rest expected' => matched (trees ++ trees') rest (expected.merge expected')
  | failed expected' => failed (expected.merge expected')
  | exhausted => exhausted

/-- Continue behind a success. -/
def andThen (result : Result) (next : Cursor → Result) : Result :=
  match result with
  | matched trees rest expected => (next rest).after trees expected
  | failed expected => failed expected
  | exhausted => exhausted

/-- Try something else upon a failure. -/
def orElse (result : Result) (alternative : Unit → Result) : Result :=
  match result with
  | failed expected => (alternative ()).after [] expected
  | other => other

/-- Put the trees that were read under a rule. -/
def under (rule : Rule) : Result → Result
  | matched trees rest expected => matched [.node rule trees] rest expected
  | other => other

end Result

/-- Read one word behind any blanks. -/
def Terminal.run (terminal : Terminal) (cursor : Cursor) : Result :=
  let place := cursor.skipWhile isBlank
  match terminal.take? place.ahead with
  | some word =>
      .matched (ParseTree.ofWord terminal word) (place.advance word.length) .none
  | none => .failed (.single place.position terminal)

/-- Read by a parsing expression, with at most `spare` further constructs open at once. -/
def Peg.run (spare : Nat) (expression : Peg) (cursor : Cursor) : Result :=
  match expression with
  | .terminal kind => kind.run cursor
  | .rule name => (Peg.run spare name.body cursor).under name
  | .sequence first second =>
      (Peg.run spare first cursor).andThen fun rest => Peg.run spare second rest
  | .choice first second =>
      (Peg.run spare first cursor).orElse fun _ => Peg.run spare second cursor
  | .many repeated =>
      match Peg.run spare repeated cursor with
      | .matched trees rest expected =>
          -- a repetition that takes nothing is not tried again
          if rest.ahead.length < cursor.ahead.length then
            (Peg.run spare (.many repeated) rest).after trees expected
          else
            .matched trees rest expected
      | .failed expected => .matched [] cursor expected
      | .exhausted => .exhausted
  | .nested inside =>
      match spare with
      | 0 => .exhausted
      | spare + 1 => Peg.run spare inside cursor
termination_by (spare, expression.height, cursor.ahead.length)
decreasing_by
  all_goals simp [Prod.lex_def, Peg.height, Rule.height_body_lt]
  all_goals omega

end Reckon.Grammar
