import Reckon.Json.Scalar

/-!
# Reading JSON

A text is one JSON value with blanks around it.  A text that is none is rejected at the
first position where no JSON value goes on; a text in quotes that is not closed is rejected
at its opening.  Of two members with one name the later one counts.  How many arrays and
objects may stand inside each other is limited.
-/

namespace Reckon.Json

/-- Whether a character may stand between the parts of a value. -/
def isBlank (c : Char) : Bool :=
  c = ' ' || c = '\t' || c = '\n' || c = '\r'

def skipBlanks (cursor : Cursor) : Cursor :=
  cursor.skipWhile isBlank

/-- The members of an object with one more, which replaces one of the same name. -/
def putMember (name : String) (value : Json) (members : List (String × Json)) :
    List (String × Json) :=
  if members.any fun (other, _) => other = name then
    members.map fun (other, old) => (other, if other = name then value else old)
  else
    members ++ [(name, value)]

/-- The place behind a mark that must stand at a place. -/
def expect (mark : Char) (cursor : Cursor) : Except Defect Cursor :=
  if cursor.ahead.head? = some mark then
    .ok (cursor.advance 1)
  else
    .error (.unexpected cursor.position)

mutual

/-- The value at a place, in which so many levels of arrays and objects may stand.  The first
argument bounds how often the readers call each other; every second call takes a character, so
twice the length of the text is enough. -/
def readValue : Nat → Nat → Cursor → Except Defect (Json × Cursor)
  | 0, _, cursor => .error (.unexpected cursor.position)
  | steps + 1, levels, cursor =>
      match cursor.ahead with
      | '"' :: _ => do
          let (value, behind) ← readText cursor
          return (text value, behind)
      | '{' :: _ =>
          let inside := skipBlanks (cursor.advance 1)
          if levels = 0 then
            .error .tooDeep
          else if inside.ahead.head? = some '}' then
            .ok (object [], inside.advance 1)
          else do
            let (members, behind) ← readMembers steps (levels - 1) [] inside
            return (object members, behind)
      | '[' :: _ =>
          let inside := skipBlanks (cursor.advance 1)
          if levels = 0 then
            .error .tooDeep
          else if inside.ahead.head? = some ']' then
            .ok (array [], inside.advance 1)
          else do
            let (elements, behind) ← readElements steps (levels - 1) inside
            return (array elements, behind)
      | _ =>
          match readWord? cursor with
          | some word => .ok word
          | none => readNumber cursor

/-- The members at a place, behind those read before, up to the closing brace. -/
def readMembers : Nat → Nat → List (String × Json) → Cursor →
    Except Defect (List (String × Json) × Cursor)
  | 0, _, _, cursor => .error (.unexpected cursor.position)
  | steps + 1, levels, before, cursor => do
      let _ ← expect '"' cursor
      let (name, behindName) ← readText cursor
      let behindColon ← expect ':' (skipBlanks behindName)
      let (value, behindValue) ← readValue steps levels (skipBlanks behindColon)
      let members := putMember name value before
      let place := skipBlanks behindValue
      if place.ahead.head? = some '}' then
        return (members, place.advance 1)
      else
        let behindComma ← expect ',' place
        readMembers steps levels members (skipBlanks behindComma)

/-- The elements at a place up to the closing bracket. -/
def readElements : Nat → Nat → Cursor → Except Defect (List Json × Cursor)
  | 0, _, cursor => .error (.unexpected cursor.position)
  | steps + 1, levels, cursor => do
      let (value, behindValue) ← readValue steps levels cursor
      let place := skipBlanks behindValue
      if place.ahead.head? = some ']' then
        return ([value], place.advance 1)
      else
        let behindComma ← expect ',' place
        let (values, behind) ← readElements steps levels (skipBlanks behindComma)
        return (value :: values, behind)

end

/-- The value that a text spells, with at most so many arrays and objects inside each other. -/
def read (text : String) (levels : Nat) : Except Defect Json := do
  let characters := text.toList
  let start := skipBlanks (.start characters)
  let (value, behind) ← readValue (2 * characters.length + 2) levels start
  let place := skipBlanks behind
  if place.ahead.isEmpty then
    return value
  else
    throw (.unexpected place.position)

end Reckon.Json
