/-!
# Places in a text

A cursor is a place in a text: the number of characters before it and the characters ahead.
-/

namespace Reckon

/-- A place in a text. -/
structure Cursor where
  position : Nat
  ahead : List Char
  deriving DecidableEq, Repr

namespace Cursor

def start (text : List Char) : Cursor :=
  { position := 0, ahead := text }

/-- The place behind so many characters, at most at the end of the text. -/
def advance (cursor : Cursor) (count : Nat) : Cursor :=
  { position := cursor.position + (cursor.ahead.take count).length
    ahead := cursor.ahead.drop count }

/-- The place behind the leading characters of a class. -/
def skipWhile (cursor : Cursor) (holds : Char → Bool) : Cursor :=
  cursor.advance (cursor.ahead.takeWhile holds).length

end Cursor

end Reckon
