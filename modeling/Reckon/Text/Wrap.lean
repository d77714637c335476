/-!
# Fitting text into limited width

The width of a text is what it takes up on a screen: a fullwidth character counts twice.  A
line that is too long is broken behind blanks.  A word is never broken: where it is wider
than the limit, the end of its line is left out, and an ellipsis tells so.
-/

namespace Reckon.Text

/-- How much room a character takes up; a tab has no width of its own. -/
def characterWidth (c : Char) : Nat :=
  let code := c.toNat
  if c = '\t' then
    0
  else if (0xFF01 ≤ code && code ≤ 0xFF60) || (0xFFE0 ≤ code && code ≤ 0xFFE6) then
    2
  else
    1

/-- How much room a line takes up. -/
def width (line : List Char) : Nat :=
  (line.map characterWidth).foldr (· + ·) 0

def blanks (count : Nat) : List Char :=
  List.replicate count ' '

/-- The distance between the places that tabs go to. -/
abbrev tabDistance : Nat := 8

/-- A line with its tabs replaced by blanks, behind so much room. -/
def expandTabs (room : Nat) : List Char → List Char
  | [] => []
  | '\t' :: rest =>
      let gap := tabDistance - room % tabDistance
      blanks gap ++ expandTabs (room + gap) rest
  | c :: rest => c :: expandTabs (room + characterWidth c) rest

/-- The lines of a text, between line feeds; carriage returns are dropped. -/
def lines (text : String) : List (List Char) :=
  (text.toList.splitOn '\n').map (List.filter (· ≠ '\r'))

/-- A line without the blanks at its end. -/
def trimEnd (line : List Char) : List Char :=
  (line.reverse.dropWhile (· = ' ')).reverse

/-- A line without those blanks at its end that lie behind so many characters. -/
def trimBeyond (count : Nat) (line : List Char) : List Char :=
  line.take (max count (trimEnd line).length)

/-- The words of a line, each with the blanks behind it, the first one also with the blanks in
front of it. -/
def words (line : List Char) : List (List Char) :=
  match line.splitBy fun a b => a ≠ ' ' || b = ' ' with
  | first :: second :: rest =>
      if first.all (· = ' ') then (first ++ second) :: rest else first :: second :: rest
  | pieces => pieces

/-- Lines that are filled word by word, the first one behind what it holds already.  The
blanks behind the last word of a line may go beyond the limit. -/
def fill (limit : Nat) (line : List Char) : List (List Char) → List (List Char)
  | [] => [line]
  | word :: words =>
      if line.isEmpty || width line + width (trimEnd word) ≤ limit then
        fill limit (line ++ word) words
      else
        line :: fill limit word words

/-- The start of a line that takes up so much room.  A character that has room for its first
half only is replaced by a blank. -/
def cut (limit : Nat) : List Char → List Char
  | [] => []
  | c :: rest =>
      if characterWidth c ≤ limit then
        c :: cut (limit - characterWidth c) rest
      else
        blanks limit

/-- A line, or its start with an ellipsis if it is wider than the limit. -/
def shorten (limit : Nat) (line : List Char) : List Char :=
  if width line ≤ limit then line else cut (limit - 1) line ++ ['…']

/-- A line that exactly fills a width, with blanks at its end if it is too short. -/
def fitLeft (limit : Nat) (line : List Char) : List Char :=
  let line := shorten limit (trimBeyond limit line)
  line ++ blanks (limit - width line)

/-- A line that exactly fills a width, with blanks in front of it if it is too short. -/
def fitRight (limit : Nat) (line : List Char) : List Char :=
  let line := shorten limit (trimEnd line)
  blanks (limit - width line) ++ line

/-- A line in the middle of a width; an odd blank stands behind it. -/
def fitCentre (limit : Nat) (line : List Char) : List Char :=
  let excess := limit - width line
  blanks (excess / 2) ++ line ++ blanks (excess - excess / 2)

/-- The pieces of a line that are as wide as the limit allows, behind a piece that was
begun. -/
def chop (limit : Nat) (piece : List Char) : List Char → List (List Char)
  | [] => [piece]
  | c :: rest =>
      if width piece + characterWidth c ≤ limit then
        chop limit (piece ++ [c]) rest
      else
        piece :: chop limit [c] rest

end Reckon.Text
