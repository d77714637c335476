import Reckon.Json.Value
import Reckon.Text.Cursor
import Reckon.Text.Encoding
import Reckon.Text.Numeral

/-!
# Numbers, words and texts in JSON

What JSON values without parts look like.  Besides the three words of the format there are
words for NaN and the infinities; an integer may have as many digits as any written integer;
an escaped character beyond the basic plane is written as a pair of surrogates.
-/

namespace Reckon.Json

/-- Why a text is no JSON value. -/
inductive Defect where
  /-- What stands at this position cannot stand there. -/
  | unexpected (position : Nat)
  /-- An integer has too many digits. -/
  | oversized
  /-- Too many arrays and objects stand inside each other. -/
  | tooDeep
  deriving DecidableEq, Repr

/-- The words of JSON and what they stand for. -/
def words : List (String × Json) :=
  [("null", null), ("true", truth true), ("false", truth false),
    ("NaN", double Double.nan), ("Infinity", double Double.infinity),
    ("-Infinity", double (-Double.infinity))]

/-- The word at a place, if there is one. -/
def readWord? (cursor : Cursor) : Option (Json × Cursor) :=
  words.findSome? fun (word, value) =>
    if word.toList.isPrefixOf cursor.ahead then
      some (value, cursor.advance word.length)
    else
      none

/-- The digits before any point: a leading zero stands alone. -/
def wholeDigits : List Char → List Char
  | '0' :: _ => ['0']
  | digits => digits.takeWhile Text.isAsciiDigit

/-- A point with digits behind it, if the text starts like this. -/
def fractionWord : List Char → List Char
  | '.' :: rest =>
      let digits := rest.takeWhile Text.isAsciiDigit
      if digits.isEmpty then [] else '.' :: digits
  | _ => []

/-- An exponent with its mark, if the text starts with one. -/
def exponentWord : List Char → List Char
  | mark :: rest =>
      let sign := (rest.take 1).filter fun c => c = '+' || c = '-'
      let digits := (rest.drop sign.length).takeWhile Text.isAsciiDigit
      if (mark = 'e' || mark = 'E') && !digits.isEmpty then mark :: (sign ++ digits) else []
  | [] => []

/-- The number at a place: an integer unless it has a fraction or an exponent. -/
def readNumber (cursor : Cursor) : Except Defect (Json × Cursor) :=
  let sign := (cursor.ahead.take 1).filter (· = '-')
  let unsigned := cursor.ahead.drop sign.length
  let whole := wholeDigits unsigned
  let fraction := fractionWord (unsigned.drop whole.length)
  let exponent := exponentWord (unsigned.drop (whole ++ fraction).length)
  let word := whole ++ fraction ++ exponent
  let behind := cursor.advance (sign ++ word).length
  if whole.isEmpty then
    .error (.unexpected cursor.position)
  else if word ≠ whole then
    match Text.decimal? (!sign.isEmpty) word with
    | some value => .ok (double value, behind)
    | none => .error (.unexpected cursor.position)
  else if Text.longestInteger < whole.length then
    .error .oversized
  else
    let value : Int := Text.digitsValue whole
    .ok (integer (if sign.isEmpty then value else -value), behind)

/-- What a backslash and a letter stand for. -/
def escaped? : Char → Option Char
  | '"' => some '"'
  | '\\' => some '\\'
  | '/' => some '/'
  | 'b' => some '\x08'
  | 'f' => some '\x0c'
  | 'n' => some '\n'
  | 'r' => some '\r'
  | 't' => some '\t'
  | _ => none

/-- The number that four hexadecimal digits spell, if more text follows them. -/
def fourDigits? : List Char → Option Nat
  | a :: b :: c :: d :: _ :: _ => do
      let a ← Text.hexadecimalDigit? a
      let b ← Text.hexadecimalDigit? b
      let c ← Text.hexadecimalDigit? c
      let d ← Text.hexadecimalDigit? d
      return ((a * 16 + b) * 16 + c) * 16 + d
  | _ => none

/-- The code units of a text up to its closing quote, and the number of characters that
spell them with the quote.  A text that is not closed is reported at its opening. -/
def readUnits (opening position : Nat) : List Char → Except Defect (List Nat × Nat)
  | [] => .error (.unexpected opening)
  | '"' :: _ => .ok ([], 1)
  | '\\' :: 'u' :: rest =>
      match fourDigits? rest, rest with
      | some unit, _ :: _ :: _ :: _ :: rest => do
          let (units, count) ← readUnits opening (position + 6) rest
          return (unit :: units, count + 6)
      | _, _ => .error (.unexpected (position + 1))
  | '\\' :: letter :: rest =>
      match escaped? letter with
      | some c => do
          let (units, count) ← readUnits opening (position + 2) rest
          return (c.toNat :: units, count + 2)
      | none => .error (.unexpected position)
  | ['\\'] => .error (.unexpected opening)
  | c :: rest =>
      if c < ' ' then
        .error (.unexpected position)
      else do
        let (units, count) ← readUnits opening (position + 1) rest
        return (c.toNat :: units, count + 1)

/-- The text whose opening quote stands at a place. -/
def readText (cursor : Cursor) : Except Defect (String × Cursor) := do
  let inside := cursor.advance 1
  let (units, count) ← readUnits cursor.position inside.position inside.ahead
  return (String.ofList (Text.charactersOfUnits units), inside.advance count)

end Reckon.Json
