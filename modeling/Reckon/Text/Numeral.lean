import Reckon.Double.Nearest
import Reckon.Text.DecimalDigit

/-!
# Reading numerals

A numeral is a sign, digits with or without a point, and an exponent; the words `inf`,
`infinity` and `nan` are numerals too.  Two conventions dress it up.  In the `lenient` one
underscores may stand between any two characters of a text without blanks; in the `written`
one they may stand between digits only, and the digits may be those of any script.
-/

namespace Reckon.Text

/-- Whether a character has the Unicode property White_Space. -/
def isWhiteSpace (c : Char) : Bool :=
  let code := c.toNat
  (0x9 ≤ code && code ≤ 0xD) || code = 0x20 || code = 0x85 || code = 0xA0 || code = 0x1680 ||
    (0x2000 ≤ code && code ≤ 0x200A) || code = 0x2028 || code = 0x2029 || code = 0x202F ||
    code = 0x205F || code = 0x3000

/-- A text without white space around it. -/
def trim (text : List Char) : List Char :=
  ((text.dropWhile isWhiteSpace).reverse.dropWhile isWhiteSpace).reverse

/-- A sign, true for minus, and the rest; no sign is plus. -/
def takeSign : List Char → Bool × List Char
  | '-' :: rest => (true, rest)
  | '+' :: rest => (false, rest)
  | rest => (false, rest)

def isAsciiDigit (c : Char) : Bool :=
  '0' ≤ c && c ≤ '9'

/-- The value of a hexadecimal digit. -/
def hexadecimalDigit? (c : Char) : Option Nat :=
  if '0' ≤ c ∧ c ≤ '9' then
    some (c.toNat - '0'.toNat)
  else if 'a' ≤ c ∧ c ≤ 'f' then
    some (c.toNat - 'a'.toNat + 10)
  else if 'A' ≤ c ∧ c ≤ 'F' then
    some (c.toNat - 'A'.toNat + 10)
  else
    none

/-- The digits of a text that holds nothing else, if there are any. -/
def digitsOnly? (text : List Char) : Option Nat :=
  if text.isEmpty || text.any fun c => !isAsciiDigit c then none else some (digitsValue text)

/-- The integer that signed digits spell. -/
def plainInteger? (text : List Char) : Option Int :=
  let (negative, digits) := takeSign text
  (digitsOnly? digits).map fun value => if negative then -(value : Int) else value

/-- The double nearest to a scaled number.  Numbers beyond all doubles are not computed. -/
def scaled (negative : Bool) (digits : Nat) (exponent : Int) : Float :=
  let size := (Nat.toDigits 10 digits).length + exponent
  if digits = 0 ∨ size < -400 then
    Double.ofMagnitude negative 0
  else if 400 < size then
    Double.ofMagnitude negative Double.infinityMagnitude
  else
    Double.nearest negative (digits * Nat.pow 10 exponent.toNat) (Nat.pow 10 (-exponent).toNat)

/-- The exponent behind a number, zero if there is none. -/
def exponent? : List Char → Option Int
  | [] => some 0
  | mark :: text => if mark = 'e' ∨ mark = 'E' then plainInteger? text else none

/-- The double that unsigned digits, a point and an exponent spell. -/
def decimal? (negative : Bool) (text : List Char) : Option Float :=
  let whole := text.takeWhile isAsciiDigit
  let (fraction, rest) :=
    match text.dropWhile isAsciiDigit with
    | '.' :: behind => (behind.takeWhile isAsciiDigit, behind.dropWhile isAsciiDigit)
    | rest => ([], rest)
  let digits := whole ++ fraction
  if digits.isEmpty then
    none
  else
    (exponent? rest).map fun exponent =>
      scaled negative (digitsValue digits) (exponent - fraction.length)

/-- The double that a numeral of ASCII characters spells. -/
def plainDouble? (text : List Char) : Option Float :=
  let (negative, unsigned) := takeSign text
  let word := String.ofList (unsigned.map Char.toLower)
  if word = "inf" ∨ word = "infinity" then
    some (Double.ofMagnitude negative Double.infinityMagnitude)
  else if word = "nan" then
    some Double.nan
  else
    decimal? negative unsigned

/-- A text without underscores, if it holds some, none of them at an end or next to another. -/
def withoutUnderscores? (text : List Char) : Option (List Char) :=
  let doubled := (text.zip (text.drop 1)).contains ('_', '_')
  if text.head? = some '_' ∨ text.getLast? = some '_' ∨ doubled ∨ '_' ∉ text then
    none
  else
    some (text.filter (· ≠ '_'))

/-- The double that a text spells in the lenient convention. -/
def lenientDouble? (text : String) : Option Float :=
  let characters := text.toList
  (plainDouble? (trim characters)).or ((withoutUnderscores? characters).bind plainDouble?)

/-- The most digits that an integer may have. -/
abbrev longestInteger : Nat := 4300

/-- Why a text spells no integer. -/
inductive IntegerDefect where
  | malformed
  | oversized
  deriving DecidableEq, Repr

/-- The digits that a text starts with behind a minus sign, if there is one. -/
def leadingDigits : List Char → List Char
  | '-' :: rest => rest.takeWhile isAsciiDigit
  | text => text.takeWhile isAsciiDigit

/-- Whether a text starts with an integer that has too many digits, the first of them no
zero. -/
def startsOversized (text : List Char) : Bool :=
  let digits := leadingDigits text
  longestInteger < digits.length && digits.head? ≠ some '0'

/-- A sign, true for minus, and the rest, if a sign stands in front of a digit or not at all;
no sign is plus. -/
def splitSign? (text : List Char) : Option (Bool × List Char) :=
  let (negative, rest) := takeSign text
  if rest.length < text.length && !rest.head?.any isAsciiDigit then
    none
  else
    some (negative, rest)

/-- A text without the zeros, and the underscores among them, in front of its number.  One of
these characters stays in front of a point and at the end of the text. -/
def withoutLeadingZeros? : List Char → Option (List Char)
  | [] => none
  | first :: rest =>
      let zeros := (first :: rest).takeWhile fun c => c = '0' || c = '_'
      let behind := (first :: rest).drop zeros.length
      if first ≠ '0' then
        if isAsciiDigit first || first = '-' then some (first :: rest) else none
      else
        match behind with
        | [] => some (zeros.getLast?.toList)
        | mark :: _ =>
            if mark = '.' then
              some (zeros.getLast?.toList ++ behind)
            else if isAsciiDigit mark || mark = '-' then
              some behind
            else
              none

/-- A text without a point that zeros, and nothing else, follow. -/
def withoutZeroFraction (text : List Char) : List Char :=
  match text.dropWhile (· ≠ '.') with
  | _ :: '0' :: zeros => if zeros.all (· = '0') then text.takeWhile (· ≠ '.') else text
  | _ => text

/-- The integer that digits with an optional minus sign spell.  The digits are not too many,
and they do not begin with a zero unless it is the only one. -/
def canonicalInteger? (text : List Char) : Option Int :=
  let digits := (takeSign text).2
  if text.head? = some '+' ∨ (digits.head? = some '0' ∧ digits.length ≠ 1) ∨
      longestInteger < digits.length then
    none
  else
    plainInteger? text

/-- A text without white space, a plus sign, leading zeros, a fraction of zeros and
underscores. -/
def plainForm? (text : List Char) : Option (List Char) := do
  let (negative, unsigned) ← splitSign? (trim text)
  let digits := withoutZeroFraction (← withoutLeadingZeros? unsigned)
  let digits := (withoutUnderscores? digits).getD digits
  return if negative then '-' :: digits else digits

/-- The integer that a text spells in the lenient convention.  Only a text that starts with too
many digits is oversized, not one in which they stand behind something else. -/
def lenientInteger (text : String) : Except IntegerDefect Int :=
  let characters := text.toList
  if startsOversized characters then
    .error .oversized
  else
    match (plainForm? characters).bind canonicalInteger? with
    | some value => .ok value
    | none => .error .malformed

/-- A text with the digits of all scripts in ASCII, without white space around it and without
the underscores between two digits; other underscores stay. -/
def writtenForm (text : String) : List Char :=
  let ascii := (trim text.toList).map fun c =>
    match decimalDigit? c with
    | some value => Char.ofNat ('0'.toNat + value)
    | none => c
  join none ascii
where
  /-- Drop an underscore behind a digit and in front of one. -/
  join (previous : Option Char) : List Char → List Char
    | [] => []
    | '_' :: rest =>
        if previous.any isAsciiDigit && rest.head?.any isAsciiDigit then
          join (some '_') rest
        else
          '_' :: join (some '_') rest
    | c :: rest => c :: join (some c) rest

/-- The double that a text spells in the written convention. -/
def writtenDouble? (text : String) : Option Float :=
  plainDouble? (writtenForm text)

/-- The integer that a text spells in the written convention. -/
def writtenInteger? (text : String) : Option Int :=
  let form := writtenForm text
  if longestInteger < form.countP isAsciiDigit then none else plainInteger? form

end Reckon.Text
