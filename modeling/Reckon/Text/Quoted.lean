import Reckon.Text.Printable

/-!
# Quoted text

Text inside a message stands between single quotes, or between double quotes if it holds
single ones and no double ones.  The backslash, the quote in use and the characters that are
not printable are escaped, the latter with the shortest of three hexadecimal forms.
-/

namespace Reckon.Text

/-- A number in lower-case hexadecimal digits, padded with zeros. -/
def hexadecimal (width number : Nat) : List Char :=
  let digits := Nat.toDigits 16 number
  List.replicate (width - digits.length) '0' ++ digits

def hexadecimalEscape (c : Char) : List Char :=
  if c.toNat < 0x100 then
    '\\' :: 'x' :: hexadecimal 2 c.toNat
  else if c.toNat < 0x10000 then
    '\\' :: 'u' :: hexadecimal 4 c.toNat
  else
    '\\' :: 'U' :: hexadecimal 8 c.toNat

/-- A character as it stands between the given quotes. -/
def escape (quotationMark c : Char) : List Char :=
  if c = quotationMark ∨ c = '\\' then
    ['\\', c]
  else if c = '\t' then
    ['\\', 't']
  else if c = '\n' then
    ['\\', 'n']
  else if c = '\r' then
    ['\\', 'r']
  else if isPrintable c then
    [c]
  else
    hexadecimalEscape c

/-- The quotes that a text is put between. -/
def quotationMark (text : List Char) : Char :=
  if '\'' ∈ text ∧ '"' ∉ text then '"' else '\''

def quoted (text : String) : String :=
  let characters := text.toList
  let mark := quotationMark characters
  String.ofList (mark :: characters.flatMap (escape mark) ++ [mark])

end Reckon.Text
