import Reckon.Text.DecimalDigit

/-!
# Terminals

The words that formulas are made of.  A terminal takes one word of its kind from the front
of a text, or nothing.  The single `|` and `&` are not taken off their doubled forms,
and a prefix operator is not taken off a comparison that starts with it.
-/

namespace Reckon.Grammar

/-- A kind of word, or the end of the text. -/
inductive Terminal where
  | orOperator
  | andOperator
  | bitOrOperator
  | bitXorOperator
  | bitAndOperator
  | equalityOperator
  | relationOperator
  | sumOperator
  | productOperator
  | prefixOperator
  | number
  | argument
  | name
  | openParenthesis
  | comma
  | closeParenthesis
  | endOfText
  deriving DecidableEq, Hashable, Repr

namespace Terminal

/-- The terminal as lists of what was expected name it. -/
def label : Terminal → String
  | orOperator => "or_op"
  | andOperator => "and_op"
  | bitOrOperator => "bor_op"
  | bitXorOperator => "xor_op"
  | bitAndOperator => "band_op"
  | equalityOperator => "eq_op"
  | relationOperator => "rel_op"
  | sumOperator => "add_op"
  | productOperator => "mul_op"
  | prefixOperator => "unary_op"
  | number => "number"
  | argument => "variable"
  | name => "name"
  | openParenthesis => "'('"
  | comma => "','"
  | closeParenthesis => "')'"
  | endOfText => "EOF"

/-- Whether a terminal only separates: it leaves no token in a parse tree. -/
def isPunctuation : Terminal → Bool
  | openParenthesis | comma | closeParenthesis => true
  | _ => false

end Terminal

/-- Whether a character may stand in front of any word. -/
def isBlank (c : Char) : Bool :=
  c = ' ' || c = '\t' || c = '\n' || c = '\r'

def isArgumentLetter (c : Char) : Bool :=
  'A' ≤ c && c ≤ 'P'

/-- Whether a character may start a function name: ASCII letters of lower case only. -/
def isNameStart (c : Char) : Bool :=
  'a' ≤ c && c ≤ 'z'

/-- Whether a character may continue a function name. -/
def isNameCharacter (c : Char) : Bool :=
  isNameStart c || ('0' ≤ c && c ≤ '9')

/-- The word of the leading characters of a class, if there is one. -/
def takeRun? (holds : Char → Bool) (text : List Char) : Option (List Char) :=
  let word := text.takeWhile holds
  if word.isEmpty then none else some word

/-- One character of the listed ones. -/
def takeOne? (allowed : List Char) : List Char → Option (List Char)
  | c :: _ => if c ∈ allowed then some [c] else none
  | [] => none

/-- One character of the listed ones that the given character does not follow. -/
def takeOneUnless? (allowed : List Char) (follower : Char) : List Char → Option (List Char)
  | c :: rest => if c ∈ allowed ∧ rest.head? ≠ some follower then some [c] else none
  | [] => none

/-- One of the listed pairs of characters. -/
def takePair? (allowed : List (Char × Char)) : List Char → Option (List Char)
  | c :: d :: _ => if (c, d) ∈ allowed then some [c, d] else none
  | _ => none

/-- Some decimal digits, and a point with digits behind it if they follow. -/
def takeNumber? (text : List Char) : Option (List Char) :=
  (takeRun? Text.isDecimalDigit text).map fun whole =>
    match text.drop whole.length with
    | '.' :: behind =>
        match takeRun? Text.isDecimalDigit behind with
        | some fraction => whole ++ '.' :: fraction
        | none => whole
    | _ => whole

/-- A letter, and the letters and digits behind it. -/
def takeName? : List Char → Option (List Char)
  | c :: rest => if isNameStart c then some (c :: rest.takeWhile isNameCharacter) else none
  | [] => none

/-- The word of this kind at the front of a text without blanks there.  The end of the text
is an empty word. -/
def Terminal.take? (terminal : Terminal) (text : List Char) : Option (List Char) :=
  match terminal with
  | orOperator => takePair? [('|', '|')] text
  | andOperator => takePair? [('&', '&')] text
  | bitOrOperator => takeOneUnless? ['|'] '|' text
  | bitXorOperator => takeOne? ['^'] text
  | bitAndOperator => takeOneUnless? ['&'] '&' text
  | equalityOperator => takePair? [('=', '='), ('!', '=')] text
  | relationOperator => (takePair? [('<', '='), ('>', '=')] text).or (takeOne? ['<', '>'] text)
  | sumOperator => takeOne? ['+', '-'] text
  | productOperator => takeOne? ['*', '/', '%'] text
  | prefixOperator => takeOneUnless? ['!', '~'] '=' text
  | number => takeNumber? text
  | argument => takeRun? isArgumentLetter text
  | name => takeName? text
  | openParenthesis => takeOne? ['('] text
  | comma => takeOne? [','] text
  | closeParenthesis => takeOne? [')'] text
  | endOfText => if text.isEmpty then some [] else none

end Reckon.Grammar
