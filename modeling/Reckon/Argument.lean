import Reckon.Fault

/-!
# Names of arguments

An argument is named by a word over the letters A to P.  The letters are the digits of its
index in base 16, the least significant one first, so that `A`, `B`, `C` name the first
arguments and trailing letters `A` change nothing.
-/

namespace Reckon.Argument

abbrev base : Nat := 16

def letterValue? (letter : Char) : Option Nat :=
  if Grammar.isArgumentLetter letter then some (letter.toNat - 'A'.toNat) else none

/-- The letter with a value below 16. -/
def letter (value : Nat) : Char :=
  .ofNat ('A'.toNat + value)

/-- The index that letters spell, or the first character that is no letter. -/
def decodeLetters : List Char → Except Char Nat
  | [] => .ok 0
  | c :: letters =>
      match letterValue? c with
      | none => .error c
      | some value => (decodeLetters letters).map fun index => value + base * index

/-- The index that a name stands for. -/
def decode (letters : String) : Except Fault Nat :=
  if letters.isEmpty then
    .error .noLetters
  else
    match decodeLetters letters.toList with
    | .ok index => .ok index
    | .error c => .error (.badLetter c letters)

/-- The argument that a name stands for among so many of them. -/
def locate (letters : String) (count : Int) :
    Except Fault { index : Nat // (index : Int) < count } := do
  let index ← decode letters
  if inside : (index : Int) < count then
    return ⟨index, inside⟩
  else
    throw (.beyondArguments letters index count)

/-- The index that a name stands for among so many arguments. -/
def resolve (letters : String) (count : Int) : Except Fault Nat := do
  return (← locate letters count).val

/-- The shortest nonempty word for an index. -/
def encodeLetters (index : Nat) : List Char :=
  if index < base then
    [letter index]
  else
    letter (index % base) :: encodeLetters (index / base)
decreasing_by
  simp only [base] at *
  omega

/-- The shortest name of an index, or with a width the name of that length. -/
def encode (index : Int) (width : Option Int) : Except Fault String :=
  if index < 0 then
    .error (.negativeIndex index)
  else
    let letters := encodeLetters index.toNat
    match width with
    | none => .ok (String.ofList letters)
    | some width =>
        if width < letters.length then
          .error (.tooNarrow letters.length width)
        else
          let padding := List.replicate (width.toNat - letters.length) (letter 0)
          .ok (String.ofList (letters ++ padding))

/-- An index in decimal digits, unless there are too many of them. -/
def indexText (index : Nat) : Except Fault String :=
  if Fault.unwritable ≤ index then .error .unwritableIndex else .ok (toString index)

/-- The value of the argument with a given name. -/
def lookup (arguments : List Float) (letters : String) : Except Fault Float := do
  let ⟨index, inside⟩ ← locate letters arguments.length
  return arguments.get ⟨index, Int.ofNat_lt.mp inside⟩

end Reckon.Argument
