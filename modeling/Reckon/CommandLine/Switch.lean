import Reckon.Text.DecimalDigit

/-!
# Switches on a command line

The words of a command are switches and operands.  A long switch may be cut short as long as
one switch only begins like it, and its value may follow behind an equals sign.  Short
switches may be joined, the last one with its value.  A word that looks like a negative
number, or holds a blank, is an operand although it begins with a hyphen; behind a double
hyphen all words are operands.  A double hyphen that is joined to a switch takes the place of
its value and leaves it without one.
-/

namespace Reckon.CommandLine

inductive Switch where
  | help
  | logLevel
  | value
  | epsilon
  deriving DecidableEq, Repr

def Switch.names : Switch → List String
  | help => ["-h", "--help"]
  | logLevel => ["--log-level"]
  | value => ["--value", "-v"]
  | epsilon => ["--epsilon", "-e"]

def Switch.takesValue : Switch → Bool
  | help | value => false
  | logLevel | epsilon => true

/-- What a word is by its looks. -/
inductive WordKind where
  | operand
  /-- The name of a switch, and what is joined to it. -/
  | switch (switch : Switch) (name : String) (joined : Option String)
  /-- All words behind this one are operands. -/
  | separator
  | wrong
  deriving DecidableEq, Repr

def switchNamed? (switches : List Switch) (name : String) : Option Switch :=
  switches.find? fun switch => name ∈ switch.names

/-- A word before its first equals sign, and what stands behind it if there is one. -/
def splitAtEquals (word : String) : String × Option String :=
  let characters := word.toList
  let before := String.ofList (characters.takeWhile (· ≠ '='))
  match characters.dropWhile (· ≠ '=') with
  | _ :: behind => (before, some (String.ofList behind))
  | [] => (before, none)

/-- The switches that a word may stand for by abbreviation or joining. -/
def candidates (switches : List Switch) (word : String) : List WordKind :=
  if word.startsWith "--" then
    let (start, joined) := splitAtEquals word
    switches.flatMap fun switch =>
      (switch.names.filter (·.startsWith start)).map fun name => .switch switch name joined
  else
    let name := String.ofList (word.toList.take 2)
    match switchNamed? switches name with
    | some switch => [.switch switch name (some (String.ofList (word.toList.drop 2)))]
    | none => []

/-- Whether a word is a hyphen and a number without exponent. -/
def looksNegative (word : String) : Bool :=
  match word.toList with
  | '-' :: unsigned =>
      let unsigned := if unsigned.getLast? = some '\n' then unsigned.dropLast else unsigned
      let whole := unsigned.takeWhile Text.isDecimalDigit
      match unsigned.dropWhile Text.isDecimalDigit with
      | [] => !whole.isEmpty
      | '.' :: fraction => !fraction.isEmpty && fraction.all Text.isDecimalDigit
      | _ => false
  | _ => false

def separatorWord : String := "--"

/-- What a word is, where the given switches may stand. -/
def wordKind (switches : List Switch) (word : String) : WordKind :=
  if word = separatorWord then
    .separator
  else if !word.startsWith "-" || word = "-" then
    .operand
  else
    let (start, joined) := splitAtEquals word
    match switchNamed? switches word, switchNamed? switches start with
    | some switch, _ => .switch switch word none
    | none, some switch => .switch switch start joined
    | none, none =>
        match candidates switches word with
        | [kind] => kind
        | [] => if looksNegative word || ' ' ∈ word.toList then .operand else .wrong
        | _ => .wrong

structure Setting where
  switch : Switch
  value : Option String
  deriving DecidableEq, Repr

/-- The value that is joined to a switch: none if it is the separator. -/
def joinedValue (text : String) : Option String :=
  if text = separatorWord then none else some text

/-- What a switch sets together with what is joined to its name, and the last switch if its
value has to follow. -/
def unjoin (switches : List Switch) (switch : Switch) (name : String) :
    List Char → Option (List Setting × Option Switch)
  | [] =>
      if switch.takesValue then
        some ([], some switch)
      else
        some ([{ switch, value := none }], none)
  | letter :: rest =>
      if switch.takesValue then
        some ([{ switch, value := joinedValue (String.ofList (letter :: rest)) }], none)
      else if name.startsWith "--" then
        none
      else do
        let next ← switchNamed? switches (String.ofList ['-', letter])
        let (settings, waiting) ← unjoin switches next (String.ofList ['-', letter]) rest
        return ({ switch, value := none } :: settings, waiting)

/-- What a switch word sets, and the last switch if its value has to follow.  Behind an equals
sign the value may be empty, but only a switch that has a value may stand before it. -/
def settingsOfWord (switches : List Switch) (switch : Switch) (name : String)
    (joined : Option String) : Option (List Setting × Option Switch) :=
  match joined with
  | some "" => if switch.takesValue then some ([{ switch, value := some "" }], none) else none
  | some text => unjoin switches switch name text.toList
  | none => unjoin switches switch name []

/-- The settings that the first words spell, and the words from the first operand on. -/
def takeSettings (switches : List Switch) :
    List String → Option (List Setting × List String)
  | [] => some ([], [])
  | word :: words =>
      match wordKind switches word with
      | .operand | .separator => some ([], word :: words)
      | .wrong => none
      | .switch switch name joined =>
          match settingsOfWord switches switch name joined, words with
          | some (settings, none), words => do
              let (more, rest) ← takeSettings switches words
              return (settings ++ more, rest)
          | some (settings, some waiting), value :: words =>
              if wordKind switches value = .operand then do
                let (more, rest) ← takeSettings switches words
                return (settings ++ { switch := waiting, value := some value } :: more, rest)
              else
                none
          | _, _ => none

/-- The operands that the first words are, before a separator and behind it, and the words
from the first switch on. -/
def takeOperands (switches : List Switch) :
    List String → List String × Option (List String) × List String
  | [] => ([], none, [])
  | word :: words =>
      match wordKind switches word with
      | .operand =>
          let (before, behind, rest) := takeOperands switches words
          (word :: before, behind, rest)
      | .separator => ([], some words, [])
      | _ => ([], none, word :: words)

/-- What is set, and the operands before a separator and behind it. -/
structure Words where
  settings : List Setting
  operands : List String
  behindSeparator : Option (List String)
  deriving DecidableEq, Repr

/-- The words of a command, if they are right: all operands stand together. -/
def Words.ofList? (switches : List Switch) (words : List String) : Option Words := do
  let (before, words) ← takeSettings switches words
  let (operands, behindSeparator, words) := takeOperands switches words
  let (behind, words) ← takeSettings switches words
  guard words.isEmpty
  return { settings := before ++ behind, operands, behindSeparator }

def Words.values (words : Words) (switch : Switch) : List (Option String) :=
  (words.settings.filter (·.switch = switch)).map (·.value)

end Reckon.CommandLine
