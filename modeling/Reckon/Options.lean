import Reckon.Validation

/-!
# Options

Options have defaults, which variables of the environment replace, which values given
explicitly replace.  A variable is named like its option behind a fixed beginning.  The case
of names does not matter: of several values the first one counts, of several variables the
last one.  Names that belong to no option are ignored.
-/

namespace Reckon

open Validation (Checked Problem)

/-- What can be chosen. -/
structure Options where
  /-- A value counts as true if its absolute value is above this bound. -/
  epsilon : Float
  /-- How many constructs of a formula may stand inside each other. -/
  nestingLimit : Nat
  /-- Whether texts are read with a memory. -/
  packrat : Bool
  logLevel : String
  title : String
  version : String

namespace Options

/-- The options without any choice; the bound is the distance from one to the next double. -/
def default : Options where
  epsilon := .ofBits 0x3CB0000000000000
  nestingLimit := 16
  packrat := true
  logLevel := "INFO"
  title := "Mathex"
  version := "0.1.0"

def names : List String :=
  ["epsilon", "max_nesting_depth", "packrat", "log_level", "app_title", "app_version"]

/-- The beginning of the names of environment variables, in lower case. -/
def variableStart : String := "mathex_"

/-- A letter of a name in lower case.  Besides the capital letters of ASCII, the kelvin sign is
a letter that an ASCII letter is the lower case of. -/
def lowerLetter (letter : Char) : Char :=
  if letter = '\u212A' then 'k' else letter.toLower

/-- The first value that has a given name in some case. -/
def firstNamed? {α : Type} (name : String) (values : List (String × α)) : Option α :=
  (values.find? fun (other, _) => other.map lowerLetter = name).map (·.2)

/-- The value that is given for an option, explicitly or else by the environment. -/
def given? (environment : List (String × String)) (explicit : List (String × Json))
    (name : String) : Option Json :=
  let fallback := firstNamed? (variableStart ++ name) environment.reverse
  (firstNamed? name explicit).or (fallback.map .text)

/-- The options that an environment and explicit values choose. -/
def ofSources (environment : List (String × String)) (explicit : List (String × Json)) :
    Checked Options :=
  let choose {α : Type} (name : String) (otherwise : α)
      (convert : Json → Except Validation.Complaint α) : Checked α :=
    match given? environment explicit name with
    | some value => Validation.place [.name name] (convert value)
    | none => .ok otherwise
  let epsilon := choose "epsilon" default.epsilon fun value => do
    let epsilon ← Validation.toDouble value
    if Double.zero ≤ epsilon then return epsilon else throw .tooSmall
  let nestingLimit := choose "max_nesting_depth" default.nestingLimit fun value => do
    let limit ← Validation.toInteger value
    if 1 ≤ limit then return limit.toNat else throw .tooSmall
  let packrat := choose "packrat" default.packrat Validation.toTruth
  let logLevel := choose "log_level" default.logLevel Validation.toText
  let title := choose "app_title" default.title Validation.toText
  let version := choose "app_version" default.version Validation.toText
  let numbers := Validation.both epsilon (Validation.both nestingLimit packrat)
  let texts := Validation.both logLevel (Validation.both title version)
  (Validation.both numbers texts).map
    fun ((epsilon, nestingLimit, packrat), (logLevel, title, version)) =>
      { epsilon, nestingLimit, packrat, logLevel, title, version }

end Options

end Reckon
