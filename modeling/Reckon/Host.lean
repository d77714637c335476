import Reckon.Text.HostLetter
import Reckon.Text.Numeral

/-!
# Hosts

A host is an address of four numbers, an address of groups of hexadecimal digits in brackets,
or a name.  What looks like an address must be one.  A name of ASCII characters is not
examined; any other name consists of labels between dots, and each label must be right.
-/

namespace Reckon.Host

/-- What a host looks like and is not. -/
inductive Defect where
  | numbers
  | groups
  | name
  deriving DecidableEq, Repr

def Defect.label : Defect → String
  | numbers => "IPv4 address"
  | groups => "IPv6 address"
  | name => "IDNA hostname"

/-! ## Addresses of four numbers -/

/-- The lengths of the runs of digits in front of, between and behind the other characters of a
text: the first one, and the others. -/
def digitRuns (text : List Char) : Nat × List Nat :=
  text.foldr
    (fun c (run, runs) => if Text.isAsciiDigit c then (run + 1, runs) else (0, run :: runs))
    (0, [])

/-- Whether a text looks like four numbers with one character between every two of them.  That
character may be a digit itself, so a run of digits may be taken for several numbers. -/
def looksLikeNumbers (text : List Char) : Bool :=
  let (run, runs) := digitRuns text
  let inside := ((run :: runs).map fun length => (length - 1) / 2).foldr (· + ·) 0
  0 ∉ run :: runs && runs.length ≤ 3 && 3 ≤ runs.length + inside

/-- Whether a text is a number of an address: at most 255, without leading zeros. -/
def isNumber (text : String) : Bool :=
  let digits := text.toList
  digits.length ≤ 3 && (digits.length = 1 || digits.head? ≠ some '0') &&
    (Text.digitsOnly? digits).any (· ≤ 255)

/-- Whether a text is an address of four numbers with points between them. -/
def isNumbers (text : String) : Bool :=
  let numbers := text.splitOn "."
  numbers.length = 4 && numbers.all isNumber

/-! ## Addresses of groups -/

/-- Whether a text is a group: one to four hexadecimal digits. -/
def isGroup (text : String) : Bool :=
  let digits := text.toList
  !digits.isEmpty && digits.length ≤ 4 &&
    digits.all fun c => (Text.hexadecimalDigit? c).isSome

/-- How many groups some parts are, if they are groups; there may be none, which is written as
one empty part. -/
def groupCount? (parts : List String) : Option Nat :=
  if parts = [""] then
    some 0
  else if parts.all isGroup then
    some parts.length
  else
    none

/-- Whether parts between colons are eight groups.  An empty part between the first one and
the last one stands for one or more groups. -/
def areGroups (parts : List String) : Bool :=
  let inner := (parts.drop 1).dropLast
  if "" ∈ inner then
    let before := parts.take 1 ++ inner.takeWhile (· ≠ "")
    let behind := parts.drop (before.length + 1)
    match groupCount? before, groupCount? behind with
    | some count, some others => count + others < 8
    | _, _ => false
  else
    parts.length = 8 && parts.all isGroup

/-- Whether a text is an address of groups with colons between them.  The last two groups may
be an address of four numbers, and behind a percent sign a zone may be named. -/
def isGroups (text : List Char) : Bool :=
  let address := text.takeWhile (· ≠ '%')
  let zone := (text.drop address.length).drop 1
  let parts := (String.ofList address).splitOn ":"
  let last := parts.getLast?.getD ""
  let hasNumbers := last.contains '.'
  let parts := if hasNumbers then parts.dropLast ++ ["0", "0"] else parts
  (address.length = text.length || (!zone.isEmpty && '%' ∉ zone)) &&
    (!hasNumbers || isNumbers last) && areGroups parts

/-! ## Names -/

/-- Whether the characters of a label can stand in one line.  A label that holds a character
of a script from right to left starts with a letter of such a script, holds no letter of a
script from left to right, and has digits of one kind only. -/
def hasOneDirection (label : List Char) : Bool :=
  let backward (c : Char) : Bool := Text.isBackwardLetter c || Text.isBackwardDigit c
  let forward (c : Char) : Bool :=
    !(backward c || Text.isHostMark c || Text.isForwardDigit c || c = '-')
  !label.any backward ||
    (label.head?.any Text.isBackwardLetter && !label.any forward &&
      !(label.any Text.isForwardDigit && label.any Text.isBackwardDigit))

/-- Whether a label is of ASCII and stands for another one. -/
def isEncoded (label : List Char) : Bool :=
  (label.take 4).map Char.toLower = ['x', 'n', '-', '-'] && label.all (·.toNat < 0x80)

/-- Whether a label, as part of a name, is right. -/
def isLabel (label : List Char) : Bool :=
  !label.isEmpty && label.length ≤ 63 && label.all Text.isHostLetter &&
    label.head? ≠ some '-' && label.getLast? ≠ some '-' &&
    (isEncoded label || (label.drop 2).take 2 ≠ ['-', '-']) &&
    !label.head?.any Text.isHostMark && hasOneDirection label

/-- Whether a character divides the labels of a name. -/
def isDot (c : Char) : Bool :=
  c = '.' || c = '\u3002' || c = '\uFF0E' || c = '\uFF61'

/-- Whether a text is a name: labels with dots between them, and maybe a dot at the end. -/
def isName (text : List Char) : Bool :=
  let dotted := text.map fun c => if isDot c then '.' else c
  let labels := (String.ofList dotted).splitOn "."
  let labels := if labels.getLast? = some "" then labels.dropLast else labels
  !labels.isEmpty && labels.all fun label => isLabel label.toList

/-! ## Hosts -/

/-- Whether a host stands in brackets. -/
def isBracketed (host : List Char) : Bool :=
  host.head? = some '[' && host.getLast? = some ']'

/-- What a text looks like as a host and is not, if there is such a thing. -/
def defect? (host : List Char) : Option Defect :=
  if looksLikeNumbers host then
    if isNumbers (String.ofList host) then none else some .numbers
  else if isBracketed host then
    if isGroups (host.drop 1).dropLast then none else some .groups
  else if host.all (·.toNat < 0x80) || isName host then
    none
  else
    some .name

end Reckon.Host
