/-!
# Encodings of text

Bytes that come without a declaration may be text in units of eight, sixteen or thirty-two
bits.  The text is expected to start with characters of ASCII, so the zeros among its first
bytes tell the size of the units and the order of their bytes.  Surrogates count in pairs; a
lone one is replaced.
-/

namespace Reckon.Text

/-- The characters of code units: surrogates count in pairs, a lone one is replaced. -/
def charactersOfUnits : List Nat → List Char
  | first :: second :: rest =>
      if 0xD800 ≤ first ∧ first < 0xDC00 ∧ 0xDC00 ≤ second ∧ second < 0xE000 then
        .ofNat (0x10000 + (first - 0xD800) * 0x400 + (second - 0xDC00)) ::
          charactersOfUnits rest
      else
        character first :: charactersOfUnits (second :: rest)
  | [unit] => [character unit]
  | [] => []
where
  /-- The character of a code unit; a surrogate is replaced. -/
  character (unit : Nat) : Char :=
    if 0xD800 ≤ unit ∧ unit < 0xE000 then '\uFFFD' else .ofNat unit

inductive ByteOrder where
  | highFirst
  | lowFirst
  deriving DecidableEq, Repr

/-- How text is written in bytes. -/
inductive Encoding where
  | units8
  | units16 (order : ByteOrder)
  | units32 (order : ByteOrder)
  deriving DecidableEq, Repr

/-- The number that bytes spell. -/
def ByteOrder.number (order : ByteOrder) (bytes : List UInt8) : Nat :=
  let highFirst := if order = .highFirst then bytes else bytes.reverse
  highFirst.foldl (fun value byte => 0x100 * value + byte.toNat) 0

/-- The units of two bytes, unless a byte is left over. -/
def pairs? (order : ByteOrder) : List UInt8 → Option (List Nat)
  | [] => some []
  | a :: b :: rest => (pairs? order rest).map (order.number [a, b] :: ·)
  | _ => none

/-- The units of four bytes, unless bytes are left over. -/
def quadruples? (order : ByteOrder) : List UInt8 → Option (List Nat)
  | [] => some []
  | a :: b :: c :: d :: rest => (quadruples? order rest).map (order.number [a, b, c, d] :: ·)
  | _ => none

/-- The encoding that the zeros among the first bytes tell. -/
def Encoding.ofBytes : List UInt8 → Encoding
  | [first, second] =>
      if first = 0 then
        .units16 .highFirst
      else if second = 0 then
        .units16 .lowFirst
      else
        .units8
  | first :: second :: third :: fourth :: _ =>
      if first = 0 then
        if second = 0 then .units32 .highFirst else .units16 .highFirst
      else if second = 0 then
        if third = 0 ∧ fourth = 0 then .units32 .lowFirst else .units16 .lowFirst
      else
        .units8
  | _ => .units8

/-- The text that bytes are, if they are text.  In units of eight bits a mark at the start may
tell the encoding; it is not part of the text. -/
def decode? (bytes : ByteArray) : Option String :=
  match Encoding.ofBytes bytes.toList with
  | .units8 =>
      (String.fromUTF8? bytes).map fun text =>
        match text.toList with
        | '\uFEFF' :: rest => String.ofList rest
        | _ => text
  | .units16 order =>
      (pairs? order bytes.toList).map fun units => String.ofList (charactersOfUnits units)
  | .units32 order => do
      let codes ← quadruples? order bytes.toList
      if codes.all (· < 0x110000) then
        return String.ofList (codes.map charactersOfUnits.character)
      else
        none

end Reckon.Text
