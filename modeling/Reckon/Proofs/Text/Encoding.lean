import Reckon.Text.Encoding

/-!
# Text in units of eight bits

The bytes of a text are decoded to it if it begins with two characters of ASCII, none of them zero
(`Text.decode?_toUTF8`).
-/

namespace Reckon.Text

theorem toList_loop (bytes : List UInt8) (index : Nat) (before : List UInt8) :
    ByteArray.toList.loop bytes.toByteArray index before = before.reverse ++ bytes.drop index := by
  induction remaining : bytes.length - index generalizing index before with
  | zero =>
      have beyond : bytes.length ≤ index := Nat.le_of_sub_eq_zero remaining
      rw [ByteArray.toList.loop, List.size_toByteArray, if_neg (Nat.not_lt_of_le beyond),
        List.drop_of_length_le beyond, List.append_nil]
  | succ fewer inductionHypothesis =>
      have inside : index < bytes.length := by omega
      have byte : bytes.toByteArray.get! index = bytes[index] := by
        rw [ByteArray.get!, List.data_toByteArray]
        simp [inside]
      rw [ByteArray.toList.loop, List.size_toByteArray, if_pos inside, byte,
        inductionHypothesis _ _ (by omega), List.reverse_cons, List.append_assoc,
        List.drop_eq_getElem_cons inside]
      rfl

theorem toList_toByteArray (bytes : List UInt8) : bytes.toByteArray.toList = bytes :=
  toList_loop bytes 0 []

/-- Bytes that start with two other than zero are in units of eight bits. -/
theorem ofBytes_of_ne_zero {first second : UInt8} (rest : List UInt8) (filled : first ≠ 0)
    (filled' : second ≠ 0) : Encoding.ofBytes (first :: second :: rest) = .units8 := by
  match rest with
  | [] => rw [Encoding.ofBytes, if_neg filled, if_neg filled']
  | [third] => rfl
  | third :: fourth :: rest => rw [Encoding.ofBytes, if_neg filled, if_neg filled']

theorem isEmpty_toUTF8 {text : String} (filled : text ≠ "") : text.toUTF8.isEmpty = false := by
  rw [ByteArray.isEmpty, String.toUTF8_eq_toByteArray, beq_eq_false_iff_ne,
    String.size_toByteArray]
  intro nothing
  exact filled (String.utf8ByteSize_eq_zero_iff.mp nothing)

/-- Text survives its bytes. -/
theorem fromUTF8?_toUTF8 (text : String) : String.fromUTF8? text.toUTF8 = some text := by
  rw [String.fromUTF8?, String.toUTF8_eq_toByteArray, dif_pos text.isValidUTF8]
  rfl

/-- The bytes of a text that begins with two characters of ASCII are decoded to it. -/
theorem decode?_toUTF8 {first second : Char} (text : List Char)
    (single : first.utf8Size = 1 ∧ second.utf8Size = 1)
    (filled : first.val.toUInt8 ≠ 0 ∧ second.val.toUInt8 ≠ 0) :
    decode? (String.ofList (first :: second :: text)).toUTF8 =
      some (String.ofList (first :: second :: text)) := by
  have bytes : (String.ofList (first :: second :: text)).toUTF8.toList =
      first.val.toUInt8 :: second.val.toUInt8 :: text.flatMap String.utf8EncodeChar := by
    rw [String.toUTF8_eq_toByteArray, String.toByteArray_ofList, List.utf8Encode,
      List.flatMap_cons, List.flatMap_cons, String.utf8EncodeChar_eq_singleton single.1,
      String.utf8EncodeChar_eq_singleton single.2, toList_toByteArray]
    rfl
  rw [decode?, bytes, ofBytes_of_ne_zero _ filled.1 filled.2]
  simp only [fromUTF8?_toUTF8, Option.map_some, String.toList_ofList]
  split
  · rename_i marked
    cases marked
    exact absurd single.1 (by decide)
  · rfl

end Reckon.Text
