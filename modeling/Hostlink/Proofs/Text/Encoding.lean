import Hostlink.Text.Utf8

/-!
# The bytes of a text

A text is written character by character, and the first hundred and twenty-eight characters are
written as the byte of their number.
-/

namespace Hostlink.Text

/-- Listing the bytes of an array goes on with those that have not been listed yet. -/
theorem loop_toList (bytes : ByteArray) (index : Nat) (listed : List UInt8) :
    ByteArray.toList.loop bytes index listed = listed.reverse ++ bytes.data.toList.drop index := by
  fun_induction ByteArray.toList.loop bytes index listed with
  | case1 index listed inside ih =>
    have here : index < bytes.data.toList.length := inside
    have next : bytes.get! index = bytes.data.toList[index] := by
      simp only [ByteArray.get!, Array.getElem_toList]
      exact getElem!_pos bytes.data index inside
    rw [ih, List.drop_eq_getElem_cons here, next, List.reverse_cons, List.append_assoc]
    rfl
  | case2 index listed outside =>
    have none_left : bytes.data.toList.length ≤ index := Nat.le_of_not_lt outside
    rw [List.drop_eq_nil_of_le none_left, List.append_nil]

theorem toList_toByteArray (bytes : List UInt8) : bytes.toByteArray.toList = bytes := by
  rw [ByteArray.toList, loop_toList, List.toList_data_toByteArray]
  rfl

/-- A text is written character by character. -/
theorem encodeUtf8_ofList (cs : List Char) :
    encodeUtf8 (String.ofList cs) = cs.flatMap String.utf8EncodeChar := by
  rw [encodeUtf8, String.toUTF8_eq_toByteArray, String.toByteArray_ofList, List.utf8Encode,
    toList_toByteArray]

/-- A byte below 128 is the character of this number. -/
theorem utf8EncodeChar_ofNat {b : UInt8} (small : b.toNat < 128) :
    String.utf8EncodeChar (Char.ofNat b.toNat) = [b] := by
  have number : (Char.ofNat b.toNat).toNat = b.toNat := by
    have valid : b.toNat.isValidChar := Or.inl (by omega)
    rw [Char.ofNat, dif_pos valid]
    rfl
  have one : (Char.ofNat b.toNat).utf8Size = 1 := by
    rw [Char.utf8Size_eq_one_iff, UInt32.le_iff_toNat_le]
    change (Char.ofNat b.toNat).toNat ≤ 127
    omega
  rw [String.utf8EncodeChar_eq_singleton one]
  have byte : (Char.ofNat b.toNat).val.toUInt8.toNat = b.toNat := by
    rw [UInt32.toNat_toUInt8]
    change (Char.ofNat b.toNat).toNat % 2 ^ 8 = b.toNat
    omega
  rw [UInt8.toNat_inj.1 byte]

/-- Bytes below 128 are the text of the characters of these numbers. -/
theorem encodeUtf8_small {bytes : Bytes} (small : ∀ b ∈ bytes, b.toNat < 128) :
    encodeUtf8 (String.ofList (bytes.map fun b => Char.ofNat b.toNat)) = bytes := by
  rw [encodeUtf8_ofList]
  induction bytes with
  | nil => rfl
  | cons b rest ih =>
    obtain ⟨head, tail⟩ := List.forall_mem_cons.1 small
    rw [List.map_cons, List.flatMap_cons, utf8EncodeChar_ofNat head, ih tail]
    rfl

end Hostlink.Text
