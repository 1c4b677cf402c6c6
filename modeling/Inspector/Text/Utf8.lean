import Inspector.Bytes

/-!
# Text as bytes

Text travels as UTF-8. `decode?` accepts exactly the byte strings that `encode` produces.
-/

namespace Inspector.Text

/-- The UTF-8 bytes of a text. -/
def encode (text : String) : Bytes :=
  text.toUTF8.data.toList

/-- The text with the given UTF-8 bytes, if they are well formed. -/
def decode? (bytes : Bytes) : Option String :=
  String.fromUTF8? ⟨bytes.toArray⟩

theorem decode?_encode (text : String) : decode? (encode text) = some text := by
  have same : (⟨(encode text).toArray⟩ : ByteArray) = text.toByteArray := by
    simp [encode, String.toUTF8]
  have valid := text.isValidUTF8
  rw [decode?, same, String.fromUTF8?, dif_pos valid, String.fromUTF8]

theorem encode_of_decode? {bytes : Bytes} {text : String} (read : decode? bytes = some text) :
    encode text = bytes := by
  unfold decode? String.fromUTF8? at read
  split at read
  · cases read
    simp [encode, String.fromUTF8]
  · cases read

/-- A byte string reads as a text exactly when it is that text's UTF-8 form. -/
theorem decode?_eq_some_iff {bytes : Bytes} {text : String} :
    decode? bytes = some text ↔ bytes = encode text :=
  ⟨fun read => (encode_of_decode? read).symm, fun same => same ▸ decode?_encode text⟩

/-- The bytes of a text are those of its characters, one after the other. -/
theorem encode_ofList (chars : List Char) :
    encode (String.ofList chars) = chars.flatMap String.utf8EncodeChar := by
  rw [encode, String.toUTF8_eq_toByteArray, String.toByteArray_ofList, List.utf8Encode,
    List.toList_data_toByteArray]

end Inspector.Text
