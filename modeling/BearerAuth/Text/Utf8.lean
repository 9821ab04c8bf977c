/-! # Text as bytes

Tokens, passwords and cache values are bytes; text enters them in UTF-8. Main statement:
`ofUtf8?_utf8`, no text is changed by the way there and back.
-/

namespace BearerAuth.Text

/-- The UTF-8 bytes of the text. -/
def utf8 (s : String) : List UInt8 := s.toList.flatMap String.utf8EncodeChar

/-- The text that the bytes encode, if they are well-formed UTF-8. -/
def ofUtf8? (bytes : List UInt8) : Option String := String.fromUTF8? bytes.toByteArray

theorem toByteArray_utf8 (s : String) : (utf8 s).toByteArray = s.toByteArray := by
  simpa [utf8, List.utf8Encode] using (String.toByteArray_ofList (l := s.toList)).symm

theorem ofUtf8?_utf8 (s : String) : ofUtf8? (utf8 s) = some s := by
  rw [ofUtf8?, toByteArray_utf8]
  simp [String.fromUTF8?, s.isValidUTF8, String.fromUTF8]

end BearerAuth.Text
