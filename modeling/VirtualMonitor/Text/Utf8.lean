/-!
# Text and its bytes

Files, paths and directory entries hold bytes; text is stored in them as UTF-8.
-/

namespace VirtualMonitor.Text

def utf8 (text : String) : List UInt8 := text.toList.flatMap String.utf8EncodeChar

/-- The text that the bytes stand for; bytes that are not UTF-8 stand for none. -/
def ofUtf8? (bytes : List UInt8) : Option String := String.fromUTF8? bytes.toByteArray

@[simp] theorem utf8_append (first second : String) :
    utf8 (first ++ second) = utf8 first ++ utf8 second := by
  simp [utf8]

@[simp] theorem ofUtf8?_utf8 (text : String) : ofUtf8? (utf8 text) = some text := by
  have hbytes : (utf8 text).toByteArray = text.toByteArray := String.utf8Encode_toList
  rw [ofUtf8?, hbytes]
  exact dif_pos text.isValidUTF8

end VirtualMonitor.Text
