import Concord.Bytes

/-!
# Text as bytes

Text is stored and hashed as UTF-8. Only the bytes of some text are read back as text, so
surrogates and forms that are longer than needed are refused.
-/

namespace Concord.Text

/-- The bytes of a text. -/
def toBytes (text : String) : Bytes :=
  text.toUTF8.data.toList

/-- The text that bytes encode, if they encode one. -/
def ofBytes? (bytes : Bytes) : Option String :=
  String.fromUTF8? ⟨bytes.toArray⟩

end Concord.Text
