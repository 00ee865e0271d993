import RosBindings.Text.Basic

/-!
# Text as bytes

Files hold bytes; as text they are read and written in UTF-8, in its strict form.
-/

namespace RosBindings.Text

/-- The bytes of a text. -/
def encode (t : Text) : ByteArray := (String.ofList t).toUTF8

/-- The text of some bytes, if they are one. -/
def decode? (bytes : ByteArray) : Option Text := bytes.utf8Decode?.map Array.toList

end RosBindings.Text
