import DocSite.Text.Basic

/-!
# Bytes of texts

Files and bodies hold bytes; texts are written to them in UTF-8. The main statement,
`ofBytes?_toBytes`, says that reading gives back what was written.
-/

namespace DocSite

/-- The content of a file. -/
abbrev Bytes := ByteArray

instance : DecidableEq Bytes := ByteArray.instDecidableEq

namespace Text

/-- The bytes of a text in UTF-8. -/
def toBytes (text : Text) : Bytes := (String.ofList text).toUTF8

/-- The bytes of a text are the bytes of its characters, one after the other. -/
theorem toBytes_eq (text : Text) :
    text.toBytes = ⟨(text.flatMap String.utf8EncodeChar).toArray⟩ := by
  have encoded : text.toBytes = (text.flatMap String.utf8EncodeChar).toByteArray := by
    simp [toBytes, List.utf8Encode]
  exact encoded.trans (ByteArray.ext List.data_toByteArray)

/-- The text that bytes stand for, if they are well-formed UTF-8. -/
def ofBytes? (bytes : Bytes) : Option Text := bytes.utf8Decode?.map Array.toList

/-- Reading gives back what was written. -/
@[simp]
theorem ofBytes?_toBytes (text : Text) : ofBytes? text.toBytes = some text := by
  simp [ofBytes?, toBytes]

/-- Different texts have different bytes. -/
theorem toBytes_inj {s t : Text} (h : s.toBytes = t.toBytes) : s = t := by
  have := congrArg ofBytes? h
  simpa using this

end Text

end DocSite
