import NetIdentity.Bytes

/-!
# Texts as bytes

A text is stored and sent as its UTF-8 bytes. `ofUtf8?` refuses every byte string that is not the UTF-8 of
some text, so reading and writing are inverse to each other in both directions (`ofUtf8?_eq_some_iff`).
-/

namespace NetIdentity

def utf8 (text : String) : Bytes :=
  text.toUTF8.data.toList

/-- The text whose UTF-8 is given, if it is the UTF-8 of a text. -/
def ofUtf8? (bytes : Bytes) : Option String :=
  String.fromUTF8? ⟨bytes.toArray⟩

@[simp] theorem utf8_append (s t : String) : utf8 (s ++ t) = utf8 s ++ utf8 t := by
  simp [utf8, String.toUTF8]

@[simp] theorem length_utf8 (text : String) : (utf8 text).length = text.utf8ByteSize := rfl

/-- A byte string reads as a text exactly when it is what the text is written as. -/
theorem ofUtf8?_eq_some_iff {bytes : Bytes} {text : String} :
    ofUtf8? bytes = some text ↔ utf8 text = bytes := by
  constructor
  · intro h
    unfold ofUtf8? String.fromUTF8? at h
    split at h
    · simp only [Option.some.injEq] at h
      subst h
      simp [utf8, String.fromUTF8, String.toUTF8]
    · simp at h
  · intro h
    subst h
    simp [ofUtf8?, utf8, String.fromUTF8?, String.fromUTF8, String.toUTF8, text.isValidUTF8]

@[simp] theorem ofUtf8?_utf8 (text : String) : ofUtf8? (utf8 text) = some text :=
  ofUtf8?_eq_some_iff.2 rfl

end NetIdentity
