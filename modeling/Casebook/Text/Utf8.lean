/-!
# Bytes of a text

The encoding of texts as bytes and its partial inverse. Main statement: decoding the bytes of a text
gives the text back.
-/

namespace Casebook

/-- A stored or transmitted value. -/
abbrev Bytes := List UInt8

def Bytes.ofText (s : String) : Bytes :=
  s.toByteArray.data.toList

def Bytes.toText? (b : Bytes) : Option String :=
  String.fromUTF8? ⟨b.toArray⟩

@[simp] theorem Bytes.toText?_ofText (s : String) : (Bytes.ofText s).toText? = some s := by
  cases s
  simp [Bytes.ofText, Bytes.toText?, String.fromUTF8?, String.fromUTF8, *]

end Casebook
