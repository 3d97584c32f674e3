/-!
# MeshTelemetry.Text.Bytes

Texts as bytes. Files hold bytes; a text stands in a file as its UTF-8 encoding, and a file is
read as a text only when all of its bytes are one.
-/

namespace MeshTelemetry

abbrev Bytes := List UInt8

namespace Text

def encode (s : String) : Bytes := s.toUTF8.data.toList

/-- The text whose encoding the bytes are, if there is one. -/
def decode? (bytes : Bytes) : Option String :=
  String.fromUTF8? ⟨bytes.toArray⟩

end Text
end MeshTelemetry
