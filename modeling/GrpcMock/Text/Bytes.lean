/-!
Text as UTF-8 bytes.
-/

namespace GrpcMock.Text

def utf8Bytes (text : List Char) : List UInt8 :=
  text.flatMap String.utf8EncodeChar

/-- The number of bytes of a text. -/
def byteCount (text : List Char) : Nat :=
  (utf8Bytes text).length

end GrpcMock.Text
