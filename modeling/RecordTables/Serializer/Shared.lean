import RecordTables.Serializer

/-! # Codecs of both dialects

Characters and text are stored as text, bytes as a blob. -/

namespace RecordTables.Codec

/-- A character is stored as a text of one. -/
def char : Codec where
  encoder
    | .char c => .ok (.text (String.singleton c))
    | v => .error (.cannotEncode v "Char")
  decoder v :=
    match v with
    | .text s =>
      match s.toList with
      | [c] => .ok (.char c)
      | _ => .error (.cannotDecode v "Char")
    | v => .error (.cannotDecode v "Char")

def text : Codec where
  encoder
    | .text s => .ok (.text s)
    | v => .error (.cannotEncode v "Text")
  decoder
    | .text s => .ok (.text s)
    | v => .error (.cannotDecode v "Text")

def bytes : Codec where
  encoder
    | .bytes bs => .ok (.blob bs)
    | v => .error (.cannotEncode v "Bytes")
  decoder
    | .blob bs => .ok (.bytes bs)
    | v => .error (.cannotDecode v "Bytes")

end RecordTables.Codec
