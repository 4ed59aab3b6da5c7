import LayerSeparation.Settings.Bundle
import LayerSeparation.Settings.Decode

/-! The loader, for whatever decodes the text of a profile file, and with the decoder that is used. -/
namespace LayerSeparation.Bundle

def load (decode : String → Option ProfileFile) (text : String) : Except ConfigError Bundle :=
  match decode text with
  | some file => ofFile file
  | none => .error .malformed

/-- The file at `path`, where `files` has the bytes of every file there is. -/
def loadPath (decode : String → Option ProfileFile) (files : String → Option ByteArray)
    (path : String) : Except ConfigError Bundle :=
  match files path with
  | none => .error (.unreadable path .notFound)
  | some bytes =>
    match String.fromUTF8? bytes with
    | some text => load decode text
    | none => .error (.unreadable path .invalidText)

def ofText : String → Except ConfigError Bundle := load ProfileFile.ofText?

def ofPath : (String → Option ByteArray) → String → Except ConfigError Bundle :=
  loadPath ProfileFile.ofText?

end LayerSeparation.Bundle
