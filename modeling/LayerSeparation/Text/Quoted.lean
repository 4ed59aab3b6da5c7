import LayerSeparation.Text.Invisible

/-! Text in double quotes for a report. Whatever does not show as a mark of its own is written by
its code point, so different texts are quoted differently. -/
namespace LayerSeparation.Text

def quotedChar (c : Char) : List Char :=
  match c with
  | '\x00' => ['\\', '0']
  | '\t' => ['\\', 't']
  | '\n' => ['\\', 'n']
  | '\r' => ['\\', 'r']
  | '"' => ['\\', '"']
  | '\\' => ['\\', '\\']
  | c =>
    if invisible.contains c then
      ['\\', 'u', '\x7b'] ++ Nat.toDigits 16 c.toNat ++ ['\x7d']
    else [c]

def quoted (cs : List Char) : List Char := '"' :: (cs.flatMap quotedChar ++ ['"'])

end LayerSeparation.Text
