import MonitoringStack.Text.Unmarked

namespace MonitoringStack.Text

def hexText (n : Nat) : String := String.ofList (Nat.toDigits 16 n)

def visible (c : Char) : String :=
  match c with
  | '\x00' => "\\0"
  | '\t' => "\\t"
  | '\r' => "\\r"
  | '\n' => "\\n"
  | '"' => "\\\""
  | '\\' => "\\\\"
  | c =>
    if c.toNat < 0x20 || isUnmarked c then "\\u\x7b" ++ hexText c.toNat ++ "\x7d"
    else String.singleton c

def quoted (s : String) : String :=
  "\"" ++ String.join (s.toList.map visible) ++ "\""

end MonitoringStack.Text
