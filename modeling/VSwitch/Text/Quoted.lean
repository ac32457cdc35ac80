import VSwitch.Text.Hidden

/-!
# Quoted text

`VSwitch.Quoted.encode` writes a text between double quotes. A quote and a backslash inside it get
a backslash in front, and characters that cannot be seen are written by name or by number.
-/

namespace VSwitch

namespace Quoted

/-- The digits of a number to base sixteen, without leading zeros. -/
def hex (n : Nat) : String := String.ofList (Nat.toDigits 16 n)

/-- A character inside quotes. -/
def encodeChar (c : Char) : String :=
  match c with
  | '\x00' => "\\0"
  | '\t' => "\\t"
  | '\r' => "\\r"
  | '\n' => "\\n"
  | '"' => "\\\""
  | '\\' => "\\\\"
  | c => if isHidden c then "\\u\x7b" ++ hex c.toNat ++ "\x7d" else c.toString

/-- A text between quotes. -/
def encode (text : String) : String :=
  "\"" ++ String.join (text.toList.map encodeChar) ++ "\""

end Quoted

end VSwitch
