import Ftp.Text.Visible

/-!
# Quoted text

Text between quotation marks, as messages show it: whatever is not visible is written by its number.
-/

namespace Ftp.Text

/-- A character by its number in hexadecimal digits. -/
def numbered (c : Char) : Text :=
  "\\u\x7b".toList ++ Nat.toDigits 16 c.toNat ++ ['\x7d']

/-- A character as it appears between quotation marks. -/
def quoteChar : Char → Text
  | '"' => "\\\""
  | '\\' => "\\\\"
  | '\n' => "\\n"
  | '\r' => "\\r"
  | '\t' => "\\t"
  | '\x00' => "\\0"
  | c => if isVisible c then [c] else numbered c

/-- The text between quotation marks. -/
def quoted (s : Text) : Text :=
  '"' :: s.flatMap quoteChar ++ ['"']

end Ftp.Text
