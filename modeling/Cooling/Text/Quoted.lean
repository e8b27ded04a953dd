-- SUMMARY: Quoted text in messages: double quotes, with an escape for each character that would not show.
import Cooling.Text.Printable

/-!
# Quoted text

Messages show a text that they did not choose in double quotes. The quote and
the backslash are escaped, line feed, carriage return, tabulator and the null
character have short escapes, and every other character that is not printable
is written as its code point in hexadecimal.
-/

namespace Cooling.Text

/-- Lower-case hexadecimal digits, without leading zeros. -/
def hexadecimal (n : Nat) : List Char := Nat.toDigits 16 n

def quotedChar (c : Char) : List Char :=
  match c with
  | '"' => ['\\', '"']
  | '\\' => ['\\', '\\']
  | '\n' => ['\\', 'n']
  | '\r' => ['\\', 'r']
  | '\t' => ['\\', 't']
  | '\x00' => ['\\', '0']
  | c =>
    if isPrintable c then [c]
    else '\\' :: 'u' :: '\x7b' :: (hexadecimal c.toNat ++ ['\x7d'])

/-- The text in double quotes. -/
def quoted (s : String) : String :=
  String.ofList ('"' :: (s.toList.flatMap quotedChar ++ ['"']))

end Cooling.Text
