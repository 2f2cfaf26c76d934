import ViewStyle.Text.Extending
import ViewStyle.Text.Printable

/-!
# Quoted text

A text is quoted so that it reads on one line and shows every character: between double
quotes, with the quote, the backslash and the common controls escaped by one letter, and
with any other character that does not print on its own given by its code point.
-/

set_option autoImplicit false

namespace ViewStyle.Text

/-- A code point in lower-case hexadecimal, without leading zeros. -/
def hexDigits (n : Nat) : List Char := Nat.toDigits 16 n

def quotedChar (c : Char) : List Char :=
  match c with
  | '\x00' => ['\\', '0']
  | '\t' => ['\\', 't']
  | '\n' => ['\\', 'n']
  | '\r' => ['\\', 'r']
  | '"' => ['\\', '"']
  | '\\' => ['\\', '\\']
  | c =>
    if isExtending c || !isPrintable c then
      ['\\', 'u', '\x7b'] ++ hexDigits c.toNat ++ ['\x7d']
    else [c]

def quote (s : String) : String :=
  String.ofList ('"' :: s.toList.flatMap quotedChar ++ ['"'])

end ViewStyle.Text
