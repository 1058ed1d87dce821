import FlashPatch.Numeral
import FlashPatch.Text.Visible

/-!
# Quoted text

Text between double quotes for messages. A quote, a backslash and four control characters have
short escapes, any other invisible character is written by its code point, and the rest stands for
itself.
-/

namespace FlashPatch.Text

/-- The letter of the short escape, for the characters that have one. -/
def escapeLetter? : Char → Option Char
  | '\x00' => some '0'
  | '\t' => some 't'
  | '\n' => some 'n'
  | '\r' => some 'r'
  | '"' => some '"'
  | '\\' => some '\\'
  | _ => none

/-- One character inside quotes. -/
def quotedChar (c : Char) : List Char :=
  match escapeLetter? c with
  | some letter => ['\\', letter]
  | none =>
    if isVisible c then [c] else ['\\', 'u', '\x7b'] ++ Numeral.write 16 0 c.toNat ++ ['\x7d']

/-- The text between double quotes. -/
def quoted (text : String) : String :=
  String.ofList (['"'] ++ text.toList.flatMap quotedChar ++ ['"'])

end FlashPatch.Text
