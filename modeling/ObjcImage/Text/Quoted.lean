import ObjcImage.Text.Hex
import ObjcImage.Text.Printable
import ObjcImage.Text.GraphemeExtend

set_option autoImplicit false

/-!
Quoting a string for a diagnostic: escapes for quotes, backslashes and control characters, and `\u`
with the code point for what is not printable or would merge with its neighbour.
-/

namespace ObjcImage.Text

/-- The escape of a character by its code point: `\u`, then the lowercase hex digits in braces. -/
def codePointEscape (c : Char) : List Char :=
  ['\\', 'u', '\x7b'] ++ hexDigits c.toNat ++ ['\x7d']

def escapeChar (c : Char) : List Char :=
  match c with
  | '\x00' => ['\\', '0']
  | '\t' => ['\\', 't']
  | '\r' => ['\\', 'r']
  | '\n' => ['\\', 'n']
  | '\\' => ['\\', '\\']
  | '"' => ['\\', '"']
  | c => if isGraphemeExtend c || !isPrintable c then codePointEscape c else [c]

def quote (s : String) : String :=
  String.ofList ('"' :: s.toList.flatMap escapeChar ++ ['"'])

end ObjcImage.Text
