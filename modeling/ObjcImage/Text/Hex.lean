set_option autoImplicit false

/-!
Numbers as the messages and declarations write them: hexadecimal with a `0x` mark, lowercase digits
and no leading zeros, so zero is `0x0`.
-/

namespace ObjcImage.Text

/-- Lowercase hexadecimal digits of a number, most significant first; zero has the one digit `0`. -/
def hexDigits (n : Nat) : List Char := Nat.toDigits 16 n

def hex (n : Nat) : String := "0x" ++ String.ofList (hexDigits n)

end ObjcImage.Text
