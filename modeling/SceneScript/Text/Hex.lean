set_option autoImplicit false
set_option relaxedAutoImplicit false

/-!
# Hexadecimal digits

Numbers of a fixed width in hexadecimal, with small letters.
-/

namespace SceneScript.Text

/-- The digit of a value below sixteen. -/
def hexDigit (n : Nat) : Char :=
  Char.ofNat (if n < 10 then 0x30 + n else 0x57 + n)

/-- The last `width` digits of a number, leading zeros included. -/
def hexDigits : Nat -> Nat -> List Char
  | 0, _ => []
  | width + 1, n => hexDigits width (n / 16) ++ [hexDigit (n % 16)]

end SceneScript.Text
