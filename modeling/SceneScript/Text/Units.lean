set_option autoImplicit false
set_option relaxedAutoImplicit false

/-!
# UTF-16 units

A text as a list of numbers below 65536: one for each character of the first 65536, and a high and a
low surrogate for each of the others.
-/

namespace SceneScript.Text

/-- The units of a character. -/
def unitsOfChar (c : Char) : List Nat :=
  if c.toNat < 0x10000 then [c.toNat]
  else [0xd800 + (c.toNat - 0x10000) / 0x400, 0xdc00 + (c.toNat - 0x10000) % 0x400]

/-- The units of a text. -/
def units (cs : List Char) : List Nat :=
  cs.flatMap unitsOfChar

/-- Whether a unit is the first half of a pair. -/
def isHighSurrogate (n : Nat) : Bool :=
  0xd800 <= n && n < 0xdc00

/-- Whether a unit is the second half of a pair. -/
def isLowSurrogate (n : Nat) : Bool :=
  0xdc00 <= n && n < 0xe000

/-- The text of some units, if each surrogate among them is half of a pair. -/
def ofUnits? : List Nat -> Option (List Char)
  | [] => some []
  | [n] => if isHighSurrogate n || isLowSurrogate n then none else some [Char.ofNat n]
  | n :: m :: rest =>
    if isHighSurrogate n then
      if isLowSurrogate m then
        (ofUnits? rest).map
          (Char.ofNat (0x10000 + (n - 0xd800) * 0x400 + (m - 0xdc00)) :: ·)
      else none
    else if isLowSurrogate n then none
    else (ofUnits? (m :: rest)).map (Char.ofNat n :: ·)

end SceneScript.Text
