import SceneScript.Text.Hex

set_option autoImplicit false
set_option relaxedAutoImplicit false

/-!
# Raw text

The words that a program is started with, the values of its variables and the names of files are
bytes, and need not be text. A byte that is part of no character is read as the second half of a
surrogate pair, standing alone, and becomes that byte again in the name of a file. A text that is
written has no place for such a half.
-/

namespace SceneScript

/-- A character, or half of a surrogate pair that stands alone. -/
inductive RawChar
  | char (c : Char)
  | lone (half : Fin 0x800)
  deriving DecidableEq, Repr, Inhabited

/-- A text in which halves of surrogate pairs may stand alone. -/
abbrev RawText := List RawChar

namespace RawChar

/-- The code point of a character or half. -/
def toNat : RawChar -> Nat
  | .char c => c.toNat
  | .lone half => 0xd800 + half

/-- Whether it is a character that satisfies `p`. -/
def satisfies (p : Char -> Bool) : RawChar -> Bool
  | .char c => p c
  | .lone _ => false

/-- Whether it is a character. -/
def isChar (c : RawChar) : Bool :=
  c.satisfies (fun _ => true)

/-- The character that it is, if it is one. -/
def char? : RawChar -> Option Char
  | .char c => some c
  | .lone _ => none

/-- A half as an escape. -/
def escapeHalf (half : Fin 0x800) : List Char :=
  '\\' :: 'u' :: Text.hexDigits 4 (0xd800 + half)

/-- How it is shown to a reader: a half by its escape. -/
def shown : RawChar -> List Char
  | .char c => [c]
  | .lone half => escapeHalf half

/-- Whether it may stand in the name of a file: a character, or a half that stands for a byte. -/
def isNameable : RawChar -> Bool
  | .char _ => true
  | .lone half => 0x480 <= half.val && half.val < 0x500

/-- The bytes that it stands for in the name of a file. -/
def nameBytes : RawChar -> List UInt8
  | .char c => String.utf8EncodeChar c
  | .lone half => [UInt8.ofNat (half - 0x400)]

end RawChar

/-- A place where a text cannot be written: how many characters stand before it, the code point
there, and how many halves follow. -/
structure Unencodable where
  position : Nat
  code : Nat
  more : Nat
  deriving DecidableEq, Repr, Inhabited

/-- The wording for a text that cannot be written. -/
def Unencodable.message (u : Unencodable) : String :=
  let place :=
    if u.more == 0 then
      "character '\\u" ++ String.ofList (Text.hexDigits 4 u.code) ++ "' in position " ++
        toString u.position
    else
      "characters in position " ++ toString u.position ++ "-" ++ toString (u.position + u.more)
  "'utf-8' codec can't encode " ++ place ++ ": surrogates not allowed"

namespace RawText

/-- A text as a raw one. -/
def ofString (s : String) : RawText :=
  s.toList.map RawChar.char

instance : Coe String RawText := ⟨ofString⟩

/-- A raw text as it is shown to a reader. -/
def shown (t : RawText) : String :=
  String.ofList (t.flatMap RawChar.shown)

/-- Rewrites the characters and leaves the halves as they are. -/
def rewrite (f : Char -> List Char) (t : RawText) : RawText :=
  t.flatMap (fun c =>
    match c with
    | .char c => (f c).map RawChar.char
    | .lone half => [.lone half])

/-- The first run of halves that starts with one that cannot be written. -/
def unencodable? (writable : RawChar -> Bool) (t : RawText) : Option Unencodable :=
  match t.dropWhile writable with
  | [] => none
  | c :: rest =>
    some {
      position := (t.takeWhile writable).length
      code := c.toNat
      more := (rest.takeWhile (fun d => !d.isChar)).length }

/-- A raw text as a text, if it holds no half. -/
def toText (t : RawText) : Except Unencodable String :=
  match t.unencodable? RawChar.isChar with
  | some u => .error u
  | none => .ok (String.ofList (t.filterMap RawChar.char?))

end RawText

end SceneScript
