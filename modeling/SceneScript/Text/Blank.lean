import SceneScript.Text.Cut

set_option autoImplicit false
set_option relaxedAutoImplicit false

/-!
# Blank characters and words

Which characters are blank, how a text is trimmed, and how it falls into words. Two readings of the
same thing stand side by side: `words` lists the maximal runs of characters that are not blank, and
`squeeze` writes a text with its words parted by single spaces.
-/

namespace SceneScript.Text

/-- The characters that part words: the controls that end or indent a line, the space, and the
space, line and paragraph separators beyond ASCII. The zero-width marks are not among them. -/
def isBlank (c : Char) : Bool :=
  let n := c.toNat
  (0x9 <= n && n <= 0xd) || (0x1c <= n && n <= 0x20) || n == 0x85 || n == 0xa0 || n == 0x1680 ||
    (0x2000 <= n && n <= 0x200a) || n == 0x2028 || n == 0x2029 || n == 0x202f || n == 0x205f ||
    n == 0x3000

/-- Drops the longest end of a text all of whose characters satisfy `p`. -/
def dropEndWhile (p : Char -> Bool) (cs : List Char) : List Char :=
  (cs.reverse.dropWhile p).reverse

/-- Removes the blanks at both ends. -/
def trim (cs : List Char) : List Char :=
  dropEndWhile isBlank (cs.dropWhile isBlank)

/-- Holds of a text without any character that is not blank, the empty one included. -/
def isBlankText (cs : List Char) : Bool :=
  cs.all isBlank

/-- The maximal runs of characters that are not blank, from left to right. -/
def words (cs : List Char) : List (List Char) :=
  (splitWhere isBlank cs).filter (fun w => !w.isEmpty)

/-- The word at a position counted from zero, and the empty text where there is none. -/
def word (n : Nat) (cs : List Char) : List Char :=
  (words cs).getD n []

/-- Writes each run of blanks as one space. The flag says that a blank was just read. -/
def collapse : Bool -> List Char -> List Char
  | _, [] => []
  | afterBlank, c :: cs =>
    if isBlank c then
      if afterBlank then collapse true cs else ' ' :: collapse true cs
    else c :: collapse false cs

/-- Writes each run of blanks as one space and removes those at the ends. -/
def squeeze (cs : List Char) : List Char :=
  trim (collapse false cs)

end SceneScript.Text
