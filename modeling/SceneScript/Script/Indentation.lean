import SceneScript.Text.Blank

set_option autoImplicit false
set_option relaxedAutoImplicit false

/-!
# Indentation

A line is indented with spaces alone, four for each level. A tab or any other blank among the
leading ones leaves a line without an indentation.
-/

namespace SceneScript

/-- The number of spaces in one level of indentation. -/
def indentWidth : Nat := 4

/-- The blanks that a line starts with. -/
def leadingBlanks (line : String) : List Char :=
  line.toList.takeWhile Text.isBlank

/-- The number of leading spaces, and nothing if another blank is among them. -/
def indentation? (line : String) : Option Nat :=
  if (leadingBlanks line).all (fun c => c == ' ') then some (leadingBlanks line).length else none

/-- Whether a line is indented by exactly so many levels. The indentation is even and its quotient
by the width is the level, with nothing left over. -/
def isIndentedTo (line : String) (level : Int) : Bool :=
  match indentation? line with
  | none => false
  | some spaces => spaces % 2 == 0 && (spaces : Int) == level * indentWidth

end SceneScript
