import SceneScript.Text.Blank

set_option autoImplicit false
set_option relaxedAutoImplicit false

/-!
# Lines of a text

Lines end at a line feed. Carriage returns at the end of a line are no part of it, and a line of
blanks alone counts in the numbering but is not kept. `unifyNewlines` is the other reading of line
ends, for text that comes from a file: every carriage return, alone or before a line feed, ends a
line.
-/

namespace SceneScript.Text

/-- A line without the carriage returns at its end. -/
def chomp (cs : List Char) : List Char :=
  dropEndWhile (fun c => c == '\r') cs

/-- The lines of a text, blank ones included, without their ends. -/
def lines (cs : List Char) : List (List Char) :=
  (splitWhere (fun c => c == '\n') cs).map chomp

/-- Pairs each line with its number, counted from `n`, and keeps those that are not blank. -/
def numberFrom : Nat -> List (List Char) -> List (Nat × List Char)
  | _, [] => []
  | n, l :: ls => if isBlankText l then numberFrom (n + 1) ls else (n, l) :: numberFrom (n + 1) ls

/-- The lines of a text that are not blank, with their numbers counted from one. -/
def numberedLines (cs : List Char) : List (Nat × List Char) :=
  numberFrom 1 (lines cs)

/-- Writes every line end as one line feed: a carriage return and the line feed after it, a carriage
return alone, or a line feed. -/
def unifyNewlines : List Char -> List Char
  | [] => []
  | '\r' :: '\n' :: cs => '\n' :: unifyNewlines cs
  | '\r' :: cs => '\n' :: unifyNewlines cs
  | c :: cs => c :: unifyNewlines cs

end SceneScript.Text
