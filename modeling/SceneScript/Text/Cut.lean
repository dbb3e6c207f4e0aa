set_option autoImplicit false
set_option relaxedAutoImplicit false

/-!
# Cutting a text at its marks

A text is cut at the first occurrence of a mark, or around its first bracketed segment: a `<`, the
first `>` after it, and whatever stands between them, further `<` and line breaks included.
-/

namespace SceneScript.Text

/-- What stands before the first occurrence of a mark, and the whole text without one. -/
def before {α : Type} [BEq α] (mark : α) (cs : List α) : List α :=
  cs.takeWhile (fun c => c != mark)

/-- What follows the first occurrence of a mark, and nothing without one. -/
def after? {α : Type} [BEq α] (mark : α) (cs : List α) : Option (List α) :=
  match cs.dropWhile (fun c => c != mark) with
  | [] => none
  | _ :: rest => some rest

/-- A text read as `left`, `<`, `inner`, `>` and `right`. -/
structure Segment where
  left : List Char
  inner : List Char
  right : List Char
  deriving DecidableEq, Repr

/-- The text that a segment was read from. -/
def Segment.text (s : Segment) : List Char :=
  s.left ++ '<' :: (s.inner ++ '>' :: s.right)

/-- The first complete bracketed segment: from the first `<` to the first `>` after it. -/
def firstSegment? (cs : List Char) : Option Segment :=
  match after? '<' cs with
  | none => none
  | some opened =>
    match after? '>' opened with
    | none => none
    | some right => some ⟨before '<' cs, before '>' opened, right⟩

/-- Cuts a text at every character that satisfies `p`, which is dropped. A text without such a
character is one piece, so there is always a piece. -/
def splitWhere {α : Type} (p : α -> Bool) : List α -> List (List α)
  | [] => [[]]
  | c :: cs =>
    if p c then [] :: splitWhere p cs
    else
      match splitWhere p cs with
      | [] => [[c]]
      | w :: ws => (c :: w) :: ws

end SceneScript.Text
