import SceneScript.Text.Cut

set_option autoImplicit false
set_option relaxedAutoImplicit false

/-!
# Fragments of a page

A page is a list of fragments, and each is either markup, which is written as it stands, or a value,
which is written with its special characters escaped. No value can therefore change the markup.
-/

namespace SceneScript.Html

/-- A piece of a page. -/
inductive Fragment
  /-- Markup of the page itself. -/
  | markup (text : String)
  /-- Text from outside. -/
  | value (text : String)
  deriving DecidableEq, Repr

/-- How a character of a value is written. -/
def escapeChar (c : Char) : List Char :=
  match c with
  | '&' => "&amp;".toList
  | '<' => "&lt;".toList
  | '>' => "&gt;".toList
  | '"' => "&#34;".toList
  | '\'' => "&#39;".toList
  | _ => [c]

/-- A value with its special characters escaped. -/
def escape (cs : List Char) : List Char :=
  cs.flatMap escapeChar

/-- The characters of a fragment on the page. -/
def Fragment.write : Fragment -> List Char
  | .markup text => text.toList
  | .value text => escape text.toList

/-- The text of a page. -/
def render (page : List Fragment) : String :=
  String.ofList (page.flatMap Fragment.write)

/-- Fragments that stand on the page on a condition. -/
def showIf (condition : Bool) (fragments : List Fragment) : List Fragment :=
  if condition then fragments else []

/-- Fragments made from a text, if there is one and it is not empty. -/
def showText (text : Option String) (fragments : String -> List Fragment)
    (otherwise : List Fragment) : List Fragment :=
  match text with
  | none => otherwise
  | some s => if s.isEmpty then otherwise else fragments s

/-- Values with a comma and a space between neighbours. -/
def commaSeparated : List String -> List Fragment
  | [] => []
  | [s] => [.value s]
  | s :: rest => .value s :: .markup ", " :: commaSeparated rest

end SceneScript.Html
