import SceneScript.Json.Basic
import SceneScript.Text.Units

set_option autoImplicit false
set_option relaxedAutoImplicit false

/-!
# Reading JSON

The values of `Json` read back from any of their texts: spaces and line ends may stand wherever JSON
allows them, and characters may be escaped or not. A text with a number in it is not read.
-/

namespace SceneScript.Json

/-- The characters that may stand between the marks of a text. -/
def isSpace (c : Char) : Bool :=
  c == ' ' || c == '\n' || c == '\r' || c == '\t'

/-- A text without the spaces at its start. -/
def skipSpace (cs : List Char) : List Char :=
  cs.dropWhile isSpace

/-- The value of a hexadecimal digit. -/
def hexValue? (c : Char) : Option Nat :=
  if '0' <= c && c <= '9' then some (c.toNat - 0x30)
  else if 'a' <= c && c <= 'f' then some (c.toNat - 0x57)
  else if 'A' <= c && c <= 'F' then some (c.toNat - 0x37)
  else none

/-- The unit that four hexadecimal digits stand for. -/
def hexUnit? (a b c d : Char) : Option Nat :=
  match hexValue? a, hexValue? b, hexValue? c, hexValue? d with
  | some w, some x, some y, some z => some (((w * 16 + x) * 16 + y) * 16 + z)
  | _, _, _, _ => none

/-- The unit that a letter stands for behind a backslash. -/
def escaped? (c : Char) : Option Nat :=
  match c with
  | '"' => some 0x22
  | '\\' => some 0x5c
  | '/' => some 0x2f
  | 'b' => some 0x8
  | 'f' => some 0xc
  | 'n' => some 0xa
  | 'r' => some 0xd
  | 't' => some 0x9
  | _ => none

/-- Puts units in front of those that have been read. -/
def pushUnits (front : List Nat) (read : Option (List Nat × List Char)) :
    Option (List Nat × List Char) :=
  read.map (fun r => (front ++ r.1, r.2))

/-- Reads the units of a text up to its closing quote. -/
def readUnits : List Char -> Option (List Nat × List Char)
  | [] => none
  | '"' :: rest => some ([], rest)
  | '\\' :: 'u' :: a :: b :: c :: d :: rest =>
    match hexUnit? a b c d with
    | none => none
    | some n => pushUnits [n] (readUnits rest)
  | '\\' :: c :: rest =>
    match escaped? c with
    | none => none
    | some n => pushUnits [n] (readUnits rest)
  | c :: rest => if c.toNat < 0x20 then none else pushUnits (Text.unitsOfChar c) (readUnits rest)

/-- Reads a text up to its closing quote. -/
def readText (cs : List Char) : Option (String × List Char) :=
  match readUnits cs with
  | none => none
  | some (found, rest) => (Text.ofUnits? found).map (fun text => (String.ofList text, rest))

mutual

/-- Reads a value at the start of a text. The number bounds how many values may be read. -/
def readValue : Nat -> List Char -> Option (Json × List Char)
  | 0, _ => none
  | bound + 1, cs =>
    match skipSpace cs with
    | 'n' :: 'u' :: 'l' :: 'l' :: rest => some (.null, rest)
    | 't' :: 'r' :: 'u' :: 'e' :: rest => some (.bool true, rest)
    | 'f' :: 'a' :: 'l' :: 's' :: 'e' :: rest => some (.bool false, rest)
    | '"' :: rest => (readText rest).map (fun r => (.text r.1, r.2))
    | '[' :: rest =>
      match skipSpace rest with
      | ']' :: after => some (.list [], after)
      | _ => (readItems bound rest).map (fun r => (.list r.1, r.2))
    | '\x7b' :: rest =>
      match skipSpace rest with
      | '\x7d' :: after => some (.object [], after)
      | _ => (readFields bound rest).map (fun r => (.object r.1, r.2))
    | _ => none

/-- Reads the items of a list up to its closing bracket. -/
def readItems : Nat -> List Char -> Option (List Json × List Char)
  | 0, _ => none
  | bound + 1, cs =>
    match readValue bound cs with
    | none => none
    | some (item, rest) =>
      match skipSpace rest with
      | ']' :: after => some ([item], after)
      | ',' :: more => (readItems bound more).map (fun r => (item :: r.1, r.2))
      | _ => none

/-- Reads the fields of an object up to its closing brace. -/
def readFields : Nat -> List Char -> Option (List (String × Json) × List Char)
  | 0, _ => none
  | bound + 1, cs =>
    match skipSpace cs with
    | '"' :: start =>
      match readText start with
      | none => none
      | some (key, rest) =>
        match skipSpace rest with
        | ':' :: inner =>
          match readValue bound inner with
          | none => none
          | some (value, behind) =>
            match skipSpace behind with
            | '\x7d' :: after => some ([(key, value)], after)
            | ',' :: more => (readFields bound more).map (fun r => ((key, value) :: r.1, r.2))
            | _ => none
        | _ => none
    | _ => none

end

/-- Reads a text that is one value, with nothing but spaces behind it. -/
def parse? (text : String) : Option Json :=
  match readValue (2 * text.length + 1) text.toList with
  | none => none
  | some (value, rest) => if (skipSpace rest).isEmpty then some value else none

end SceneScript.Json
