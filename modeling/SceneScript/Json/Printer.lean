import SceneScript.Json.Basic
import SceneScript.Text.Hex
import SceneScript.Text.Units

set_option autoImplicit false
set_option relaxedAutoImplicit false

/-!
# Printing JSON

A value is printed over several lines, two spaces for each level, in ASCII alone. Characters beyond
ASCII are escaped by their UTF-16 units, and empty lists and objects take no line of their own.
-/

namespace SceneScript.Json

/-- How a UTF-16 unit is written between quotes: as a short escape, as itself if it is a printable
ASCII character, or by its number. -/
def writeUnit (n : Nat) : List Char :=
  if n == 0x22 then ['\\', '"']
  else if n == 0x5c then ['\\', '\\']
  else if n == 0xa then ['\\', 'n']
  else if n == 0xd then ['\\', 'r']
  else if n == 0x9 then ['\\', 't']
  else if n == 0x8 then ['\\', 'b']
  else if n == 0xc then ['\\', 'f']
  else if 0x20 <= n && n < 0x7f then [Char.ofNat n]
  else '\\' :: 'u' :: Text.hexDigits 4 n

/-- A text between quotes. -/
def writeText (cs : List Char) : List Char :=
  '"' :: ((Text.units cs).flatMap writeUnit ++ ['"'])

/-- The start of a line at a depth. -/
def newLine (depth : Nat) : List Char :=
  '\n' :: List.replicate (2 * depth) ' '

mutual

/-- A value whose last line ends at a depth. -/
def write : Json -> Nat -> List Char
  | .null, _ => ['n', 'u', 'l', 'l']
  | .bool true, _ => ['t', 'r', 'u', 'e']
  | .bool false, _ => ['f', 'a', 'l', 's', 'e']
  | .text s, _ => writeText s.toList
  | .list [], _ => ['[', ']']
  | .list (item :: items), depth =>
    '[' :: (newLine (depth + 1) ++ write item (depth + 1) ++ writeItems items (depth + 1) ++
      newLine depth ++ [']'])
  | .object [], _ => ['\x7b', '\x7d']
  | .object ((key, value) :: fields), depth =>
    '\x7b' :: (newLine (depth + 1) ++ writeText key.toList ++ [':', ' '] ++
      write value (depth + 1) ++ writeFields fields (depth + 1) ++ newLine depth ++ ['\x7d'])

/-- The items after the first one, each on a line of its own. -/
def writeItems : List Json -> Nat -> List Char
  | [], _ => []
  | item :: items, depth => ',' :: (newLine depth ++ write item depth ++ writeItems items depth)

/-- The fields after the first one, each on a line of its own. -/
def writeFields : List (String × Json) -> Nat -> List Char
  | [], _ => []
  | (key, value) :: fields, depth =>
    ',' :: (newLine depth ++ writeText key.toList ++ [':', ' '] ++ write value depth ++
      writeFields fields depth)

end

/-- The text of a value. -/
def print (value : Json) : String :=
  String.ofList (value.write 0)

end SceneScript.Json
