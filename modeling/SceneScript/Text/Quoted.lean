import SceneScript.Text.Printable
import SceneScript.Text.Raw

set_option autoImplicit false
set_option relaxedAutoImplicit false

/-!
# Quoted text in messages

How a message shows a text that it was given: in single quotes, or in double quotes if that saves
escaping, with backslash escapes for whatever would not show as itself.
-/

namespace SceneScript.Text

/-- The quote that a text is put in: the double one just for a text that holds single quotes and no
double ones. -/
def quoteFor (t : RawText) : Char :=
  if t.contains (.char '\'') && !t.contains (.char '"') then '"' else '\''

/-- One character between two quotes of the given kind. -/
def quotedChar (quote : Char) : RawChar -> List Char
  | .lone half => RawChar.escapeHalf half
  | .char c =>
    if c == quote || c == '\\' then ['\\', c]
    else if c == '\t' then ['\\', 't']
    else if c == '\n' then ['\\', 'n']
    else if c == '\r' then ['\\', 'r']
    else if isPrintable c then [c]
    else if c.toNat < 0x100 then '\\' :: 'x' :: hexDigits 2 c.toNat
    else if c.toNat < 0x10000 then '\\' :: 'u' :: hexDigits 4 c.toNat
    else '\\' :: 'U' :: hexDigits 8 c.toNat

/-- A text in quotes. -/
def quoted (t : RawText) : String :=
  let quote := quoteFor t
  String.ofList (quote :: (t.flatMap (quotedChar quote) ++ [quote]))

end SceneScript.Text
