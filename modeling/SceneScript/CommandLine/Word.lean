import SceneScript.Text.Cut
import SceneScript.Text.Digit
import SceneScript.Text.Raw

set_option autoImplicit false
set_option relaxedAutoImplicit false

/-!
# Words of a command line

Each word of a command line is an operand, an option, or the separator after which every word is an
operand. A long option may be shortened as long as only one option starts so, and may bring its
value along behind an equals sign.
-/

namespace SceneScript.CommandLine

/-- The options that take a value. -/
inductive Setting
  | format
  | title
  | logLevel
  deriving DecidableEq, Repr

/-- How a setting is written. -/
def Setting.text : Setting -> String
  | .format => "--format"
  | .title => "--title"
  | .logLevel => "--log-level"

/-- A word by the part that it plays. -/
inductive Word
  | operand (text : RawText)
  /-- The word after which there are no options. -/
  | separator
  /-- The long help option, with what stands behind its equals sign. -/
  | help (attached : Option RawText)
  /-- The short help option, with the rest of the word. -/
  | shortHelp (rest : RawText)
  /-- An option that takes a value, with what stands behind its equals sign. -/
  | setting (name : Setting) (attached : Option RawText)
  /-- A word that looks like an option and is none. -/
  | unknown (text : RawText)
  deriving DecidableEq, Repr

/-- Why a command line is refused before it is read in order. -/
structure Ambiguity where
  word : RawText
  deriving DecidableEq, Repr

/-- The long options in the order in which they are listed, each with the word it makes. -/
def longOptions : List (String × (Option RawText -> Word)) :=
  [("--help", .help), (Setting.format.text, .setting .format),
    (Setting.title.text, .setting .title), (Setting.logLevel.text, .setting .logLevel)]

/-- The long options that start with a text. -/
def candidates (start : RawText) : List (String × (Option RawText -> Word)) :=
  longOptions.filter (fun option => start.isPrefixOf (RawText.ofString option.1))

/-- Whether a text, without its minus sign, is a number: digits, or digits around or behind a point.
A line feed at the end does not count. -/
def isNumber (t : RawText) : Bool :=
  let isDigit := RawChar.satisfies Text.isDigit
  let body := if t.getLast? == some (.char '\n') then t.dropLast else t
  match body.dropWhile isDigit with
  | [] => !body.isEmpty
  | c :: fraction => c == .char '.' && !fraction.isEmpty && fraction.all isDigit

/-- What a word is that starts with a minus sign and names no option: an operand if it is a negative
number or holds a space. -/
def Word.ofOther (word afterMinus : RawText) : Word :=
  if isNumber afterMinus || word.contains (.char ' ') then .operand word else .unknown word

/-- Reads a word that starts with two minus signs. -/
def Word.ofLong (word afterMinus : RawText) : Except Ambiguity Word :=
  match candidates (Text.before (.char '=') word) with
  | [] => .ok (.ofOther word afterMinus)
  | [option] => .ok (option.2 (Text.after? (.char '=') word))
  | _ => .error ⟨word⟩

/-- Reads a word in front of the separator. -/
def Word.ofText (word : RawText) : Except Ambiguity Word :=
  match word with
  | [.char '-'] => .ok (.operand word)
  | .char '-' :: .char '-' :: rest => Word.ofLong word (.char '-' :: rest)
  | .char '-' :: .char 'h' :: rest => .ok (.shortHelp rest)
  | .char '-' :: rest => .ok (.ofOther word rest)
  | _ => .ok (.operand word)

/-- Reads the words of a command line. -/
def readWords : List RawText -> Except Ambiguity (List Word)
  | [] => .ok []
  | word :: rest =>
    if word == .ofString "--" then .ok (.separator :: rest.map Word.operand)
    else
      match Word.ofText word with
      | .error e => .error e
      | .ok w =>
        match readWords rest with
        | .error e => .error e
        | .ok ws => .ok (w :: ws)

end SceneScript.CommandLine
