import SceneScript.CommandLine.Word
import SceneScript.Disk.Path
import SceneScript.Text.Quoted
import SceneScript.Text.UpperCase

set_option autoImplicit false
set_option relaxedAutoImplicit false

/-!
# Arguments

What a command line asks for: which script to read, where to write, in which format and how much to
report. Words are taken in order, and the first fault in that order is the one that is reported.
-/

namespace SceneScript.CommandLine

/-- The formats that a story is written in. -/
inductive Format
  | json
  | html
  deriving DecidableEq, Repr, Inhabited

/-- The format that is written so. -/
def Format.ofText? (t : RawText) : Option Format :=
  if t == .ofString "json" then some .json
  else if t == .ofString "html" then some .html
  else none

/-- The levels that may be asked for by option. -/
def levelNames : List String :=
  ["DEBUG", "INFO", "WARNING", "ERROR"]

/-- Why a command line is not carried out. -/
inductive Refusal
  | ambiguous (word : RawText)
  | valueExpected (name : Setting)
  | invalidChoice (name : Setting) (value : RawText)
  | valueRefused (value : RawText)
  | operandsMissing (names : List String)
  | unrecognized (words : List RawText)
  deriving DecidableEq, Repr

/-- The values that a setting may have, as they are listed in a refusal. -/
def Setting.choices : Setting -> List String
  | .format => ["json", "html"]
  | .title => []
  | .logLevel => levelNames

/-- The wording of a refusal. -/
def Refusal.message : Refusal -> String
  | .ambiguous word =>
    "ambiguous option: " ++ word.shown ++ " could match " ++
      ", ".intercalate (longOptions.map (fun option => option.1))
  | .valueExpected name => "argument " ++ name.text ++ ": expected one argument"
  | .invalidChoice name value =>
    "argument " ++ name.text ++ ": invalid choice: " ++ Text.quoted value ++ " (choose from " ++
      ", ".intercalate (name.choices.map (fun choice : String => Text.quoted choice)) ++ ")"
  | .valueRefused value =>
    "argument -h/--help: ignored explicit argument " ++ Text.quoted value
  | .operandsMissing names =>
    "the following arguments are required: " ++ ", ".intercalate names
  | .unrecognized words =>
    "unrecognized arguments: " ++ " ".intercalate (words.map RawText.shown)

/-- Why the reading of a command line stops. -/
inductive Stop
  | help
  | refused (reason : Refusal)
  deriving DecidableEq, Repr

/-- Where the operands stand with respect to the separator. -/
inductive Separation
  /-- The last word was neither an operand that found its place nor the separator. -/
  | apart
  /-- The last word was an operand that found its place. -/
  | taken
  /-- The last word was the separator, and it goes with the next operand. -/
  | pending
  deriving DecidableEq, Repr

/-- Which level of the log is asked for. -/
inductive LevelRequest
  /-- None, so that the surroundings decide. -/
  | unset
  | named (name : String)
  /-- A level without a name, from a separator in the place of the name. -/
  | nameless
  deriving DecidableEq, Repr, Inhabited

/-- What has been read of a command line. An output that is given without a path comes from a lone
separator in its place. -/
structure Progress where
  input : Option Path := none
  output : Option (Option Path) := none
  format : Format := .json
  title : Option RawText := none
  logLevel : LevelRequest := .unset
  extras : List RawText := []
  separation : Separation := .apart
  deriving DecidableEq, Repr

namespace Progress

/-- Puts an operand in its place: the input first, then the output, and all others aside. -/
def takeOperand (p : Progress) (word : RawText) : Progress :=
  match p.input, p.output with
  | none, _ => { p with input := some (Path.ofText word), separation := .taken }
  | some _, none =>
    let isValue := word != .ofString "--" || p.separation == .pending
    let path := if isValue then some (Path.ofText word) else none
    { p with output := some path, separation := .taken }
  | some _, some _ => { p with extras := p.extras ++ [word], separation := .apart }

/-- Passes over the separator. It is an operand of its own, for which there is no place, if all
places were taken before the last word. -/
def takeSeparator (p : Progress) : Progress :=
  match p.separation, p.output with
  | .taken, _ => { p with separation := .apart }
  | _, none => { p with separation := .pending }
  | _, some _ => { p with extras := p.extras ++ [.ofString "--"], separation := .apart }

/-- Withdraws a setting: the format and the title are as if they had not been given, and the log is
left without a level. -/
def withdraw (p : Progress) : Setting -> Progress
  | .format => { p with format := .json, separation := .apart }
  | .title => { p with title := none, separation := .apart }
  | .logLevel => { p with logLevel := .nameless, separation := .apart }

/-- Records the value of a setting. -/
def record (p : Progress) (name : Setting) (value : RawText) : Except Stop Progress :=
  match name with
  | .format =>
    match Format.ofText? value with
    | none => .error (.refused (.invalidChoice .format value))
    | some f => .ok { p with format := f, separation := .apart }
  | .title => .ok { p with title := some value, separation := .apart }
  | .logLevel =>
    let level := Text.upper value
    match levelNames.find? (fun name => level == .ofString name) with
    | none => .error (.refused (.invalidChoice .logLevel level))
    | some name => .ok { p with logLevel := .named name, separation := .apart }

/-- Takes a setting with its value. The separator is no value: in the place of one it withdraws the
setting. -/
def takeSetting (p : Progress) (name : Setting) (value : RawText) : Except Stop Progress :=
  if value == .ofString "--" then .ok (p.withdraw name) else p.record name value

end Progress

/-- Why a row of short help options stops the reading: for help, unless it goes on with something
else, which is refused. -/
def helpRowStop (row : RawText) : Stop :=
  match row.dropWhile (fun c => c == .char 'h') with
  | [] => .help
  | value => .refused (.valueRefused value)

/-- Why the short help option stops the reading. The option may be repeated in one word, also behind
an equals sign, but there must be something behind that sign. -/
def shortHelpStop (rest : RawText) : Stop :=
  match rest with
  | [.char '='] => .refused (.valueRefused [])
  | .char '=' :: row => helpRowStop row
  | row => helpRowStop row

/-- Takes words in order up to the first that stops the reading. -/
def takeWords (p : Progress) : List Word -> Except Stop Progress
  | [] => .ok p
  | .operand word :: rest => takeWords (p.takeOperand word) rest
  | .separator :: rest => takeWords p.takeSeparator rest
  | .help none :: _ => .error .help
  | .help (some value) :: _ => .error (.refused (.valueRefused value))
  | .shortHelp word :: _ => .error (shortHelpStop word)
  | .unknown word :: rest =>
    takeWords { p with extras := p.extras ++ [word], separation := .apart } rest
  | .setting name (some value) :: rest =>
    match p.takeSetting name value with
    | .error e => .error e
    | .ok q => takeWords q rest
  | .setting name none :: .operand value :: rest =>
    match p.takeSetting name value with
    | .error e => .error e
    | .ok q => takeWords q rest
  | .setting name none :: _ => .error (.refused (.valueExpected name))

/-- What a command line asks for. -/
structure Options where
  input : Path
  output : Option Path
  format : Format
  title : Option RawText
  logLevel : LevelRequest
  deriving DecidableEq, Repr, Inhabited

/-- The options of a command line that has been read to its end. A missing operand is reported
before a word that has no place. -/
def Progress.options (p : Progress) : Except Stop Options :=
  match p.input, p.output with
  | none, _ => .error (.refused (.operandsMissing ["input_script", "output_file"]))
  | some _, none => .error (.refused (.operandsMissing ["output_file"]))
  | some input, some output =>
    if p.extras.isEmpty then
      .ok { input, output, format := p.format, title := p.title, logLevel := p.logLevel }
    else .error (.refused (.unrecognized p.extras))

/-- Reads a command line. -/
def readArguments (arguments : List RawText) : Except Stop Options :=
  match readWords arguments with
  | .error e => .error (.refused (.ambiguous e.word))
  | .ok words =>
    match takeWords {} words with
    | .error e => .error e
    | .ok p => p.options

end SceneScript.CommandLine
