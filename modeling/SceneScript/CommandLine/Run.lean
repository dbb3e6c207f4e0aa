import SceneScript.CommandLine.Arguments
import SceneScript.CommandLine.LogLevel
import SceneScript.CommandLine.Usage
import SceneScript.Disk.Basic
import SceneScript.Json.Printer
import SceneScript.Report.Page
import SceneScript.StoryJson

set_option autoImplicit false
set_option relaxedAutoImplicit false

/-!
# Running the command

A run reads its arguments, then the script, then parses it, and only then makes directories, opens
the output and writes. Whatever goes wrong before that leaves all files as they were.
-/

namespace SceneScript.CommandLine

/-- What a run depends on besides its arguments and the files. -/
structure Surroundings where
  entry : Entry
  /-- The value of the variable that sets the level of the log, if it is set. -/
  logVariable : Option RawText
  now : Timestamp
  deriving DecidableEq, Repr, Inhabited

/-- Why a run breaks off without a message of its own. -/
inductive Failure
  | unknownLevel (name : RawText)
  | namelessLevel
  | fault (fault : Fault)
  | notUtf8
  | noOutputPath
  | unencodable (output : Unencodable)
  deriving DecidableEq, Repr

/-- The wording of a failure, where it has one. -/
def Failure.message? : Failure -> Option String
  | .unknownLevel name => some ("Unknown level: " ++ Text.quoted name)
  | .namelessLevel => some "Level not an integer or a valid string: []"
  | .fault f => some f.message
  | .notUtf8 => none
  | .noOutputPath => some "'list' object has no attribute 'parent'"
  | .unencodable u => some u.message

/-- How a run ends: its exit code, what it printed, and the failure that broke it off, if any. -/
structure Outcome where
  exitCode : Nat
  out : String := ""
  err : String := ""
  failure : Option Failure := none
  deriving DecidableEq, Repr

/-- The outcome of a run that is broken off by a failure, after its log. -/
def Outcome.brokenOff (log : String) (failure : Failure) : Outcome :=
  { exitCode := 1, err := log, failure := some failure }

/-- The outcome of a run that ends with a message, after its log. -/
def Outcome.failed (log message : String) : Outcome :=
  { exitCode := 1, err := log ++ "Error: " ++ message ++ "\n" }

/-- The outcome of a run whose arguments are not carried out. -/
def Stop.outcome (entry : Entry) : Stop -> Outcome
  | .help => { exitCode := 0, out := helpText entry }
  | .refused reason =>
    { exitCode := 2
      err := usageText entry ++ entry.program ++ ": error: " ++ reason.message ++ "\n" }

/-- The level at which the log starts if no option sets it: that of the variable, in capitals. -/
def Surroundings.defaultLevel (s : Surroundings) : RawText :=
  Text.upper (s.logVariable.getD (.ofString "WARNING"))

/-- The threshold of the log with a level of a name. -/
def thresholdOf (name : RawText) : Except Failure Nat :=
  match threshold? name with
  | none => .error (.unknownLevel name)
  | some threshold => .ok threshold

/-- The threshold of the log that is asked for. -/
def Surroundings.threshold (s : Surroundings) : LevelRequest -> Except Failure Nat
  | .unset => thresholdOf s.defaultLevel
  | .named name => thresholdOf name
  | .nameless => .error .namelessLevel

/-- The title of the report: the given one, or the name of the script without its extension if none
is given or it is empty. -/
def Options.reportTitle (o : Options) : RawText :=
  match o.title with
  | none => o.input.stem
  | some title => if title.isEmpty then o.input.stem else title

/-- The text that is written for a story. There is none for a page that holds half of a surrogate
pair. -/
def Options.product (o : Options) (now : Timestamp) (story : Story) :
    Except Unencodable String :=
  match o.format with
  | .json => .ok story.toJson.print
  | .html => (story.rawPage o.reportTitle now).toText

/-- The script in the bytes of a file, if they are text. -/
def decodeScript? (bytes : ByteArray) : Option String :=
  (String.fromUTF8? bytes).map
    (fun text => String.ofList (Text.unifyNewlines text.toList))

/-- What a run says when everything is written. -/
def progress (story : Story) (output : Path) : String :=
  "✓ Parsed " ++ toString story.scenes.length ++ " scenes\n" ++
    "✓ Parsed " ++ toString story.characters.length ++ " characters\n" ++
    "✓ Output: " ++ output.text.shown ++ "\n"

variable {m : Type -> Type} {Handle : Type} [Monad m]

/-- Writes a story to a path, after the directories above it are made. The output is open, and what
it held is gone, before the text to be written is made, so it stays empty if there is none. -/
def save (files : FileAccess Handle m) (o : Options) (now : Timestamp) (log : String)
    (story : Story) (output : Path) : m Outcome := do
  match ← files.makeDirectories output.parent with
  | .error fault => return .brokenOff log (.fault fault)
  | .ok () =>
    match ← files.create output with
    | .error fault => return .brokenOff log (.fault fault)
    | .ok file =>
      match o.product now story with
      | .error u => return .brokenOff log (.unencodable u)
      | .ok text =>
        files.put file text.toUTF8
        return { exitCode := 0, err := log ++ progress story output }

/-- Reads a script and writes the story, with a log at a threshold. -/
def convert (files : FileAccess Handle m) (s : Surroundings) (o : Options)
    (threshold : Nat) : m Outcome := do
  match ← files.isPresent o.input with
  | .error fault => return .brokenOff "" (.fault fault)
  | .ok false => return .failed "" ("Input file not found: " ++ o.input.text.shown)
  | .ok true =>
    match ← files.read o.input with
    | .error fault => return .brokenOff "" (.fault fault)
    | .ok bytes =>
      match decodeScript? bytes with
      | none => return .brokenOff "" .notUtf8
      | some script =>
        let log := logText s.entry.logger threshold (parseEvents script)
        match parse script with
        | .error e => return .failed log (o.input.text.shown ++ ": " ++ e.message)
        | .ok story =>
          match o.output with
          | none => return .brokenOff log .noOutputPath
          | some output => save files o s.now log story output

/-- Carries out the command on its arguments. -/
def run (files : FileAccess Handle m) (s : Surroundings) (arguments : List RawText) :
    m Outcome :=
  match readArguments arguments with
  | .error stop => pure (stop.outcome s.entry)
  | .ok o =>
    match s.threshold o.logLevel with
    | .error failure => pure (.brokenOff "" failure)
    | .ok threshold => convert files s o threshold

/-- The outcome of the command on a disk, and the disk after it. -/
def runOn (disk : Disk) (s : Surroundings) (arguments : List RawText) : Outcome × Disk :=
  (run Disk.access s arguments).run disk

end SceneScript.CommandLine
