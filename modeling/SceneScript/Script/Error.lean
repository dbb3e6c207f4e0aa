import SceneScript.Text.Blank

set_option autoImplicit false
set_option relaxedAutoImplicit false

/-!
# Script errors

Every violation in a script is fatal: the first one ends the parse, and there is no partial story.
An error names its cause and the line it was found on, and has one wording, `ScriptError.message`.
-/

namespace SceneScript

/-- What is wrong with a statement. -/
inductive Cause
  /-- A statement is invalid for no more particular cause. -/
  | invalidStatement
  /-- The declaration of one of the named things carries text after its colon. -/
  | inlineText (context : String)
  | choiceOutsideScene
  | choiceWithoutTarget
  | emotionOutsideCharacter
  | emotionWithoutPath
  deriving DecidableEq, Repr, Inhabited

/-- The wording of a cause. -/
def Cause.reason : Cause -> String
  | .invalidStatement => "Invalid statement"
  | .inlineText context =>
    "Inline instructions are forbidden in this context (" ++ context ++ ")"
  | .choiceOutsideScene => "Choice must be inside a scene"
  | .choiceWithoutTarget => "Choice must have a target scene"
  | .emotionOutsideCharacter => "Emotion must be inside a character"
  | .emotionWithoutPath => "An emotion declaration must have a path"

/-- A violation with the line that it was found on. A statement read on its own has no line number,
and a wording of its own may stand in for that of the cause. -/
structure ScriptError where
  cause : Cause
  line : String := ""
  lineNumber : Option Int := none
  wording : Option String := none
  deriving DecidableEq, Repr, Inhabited

namespace ScriptError

/-- Why the line is invalid. -/
def reason (e : ScriptError) : String :=
  e.wording.getD e.cause.reason

/-- Where the error is, as the start of its message. An error without a line number, or with number
zero, has no such start. -/
def location (e : ScriptError) : String :=
  match e.lineNumber with
  | none => ""
  | some n => if n = 0 then "" else "line " ++ toString n ++ ": "

/-- The trimmed line in quotes, as the end of the message. An empty line leaves no trace. -/
def excerpt (e : ScriptError) : String :=
  if e.line.isEmpty then "" else ": '" ++ String.ofList (Text.trim e.line.toList) ++ "'"

/-- The full wording of an error: its place, its reason and the line. -/
def message (e : ScriptError) : String :=
  e.location ++ e.reason ++ e.excerpt

/-- The same error with the number of its line. -/
def atLine (e : ScriptError) (n : Int) : ScriptError :=
  { e with lineNumber := some n }

end ScriptError

end SceneScript
