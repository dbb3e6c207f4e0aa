import SceneScript.Script.Error
import SceneScript.Story

set_option autoImplicit false
set_option relaxedAutoImplicit false

/-!
# Statements

How one line is read as a declaration of a scene or a character, or as a choice or an emotion of the
one that is open. The colon that ends a declaration is the first one outside the first bracketed
segment of the line; text after it is refused.
-/

namespace SceneScript

/-- A label without its first bracketed segment, and the text of that segment. An empty segment is
dropped and gives no parameter. -/
def splitParameter (cs : List Char) : List Char × Option (List Char) :=
  match Text.firstSegment? cs with
  | none => (cs, none)
  | some s => (s.left ++ s.right, if s.inner.isEmpty then none else some s.inner)

/-- What follows the colon of a declaration: the first colon that does not stand inside the first
bracketed segment. -/
def afterDeclaration? (cs : List Char) : Option (List Char) :=
  match Text.firstSegment? cs with
  | none => Text.after? ':' cs
  | some s => if s.left.contains ':' then Text.after? ':' cs else Text.after? ':' s.right

/-- Whether more than blanks follows the colon of a declaration. -/
def hasInlineText (line : String) : Bool :=
  match afterDeclaration? line.toList with
  | none => false
  | some rest => !Text.isBlankText rest

/-- Drops the colons that a word ends in. -/
def dropColons (cs : List Char) : List Char :=
  Text.dropEndWhile (fun c => c == ':') cs

/-- Reads a text as nothing if it is empty. -/
def nonEmpty? (cs : List Char) : Option String :=
  if cs.isEmpty then none else some (String.ofList cs)

/-- Reads a scene declaration, `scene label<condition> -> next:`. The second word is the label with
its condition and the fourth one the next scene. -/
def Scene.ofLine (line : String) : Except ScriptError Scene :=
  if hasInlineText line then .error { cause := .inlineText "scenes", line }
  else
    let parts := splitParameter (Text.word 1 line.toList)
    .ok {
      label := String.ofList (dropColons parts.1)
      condition := parts.2.map String.ofList
      next := nonEmpty? (dropColons (Text.word 3 line.toList)) }

/-- Reads a character declaration, `character Name:`. The second word is the name. -/
def Character.ofLine (line : String) : Except ScriptError Character :=
  if hasInlineText line then .error { cause := .inlineText "characters", line }
  else .ok { name := String.ofList (dropColons (Text.word 1 line.toList)) }

/-- What follows the first colon of a line, trimmed, and the empty text without a colon. -/
def afterColon (line : String) : List Char :=
  Text.trim ((Text.after? ':' line.toList).getD [])

/-- Reads a choice, `choice<target>: Label`. The target is the first bracketed segment before the
first colon. -/
def Choice.ofLine (line : String) : Except ScriptError Choice :=
  match (splitParameter (Text.before ':' line.toList)).2 with
  | none => .error { cause := .choiceWithoutTarget, line }
  | some target => .ok { label := String.ofList (afterColon line), target := String.ofList target }

/-- An emotion name and the path of its picture. -/
structure EmotionEntry where
  name : String
  path : String
  deriving DecidableEq, Repr, Inhabited

/-- Reads an emotion, `emotion name: path`. The name is the second word before the first colon. -/
def EmotionEntry.ofLine (line : String) : Except ScriptError EmotionEntry :=
  if (afterColon line).isEmpty then .error { cause := .emotionWithoutPath, line }
  else
    .ok {
      name := String.ofList (Text.word 1 (Text.before ':' line.toList))
      path := String.ofList (afterColon line) }

/-- Adds a choice at the end of a scene's choices, which starts the list if there is none. -/
def Scene.addChoice (s : Scene) (c : Choice) : Scene :=
  { s with choices := some (s.choiceList ++ [c]) }

/-- Sets an emotion of a character. -/
def Character.setEmotion (c : Character) (e : EmotionEntry) : Character :=
  { c with emotions := c.emotions.insert e.name e.path }

/-- Reads a choice line into the open scene, and gives the choice and the scene that has it. -/
def readChoice (line : String) : Option Scene -> Except ScriptError (Choice × Scene)
  | none => .error { cause := .choiceOutsideScene, line }
  | some scene =>
    match Choice.ofLine line with
    | .error e => .error e
    | .ok choice => .ok (choice, scene.addChoice choice)

/-- Reads an emotion line into the open character, and gives the entry and the character that has
it. -/
def readEmotion (line : String) : Option Character -> Except ScriptError (EmotionEntry × Character)
  | none => .error { cause := .emotionOutsideCharacter, line }
  | some character =>
    match EmotionEntry.ofLine line with
    | .error e => .error e
    | .ok entry => .ok (entry, character.setEmotion entry)

end SceneScript
