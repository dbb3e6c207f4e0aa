import SceneScript.Script.Indentation
import SceneScript.Story

set_option autoImplicit false
set_option relaxedAutoImplicit false

/-!
# Writing scripts

A script as a list of blocks, each a scene with its choices or a character with its emotions, and
the text in which they are written, one statement per line. `Block.WellFormed` says which blocks
have a text from which nothing is lost.
-/

namespace SceneScript

/-- A scene as it is written: its label, its condition, the scene that it names as the next one, and
its choices. -/
structure SceneBlock where
  label : String
  condition : Option String
  target : Option String
  choices : List Choice
  deriving DecidableEq, Repr, Inhabited

/-- A character as it is written: the name, and the emotions in the order of their lines. -/
structure CharacterBlock where
  name : String
  emotions : List (String × String)
  deriving DecidableEq, Repr, Inhabited

/-- A part of a script. -/
inductive Block
  | scene (block : SceneBlock)
  | character (block : CharacterBlock)
  deriving DecidableEq, Repr, Inhabited

/-- One level of indentation. -/
def indent : String :=
  String.ofList (List.replicate indentWidth ' ')

/-- The line of a choice. -/
def Choice.line (c : Choice) : String :=
  indent ++ "choice<" ++ c.target ++ ">: " ++ c.label

/-- The line that opens a scene. -/
def SceneBlock.line (b : SceneBlock) : String :=
  "scene " ++ b.label ++
    (match b.condition with
    | none => ""
    | some condition => "<" ++ condition ++ ">") ++
    (match b.target with
    | none => ""
    | some target => " -> " ++ target) ++ ":"

/-- The line of an emotion. -/
def emotionLine (entry : String × String) : String :=
  indent ++ "emotion " ++ entry.1 ++ ": " ++ entry.2

/-- The line that opens a character. -/
def CharacterBlock.line (b : CharacterBlock) : String :=
  "character " ++ b.name ++ ":"

/-- The lines of a block. -/
def Block.lines : Block -> List String
  | .scene b => b.line :: b.choices.map Choice.line
  | .character b => b.line :: b.emotions.map emotionLine

/-- The text of a script, each line of which ends in a line feed. -/
def writeScript (blocks : List Block) : String :=
  String.join ((blocks.flatMap Block.lines).map (fun line => line ++ "\n"))

/-- A word that can stand for a label or a name: it is not empty and holds no blank, colon or angle
bracket. -/
def IsPlainWord (s : String) : Prop :=
  s ≠ "" ∧ ∀ c ∈ s.toList, Text.isBlank c = false ∧ c ≠ ':' ∧ c ≠ '<' ∧ c ≠ '>'

/-- A text that stays itself when the blanks at its ends are removed, on one line. -/
def IsTrimmedLine (s : String) : Prop :=
  Text.trim s.toList = s.toList ∧ '\n' ∉ s.toList

/-- A text that can stand in the brackets of a scene: not empty, without blank and `>`. -/
def IsCondition (s : String) : Prop :=
  s ≠ "" ∧ ∀ c ∈ s.toList, Text.isBlank c = false ∧ c ≠ '>'

/-- A text that can stand in the brackets of a choice: not empty, without colon, `>` and line
feed. -/
def IsTarget (s : String) : Prop :=
  s ≠ "" ∧ ∀ c ∈ s.toList, c ≠ ':' ∧ c ≠ '>' ∧ c ≠ '\n'

instance (s : String) : Decidable (IsPlainWord s) :=
  @instDecidableAnd _ _ inferInstance (List.decidableBAll _ s.toList)

instance (s : String) : Decidable (IsTrimmedLine s) := inferInstanceAs (Decidable (_ ∧ _))

instance (s : String) : Decidable (IsCondition s) :=
  @instDecidableAnd _ _ inferInstance (List.decidableBAll _ s.toList)

instance (s : String) : Decidable (IsTarget s) :=
  @instDecidableAnd _ _ inferInstance (List.decidableBAll _ s.toList)

/-- A choice that its line gives back. -/
def Choice.WellFormed (c : Choice) : Prop :=
  IsTarget c.target ∧ IsTrimmedLine c.label

instance (c : Choice) : Decidable c.WellFormed := inferInstanceAs (Decidable (_ ∧ _))

/-- A block that its lines give back. -/
def Block.WellFormed : Block -> Prop
  | .scene b =>
    IsPlainWord b.label ∧ (∀ c ∈ b.condition, IsCondition c) ∧ (∀ t ∈ b.target, IsPlainWord t) ∧
      ∀ c ∈ b.choices, c.WellFormed
  | .character b =>
    IsPlainWord b.name ∧
      ∀ e ∈ b.emotions, IsPlainWord e.1 ∧ e.2 ≠ "" ∧ IsTrimmedLine e.2

instance : (b : Block) -> Decidable b.WellFormed
  | .scene _ => inferInstanceAs (Decidable (_ ∧ _ ∧ _ ∧ _))
  | .character _ => inferInstanceAs (Decidable (_ ∧ _))

end SceneScript
