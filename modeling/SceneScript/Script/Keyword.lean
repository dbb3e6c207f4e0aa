import SceneScript.Script.Indentation
import SceneScript.Text.LowerCase

set_option autoImplicit false
set_option relaxedAutoImplicit false

/-!
# Keywords

A line is the statement that its keyword and its indentation make it. Keywords are read in any case,
and each has the one level of indentation at which it opens a statement. A keyword at another level
counts for nothing, and a line without keyword is no error.
-/

namespace SceneScript

/-- The words that open a statement. -/
inductive Keyword
  | character
  | emotion
  | scene
  | choice
  | endingScene
  | useEmotion
  deriving DecidableEq, Repr

namespace Keyword

/-- How a keyword is written, in small letters. -/
def text : Keyword -> String
  | .character => "character"
  | .emotion => "emotion"
  | .scene => "scene"
  | .choice => "choice"
  | .endingScene => "ending scene"
  | .useEmotion => "use emotion"

/-- The level of indentation at which a keyword opens a statement. -/
def level : Keyword -> Int
  | .character => 0
  | .emotion => 1
  | .scene => 0
  | .choice => 1
  | .endingScene => 0
  | .useEmotion => 1

/-- All keywords, in the order in which a line is tried for them. -/
def all : List Keyword :=
  [.character, .emotion, .scene, .choice, .endingScene, .useEmotion]

/-- Whether a line, trimmed and in small letters, starts with a keyword. -/
def starts (k : Keyword) (line : String) : Bool :=
  k.text.toList.isPrefixOf (Text.lower (Text.trim line.toList))

/-- Whether a line starts with a keyword and is indented to a level. -/
def opensAt (k : Keyword) (line : String) (level : Int) : Bool :=
  k.starts line && isIndentedTo line level

/-- Whether a line starts with a keyword at the keyword's own level. -/
def opens (k : Keyword) (line : String) : Bool :=
  k.opensAt line k.level

/-- The keyword of the statement on a line, if there is a statement. -/
def ofLine? (line : String) : Option Keyword :=
  all.find? (fun k => k.opens line)

end Keyword

end SceneScript
