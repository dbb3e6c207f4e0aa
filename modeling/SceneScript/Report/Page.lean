import SceneScript.Html.Fragment
import SceneScript.Report.Basic
import SceneScript.Text.Raw

set_option autoImplicit false
set_option relaxedAutoImplicit false

/-!
# The page of a report

A report as a page of hypertext: its numbers, the choices that lead nowhere, and a block for each
scene and each character. Scenes refer to one another by links to the anchors of their blocks.
-/

namespace SceneScript.Page

open SceneScript.Html

/-- The rules for how the page looks. -/
def style : List String :=
  ["        body \x7b",
    "            font-family: -apple-system, BlinkMacSystemFont, 'Segoe UI', Roboto, sans-serif;",
    "            max-width: 1000px;",
    "            margin: 0 auto;",
    "            padding: 20px;",
    "            background: #f5f5f5;",
    "            color: #333;",
    "        \x7d",
    "        .stats \x7b",
    "            background: white;",
    "            padding: 15px 20px;",
    "            border-radius: 8px;",
    "            margin-bottom: 20px;",
    "        \x7d",
    "        .scene, .character \x7b",
    "            background: white;",
    "            padding: 15px 20px;",
    "            border-radius: 8px;",
    "            margin-bottom: 12px;",
    "            border-left: 4px solid #4a90d9;",
    "        \x7d",
    "        .character \x7b border-left-color: #7b5ea7; \x7d",
    "        .scene h3, .character h3 \x7b margin: 0 0 8px 0; \x7d",
    "        .condition \x7b color: #a05a00; font-family: monospace; \x7d",
    "        .links \x7b color: #666; font-size: 0.9em; \x7d",
    "        .dangling \x7b color: #c0392b; \x7d",
    "        .warning \x7b",
    "            background: #fdecea;",
    "            padding: 10px 20px;",
    "            border-radius: 8px;",
    "            margin-bottom: 20px;",
    "        \x7d",
    "        code \x7b background: #eee; padding: 1px 4px; border-radius: 3px; \x7d"]

/-- The text of whole lines. -/
def joinLines (lines : List String) : String :=
  String.join (lines.map (fun line => line ++ "\n"))

/-- Markup made of whole lines. -/
def markupLines (lines : List String) : Fragment :=
  .markup (joinLines lines)

/-- A link to the block of a scene. -/
def sceneLink (label : String) : List Fragment :=
  [.markup "<a href=\"#scene-", .value label, .markup "\">", .value label, .markup "</a>"]

/-- The title as it is shown. A report without a title shows the word for nothing. -/
def titleText (r : Report) : String :=
  r.title.getD "None"

/-- The start of a page up to its heading, in pieces of any kind: those of markup and the title. -/
def headAround {α : Type} (markup : String -> α) (title : α) : List α :=
  [markup
      (joinLines
        ["<!DOCTYPE html>",
          "<html lang=\"en\">",
          "<head>",
          "    <meta charset=\"UTF-8\">",
          "    <meta name=\"viewport\" content=\"width=device-width, initial-scale=1.0\">"]),
    markup "    <title>", title, markup " - Scene Graph</title>\n",
    markup "    <style>\n", markup (joinLines style), markup "    </style>\n",
    markup "</head>\n<body>\n    <h1>", title, markup "</h1>\n\n"]

/-- The start of the page up to its heading. -/
def head (r : Report) : List Fragment :=
  headAround .markup (.value (titleText r))

/-- The line that leads to the first scene. -/
def startLine (label : String) : List Fragment :=
  List.flatten
    [[.markup "\n        <p>Start scene: "], sceneLink label, [.markup "</p>\n        "]]

/-- The line that lists the ending scenes. -/
def endingsLine (labels : List String) : List Fragment :=
  List.flatten
    [[.markup "\n        <p>Ending scenes: "], commaSeparated labels,
      [.markup "</p>\n        "]]

/-- The numbers of the story, its start and its endings. -/
def statistics (r : Report) : List Fragment :=
  List.flatten
    [[.markup "    <div class=\"stats\">\n        <p>Generated: ", .value r.generated,
        .markup "</p>\n        <p>\n            Scenes: <strong>",
        .value (toString r.sceneCount),
        .markup "</strong> |\n            Choices: <strong>",
        .value (toString r.choiceCount),
        .markup "</strong> |\n            Characters: <strong>",
        .value (toString r.characterCount),
        .markup "</strong>\n        </p>\n        "],
      showText r.start startLine [],
      [.markup "\n        "],
      showIf (!r.endings.isEmpty) (endingsLine r.endings),
      [.markup "\n    </div>\n\n    "]]

/-- One choice that leads nowhere, in the warning. -/
def danglingItem (d : DanglingChoice) : List Fragment :=
  [.markup "\n            <li><code>", .value d.scene, .markup "</code>: \"", .value d.choice,
    .markup "\" &rarr; <code>", .value d.target, .markup "</code></li>\n            "]

/-- The list of choices that lead nowhere. -/
def danglingList (dangling : List DanglingChoice) : List Fragment :=
  List.flatten
    [[markupLines
          ["",
            "    <div class=\"warning\">",
            "        <h2>Undeclared choice targets</h2>",
            "        <ul>"],
        .markup "            "],
      dangling.flatMap danglingItem,
      [.markup "\n        </ul>\n    </div>\n    "]]

/-- The warning about choices that lead nowhere, if there are any. -/
def warning (r : Report) : List Fragment :=
  List.flatten
    [showIf (!r.dangling.isEmpty) (danglingList r.dangling), [.markup "\n\n"]]

/-- One choice of a scene. -/
def choiceItem (c : ChoiceRow) : List Fragment :=
  List.flatten
    [[.markup "\n            <li"],
      showIf c.dangling [.markup " class=\"dangling\""],
      [.markup ">", .value c.label, .markup " &rarr; "],
      sceneLink c.target,
      [.markup "</li>\n            "]]

/-- The choices of a scene. -/
def choiceList (choices : List ChoiceRow) : List Fragment :=
  List.flatten
    [[.markup "\n        <ul>\n            "], choices.flatMap choiceItem,
      [.markup "\n        </ul>\n        "]]

/-- The condition of a scene, in angle brackets. -/
def conditionNote (condition : String) : List Fragment :=
  [.markup " <span class=\"condition\">&lt;", .value condition, .markup "&gt;</span>"]

/-- A link to a neighbouring scene, or a dash in its place. -/
def neighbour (label : Option String) : List Fragment :=
  showText label sceneLink [.markup "&mdash;"]

/-- The block of a scene. -/
def sceneBlock (s : SceneRow) : List Fragment :=
  List.flatten
    [[.markup "\n    <div class=\"scene\" id=\"scene-", .value s.label,
        .markup "\">\n        <h3>", .value s.label],
      showText s.condition conditionNote [],
      [.markup "</h3>\n        <p class=\"links\">\n            Previous: "],
      neighbour s.previous,
      [.markup "\n            |\n            Next: "],
      neighbour s.next,
      [.markup "\n            | Dialogues: ", .value (toString s.dialogueCount),
        .markup "\n        </p>\n        "],
      showIf (!s.choices.isEmpty) (choiceList s.choices),
      [.markup "\n    </div>\n    "]]

/-- One emotion of a character. -/
def emotionItem (entry : String × String) : List Fragment :=
  [.markup "\n            <li>", .value entry.1, .markup ": <code>", .value entry.2,
    .markup "</code></li>\n            "]

/-- The emotions of a character, or a remark that there are none. -/
def emotionList (emotions : List (String × String)) : List Fragment :=
  if emotions.isEmpty then
    [.markup "\n        <p class=\"links\">No emotions declared</p>\n        "]
  else
    List.flatten
      [[.markup "\n        <ul>\n            "], emotions.flatMap emotionItem,
        [.markup "\n        </ul>\n        "]]

/-- The block of a character. -/
def characterBlock (c : CharacterRow) : List Fragment :=
  List.flatten
    [[.markup "\n    <div class=\"character\" id=\"character-", .value c.name,
        .markup "\">\n        <h3>", .value c.name, .markup "</h3>\n        "],
      emotionList c.emotions,
      [.markup "\n    </div>\n    "]]

/-- What follows the heading of the page. -/
def body (r : Report) : List (List Fragment) :=
  [statistics r, warning r,
    [.markup "    <h2>Scenes</h2>\n    "],
    r.scenes.flatMap sceneBlock,
    [.markup "\n\n    <h2>Characters</h2>\n    "],
    r.characters.flatMap characterBlock,
    [.markup "\n</body>\n</html>"]]

/-- The page of a report. -/
def ofReport (r : Report) : List Fragment :=
  List.flatten (head r :: body r)

end SceneScript.Page

namespace SceneScript

/-- The text of the page that reports on a story. -/
def Story.page (s : Story) (title : Option String := some Report.defaultTitle)
    (now : Timestamp) : String :=
  Html.render (Page.ofReport (Report.ofStory s title now))

/-- The page that reports on a story under a title that need not be text. -/
def Story.rawPage (s : Story) (title : RawText) (now : Timestamp) : RawText :=
  let start := Page.headAround RawText.ofString (title.rewrite Html.escapeChar)
  let rest := List.flatten (Page.body (Report.ofStory s none now))
  start.flatten ++ .ofString (Html.render rest)

end SceneScript
