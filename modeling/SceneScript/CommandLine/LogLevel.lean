import SceneScript.Script.Log
import SceneScript.Text.Raw

set_option autoImplicit false
set_option relaxedAutoImplicit false

/-!
# Log levels

Events have a level, and a log shows those at or above its own threshold.
-/

namespace SceneScript.CommandLine

/-- The thresholds that a log may have, by name. Some have two names. -/
def thresholds : List (String × Nat) :=
  [("CRITICAL", 50), ("FATAL", 50), ("ERROR", 40), ("WARN", 30), ("WARNING", 30), ("INFO", 20),
    ("DEBUG", 10), ("NOTSET", 0)]

/-- The threshold of a name. -/
def threshold? (name : RawText) : Option Nat :=
  (thresholds.find? (fun entry => name == .ofString entry.1)).map Prod.snd

/-- The level of an event, by name and number. -/
def eventLevel : Event -> String × Nat
  | .parsed _ _ => ("INFO", 20)
  | _ => ("DEBUG", 10)

/-- The line of an event in the log of a logger. -/
def logLine (logger : String) (e : Event) : String :=
  (eventLevel e).1 ++ " " ++ logger ++ ": " ++ e.message ++ "\n"

/-- The log of some events at a threshold. -/
def logText (logger : String) (threshold : Nat) (events : List Event) : String :=
  String.join
    ((events.filter (fun e => threshold <= (eventLevel e).2)).map (logLine logger))

end SceneScript.CommandLine
