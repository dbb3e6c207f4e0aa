set_option autoImplicit false
set_option relaxedAutoImplicit false

/-!
# Timestamps

The moment at which a report is made, and how it is written.
-/

namespace SceneScript

/-- A date and a time of day. -/
structure Timestamp where
  year : Nat
  month : Nat
  day : Nat
  hour : Nat
  minute : Nat
  second : Nat
  deriving DecidableEq, Repr, Inhabited

/-- A number with a leading zero if it has one digit. -/
def twoDigits (n : Nat) : String :=
  if n < 10 then "0" ++ toString n else toString n

/-- The date, year first and joined by hyphens, and the time, joined by colons. -/
def Timestamp.text (t : Timestamp) : String :=
  toString t.year ++ "-" ++ twoDigits t.month ++ "-" ++ twoDigits t.day ++ " " ++
    twoDigits t.hour ++ ":" ++ twoDigits t.minute ++ ":" ++ twoDigits t.second

end SceneScript
