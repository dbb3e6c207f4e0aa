set_option autoImplicit false
set_option relaxedAutoImplicit false

/-!
# JSON values

The values that a story is exchanged in. An object keeps its fields in order.
-/

namespace SceneScript

/-- A JSON value without numbers, which no story needs. -/
inductive Json
  | null
  | bool (value : Bool)
  | text (value : String)
  | list (items : List Json)
  | object (fields : List (String × Json))
  deriving Repr, Inhabited

end SceneScript
