import SceneScript.Entries

set_option autoImplicit false
set_option relaxedAutoImplicit false

/-!
# Emotion tables

A character's emotions: a table from emotion names to the paths of their pictures, in the order in
which the names were first given. No name has two entries. Main statements: `names_insert` says
which names a table has after an entry is inserted, and in which order, and `get?_insert` says which
paths.
-/

namespace SceneScript

/-- A table from emotion names to paths, in order of first mention. -/
structure EmotionTable where
  entries : List (String × String)
  nodup : (entries.map Prod.fst).Nodup
  deriving DecidableEq, Repr

namespace EmotionTable

/-- The table without entries. -/
def empty : EmotionTable := ⟨[], List.nodup_nil⟩

instance : EmptyCollection EmotionTable := ⟨empty⟩

instance : Inhabited EmotionTable := ⟨empty⟩

/-- The emotion names of a table, in order. -/
def names (t : EmotionTable) : List String :=
  t.entries.map Prod.fst

/-- The path of a name. -/
def get? (t : EmotionTable) (name : String) : Option String :=
  t.entries.lookup name

/-- Gives a name a path. A name that is listed already keeps its place. -/
def insert (t : EmotionTable) (name path : String) : EmotionTable :=
  ⟨insertEntry name path t.entries, nodup_keys_insertEntry name path t.nodup⟩

/-- Inserting an entry adds its name at the end if it is new, and else keeps all names. -/
theorem names_insert (t : EmotionTable) (name path : String) :
    (t.insert name path).names = if name ∈ t.names then t.names else t.names ++ [name] :=
  keys_insertEntry name path t.entries

/-- After an entry is inserted, its name has its path and every other name the one it had. -/
theorem get?_insert (t : EmotionTable) (name path other : String) :
    (t.insert name path).get? other = if other = name then some path else t.get? other :=
  lookup_insertEntry name other path t.entries

/-- Inserts entries one after another. -/
def insertMany (t : EmotionTable) (entries : List (String × String)) : EmotionTable :=
  entries.foldl (fun table entry => table.insert entry.1 entry.2) t

/-- The table that a list of entries builds; of two entries for a name the later path stays. -/
def ofList (entries : List (String × String)) : EmotionTable :=
  empty.insertMany entries

end EmotionTable

end SceneScript
