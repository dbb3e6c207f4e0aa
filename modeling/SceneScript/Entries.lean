set_option autoImplicit false
set_option relaxedAutoImplicit false

/-!
# Lists of entries

A list of keys with their values in which a key keeps the place that it was first given. Main
statements: `keys_insertEntry` says which keys a list has after an entry is inserted, and in which
order, and `lookup_insertEntry` says which values.
-/

namespace SceneScript

variable {κ α : Type} [DecidableEq κ]

/-- Inserts an entry: in place where the key is listed, else at the end. -/
def insertEntry (key : κ) (value : α) : List (κ × α) -> List (κ × α)
  | [] => [(key, value)]
  | (k, v) :: rest =>
    if k = key then (k, value) :: rest else (k, v) :: insertEntry key value rest

/-- Inserting an entry adds its key at the end if it is new, and else changes no key. -/
theorem keys_insertEntry (key : κ) (value : α) (entries : List (κ × α)) :
    (insertEntry key value entries).map Prod.fst =
      if key ∈ entries.map Prod.fst then entries.map Prod.fst
      else entries.map Prod.fst ++ [key] := by
  induction entries with
  | nil => simp [insertEntry]
  | cons entry rest ih =>
    obtain ⟨k, v⟩ := entry
    by_cases h : k = key
    · simp [insertEntry, h]
    · have hne : ¬ key = k := fun e => h e.symm
      simp only [insertEntry, h, if_false, List.map_cons, ih, List.mem_cons, hne, false_or]
      split <;> simp

/-- Inserting an entry repeats no key. -/
theorem nodup_keys_insertEntry (key : κ) (value : α) {entries : List (κ × α)}
    (h : (entries.map Prod.fst).Nodup) : ((insertEntry key value entries).map Prod.fst).Nodup := by
  rw [keys_insertEntry]
  split
  · exact h
  · rename_i hnew
    rw [List.nodup_append]
    refine ⟨h, by simp, ?_⟩
    intro a ha b hb hab
    rw [List.mem_singleton] at hb
    exact hnew (hb ▸ hab ▸ ha)

/-- An entry of a list after an insertion is the inserted one or was there before. -/
theorem mem_insertEntry {key : κ} {value : α} {entries : List (κ × α)} {e : κ × α}
    (h : e ∈ insertEntry key value entries) : e = (key, value) ∨ e ∈ entries := by
  induction entries with
  | nil => exact .inl (List.mem_singleton.mp h)
  | cons entry rest ih =>
    obtain ⟨k, v⟩ := entry
    rw [insertEntry] at h
    split at h
    · rename_i hk
      rcases List.mem_cons.mp h with rfl | hrest
      · exact .inl (by rw [hk])
      · exact .inr (List.mem_cons_of_mem _ hrest)
    · rcases List.mem_cons.mp h with rfl | hrest
      · exact .inr List.mem_cons_self
      · exact (ih hrest).imp_right (List.mem_cons_of_mem _)

/-- An entry with a new key comes last. -/
theorem insertEntry_of_not_mem {key : κ} {value : α} {entries : List (κ × α)}
    (h : key ∉ entries.map Prod.fst) : insertEntry key value entries = entries ++ [(key, value)] := by
  induction entries with
  | nil => rfl
  | cons entry rest ih =>
    obtain ⟨k, v⟩ := entry
    rw [List.map_cons, List.mem_cons, not_or] at h
    rw [insertEntry, if_neg (fun hk => h.1 hk.symm), ih h.2, List.cons_append]

/-- A look-up finds the first entry or goes on. -/
theorem lookup_entry_cons [BEq κ] [LawfulBEq κ] (k l : κ) (v : α) (rest : List (κ × α)) :
    ((l, v) :: rest).lookup k = if k = l then some v else rest.lookup k := by
  rw [List.lookup_cons]
  by_cases h : k = l
  · simp [h]
  · rw [if_neg h, beq_eq_false_iff_ne.mpr h]

/-- After an entry is inserted, its key has its value and every other key the one it had. -/
theorem lookup_insertEntry [BEq κ] [LawfulBEq κ] (key k : κ) (value : α)
    (entries : List (κ × α)) :
    (insertEntry key value entries).lookup k =
      if k = key then some value else entries.lookup k := by
  induction entries with
  | nil => rw [insertEntry, lookup_entry_cons]
  | cons entry rest ih =>
    obtain ⟨l, v⟩ := entry
    rw [insertEntry]
    by_cases hl : l = key
    · subst hl
      rw [if_pos rfl, lookup_entry_cons, lookup_entry_cons]
      by_cases h : k = l <;> simp [h]
    · rw [if_neg hl, lookup_entry_cons, lookup_entry_cons, ih]
      by_cases h : k = l
      · subst h
        rw [if_pos rfl, if_neg hl, if_pos rfl]
      · rw [if_neg h, if_neg h]

end SceneScript
