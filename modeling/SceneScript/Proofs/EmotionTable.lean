import Mathlib.Data.List.Induction
import Mathlib.Data.List.Nodup
import SceneScript.EmotionTable

set_option autoImplicit false
set_option relaxedAutoImplicit false

/-!
# Emotion tables made from lists

The table that a list of entries builds: `names_ofList` says which names it has and in which order,
`get?_ofList` which paths, and `ofList_entries` that a table is built from its own entries. Lists in
which each name by itself has the same entries build tables that have the same ones: `perm_ofList`.
-/

namespace SceneScript

namespace EmotionTable

theorem ofList_concat (entries : List (String × String)) (e : String × String) :
    ofList (entries ++ [e]) = (ofList entries).insert e.1 e.2 := by
  simp [ofList, insertMany]

/-- The names of a table stand in the order of their first entries. -/
theorem names_ofList (entries : List (String × String)) :
    (ofList entries).names = (entries.map Prod.fst).eraseDups := by
  induction entries using List.reverseRecOn with
  | nil => rfl
  | append_singleton entries e ih =>
    have hmem : e.1 ∈ (ofList entries).names ↔ e.1 ∈ entries.map Prod.fst := by
      rw [ih, List.mem_eraseDups]
    rw [ofList_concat, names_insert, List.map_append, List.eraseDups_append, ← ih]
    by_cases h : e.1 ∈ entries.map Prod.fst
    · have hrest : [e.1].removeAll (entries.map Prod.fst) = [] := by
        simp [List.removeAll, h]
      rw [if_pos (hmem.mpr h), List.map_singleton, hrest, List.eraseDups_nil, List.append_nil]
    · have hrest : [e.1].removeAll (entries.map Prod.fst) = [e.1] := by
        simp [List.removeAll, h]
      rw [if_neg (fun hc => h (hmem.mp hc)), List.map_singleton, hrest]
      rfl

/-- The path of a name is that of its last entry. -/
theorem get?_ofList (entries : List (String × String)) (name : String) :
    (ofList entries).get? name = entries.reverse.lookup name := by
  induction entries using List.reverseRecOn with
  | nil => rfl
  | append_singleton entries e ih =>
    rw [ofList_concat, get?_insert, ih, List.reverse_concat, lookup_entry_cons]

/-- A table is the one that its entries build, since no name has two of them. -/
theorem ofList_entries (t : EmotionTable) : ofList t.entries = t := by
  have hbuilt : ∀ entries : List (String × String), (entries.map Prod.fst).Nodup →
      (ofList entries).entries = entries := by
    intro entries
    induction entries using List.reverseRecOn with
    | nil =>
      intro _
      rfl
    | append_singleton entries e ih =>
      intro hnodup
      rw [List.map_append, List.nodup_append] at hnodup
      obtain ⟨hfront, -, hapart⟩ := hnodup
      have hnew : e.1 ∉ entries.map Prod.fst := fun hmem => hapart e.1 hmem e.1 (by simp) rfl
      rw [ofList_concat]
      show insertEntry e.1 e.2 (ofList entries).entries = entries ++ [e]
      rw [ih hfront, insertEntry_of_not_mem hnew]
  cases t with
  | mk entries nodup =>
    have hentries := hbuilt entries nodup
    cases hofList : ofList entries with
    | mk built hbuiltNodup =>
      rw [hofList] at hentries
      obtain rfl : built = entries := hentries
      rfl

/-- The entries of a table are what its look-up tells. -/
theorem mem_entries_iff (t : EmotionTable) (e : String × String) :
    e ∈ t.entries ↔ t.get? e.1 = some e.2 := by
  rw [get?, List.lookup_eq_some_iff]
  constructor
  · intro hmem
    obtain ⟨above, below, hsplit⟩ := List.append_of_mem hmem
    refine ⟨above, below, hsplit, fun p hp => bne_iff_ne.mpr (fun hkey => ?_)⟩
    have hnodup := t.nodup
    rw [hsplit, List.map_append, List.nodup_append] at hnodup
    exact hnodup.2.2 p.1 (List.mem_map_of_mem hp) e.1 (by simp) hkey.symm
  · rintro ⟨above, below, hsplit, -⟩
    rw [hsplit]
    exact List.mem_append_right _ List.mem_cons_self

/-- Tables in which every name has the same path differ in the order of their entries only. -/
theorem perm_of_get?_eq {t u : EmotionTable} (h : ∀ name, t.get? name = u.get? name) :
    t.entries.Perm u.entries := by
  have ht : t.entries.Nodup := List.Nodup.of_map Prod.fst t.nodup
  have hu : u.entries.Nodup := List.Nodup.of_map Prod.fst u.nodup
  rw [List.perm_ext_iff_of_nodup ht hu]
  intro e
  rw [mem_entries_iff, mem_entries_iff, h]

/-- The path of a name depends on the entries with this name alone. -/
theorem lookup_filter (name : String) (entries : List (String × String)) :
    (entries.filter (fun e => e.1 == name)).lookup name = entries.lookup name := by
  induction entries with
  | nil => rfl
  | cons e rest ih =>
    by_cases h : e.1 = name
    · rw [List.filter_cons_of_pos (by simpa using h), lookup_entry_cons, lookup_entry_cons,
        if_pos h.symm, if_pos h.symm]
    · rw [List.filter_cons_of_neg (by simpa using h), ih, lookup_entry_cons,
        if_neg (fun hname => h hname.symm)]

/-- Lists that give each name the same entries, in the same order, build tables that differ in the
order of their entries only. -/
theorem perm_ofList {entries others : List (String × String)}
    (h : ∀ name, entries.filter (fun e => e.1 == name) = others.filter (fun e => e.1 == name)) :
    (ofList entries).entries.Perm (ofList others).entries := by
  apply perm_of_get?_eq
  intro name
  rw [get?_ofList, get?_ofList, ← lookup_filter name entries.reverse,
    ← lookup_filter name others.reverse, List.filter_reverse, List.filter_reverse, h]

end EmotionTable

end SceneScript
