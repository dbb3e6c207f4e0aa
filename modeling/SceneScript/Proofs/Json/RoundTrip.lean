import Mathlib.Tactic.SplitIfs
import SceneScript.Json.Printer
import SceneScript.Json.Reader
import SceneScript.Proofs.Text.Units

set_option autoImplicit false
set_option relaxedAutoImplicit false

/-!
# Printed JSON read back

Whatever value is printed, its text is ASCII, and the reader gives the value back: characters by
their escapes, lists and objects by their lines. The bound of the reader is no obstacle, since it is
never less than the length of the text. Main statements: `parse?_print` and `isAscii_print`.
-/

namespace SceneScript.Json

/-! Texts -/

theorem hexValue?_hexDigit : ∀ d < 16, hexValue? (Text.hexDigit d) = some d := by
  decide

theorem readUnits_hexDigits {n : Nat} (h : n < 0x10000) (rest : List Char) :
    readUnits ('\\' :: 'u' :: (Text.hexDigits 4 n ++ rest)) = pushUnits [n] (readUnits rest) := by
  have hnumber : ((n / 16 / 16 / 16 % 16 * 16 + n / 16 / 16 % 16) * 16 + n / 16 % 16) * 16 +
      n % 16 = n := by
    omega
  have hdigit : ∀ m, hexValue? (Text.hexDigit (m % 16)) = some (m % 16) := fun m =>
    hexValue?_hexDigit (m % 16) (Nat.mod_lt m (by decide))
  rw [Text.hexDigits_four]
  simp only [List.cons_append, List.nil_append, readUnits, hexUnit?, hdigit, hnumber]

/-- A character that is neither a quote, a backslash nor a control is read as itself. -/
theorem readUnits_plain {c : Char} (hquote : c ≠ '"') (hslash : c ≠ '\\') (hlow : 0x20 ≤ c.toNat)
    (rest : List Char) :
    readUnits (c :: rest) = pushUnits (Text.unitsOfChar c) (readUnits rest) := by
  rw [readUnits.eq_def]
  split
  · rename_i h
    cases h
  · rename_i h
    cases h
    exact absurd rfl hquote
  · rename_i h
    cases h
    exact absurd rfl hslash
  · rename_i h
    cases h
    exact absurd rfl hslash
  · rename_i h
    cases h
    rw [if_neg (by omega)]

theorem toNat_ofNat_of_lt {n : Nat} (h : n < 0x7f) : (Char.ofNat n).toNat = n := by
  have hall : ∀ m < 0x7f, (Char.ofNat m).toNat = m := by decide
  exact hall n h

theorem readUnits_ofNat {n : Nat} (hquote : n ≠ 0x22) (hslash : n ≠ 0x5c) (hlow : 0x20 ≤ n)
    (hhigh : n < 0x7f) (rest : List Char) :
    readUnits (Char.ofNat n :: rest) = pushUnits [n] (readUnits rest) := by
  have hnat := toNat_ofNat_of_lt hhigh
  have hunits : Text.unitsOfChar (Char.ofNat n) = [n] := by
    rw [Text.unitsOfChar, hnat, if_pos (by omega)]
  rw [← hunits]
  apply readUnits_plain
  · intro heq
    rw [heq] at hnat
    exact hquote hnat.symm
  · intro heq
    rw [heq] at hnat
    exact hslash hnat.symm
  · rwa [hnat]

/-- Each unit is read back from the way in which it is written. -/
theorem readUnits_writeUnit {n : Nat} (h : n < 0x10000) (rest : List Char) :
    readUnits (writeUnit n ++ rest) = pushUnits [n] (readUnits rest) := by
  unfold writeUnit
  split_ifs with hquote hslash hfeed hreturn htab hback hform hplain
  · rw [beq_iff_eq.mp hquote]
    rfl
  · rw [beq_iff_eq.mp hslash]
    rfl
  · rw [beq_iff_eq.mp hfeed]
    rfl
  · rw [beq_iff_eq.mp hreturn]
    rfl
  · rw [beq_iff_eq.mp htab]
    rfl
  · rw [beq_iff_eq.mp hback]
    rfl
  · rw [beq_iff_eq.mp hform]
    rfl
  · rw [Bool.and_eq_true, decide_eq_true_eq, decide_eq_true_eq] at hplain
    exact readUnits_ofNat (by simpa using hquote) (by simpa using hslash) hplain.1 hplain.2 rest
  · exact readUnits_hexDigits h rest

theorem readUnits_flatMap {us : List Nat} (h : ∀ n ∈ us, n < 0x10000) (rest : List Char) :
    readUnits (us.flatMap writeUnit ++ '"' :: rest) = some (us, rest) := by
  induction us with
  | nil => rfl
  | cons n us ih =>
    rw [List.flatMap_cons, List.append_assoc, readUnits_writeUnit (h n List.mem_cons_self),
      ih (fun m hm => h m (List.mem_cons_of_mem n hm))]
    rfl

theorem writeText_append (cs rest : List Char) :
    writeText cs ++ rest = '"' :: ((Text.units cs).flatMap writeUnit ++ '"' :: rest) := by
  simp [writeText]

theorem readText_units (s : String) (rest : List Char) :
    readText ((Text.units s.toList).flatMap writeUnit ++ '"' :: rest) = some (s, rest) := by
  rw [readText, readUnits_flatMap (fun n hn => Text.lt_of_mem_units hn)]
  simp only [Text.ofUnits?_units, Option.map_some, String.ofList_toList]

/-! Spaces -/

theorem skipSpace_newLine (depth : Nat) (cs : List Char) :
    skipSpace (newLine depth ++ cs) = skipSpace cs := by
  have hspace : ∀ c ∈ newLine depth, isSpace c = true := by
    intro c hc
    rcases List.mem_cons.mp hc with rfl | hc
    · rfl
    · rw [List.eq_of_mem_replicate hc]
      rfl
  rw [skipSpace, List.dropWhile_append_of_pos hspace, skipSpace]

theorem skipSpace_cons {c : Char} (h : isSpace c = false) (cs : List Char) :
    skipSpace (c :: cs) = c :: cs := by
  rw [skipSpace, List.dropWhile_cons_of_neg (by simp [h])]

/-- A value starts neither with a space nor with the bracket that ends a list. -/
theorem exists_write_eq_cons (v : Json) (depth : Nat) :
    ∃ c cs, v.write depth = c :: cs ∧ isSpace c = false ∧ c ≠ ']' := by
  cases v with
  | null => exact ⟨_, _, by rw [write], rfl, by decide⟩
  | bool b => cases b <;> exact ⟨_, _, by rw [write], rfl, by decide⟩
  | text s => exact ⟨_, _, by rw [write, writeText], rfl, by decide⟩
  | list items => cases items <;> exact ⟨_, _, by rw [write], rfl, by decide⟩
  | object fields =>
    rcases fields with _ | ⟨⟨key, value⟩, fields⟩ <;>
      exact ⟨_, _, by rw [write], rfl, by decide⟩

theorem readValue_newLine (bound depth : Nat) (cs : List Char) :
    readValue bound (newLine depth ++ cs) = readValue bound cs := by
  cases bound with
  | zero => rfl
  | succ bound => simp only [readValue, skipSpace_newLine]

theorem readValue_space (bound : Nat) (cs : List Char) :
    readValue bound (' ' :: cs) = readValue bound cs := by
  have hskip : skipSpace (' ' :: cs) = skipSpace cs := rfl
  cases bound with
  | zero => rfl
  | succ bound => simp only [readValue, hskip]

theorem readItems_newLine (bound depth : Nat) (cs : List Char) :
    readItems bound (newLine depth ++ cs) = readItems bound cs := by
  cases bound with
  | zero => rfl
  | succ bound => simp only [readItems, readValue_newLine]

theorem readFields_newLine (bound depth : Nat) (cs : List Char) :
    readFields bound (newLine depth ++ cs) = readFields bound cs := by
  cases bound with
  | zero => rfl
  | succ bound => simp only [readFields, skipSpace_newLine]

/-! Values

The reader and the printer are three functions each, one for values, one for items and one for
fields. The induction is on the bound, which each call of the reader lowers by one. -/

def ReadsValues (bound : Nat) : Prop :=
  ∀ (v : Json) (depth : Nat) (rest : List Char), (v.write depth).length ≤ bound →
    readValue bound (v.write depth ++ rest) = some (v, rest)

def ReadsItems (bound : Nat) : Prop :=
  ∀ (item : Json) (items : List Json) (depth below : Nat) (rest : List Char),
    (item.write depth).length + (writeItems items depth).length < bound →
      readItems bound
        (item.write depth ++ (writeItems items depth ++ (newLine below ++ ']' :: rest))) =
          some (item :: items, rest)

def ReadsFields (bound : Nat) : Prop :=
  ∀ (key : String) (value : Json) (fields : List (String × Json)) (depth below : Nat)
    (rest : List Char),
    (value.write depth).length + (writeFields fields depth).length < bound →
      readFields bound
        (writeText key.toList ++ (':' :: ' ' :: (value.write depth ++
          (writeFields fields depth ++ (newLine below ++ '\x7d' :: rest))))) =
          some ((key, value) :: fields, rest)

theorem ReadsItems.succ {bound : Nat} (hvalues : ReadsValues bound) (hitems : ReadsItems bound) :
    ReadsItems (bound + 1) := by
  intro item items depth below rest hlength
  simp only [readItems, hvalues item depth _ (show (item.write depth).length ≤ bound by omega)]
  cases items with
  | nil =>
    have hend : skipSpace (newLine below ++ ']' :: rest) = ']' :: rest := by
      rw [skipSpace_newLine, skipSpace_cons rfl]
    simp only [writeItems, List.nil_append, hend]
  | cons next items =>
    simp only [writeItems, List.length_cons, List.length_append] at hlength
    have hnext := hitems next items depth below rest (by omega)
    simp only [writeItems, List.cons_append, List.append_assoc, skipSpace_cons (c := ',') rfl,
      readItems_newLine, hnext, Option.map_some]

theorem ReadsFields.succ {bound : Nat} (hvalues : ReadsValues bound)
    (hfields : ReadsFields bound) : ReadsFields (bound + 1) := by
  intro key value fields depth below rest hlength
  simp only [readFields, writeText_append, skipSpace_cons (c := '"') rfl, readText_units,
    skipSpace_cons (c := ':') rfl, readValue_space,
    hvalues value depth _ (show (value.write depth).length ≤ bound by omega)]
  cases fields with
  | nil =>
    have hend : skipSpace (newLine below ++ '\x7d' :: rest) = '\x7d' :: rest := by
      rw [skipSpace_newLine, skipSpace_cons rfl]
    simp only [writeFields, List.nil_append, hend]
  | cons next fields =>
    obtain ⟨nextKey, nextValue⟩ := next
    simp only [writeFields, List.length_cons, List.length_append] at hlength
    have hnext := hfields nextKey nextValue fields depth below rest (by omega)
    simp only [writeFields, List.cons_append, List.nil_append, List.append_assoc,
      skipSpace_cons (c := ',') rfl, readFields_newLine, hnext, Option.map_some]

theorem ReadsValues.succ {bound : Nat} (hitems : ReadsItems bound) (hfields : ReadsFields bound) :
    ReadsValues (bound + 1) := by
  intro v depth rest hlength
  cases v with
  | null =>
    rw [write]
    rfl
  | bool b =>
    cases b <;> rw [write] <;> rfl
  | text s =>
    simp only [write, writeText_append, readValue, skipSpace_cons (c := '"') rfl, readText_units,
      Option.map_some]
  | list items =>
    cases items with
    | nil =>
      rw [write]
      rfl
    | cons item items =>
      simp only [write, List.length_cons, List.length_append] at hlength
      obtain ⟨c, cs, hwrite, hspace, hbracket⟩ := exists_write_eq_cons item (depth + 1)
      have hitem := hitems item items (depth + 1) depth rest (by omega)
      have hskip : ∀ more, skipSpace (item.write (depth + 1) ++ more) = c :: (cs ++ more) := by
        intro more
        rw [hwrite, List.cons_append, skipSpace_cons hspace]
      simp only [write, List.cons_append, List.append_assoc, List.nil_append, readValue,
        skipSpace_cons (c := '[') rfl, skipSpace_newLine, hskip, readItems_newLine, hitem]
      -- an item that started with the bracket would be taken for the end of an empty list
      split
      · rename_i heq
        cases heq
        exact absurd rfl hbracket
      · rfl
  | object fields =>
    rcases fields with _ | ⟨⟨key, value⟩, fields⟩
    · rw [write]
      rfl
    · simp only [write, List.length_cons, List.length_append] at hlength
      have hfield := hfields key value fields (depth + 1) depth rest (by omega)
      simp only [writeText_append] at hfield
      simp only [write, List.cons_append, List.append_assoc, List.nil_append, readValue,
        skipSpace_cons (c := '\x7b') rfl, skipSpace_newLine, writeText_append,
        skipSpace_cons (c := '"') rfl, readFields_newLine, hfield, Option.map_some]
      rfl

theorem reads (bound : Nat) : ReadsValues bound ∧ ReadsItems bound ∧ ReadsFields bound := by
  induction bound with
  | zero =>
    refine ⟨?_, ?_, ?_⟩
    · intro v depth rest hlength
      obtain ⟨c, cs, hwrite, -⟩ := exists_write_eq_cons v depth
      rw [hwrite, List.length_cons] at hlength
      omega
    · intro item items depth below rest hlength
      omega
    · intro key value fields depth below rest hlength
      omega
  | succ bound ih =>
    obtain ⟨hvalues, hitems, hfields⟩ := ih
    exact ⟨.succ hitems hfields, .succ hvalues hitems, .succ hvalues hfields⟩

/-- The text of a value is read as the value. -/
theorem parse?_print (v : Json) : parse? v.print = some v := by
  have hlength : (v.write 0).length ≤ 2 * v.print.length + 1 := by
    rw [print, String.length_ofList]
    omega
  have hread := (reads _).1 v 0 [] hlength
  rw [List.append_nil] at hread
  rw [parse?, print, String.toList_ofList]
  rw [print] at hread
  rw [hread]
  rfl

/-! ASCII -/

def IsAscii (cs : List Char) : Prop :=
  ∀ c ∈ cs, c.toNat < 0x80

namespace IsAscii

variable {c : Char} {cs ds : List Char}

theorem nil : IsAscii [] := by
  intro c hc
  cases hc

theorem cons (hc : c.toNat < 0x80) (hcs : IsAscii cs) : IsAscii (c :: cs) :=
  List.forall_mem_cons.mpr ⟨hc, hcs⟩

theorem append (hcs : IsAscii cs) (hds : IsAscii ds) : IsAscii (cs ++ ds) :=
  List.forall_mem_append.mpr ⟨hcs, hds⟩

end IsAscii

theorem isAscii_hexDigits (width n : Nat) : IsAscii (Text.hexDigits width n) := by
  have hdigit : ∀ d < 16, (Text.hexDigit d).toNat < 0x80 := by decide
  intro c hc
  obtain ⟨d, hd, rfl⟩ := Text.mem_hexDigits hc
  exact hdigit d hd

theorem isAscii_writeUnit (n : Nat) : IsAscii (writeUnit n) := by
  have hshort : ∀ c : Char, c.toNat < 0x80 → IsAscii ['\\', c] := fun c hc =>
    .cons (by decide) (.cons hc .nil)
  unfold writeUnit
  split_ifs with hquote hslash hfeed hreturn htab hback hform hplain
  · exact hshort _ (by decide)
  · exact hshort _ (by decide)
  · exact hshort _ (by decide)
  · exact hshort _ (by decide)
  · exact hshort _ (by decide)
  · exact hshort _ (by decide)
  · exact hshort _ (by decide)
  · rw [Bool.and_eq_true, decide_eq_true_eq, decide_eq_true_eq] at hplain
    refine .cons ?_ .nil
    rw [toNat_ofNat_of_lt hplain.2]
    omega
  · exact .cons (by decide) (.cons (by decide) (isAscii_hexDigits 4 n))

theorem isAscii_writeText (cs : List Char) : IsAscii (writeText cs) := by
  have hunits : IsAscii ((Text.units cs).flatMap writeUnit) := by
    intro c hc
    obtain ⟨n, -, hn⟩ := List.mem_flatMap.mp hc
    exact isAscii_writeUnit n c hn
  exact .cons (by decide) (hunits.append (.cons (by decide) .nil))

theorem isAscii_newLine (depth : Nat) : IsAscii (newLine depth) := by
  refine .cons (by decide) ?_
  intro c hc
  rw [List.eq_of_mem_replicate hc]
  decide

mutual

theorem isAscii_write : (v : Json) -> (depth : Nat) -> IsAscii (v.write depth)
  | .null, depth => by
    rw [write]
    simp [IsAscii]
  | .bool true, depth => by
    rw [write]
    simp [IsAscii]
  | .bool false, depth => by
    rw [write]
    simp [IsAscii]
  | .text s, depth => by
    rw [write]
    exact isAscii_writeText s.toList
  | .list [], depth => by
    rw [write]
    simp [IsAscii]
  | .list (item :: items), depth => by
    have hitem := isAscii_write item (depth + 1)
    have hitems := isAscii_writeItems items (depth + 1)
    rw [write]
    exact .cons (by decide) <| ((((isAscii_newLine _).append hitem).append hitems).append
      (isAscii_newLine depth)).append (.cons (by decide) .nil)
  | .object [], depth => by
    rw [write]
    simp [IsAscii]
  | .object ((key, value) :: fields), depth => by
    have hvalue := isAscii_write value (depth + 1)
    have hfields := isAscii_writeFields fields (depth + 1)
    rw [write]
    exact .cons (by decide) <| ((((((isAscii_newLine _).append (isAscii_writeText _)).append
      (.cons (by decide) (.cons (by decide) .nil))).append hvalue).append hfields).append
      (isAscii_newLine depth)).append (.cons (by decide) .nil)

theorem isAscii_writeItems : (items : List Json) -> (depth : Nat) ->
    IsAscii (writeItems items depth)
  | [], depth => by
    rw [writeItems]
    exact .nil
  | item :: items, depth => by
    have hitem := isAscii_write item depth
    have hitems := isAscii_writeItems items depth
    rw [writeItems]
    exact .cons (by decide) <| ((isAscii_newLine depth).append hitem).append hitems

theorem isAscii_writeFields : (fields : List (String × Json)) -> (depth : Nat) ->
    IsAscii (writeFields fields depth)
  | [], depth => by
    rw [writeFields]
    exact .nil
  | (key, value) :: fields, depth => by
    have hvalue := isAscii_write value depth
    have hfields := isAscii_writeFields fields depth
    rw [writeFields]
    exact .cons (by decide) <| ((((isAscii_newLine depth).append (isAscii_writeText _)).append
      (.cons (by decide) (.cons (by decide) .nil))).append hvalue).append hfields

end

theorem isAscii_print (v : Json) : IsAscii v.print.toList := by
  rw [print, String.toList_ofList]
  exact isAscii_write v 0

end SceneScript.Json
