import SceneScript.Proofs.Script.Reading
import SceneScript.Proofs.Text.Spelling

set_option autoImplicit false
set_option relaxedAutoImplicit false

/-!
# How a keyword stands on a line

A line is the statement of a keyword exactly if the keyword, in small or capital letters of ASCII,
follows four spaces for each of its levels. No line is the statement of two keywords, so the order
in which they are tried does not matter. Main statement: `ofLine?_by_spelling`.
-/

namespace SceneScript

/-- The blanks that a line starts with are four spaces for each level of a keyword, and the keyword
follows them, each of its letters small or capital. -/
def Keyword.SpelledOn (k : Keyword) (line : String) : Prop :=
  leadingBlanks line = List.replicate (4 * k.level.toNat) ' ' ∧
    ∃ spelling rest, line.toList.dropWhile Text.isBlank = spelling ++ rest ∧
      Text.Spells k.text.toList spelling

/-! Keywords -/

/-- The only element that satisfies a test is found wherever it is listed. -/
theorem find?_eq_some_of_unique {α : Type} {p : α -> Bool} {xs : List α} {a : α} (hmem : a ∈ xs)
    (ha : p a = true) (hunique : ∀ b, p b = true → b = a) : xs.find? p = some a := by
  obtain ⟨b, hb⟩ : ∃ b, xs.find? p = some b := by
    rw [← Option.isSome_iff_exists, List.find?_isSome]
    exact ⟨a, hmem, ha⟩
  rw [hb, hunique b (List.find?_some hb)]

namespace Keyword

variable {k l : Keyword} {line : String}

theorem level_nonneg (k : Keyword) : 0 ≤ k.level := by
  cases k <;> decide

theorem isKeyText_text (k : Keyword) : Text.IsKeyText k.text.toList := by
  cases k <;> decide

/-- No blank ends a keyword, so a keyword on a line is not cut short when the line is trimmed. -/
theorem exists_text_eq_append (k : Keyword) :
    ∃ front last, k.text.toList = front ++ [last] ∧ Text.isBlank last = false ∧
      Text.isBlank last.toUpper = false := by
  cases k <;> exact ⟨_, _, (List.dropLast_append_getLast (by decide)).symm, by decide⟩

theorem starts_iff :
    k.starts line = true ↔ ∃ spelling rest,
      line.toList.dropWhile Text.isBlank = spelling ++ rest ∧
        Text.Spells k.text.toList spelling := by
  rw [starts, Text.isPrefixOf_lower_iff k.isKeyText_text, Text.trim]
  generalize line.toList.dropWhile Text.isBlank = cs
  constructor
  · rintro ⟨spelling, rest, htrimmed, hspells⟩
    obtain ⟨dropped, hcs⟩ := List.rdropWhile_prefix Text.isBlank cs
    rw [← Text.dropEndWhile_eq_rdropWhile, htrimmed, List.append_assoc] at hcs
    exact ⟨spelling, rest ++ dropped, hcs.symm, hspells⟩
  · rintro ⟨spelling, rest, rfl, hspells⟩
    obtain ⟨front, last, htext, hsmall, hcapital⟩ := k.exists_text_eq_append
    obtain ⟨above, c, rfl, hc⟩ := Text.Spells.exists_last (htext ▸ hspells)
    have hsolid : Text.isBlank c = false := by
      rcases hc with rfl | rfl
      · exact hsmall
      · exact hcapital
    refine ⟨above ++ [c], Text.dropEndWhile Text.isBlank rest, ?_, hspells⟩
    rw [List.append_assoc, List.append_assoc, List.singleton_append, List.singleton_append,
      Text.dropEndWhile_append above hsolid]

/-- A line starts with a keyword or not, whichever form a sigma at the end of a word takes in small
letters. -/
theorem starts_of_sameButFinalSigma {small : List Char}
    (h : Text.SameButFinalSigma (Text.lower (Text.trim line.toList)) small) :
    k.starts line = k.text.toList.isPrefixOf small :=
  (h.isPrefixOf (fun w hw => (k.isKeyText_text.1 w hw).1)).symm

theorem opens_iff : k.opens line = true ↔ k.SpelledOn line := by
  rw [opens, opensAt, Bool.and_eq_true, starts_iff, isIndentedTo_iff, SpelledOn, and_comm]
  have hlevel : ∀ n : Nat, k.level = n ↔ n = k.level.toNat := by
    intro n
    have hnonneg := k.level_nonneg
    omega
  simp only [hlevel, exists_eq_left]

/-- The small form of the first character after the blanks is the first letter of the keyword. -/
theorem SpelledOn.head? (h : k.SpelledOn line) :
    (line.toList.dropWhile Text.isBlank).head?.map Char.toLower = k.text.toList.head? := by
  obtain ⟨-, spelling, rest, hline, hspells⟩ := h
  obtain ⟨w, word, hword⟩ : ∃ w word, k.text.toList = w :: word := by
    cases k <;> exact ⟨_, _, rfl⟩
  have hkey := k.isKeyText_text.1 w (by rw [hword]; exact List.mem_cons_self)
  rw [hword] at hspells
  obtain ⟨c, spelling, hc, -, rfl⟩ := List.forall₂_cons_left_iff.mp hspells
  rw [hline, hword]
  exact congrArg some ((Text.toLower_eq_iff hkey.2.1).mpr hc)

/-- Keywords of one level differ in their first letters. -/
theorem eq_of_head?_eq (hlevel : k.level.toNat = l.level.toNat)
    (hhead : k.text.toList.head? = l.text.toList.head?) : k = l := by
  revert hlevel hhead
  cases k <;> cases l <;> decide

theorem SpelledOn.unique (hk : k.SpelledOn line) (hl : l.SpelledOn line) : k = l := by
  apply eq_of_head?_eq
  · have hlength := congrArg List.length (hk.1.symm.trans hl.1)
    rw [List.length_replicate, List.length_replicate] at hlength
    omega
  · rw [← hk.head?, ← hl.head?]

theorem eq_of_opens (hk : k.opens line = true) (hl : l.opens line = true) : k = l :=
  (opens_iff.mp hk).unique (opens_iff.mp hl)

/-- The keyword that opens a line is found in any list that has it. -/
theorem find?_opens {order : List Keyword} (hmem : k ∈ order) (hk : k.opens line = true) :
    order.find? (fun l => l.opens line) = some k :=
  find?_eq_some_of_unique hmem hk (fun _ hl => eq_of_opens hl hk)

theorem mem_all (k : Keyword) : k ∈ all := by
  cases k <;> decide

theorem ofLine?_eq_some_iff : ofLine? line = some k ↔ k.SpelledOn line := by
  rw [ofLine?, ← opens_iff]
  constructor
  · intro h
    exact List.find?_some (p := fun l : Keyword => l.opens line) h
  · exact find?_opens k.mem_all

/-- The characters of a spelling are the ones after the spaces. -/
theorem SpelledOn.take (h : k.SpelledOn line) :
    ∃ spelling, Text.Spells k.text.toList spelling ∧
      line.toList.take (4 * k.level.toNat + k.text.length) =
        List.replicate (4 * k.level.toNat) ' ' ++ spelling := by
  obtain ⟨hblanks, spelling, rest, hline, hspells⟩ := h
  refine ⟨spelling, hspells, ?_⟩
  have hlength : k.text.length = spelling.length := hspells.length_eq
  have htext : line.toList = List.replicate (4 * k.level.toNat) ' ' ++ (spelling ++ rest) := by
    rw [← hline, ← hblanks, leadingBlanks, List.takeWhile_append_dropWhile]
  rw [htext, hlength, List.take_append, List.take_append]
  simp

end Keyword

/-- The statement on a line is that of the keyword which is spelled on it, if there is one: no line
has two, so any order of trying them finds it, and no character beyond ASCII takes part in it. -/
theorem ofLine?_by_spelling (line : String) :
    (∀ k : Keyword, Keyword.ofLine? line = some k ↔ k.SpelledOn line) ∧
    (Keyword.ofLine? line = none ↔ ∀ k : Keyword, ¬ k.SpelledOn line) ∧
    (∀ k l : Keyword, k.opens line = true → l.opens line = true → k = l) ∧
    (∀ order : List Keyword, order.Perm Keyword.all →
      order.find? (fun k => k.opens line) = Keyword.ofLine? line) ∧
    ∀ k : Keyword, k.opens line = true →
      ∀ c ∈ line.toList.take (4 * k.level.toNat + k.text.length), c.toNat < 0x80 := by
  refine ⟨fun k => Keyword.ofLine?_eq_some_iff, ?_, fun k l => Keyword.eq_of_opens, ?_, ?_⟩
  · rw [← Option.not_isSome_iff_eq_none, Option.isSome_iff_exists, not_exists]
    exact forall_congr' (fun k => not_congr Keyword.ofLine?_eq_some_iff)
  · intro order hperm
    cases hline : Keyword.ofLine? line with
    | none =>
      rw [Keyword.ofLine?, List.find?_eq_none] at hline
      rw [List.find?_eq_none]
      exact fun k hk => hline k (hperm.mem_iff.mp hk)
    | some k =>
      have hopens := Keyword.opens_iff.mpr (Keyword.ofLine?_eq_some_iff.mp hline)
      exact Keyword.find?_opens (hperm.mem_iff.mpr k.mem_all) hopens
  · intro k hk c hc
    obtain ⟨spelling, hspells, htake⟩ := (Keyword.opens_iff.mp hk).take
    rw [htake, List.mem_append] at hc
    rcases hc with hspace | hletter
    · rw [(List.mem_replicate.mp hspace).2]
      decide
    · exact hspells.lt (fun w hw => (k.isKeyText_text.1 w hw).1) c hletter

/-- Capitals of ASCII spell a keyword, and the dotted capital I does not, although in small letters
it starts with `i`. -/
theorem ofLine?_of_capitals :
    Keyword.emotion.SpelledOn "    EMOTion sad: s.png" ∧
      (∀ c ∈ "    EMOTion sad: s.png".toList.take 11, c.toNat < 0x80) ∧
      Keyword.all.reverse.find? (fun k => k.opens "    EMOTion sad: s.png") = some .emotion ∧
      ∀ k : Keyword, ¬ k.SpelledOn "    emotİon sad: s.png" := by
  obtain ⟨hsome, -, -, horder, hascii⟩ := ofLine?_by_spelling "    EMOTion sad: s.png"
  obtain ⟨-, hnone, -⟩ := ofLine?_by_spelling "    emotİon sad: s.png"
  have hline : Keyword.ofLine? "    EMOTion sad: s.png" = some .emotion := by decide +kernel
  have hother : Keyword.ofLine? "    emotİon sad: s.png" = none := by decide +kernel
  refine ⟨(hsome .emotion).mp hline, hascii .emotion (by decide +kernel), ?_, hnone.mp hother⟩
  rw [horder _ (List.reverse_perm _), hline]

end SceneScript
