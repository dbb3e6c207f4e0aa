import SceneScript.Proofs.Script.Characters
import SceneScript.Proofs.Script.Offence

set_option autoImplicit false
set_option relaxedAutoImplicit false

/-!
# One script below another

Two scripts that each have a story have one together, which `Story.followedBy` makes from the two.
The lines of the second script find a scene and a character open that are not theirs, but none of
them reaches these: its choices and emotions all stand below declarations of their own. So the
sections of both are those of the first and those of the second, and what is left is where their
scenes meet. Main statement: `parse_append`.
-/

namespace SceneScript

/-- The scene at place `i` when some scenes have others below them. The last one above goes on with
the first one below unless it has a next scene. The previous scene is the first one above with a
choice that leads here, or else the first such one below, or else the neighbour: for the first one
below this is the last one above. All else stays. -/
def joinScene (above below : List Scene) (i : Nat) (s : Scene) : Scene :=
  { s with
    next := s.next.or (if i + 1 = above.length then below.head?.map Scene.label else none)
    previous :=
      ((parent? above s.label).or (parent? below s.label)).or
        ((if i = above.length then above.getLast?.map Scene.label else none).or s.previous) }

/-- The story of two scripts, one below the other, made from the story of each. -/
def Story.followedBy (above below : Story) : Story :=
  { scenes := (above.scenes ++ below.scenes).mapIdx (joinScene above.scenes below.scenes)
    characters := above.characters ++ below.characters }

/-! Sections of two scripts -/

section Sections

variable {lines : List String}

theorem filter_heads_eq_nil {opens keep : Keyword}
    (h : ∀ above line below, lines = above ++ line :: below → Keyword.ofLine? line = some keep →
      ¬ ∀ l ∈ above, Keyword.ofLine? l ≠ some opens) :
    (lines.takeWhile (fun l => !opens.heads l)).filter keep.heads = [] := by
  apply filter_takeWhile_eq_nil
  intro above line below hsplit hkeep
  rw [Keyword.heads_iff] at hkeep
  by_contra hnone
  simp only [Keyword.heads_iff] at hnone
  apply h above line below hsplit hkeep
  intro l hl hopens
  exact hnone ⟨l, hl, hopens⟩

theorem filter_choices_eq_nil (h : Inoffensive lines) :
    (lines.takeWhile (fun l => !Keyword.scene.heads l)).filter Keyword.choice.heads = [] := by
  apply filter_heads_eq_nil
  intro above line below hsplit head outside
  exact h above line below _ hsplit (.choiceOutside head outside)

theorem filter_emotions_eq_nil (h : Inoffensive lines) :
    (lines.takeWhile (fun l => !Keyword.character.heads l)).filter Keyword.emotion.heads = [] := by
  apply filter_heads_eq_nil
  intro above line below hsplit head outside
  exact h above line below _ hsplit (.emotionOutside head outside)

end Sections

/-! Neighbours in two lists -/

section Neighbours

variable {α : Type} (xs ys : List α)

theorem getElem?_succ_append {i : Nat} (hi : i < xs.length) :
    (xs ++ ys)[i + 1]? = xs[i + 1]?.or (if i + 1 = xs.length then ys.head? else none) := by
  by_cases hlast : i + 1 = xs.length
  · have hnone : xs[i + 1]? = none := List.getElem?_eq_none (by omega)
    rw [if_pos hlast, hnone, Option.none_or, List.getElem?_append_right (by omega), hlast,
      Nat.sub_self, List.head?_eq_getElem?]
  · rw [if_neg hlast, Option.or_none, List.getElem?_append_left (by omega)]

theorem getElem?_pred_append {i : Nat} (hi : i < xs.length) :
    (if i = 0 then none else (xs ++ ys)[i - 1]?) = if i = 0 then none else xs[i - 1]? := by
  rw [List.getElem?_append_left (by omega)]

/-- Above the first element of the second list is the last one of the first list. -/
theorem getElem?_pred_append_right (j : Nat) :
    (if xs.length + j = 0 then none else (xs ++ ys)[xs.length + j - 1]?) =
      (if j = 0 then xs.getLast? else none).or (if j = 0 then none else ys[j - 1]?) := by
  by_cases hj : j = 0
  · subst hj
    rw [if_pos rfl, if_pos rfl, Option.or_none, Nat.add_zero, List.getLast?_eq_getElem?]
    by_cases hxs : xs.length = 0
    · rw [if_pos hxs, List.getElem?_eq_none (by omega)]
    · rw [if_neg hxs, List.getElem?_append_left (by omega)]
  · have hplace : xs.length + j - 1 - xs.length = j - 1 := by omega
    rw [if_neg hj, if_neg hj, if_neg (by omega), Option.none_or,
      List.getElem?_append_right (by omega), hplace]

end Neighbours

/-! Scenes of two scripts -/

section Scenes

theorem length_declaredScenes (blocks : List SceneBlock) :
    (declaredScenes blocks).length = blocks.length := by
  rw [declaredScenes, List.length_mapIdx]

theorem joinScene_toScene (above below : List Scene) (i : Nat) (b : SceneBlock)
    (previous next : Option String) :
    joinScene above below i (b.toScene previous next) =
      b.toScene
        (((parent? above b.label).or (parent? below b.label)).or
          ((if i = above.length then above.getLast?.map Scene.label else none).or previous))
        (next.or (if i + 1 = above.length then below.head?.map Scene.label else none)) := by
  simp only [joinScene, SceneBlock.toScene, Option.or_assoc]

theorem head?_declaredScenes (blocks : List SceneBlock) :
    (declaredScenes blocks).head?.map Scene.label = blocks.head?.map SceneBlock.label := by
  rw [← List.head?_map, map_label_declaredScenes, List.head?_map]

theorem getLast?_declaredScenes (blocks : List SceneBlock) :
    (declaredScenes blocks).getLast?.map Scene.label = blocks.getLast?.map SceneBlock.label := by
  rw [← List.getLast?_map, map_label_declaredScenes, List.getLast?_map]

theorem or_or_or_left {α : Type} (x y z : Option α) : (x.or y).or (x.or z) = (x.or y).or z := by
  cases x <;> rfl

theorem or_or_or_right {α : Type} (x y z w : Option α) :
    (x.or y).or (z.or (y.or w)) = (x.or y).or (z.or w) := by
  cases x <;> cases y <;> simp

/-- The scenes that blocks and others below them declare, made from the scenes that each of the two
lists declares on its own. -/
theorem declaredScenes_append (upper lower : List SceneBlock) :
    declaredScenes (upper ++ lower) =
      (declaredScenes upper ++ declaredScenes lower).mapIdx
        (joinScene (declaredScenes upper) (declaredScenes lower)) := by
  apply List.ext_getElem?
  intro i
  rw [List.getElem?_mapIdx, getElem?_declaredScenes]
  by_cases hi : i < upper.length
  · have hblock : (upper ++ lower)[i]? = some upper[i] := by
      rw [List.getElem?_append_left hi, List.getElem?_eq_getElem hi]
    have hlength : i < (declaredScenes upper).length := by
      rwa [length_declaredScenes]
    have hplace : ¬ i = upper.length := by omega
    rw [hblock, List.getElem?_append_left hlength, getElem?_declaredScenes,
      List.getElem?_eq_getElem hi, Option.map_some, Option.map_some, Option.map_some,
      joinScene_toScene, parent?_declaredScenes, parent?_declaredScenes, length_declaredScenes,
      head?_declaredScenes, getLast?_declaredScenes]
    refine congrArg some (congrArg₂ upper[i].toScene ?_ ?_)
    · rw [List.find?_append, Option.map_or, if_neg hplace, Option.none_or, or_or_or_left]
      simp only [← List.getElem?_map, List.map_append]
      rw [getElem?_pred_append _ _ (by rwa [List.length_map])]
    · simp only [← List.getElem?_map, List.map_append, ← List.head?_map]
      rw [getElem?_succ_append _ _ (by rwa [List.length_map]), List.length_map]
  · obtain ⟨j, rfl⟩ := Nat.exists_eq_add_of_le (Nat.le_of_not_lt hi)
    have hblock : (upper ++ lower)[upper.length + j]? = lower[j]? := by
      rw [List.getElem?_append_right (by omega), Nat.add_sub_cancel_left]
    have hscene : (declaredScenes upper ++ declaredScenes lower)[upper.length + j]? =
        (declaredScenes lower)[j]? := by
      rw [List.getElem?_append_right (by rw [length_declaredScenes]; omega),
        length_declaredScenes, Nat.add_sub_cancel_left]
    rw [hblock, hscene, getElem?_declaredScenes, Option.map_map]
    refine congrArg (fun place => Option.map place lower[j]?) (funext (fun b => ?_))
    have hplace : ¬ upper.length + j + 1 = upper.length := by omega
    have hfirst : upper.length + j = upper.length ↔ j = 0 := by omega
    rw [Function.comp_apply, joinScene_toScene, parent?_declaredScenes, parent?_declaredScenes,
      length_declaredScenes, getLast?_declaredScenes, if_neg hplace, Option.or_none]
    refine congrArg₂ b.toScene ?_ ?_
    · rw [List.find?_append, Option.map_or, or_or_or_right]
      simp only [← List.getElem?_map, List.map_append, ← List.getLast?_map, hfirst]
      have habove := getElem?_pred_append_right (upper.map SceneBlock.label)
        (lower.map SceneBlock.label) j
      rw [List.length_map] at habove
      rw [habove]
    · rw [List.getElem?_append_right (by omega)]
      have hbelow : upper.length + j + 1 - upper.length = j + 1 := by omega
      rw [hbelow]

end Scenes

/-! Parses -/

/-- Two scripts that have a story have one when they stand one below the other, with a line feed
between. Its characters are those of the first and those of the second. So are its scenes, which
change no more than where they meet and where a choice of the one leads to a scene of the other. -/
theorem parse_append {script more : String} {above below : Story}
    (hscript : parse script = .ok above) (hmore : parse more = .ok below) :
    parse (script ++ "\n" ++ more) = .ok (above.followedBy below) := by
  have hupper : Inoffensive (statements script) := exists_story_iff.mp ⟨above, hscript⟩
  have hlower : Inoffensive (statements more) := exists_story_iff.mp ⟨below, hmore⟩
  obtain ⟨story, hstory⟩ : ∃ story, parse (script ++ "\n" ++ more) = .ok story := by
    rw [exists_story_iff, statements_append]
    exact hupper.append hlower
  obtain ⟨bs, ps, hbs, hps, rfl⟩ := exists_blocks_of_parse hscript
  obtain ⟨cs, qs, hcs, hqs, rfl⟩ := exists_blocks_of_parse hmore
  obtain ⟨ds, rs, hds, hrs, rfl⟩ := exists_blocks_of_parse hstory
  rw [statements_append] at hds hrs
  -- no line of the second script has a part in the last block of the first one
  have hscenes : List.Forall₂ SceneBlock.ReadFrom (bs ++ cs)
      (sections Keyword.scene.heads (statements script ++ statements more)) :=
    forall₂_sections_append (fun _ _ _ h => h.append (filter_choices_eq_nil hlower)) hbs hcs
  have hcharacters : List.Forall₂ CharacterBlock.ReadFrom (ps ++ qs)
      (sections Keyword.character.heads (statements script ++ statements more)) :=
    forall₂_sections_append (fun _ _ _ h => h.append (filter_emotions_eq_nil hlower)) hps hqs
  obtain rfl : ds = bs ++ cs :=
    List.left_unique_forall₂' (R := SceneBlock.ReadFrom) (fun _ _ _ hb hc => hb.unique hc) hds
      hscenes
  obtain rfl : rs = ps ++ qs :=
    List.left_unique_forall₂' (R := CharacterBlock.ReadFrom) (fun _ _ _ hb hc => hb.unique hc) hrs
      hcharacters
  rw [hstory, declaredScenes_append, List.map_append]
  rfl

/-- A script with a choice that leads out of it. -/
def upperScript : String :=
  "scene A:\n    choice<D>: Go\nscene B:\ncharacter Al:"

/-- A script with a choice that leads to the last scene of `upperScript`. -/
def lowerScript : String :=
  "scene C:\n    choice<B>: Back\ncharacter Al:\n    emotion sad: s.png\nscene D:"

/-- The story of `upperScript`. -/
def upperStory : Story :=
  { scenes :=
      [{ label := "A", next := some "B", choices := some [⟨"Go", "D"⟩] },
        { label := "B", previous := some "A" }]
    characters := [{ name := "Al" }] }

/-- The story of `lowerScript`. -/
def lowerStory : Story :=
  { scenes :=
      [{ label := "C", next := some "D", choices := some [⟨"Back", "B"⟩] },
        { label := "D", previous := some "C" }]
    characters := [{ name := "Al", emotions := .ofList [("sad", "s.png")] }] }

theorem parse_append_lowerScript :
    parse upperScript = .ok upperStory ∧ parse lowerScript = .ok lowerStory ∧
      parse (upperScript ++ "\n" ++ lowerScript) = .ok
        { scenes :=
            [{ label := "A", next := some "B", choices := some [⟨"Go", "D"⟩] },
              { label := "B", next := some "C", previous := some "C" },
              { label := "C", next := some "D", previous := some "B"
                choices := some [⟨"Back", "B"⟩] },
              { label := "D", previous := some "A" }]
          characters :=
            [{ name := "Al" }, { name := "Al", emotions := .ofList [("sad", "s.png")] }] } := by
  have hupper : parse upperScript = .ok upperStory := by decide +kernel
  have hlower : parse lowerScript = .ok lowerStory := by decide +kernel
  refine ⟨hupper, hlower, (parse_append hupper hlower).trans ?_⟩
  decide

end SceneScript
