import Deckhand.Proofs.Text.Blank

namespace Deckhand.Text

/-- The words stand in the text in this order, with nothing but blanks before, between and behind
them. -/
inductive Spread : List (List Char) → List Char → Prop where
  | nil : Spread [] []
  | blank {c words cs} : isBlank c = true → Spread words cs → Spread words (c :: cs)
  | last {word} : Spread [word] word
  | word {word words c cs} : isBlank c = true → Spread words cs →
      Spread (word :: words) (word ++ c :: cs)

def IsSpread (texts : List String) (text : String) : Prop :=
  Spread (texts.map String.toList) text.toList

variable {cs : List Char} {words : List (List Char)}

/-- The text ends with the word under way, or a blank follows it. -/
def Cut (cs : List Char) (word : List Char) (words : List (List Char)) : Prop :=
  word = cs ∧ words = [] ∨
    ∃ c rest, isBlank c = true ∧ cs = word ++ c :: rest ∧ Spread words rest

theorem Cut.spread (h : Cut cs (splitWords cs).1 (splitWords cs).2) : Spread (wordChars cs) cs := by
  rw [wordChars_eq]
  split
  · rename_i he
    rw [List.isEmpty_iff] at he
    obtain ⟨hw, hn⟩ | ⟨c, rest, hc, hcs, hs⟩ := h
    · rw [hn, ← hw, he]
      exact .nil
    · rw [he, List.nil_append] at hcs
      rw [hcs] at hs ⊢
      exact .blank hc hs
  · obtain ⟨hw, hn⟩ | ⟨c, rest, hc, hcs, hs⟩ := h
    · rw [hn, hw]
      exact .last
    · have hword : Spread ((splitWords cs).1 :: (splitWords cs).2)
          ((splitWords cs).1 ++ c :: rest) := .word hc hs
      rwa [← hcs] at hword

theorem cut_splitWords (cs : List Char) : Cut cs (splitWords cs).1 (splitWords cs).2 := by
  induction cs with
  | nil => exact .inl ⟨rfl, rfl⟩
  | cons c cs ih =>
    cases hc : isBlank c with
    | true =>
      rw [splitWords_cons_of_blank hc]
      exact .inr ⟨c, cs, hc, rfl, ih.spread⟩
    | false =>
      rw [splitWords_cons_of_not_blank hc]
      obtain ⟨hw, hn⟩ | ⟨d, rest, hd, hcs, hs⟩ := ih
      · exact .inl ⟨congrArg (c :: ·) hw, hn⟩
      · exact .inr ⟨d, rest, hd, congrArg (c :: ·) hcs, hs⟩

theorem spread_wordChars (cs : List Char) : Spread (wordChars cs) cs := (cut_splitWords cs).spread

theorem Spread.wordChars_eq (h : Spread words cs)
    (hw : ∀ word ∈ words, word ≠ [] ∧ ∀ c ∈ word, isBlank c = false) : wordChars cs = words := by
  induction h with
  | nil => rfl
  | blank hc _ ih => rw [wordChars_cons_of_blank hc, ih hw]
  | @last word =>
    obtain ⟨hne, hword⟩ := hw word List.mem_cons_self
    exact wordChars_of_not_blank hword hne
  | @word word words c cs hc _ ih =>
    obtain ⟨hne, hword⟩ := hw word List.mem_cons_self
    rw [wordChars_append hword hne hc, ih fun other ho => hw other (List.mem_cons_of_mem _ ho)]

theorem words_eq_iff {text : String} {texts : List String} :
    Text.words text = texts ↔ IsSpread texts text ∧ ∀ word ∈ texts, IsWord word := by
  constructor
  · rintro rfl
    have hid : String.toList ∘ String.ofList = id := funext fun _ => String.toList_ofList
    refine ⟨?_, fun word hw => isWord_of_mem_words hw⟩
    rw [IsSpread, Text.words, List.map_map, hid, List.map_id]
    exact spread_wordChars text.toList
  · rintro ⟨hs, hw⟩
    have hchars := Spread.wordChars_eq hs fun cs hcs => by
      obtain ⟨word, hm, rfl⟩ := List.mem_map.mp hcs
      exact ⟨String.toList_eq_nil_iff.not.mpr (hw word hm).ne_empty, (hw word hm).notBlank⟩
    rw [Text.words, hchars, List.map_map]
    exact List.map_id'' (fun word => String.ofList_toList) texts

theorem spread_nil_iff : Spread [] cs ↔ ∀ c ∈ cs, isBlank c = true := by
  constructor
  · intro h
    generalize hw : ([] : List (List Char)) = words at h
    induction h with
    | nil => simp
    | blank hc _ ih => exact List.forall_mem_cons.mpr ⟨hc, ih hw⟩
    | last | word _ _ _ => cases hw
  · intro h
    induction cs with
    | nil => exact .nil
    | cons c cs ih =>
      obtain ⟨hc, hcs⟩ := List.forall_mem_cons.mp h
      exact .blank hc (ih hcs)

theorem words_eq_nil_iff {text : String} : Text.words text = [] ↔ IsBlank text := by
  rw [words_eq_iff, IsSpread, List.map_nil, spread_nil_iff]
  exact and_iff_left nofun

end Deckhand.Text
