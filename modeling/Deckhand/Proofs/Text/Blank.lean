import Mathlib.Data.List.DropRight
import Deckhand.Text.Blank

namespace Deckhand.Text

def IsBlank (text : String) : Prop := ∀ c ∈ text.toList, isBlank c = true

instance : DecidablePred IsBlank := fun text =>
  List.decidableBAll (isBlank · = true) text.toList

structure IsTrimmed (text : String) : Prop where
  ne_empty : text ≠ ""
  first : ∀ c, text.toList.head? = some c → isBlank c = false
  last : ∀ c, text.toList.getLast? = some c → isBlank c = false

structure IsWord (text : String) : Prop where
  ne_empty : text ≠ ""
  notBlank : ∀ c ∈ text.toList, isBlank c = false

variable {cs : List Char} {text : String}

theorem trimChars_eq_rdropWhile (cs : List Char) :
    trimChars cs = (cs.dropWhile isBlank).rdropWhile isBlank := rfl

theorem trimChars_eq_nil_iff : trimChars cs = [] ↔ ∀ c ∈ cs, isBlank c = true := by
  rw [trimChars_eq_rdropWhile, List.rdropWhile_eq_nil_iff]
  constructor
  · intro h
    have hcs : cs = cs.takeWhile isBlank ++ cs.dropWhile isBlank :=
      List.takeWhile_append_dropWhile.symm
    intro c hc
    rw [hcs, List.mem_append] at hc
    exact hc.elim List.mem_takeWhile_imp (h c)
  · intro h c hc
    exact h c ((List.dropWhile_suffix isBlank).subset hc)

theorem trimChars_subset (cs : List Char) : trimChars cs ⊆ cs := by
  rw [trimChars_eq_rdropWhile]
  exact List.Subset.trans (List.rdropWhile_prefix isBlank _).subset
    (List.dropWhile_suffix isBlank).subset

theorem isBlank_head?_trimChars {c : Char} (h : (trimChars cs).head? = some c) :
    isBlank c = false := by
  rw [trimChars_eq_rdropWhile] at h
  have hne : (cs.dropWhile isBlank).rdropWhile isBlank ≠ [] := by
    intro hn
    rw [hn] at h
    cases h
  obtain ⟨rest, hr⟩ := List.rdropWhile_prefix isBlank (cs.dropWhile isBlank)
  have hhead : (cs.dropWhile isBlank).head? = some c := by
    rw [← hr, List.head?_append_of_ne_nil _ hne, h]
  have hnot := List.head?_dropWhile_not isBlank cs
  rw [hhead] at hnot
  exact hnot

theorem isBlank_getLast?_trimChars {c : Char} (h : (trimChars cs).getLast? = some c) :
    isBlank c = false := by
  rw [trimChars_eq_rdropWhile] at h
  have hne : (cs.dropWhile isBlank).rdropWhile isBlank ≠ [] := by
    intro hn
    rw [hn] at h
    cases h
  rw [List.getLast?_eq_some_getLast hne] at h
  cases h
  exact Bool.eq_false_iff.mpr (List.rdropWhile_last_not isBlank _ hne)

@[simp] theorem toList_trim (text : String) : (trim text).toList = trimChars text.toList :=
  String.toList_ofList

theorem trim_eq_empty_iff : trim text = "" ↔ IsBlank text := by
  rw [← String.toList_eq_nil_iff, toList_trim, trimChars_eq_nil_iff]
  rfl

theorem isTrimmed_trim (h : trim text ≠ "") : IsTrimmed (trim text) where
  ne_empty := h
  first _ hc := isBlank_head?_trimChars (by rwa [toList_trim] at hc)
  last _ hc := isBlank_getLast?_trimChars (by rwa [toList_trim] at hc)

section

variable {c : Char}

theorem wordChars_eq (cs : List Char) : wordChars cs =
    if (splitWords cs).1.isEmpty then (splitWords cs).2
    else (splitWords cs).1 :: (splitWords cs).2 := by
  unfold wordChars
  split
  · rename_i words h
    rw [h]
    rfl
  · rename_i word words hne h
    have hword : word ≠ [] := hne
    rw [h]
    simp [hword]

theorem splitWords_cons_of_blank (h : isBlank c = true) (cs : List Char) :
    splitWords (c :: cs) = ([], wordChars cs) := by
  rw [wordChars_eq, splitWords, List.foldr_cons]
  exact if_pos h

theorem splitWords_cons_of_not_blank (h : isBlank c = false) (cs : List Char) :
    splitWords (c :: cs) = (c :: (splitWords cs).1, (splitWords cs).2) := by
  rw [splitWords, List.foldr_cons]
  exact if_neg (by rw [h]; exact Bool.false_ne_true)

theorem wordChars_cons_of_blank (h : isBlank c = true) (cs : List Char) :
    wordChars (c :: cs) = wordChars cs := by
  rw [wordChars_eq, splitWords_cons_of_blank h]
  rfl

theorem wordChars_cons_of_not_blank (h : isBlank c = false) (cs : List Char) :
    wordChars (c :: cs) = (c :: (splitWords cs).1) :: (splitWords cs).2 := by
  rw [wordChars_eq, splitWords_cons_of_not_blank h]
  rfl

end

/-- The word under way and the words behind it hold no blank, and only the former can be empty. -/
theorem splitWords_not_blank (cs : List Char) :
    (∀ c ∈ (splitWords cs).1, isBlank c = false) ∧
      ∀ word ∈ (splitWords cs).2, word ≠ [] ∧ ∀ c ∈ word, isBlank c = false := by
  induction cs with
  | nil => simp [splitWords]
  | cons c cs ih =>
    obtain ⟨hword, hwords⟩ := ih
    cases hc : isBlank c with
    | true =>
      rw [splitWords_cons_of_blank hc, wordChars_eq]
      refine ⟨by simp, ?_⟩
      split
      · exact hwords
      · rename_i hne
        simp only [List.isEmpty_iff] at hne
        exact List.forall_mem_cons.mpr ⟨⟨hne, hword⟩, hwords⟩
    | false =>
      rw [splitWords_cons_of_not_blank hc]
      exact ⟨List.forall_mem_cons.mpr ⟨hc, hword⟩, hwords⟩

theorem wordChars_ne_nil {c : Char} (hm : c ∈ cs) (hc : isBlank c = false) : wordChars cs ≠ [] := by
  induction cs with
  | nil => cases hm
  | cons d cs ih =>
    cases hd : isBlank d with
    | false =>
      rw [wordChars_cons_of_not_blank hd]
      exact List.cons_ne_nil _ _
    | true =>
      rw [wordChars_cons_of_blank hd]
      refine ih ?_
      obtain rfl | hm := List.mem_cons.mp hm
      · cases hc.symm.trans hd
      · exact hm

theorem isWord_of_mem_words {word : String} (h : word ∈ words text) : IsWord word := by
  obtain ⟨cs, hcs, rfl⟩ := List.mem_map.mp h
  obtain ⟨hfirst, hrest⟩ := splitWords_not_blank text.toList
  have hword : cs ≠ [] ∧ ∀ c ∈ cs, isBlank c = false := by
    rw [wordChars_eq] at hcs
    split at hcs
    · exact hrest cs hcs
    · rename_i hne
      rw [List.isEmpty_iff] at hne
      obtain rfl | hcs := List.mem_cons.mp hcs
      · exact ⟨hne, hfirst⟩
      · exact hrest cs hcs
  exact ⟨by simpa using hword.1, by simpa using hword.2⟩

theorem IsTrimmed.words_ne_nil (h : IsTrimmed text) : words text ≠ [] := by
  obtain ⟨c, cs, hcs⟩ := List.exists_cons_of_ne_nil (String.toList_eq_nil_iff.not.mpr h.ne_empty)
  have hc : isBlank c = false := h.first c (by rw [hcs]; rfl)
  have hm : c ∈ text.toList := by
    rw [hcs]
    exact List.mem_cons_self
  exact List.map_eq_nil_iff.not.mpr (wordChars_ne_nil hm hc)

section

variable {word : List Char} (h : ∀ c ∈ word, isBlank c = false)

include h

theorem splitWords_append (cs : List Char) :
    splitWords (word ++ cs) = (word ++ (splitWords cs).1, (splitWords cs).2) := by
  induction word with
  | nil => rfl
  | cons c word ih =>
    have hword : ∀ d ∈ word, isBlank d = false := fun d hd => h d (List.mem_cons_of_mem c hd)
    rw [List.cons_append, splitWords_cons_of_not_blank (h c List.mem_cons_self), ih hword]
    rfl

theorem wordChars_append (hne : word ≠ []) {c : Char} (hc : isBlank c = true) (cs : List Char) :
    wordChars (word ++ c :: cs) = word :: wordChars cs := by
  rw [wordChars_eq, splitWords_append h, splitWords_cons_of_blank hc, List.append_nil]
  simp [hne]

theorem wordChars_of_not_blank (hne : word ≠ []) : wordChars word = [word] := by
  have hs := splitWords_append h []
  rw [List.append_nil] at hs
  rw [wordChars_eq, hs]
  simp [splitWords, hne]

end

theorem wordChars_intercalate {c : Char} (hc : isBlank c = true) {parts : List (List Char)}
    (h : ∀ part ∈ parts, part ≠ [] ∧ ∀ d ∈ part, isBlank d = false) :
    wordChars ([c].intercalate parts) = parts := by
  induction parts with
  | nil => rfl
  | cons part parts ih =>
    obtain ⟨hne, hpart⟩ := h part List.mem_cons_self
    cases parts with
    | nil =>
      rw [List.intercalate_singleton]
      exact wordChars_of_not_blank hpart hne
    | cons next parts =>
      rw [List.intercalate_cons_cons, List.append_assoc, List.singleton_append,
        wordChars_append hpart hne hc, ih fun other ho => h other (List.mem_cons_of_mem _ ho)]

theorem words_intercalate {texts : List String} (h : ∀ text ∈ texts, IsWord text) :
    words (" ".intercalate texts) = texts := by
  have hparts : ∀ part ∈ texts.map String.toList,
      part ≠ [] ∧ ∀ d ∈ part, isBlank d = false := by
    intro part hp
    obtain ⟨text, ht, rfl⟩ := List.mem_map.mp hp
    exact ⟨String.toList_eq_nil_iff.not.mpr (h text ht).ne_empty, (h text ht).notBlank⟩
  have hchars : (" ".intercalate texts).toList = [' '].intercalate (texts.map String.toList) :=
    String.toList_intercalate
  rw [words, hchars, wordChars_intercalate rfl hparts, List.map_map]
  exact List.map_id'' (fun text => String.ofList_toList) texts

theorem wordChars_dropWhile (cs : List Char) : wordChars (cs.dropWhile isBlank) = wordChars cs := by
  induction cs with
  | nil => rfl
  | cons c cs ih =>
    cases hc : isBlank c with
    | true => rw [List.dropWhile_cons_of_pos hc, ih, wordChars_cons_of_blank hc]
    | false => rw [List.dropWhile_cons_of_neg (by simp [hc])]

theorem splitWords_concat_of_blank {c : Char} (hc : isBlank c = true) (cs : List Char) :
    splitWords (cs ++ [c]) = splitWords cs := by
  have hsingle : splitWords [c] = splitWords [] := splitWords_cons_of_blank hc []
  unfold splitWords at hsingle ⊢
  rw [List.foldr_append, hsingle]
  rfl

theorem wordChars_rdropWhile (cs : List Char) :
    wordChars (cs.rdropWhile isBlank) = wordChars cs := by
  induction cs using List.reverseRecOn with
  | nil => rfl
  | append_singleton cs c ih =>
    cases hc : isBlank c with
    | true =>
      rw [List.rdropWhile_concat_pos _ _ _ hc, ih, wordChars_eq, wordChars_eq,
        splitWords_concat_of_blank hc]
    | false => rw [List.rdropWhile_concat_neg _ _ _ (by simp [hc])]

theorem words_trim (text : String) : words (trim text) = words text := by
  rw [words, words, toList_trim, trimChars_eq_rdropWhile, wordChars_rdropWhile, wordChars_dropWhile]

end Deckhand.Text
