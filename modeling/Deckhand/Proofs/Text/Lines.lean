import Deckhand.Proofs.Text.Blank
import Deckhand.Text.Lines

namespace Deckhand.Text

section

variable {separator c : Char} {cs : List Char}

theorem pieces_cons_self (separator : Char) (cs : List Char) :
    pieces separator (separator :: cs) = [] :: pieces separator cs := by
  rw [pieces, List.foldr_cons]
  exact if_pos rfl

theorem pieces_ne_nil (separator : Char) (cs : List Char) : pieces separator cs ≠ [] := by
  cases cs with
  | nil => exact List.cons_ne_nil _ _
  | cons c cs =>
    rw [pieces, List.foldr_cons]
    split
    · exact List.cons_ne_nil _ _
    · split <;> exact List.cons_ne_nil _ _

theorem pieces_cons_of_ne (h : c ≠ separator) (cs : List Char) :
    ∃ piece rest, pieces separator cs = piece :: rest ∧
      pieces separator (c :: cs) = (c :: piece) :: rest := by
  obtain ⟨piece, rest, hp⟩ := List.exists_cons_of_ne_nil (pieces_ne_nil separator cs)
  refine ⟨piece, rest, hp, ?_⟩
  unfold pieces at hp ⊢
  rw [List.foldr_cons, if_neg h, hp]

theorem separator_notMem_pieces {piece : List Char} (hp : piece ∈ pieces separator cs) :
    separator ∉ piece := by
  induction cs generalizing piece with
  | nil =>
    rw [List.mem_singleton.mp hp]
    exact List.not_mem_nil
  | cons c cs ih =>
    by_cases hc : c = separator
    · subst hc
      rw [pieces_cons_self] at hp
      obtain rfl | hp := List.mem_cons.mp hp
      · exact List.not_mem_nil
      · exact ih hp
    · obtain ⟨first, rest, hfirst, he⟩ := pieces_cons_of_ne hc cs
      rw [he] at hp
      rw [hfirst] at ih
      obtain rfl | hp := List.mem_cons.mp hp
      · exact List.not_mem_cons_of_ne_of_not_mem (Ne.symm hc) (ih List.mem_cons_self)
      · exact ih (List.mem_cons_of_mem _ hp)

theorem mem_pieces_iff : (∃ piece ∈ pieces separator cs, c ∈ piece) ↔ c ∈ cs ∧ c ≠ separator := by
  induction cs with
  | nil => simp [pieces]
  | cons d cs ih =>
    by_cases hd : d = separator
    · subst hd
      rw [pieces_cons_self, List.exists_mem_cons_iff, ih, List.mem_cons]
      constructor
      · rintro (h | h)
        · cases h
        · exact ⟨.inr h.1, h.2⟩
      · exact fun h => .inr ⟨h.1.resolve_left h.2, h.2⟩
    · obtain ⟨first, rest, hfirst, he⟩ := pieces_cons_of_ne hd cs
      rw [hfirst, List.exists_mem_cons_iff] at ih
      rw [he, List.exists_mem_cons_iff, List.mem_cons, or_assoc, ih, List.mem_cons]
      constructor
      · rintro (rfl | h)
        · exact ⟨.inl rfl, hd⟩
        · exact ⟨.inr h.1, h.2⟩
      · rintro ⟨rfl | h, hne⟩
        · exact .inl rfl
        · exact .inr ⟨h, hne⟩

theorem pieces_of_notMem (h : separator ∉ cs) : pieces separator cs = [cs] := by
  induction cs with
  | nil => rfl
  | cons c cs ih =>
    have hc : separator ≠ c := List.ne_of_not_mem_cons h
    obtain ⟨first, rest, hfirst, he⟩ := pieces_cons_of_ne hc.symm cs
    rw [ih (List.not_mem_of_not_mem_cons h)] at hfirst
    cases hfirst
    exact he

theorem pieces_append_separator (h : separator ∉ cs) (rest : List Char) :
    pieces separator (cs ++ separator :: rest) = cs :: pieces separator rest := by
  induction cs with
  | nil => exact pieces_cons_self separator rest
  | cons c cs ih =>
    have hc : separator ≠ c := List.ne_of_not_mem_cons h
    obtain ⟨first, others, hfirst, he⟩ := pieces_cons_of_ne hc.symm (cs ++ separator :: rest)
    rw [ih (List.not_mem_of_not_mem_cons h)] at hfirst
    cases hfirst
    exact he

theorem pieces_intercalate {parts : List (List Char)} (hne : parts ≠ [])
    (h : ∀ part ∈ parts, separator ∉ part) :
    pieces separator ([separator].intercalate parts) = parts := by
  induction parts with
  | nil => exact absurd rfl hne
  | cons part parts ih =>
    have hpart : separator ∉ part := h part List.mem_cons_self
    cases parts with
    | nil =>
      rw [List.intercalate_singleton]
      exact pieces_of_notMem hpart
    | cons next parts =>
      rw [List.intercalate_cons_cons, List.append_assoc, List.singleton_append,
        pieces_append_separator hpart,
        ih (List.cons_ne_nil _ _) fun other ho => h other (List.mem_cons_of_mem _ ho)]

end

/-- A text that is read back as one line: it is not empty, and no line ends inside or behind it. -/
structure IsLine (line : List Char) : Prop where
  ne_nil : line ≠ []
  noFeed : '\n' ∉ line
  noReturn : line.getLast? ≠ some '\r'

theorem dropReturn_of_ne {line : List Char} (h : line.getLast? ≠ some '\r') :
    dropReturn line = line :=
  if_neg h

theorem dropReturn_subset (line : List Char) : dropReturn line ⊆ line := by
  unfold dropReturn
  split
  · exact List.dropLast_subset line
  · exact List.Subset.refl line

theorem mem_dropReturn {c : Char} {line : List Char} (h : c ∈ line) (hc : c ≠ '\r') :
    c ∈ dropReturn line := by
  unfold dropReturn
  split
  · rename_i hlast
    have hl := List.dropLast_append_getLast? '\r' hlast
    rw [← hl, List.mem_append, List.mem_singleton] at h
    exact h.resolve_right hc
  · exact h

theorem exists_piece_of_mem_lineChars {line cs : List Char} (h : line ∈ lineChars cs) :
    ∃ piece ∈ pieces '\n' cs, line ⊆ piece := by
  unfold lineChars at h
  rw [List.mem_append] at h
  obtain h | h := h
  · obtain ⟨piece, hp, rfl⟩ := List.mem_map.mp h
    exact ⟨piece, List.dropLast_subset _ hp, dropReturn_subset piece⟩
  · rw [Option.mem_toList, Option.filter_eq_some_iff] at h
    exact ⟨line, List.mem_of_getLast? h.1, List.Subset.refl line⟩

theorem feed_notMem_lineChars {line cs : List Char} (h : line ∈ lineChars cs) : '\n' ∉ line := by
  obtain ⟨piece, hp, hsub⟩ := exists_piece_of_mem_lineChars h
  exact fun hm => separator_notMem_pieces hp (hsub hm)

theorem lineChars_subset {line cs : List Char} (h : line ∈ lineChars cs) : line ⊆ cs := by
  obtain ⟨piece, hp, hsub⟩ := exists_piece_of_mem_lineChars h
  exact fun c hc => (mem_pieces_iff.mp ⟨piece, hp, hsub hc⟩).1

theorem exists_line_of_mem {c : Char} {cs : List Char} (h : c ∈ cs) (hf : c ≠ '\n')
    (hr : c ≠ '\r') : ∃ line ∈ lineChars cs, c ∈ line := by
  obtain ⟨piece, hp, hc⟩ := mem_pieces_iff.mpr ⟨h, hf⟩
  have hne := pieces_ne_nil '\n' cs
  rw [← List.dropLast_append_getLast hne, List.mem_append, List.mem_singleton] at hp
  unfold lineChars
  obtain hp | rfl := hp
  · exact ⟨dropReturn piece, List.mem_append_left _ (List.mem_map_of_mem hp),
      mem_dropReturn hc hr⟩
  · refine ⟨_, List.mem_append_right _ ?_, hc⟩
    rw [Option.mem_toList, Option.filter_eq_some_iff, List.getLast?_eq_some_getLast hne]
    refine ⟨rfl, ?_⟩
    simpa using List.ne_nil_of_mem hc

theorem lineChars_intercalate {parts : List (List Char)} (h : ∀ part ∈ parts, IsLine part) :
    lineChars (['\n'].intercalate parts) = parts := by
  by_cases hne : parts = []
  · rw [hne]
    rfl
  · have hlast := h _ (List.getLast_mem hne)
    have hdrop : parts.dropLast.map dropReturn = parts.dropLast := by
      rw [List.map_congr_left fun part hp =>
        dropReturn_of_ne (h part (List.dropLast_subset parts hp)).noReturn]
      exact List.map_id' _
    unfold lineChars
    rw [pieces_intercalate hne fun part hp => (h part hp).noFeed]
    dsimp only
    rw [hdrop, List.getLast?_eq_some_getLast hne]
    have hkept : (some (parts.getLast hne)).filter (!·.isEmpty) = some (parts.getLast hne) := by
      simp [hlast.ne_nil]
    rw [hkept, Option.toList_some, List.dropLast_append_getLast hne]

theorem toList_unlines (texts : List String) :
    (unlines texts).toList = ['\n'].intercalate (texts.map String.toList) :=
  String.toList_intercalate

theorem splitOn_unlines {texts : List String} (hne : texts ≠ [])
    (h : ∀ text ∈ texts, '\n' ∉ text.toList) : splitOn '\n' (unlines texts) = texts := by
  have hparts : ∀ part ∈ texts.map String.toList, '\n' ∉ part := by
    intro part hp
    obtain ⟨text, ht, rfl⟩ := List.mem_map.mp hp
    exact h text ht
  rw [splitOn, toList_unlines, pieces_intercalate (by simpa using hne) hparts, List.map_map]
  exact List.map_id'' (fun text => String.ofList_toList) texts

theorem lines_unlines {texts : List String} (h : ∀ text ∈ texts, IsLine text.toList) :
    lines (unlines texts) = texts := by
  have hparts : ∀ part ∈ texts.map String.toList, IsLine part := by
    intro part hp
    obtain ⟨text, ht, rfl⟩ := List.mem_map.mp hp
    exact h text ht
  rw [lines, toList_unlines, lineChars_intercalate hparts, List.map_map]
  exact List.map_id'' (fun text => String.ofList_toList) texts

/-- Lines that each end in a line feed are read back, the empty ones too. -/
theorem lineChars_terminated {parts : List (List Char)} (hf : ∀ part ∈ parts, '\n' ∉ part)
    (hr : ∀ part ∈ parts, part.getLast? ≠ some '\r') :
    lineChars (parts.map (· ++ ['\n'])).flatten = parts := by
  have hpieces : pieces '\n' (parts.map (· ++ ['\n'])).flatten = parts ++ [[]] := by
    clear hr
    induction parts with
    | nil => rfl
    | cons part parts ih =>
      have hrest := ih fun other ho => hf other (List.mem_cons_of_mem _ ho)
      simp only [List.map_cons, List.flatten_cons, List.append_assoc, List.singleton_append]
      rw [pieces_append_separator (hf part List.mem_cons_self), hrest, List.cons_append]
  have hmap : parts.map dropReturn = parts := by
    rw [List.map_congr_left fun part hp => dropReturn_of_ne (hr part hp)]
    exact List.map_id' _
  simp [lineChars, hpieces, hmap]

theorem toList_mem_lineChars {text line : String} (h : line ∈ lines text) :
    line.toList ∈ lineChars text.toList := by
  obtain ⟨cs, hcs, rfl⟩ := List.mem_map.mp h
  rwa [String.toList_ofList]

theorem isBlank_iff_forall_lines {text : String} :
    IsBlank text ↔ ∀ line ∈ lines text, IsBlank line := by
  constructor
  · intro h line hl c hc
    exact h c (lineChars_subset (toList_mem_lineChars hl) hc)
  · intro h c hc
    by_cases hf : c = '\n'
    · rw [hf]
      rfl
    by_cases hr : c = '\r'
    · rw [hr]
      rfl
    obtain ⟨cs, hcs, hm⟩ := exists_line_of_mem hc hf hr
    exact h _ (List.mem_map_of_mem hcs) c (by rwa [String.toList_ofList])

end Deckhand.Text
