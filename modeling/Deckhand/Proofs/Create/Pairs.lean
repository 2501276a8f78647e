import Mathlib.Data.String.Basic
import Deckhand.Proofs.Create.Complete
import Deckhand.Proofs.Text.Words

namespace Deckhand.Pairs

def Sorted (pairs : Pairs) : Prop := pairs.Pairwise (·.1 < ·.1)

/-- The word gives the value to the key: it stands behind the first equals sign, the key before. -/
def Gives (word : String) (pair : String × String) : Prop :=
  pair.1 ≠ "" ∧ '=' ∉ pair.1.toList ∧ word = written pair

def Free (words : List String) (key : String) : Prop :=
  ∀ word ∈ words, ∀ value, ¬ Gives word (key, value)

/-- The last word that gives a value to the key gives this one. -/
def GivesLast (words : List String) (pair : String × String) : Prop :=
  ∃ before word after, words = before ++ word :: after ∧ Gives word pair ∧ Free after pair.1

def Spreadable (pairs : Pairs) : Prop :=
  ∀ pair ∈ pairs, (∀ c ∈ pair.1.toList, Text.isBlank c = false) ∧
    ∀ c ∈ pair.2.toList, Text.isBlank c = false

variable {pairs pairs' result : Pairs} {pair other : String × String} {words : List String}
  {word key value field text : String}

theorem gives_iff : Gives word pair ↔ ofWord? word = some pair := by
  constructor
  · rintro ⟨hne, hkey, rfl⟩
    rw [ofWord?, Text.splitFirst?_written hkey]
    exact if_neg (String.isEmpty_iff.not.mpr hne)
  · intro h
    obtain ⟨hne, hkey⟩ := key_of_ofWord? h
    exact ⟨hne, hkey, eq_written_of_splitFirst? (splitFirst?_of_ofWord? h)⟩

theorem Gives.eq (h : Gives word pair) (h' : Gives word other) : other = pair := by
  rw [gives_iff] at h h'
  exact Option.some.inj (h'.symm.trans h)

theorem free_cons : Free (word :: words) key ↔ (∀ value, ¬ Gives word (key, value)) ∧
    Free words key :=
  List.forall_mem_cons

theorem givesLast_cons : GivesLast (word :: words) pair ↔
    GivesLast words pair ∨ Gives word pair ∧ Free words pair.1 := by
  constructor
  · rintro ⟨before, last, after, hwords, hg, hf⟩
    cases before with
    | nil =>
      cases hwords
      exact .inr ⟨hg, hf⟩
    | cons first before =>
      cases hwords
      exact .inl ⟨before, last, after, rfl, hg, hf⟩
  · rintro (⟨before, last, after, rfl, hg, hf⟩ | ⟨hg, hf⟩)
    · exact ⟨word :: before, last, after, rfl, hg, hf⟩
    · exact ⟨[], word, words, rfl, hg, hf⟩

theorem Sorted.insert (h : pairs.Sorted) : (pairs.insert key value).Sorted := by
  induction pairs with
  | nil => exact List.pairwise_singleton _ _
  | cons first rest ih =>
    obtain ⟨k, v⟩ := first
    obtain ⟨hfirst, hrest⟩ := List.pairwise_cons.mp h
    unfold Pairs.insert
    split
    · rename_i hlt
      refine List.pairwise_cons.mpr ⟨fun pair hp => ?_, h⟩
      obtain rfl | hp := List.mem_cons.mp hp
      · exact hlt
      · exact hlt.trans (hfirst pair hp)
    split
    · rename_i heq
      exact List.pairwise_cons.mpr ⟨fun pair hp => heq ▸ hfirst pair hp, hrest⟩
    · rename_i hlt hne
      refine List.pairwise_cons.mpr ⟨fun pair hp => ?_, ih hrest⟩
      obtain rfl | hp := mem_insert hp
      · exact lt_of_le_of_ne (not_lt.mp hlt) (Ne.symm hne)
      · exact hfirst pair hp

theorem Sorted.mem_insert_iff (h : pairs.Sorted) :
    pair ∈ pairs.insert key value ↔ pair = (key, value) ∨ pair.1 ≠ key ∧ pair ∈ pairs := by
  induction pairs with
  | nil => simp [Pairs.insert]
  | cons first rest ih =>
    obtain ⟨k, v⟩ := first
    obtain ⟨hfirst, hrest⟩ := List.pairwise_cons.mp h
    unfold Pairs.insert
    split
    · rename_i hlt
      have hne (hp : pair ∈ (k, v) :: rest) : pair.1 ≠ key := by
        obtain rfl | hp := List.mem_cons.mp hp
        · exact hlt.ne'
        · exact (hlt.trans (hfirst pair hp)).ne'
      rw [List.mem_cons]
      exact or_congr_right (and_iff_right_of_imp hne).symm
    split
    · rename_i heq
      subst heq
      have hne (hp : pair ∈ rest) : pair.1 ≠ key := (hfirst pair hp).ne'
      rw [List.mem_cons, List.mem_cons]
      constructor
      · rintro (rfl | hp)
        · exact .inl rfl
        · exact .inr ⟨hne hp, .inr hp⟩
      · rintro (rfl | ⟨hk, rfl | hp⟩)
        · exact .inl rfl
        · exact absurd rfl hk
        · exact .inr hp
    · rename_i hlt hne
      rw [List.mem_cons, List.mem_cons, ih hrest]
      constructor
      · rintro (rfl | rfl | ⟨hk, hp⟩)
        · exact .inr ⟨Ne.symm hne, .inl rfl⟩
        · exact .inl rfl
        · exact .inr ⟨hk, .inr hp⟩
      · rintro (rfl | ⟨hk, rfl | hp⟩)
        · exact .inr (.inl rfl)
        · exact .inl rfl
        · exact .inr (.inr ⟨hk, hp⟩)

theorem Sorted.nodup (h : pairs.Sorted) : pairs.Nodup :=
  h.imp fun hlt heq => hlt.ne (congrArg Prod.fst heq)

theorem Sorted.eq (h : pairs.Sorted) (h' : pairs'.Sorted)
    (hm : ∀ pair, pair ∈ pairs ↔ pair ∈ pairs') : pairs = pairs' := by
  have hperm := (List.perm_ext_iff_of_nodup h.nodup h'.nodup).mpr hm
  exact hperm.eq_of_pairwise (fun _ _ _ _ hlt hgt => absurd hgt hlt.asymm) h h'

/-- Words read into pairs overwrite those that are there, and each other in their order. -/
theorem mem_ofWords (h : pairs.Sorted) (hw : ofWords field pairs words = .ok result) :
    result.Sorted ∧
      ∀ pair, pair ∈ result ↔ GivesLast words pair ∨ pair ∈ pairs ∧ Free words pair.1 := by
  induction words generalizing pairs with
  | nil =>
    cases hw
    refine ⟨h, fun pair => ?_⟩
    simp [GivesLast, Free]
  | cons word words ih =>
    unfold ofWords at hw
    split at hw
    · rename_i key value hword
      have hg : Gives word (key, value) := gives_iff.mpr hword
      obtain ⟨hs, hm⟩ := ih h.insert hw
      refine ⟨hs, fun pair => ?_⟩
      have hpair : Gives word pair ↔ pair = (key, value) := ⟨hg.eq, fun he => he ▸ hg⟩
      have hfree : (∀ value, ¬ Gives word (pair.1, value)) ↔ pair.1 ≠ key := by
        constructor
        · rintro hn rfl
          exact hn value hg
        · intro hne other ho
          exact hne (congrArg Prod.fst (hg.eq ho))
      rw [hm, h.mem_insert_iff, givesLast_cons, free_cons, hpair, hfree]
      tauto
    · cases hw

theorem ofWords_eq_error {failure : Failure} (h : ofWords field pairs words = .error failure) :
    ∃ before word after, words = before ++ word :: after ∧ (∀ other ∈ before, IsPair other) ∧
      ¬ IsPair word ∧ failure =
        .invalid ("invalid " ++ field ++ " entry \"" ++ word ++ "\", expected key=value") := by
  induction words generalizing pairs with
  | nil => cases h
  | cons word words ih =>
    unfold ofWords at h
    split at h
    · rename_i key value hword
      obtain ⟨before, first, after, rfl, hbefore, hfirst, hf⟩ := ih h
      exact ⟨word :: before, first, after, rfl,
        List.forall_mem_cons.mpr ⟨isPair_iff.mpr ⟨_, hword⟩, hbefore⟩, hfirst, hf⟩
    · rename_i hword
      cases h
      refine ⟨[], word, words, rfl, by simp, fun hp => ?_, rfl⟩
      obtain ⟨pair, hpair⟩ := isPair_iff.mp hp
      cases hword.symm.trans hpair

theorem isWord_written (h : pairs.Spreadable) (hp : pair ∈ pairs) : Text.IsWord (written pair) where
  ne_empty := by simp [written]
  notBlank := by
    intro c hc
    simp only [written, String.toList_append, List.mem_append] at hc
    obtain (hc | hc) | hc := hc
    · exact (h pair hp).1 c hc
    · rw [List.mem_singleton.mp hc]
      rfl
    · exact (h pair hp).2 c hc

theorem givesLast_written (h : pairs.Keyed) (hk : (pairs.map Prod.fst).Nodup) :
    GivesLast (pairs.map written) pair ↔ pair ∈ pairs := by
  constructor
  · rintro ⟨before, word, after, hwords, hg, -⟩
    have hm : word ∈ pairs.map written := by
      rw [hwords]
      exact List.mem_append_right _ List.mem_cons_self
    obtain ⟨own, hown, rfl⟩ := List.mem_map.mp hm
    have hgives : Gives (written own) own := ⟨(h own hown).1, (h own hown).2, rfl⟩
    rw [hgives.eq hg]
    exact hown
  · intro hp
    obtain ⟨before, after, rfl⟩ := List.append_of_mem hp
    refine ⟨before.map written, written pair, after.map written, by simp,
      ⟨(h pair hp).1, (h pair hp).2, rfl⟩, ?_⟩
    rintro word hw value hg
    obtain ⟨own, hown, rfl⟩ := List.mem_map.mp hw
    have hm : own ∈ before ++ pair :: after :=
      List.mem_append_right _ (List.mem_cons_of_mem _ hown)
    have hgives : Gives (written own) own := ⟨(h own hm).1, (h own hm).2, rfl⟩
    rw [List.map_append, List.map_cons, List.nodup_append] at hk
    refine (List.nodup_cons.mp hk.2.1).1 (List.mem_map.mpr ⟨own, hown, ?_⟩)
    exact (congrArg Prod.fst (hgives.eq hg)).symm

theorem parse_spread (h : pairs.Sorted) (hk : pairs.Keyed) (hb : pairs.Spreadable)
    {order : Pairs} (ho : order.Perm pairs) (hs : Text.IsSpread (order.map written) text) :
    parse field text = .ok pairs := by
  have hwords : Text.words text = order.map written := by
    refine Text.words_eq_iff.mpr ⟨hs, fun word hw => ?_⟩
    obtain ⟨pair, hp, rfl⟩ := List.mem_map.mp hw
    exact isWord_written hb (ho.mem_iff.mp hp)
  have hkeyed : order.Keyed := fun pair hp => hk pair (ho.mem_iff.mp hp)
  have hnodup : (order.map Prod.fst).Nodup :=
    (ho.map Prod.fst).nodup_iff.mpr (List.pairwise_map.mpr (h.imp fun hlt => hlt.ne))
  have hpairs : ∀ word ∈ Text.words text, IsPair word := by
    rw [hwords]
    intro word hw
    obtain ⟨pair, hp, rfl⟩ := List.mem_map.mp hw
    exact ⟨pair, (hkeyed pair hp).1, (hkeyed pair hp).2, rfl⟩
  obtain ⟨result, hr⟩ := (parse_eq_ok_iff field text).mpr hpairs
  obtain ⟨hsorted, hm⟩ := mem_ofWords List.Pairwise.nil hr
  have heq : result = pairs := by
    refine hsorted.eq h fun pair => ?_
    rw [hm, hwords, givesLast_written hkeyed hnodup, ho.mem_iff]
    simp
  rw [hr, heq]

/-- A text is read if and only if all its words are pairs. Then each key has the value of its last
word, and there is nothing else; otherwise the first word that is no pair is named. Pairs that can
be written down are read back. -/
theorem parse_accepts_pairs (field text : String) :
    (Text.IsSpread (Text.words text) text ∧ ∀ word ∈ Text.words text, Text.IsWord word) ∧
    ((∃ pairs, parse field text = .ok pairs) ↔ ∀ word ∈ Text.words text, IsPair word) ∧
    (∀ pairs, parse field text = .ok pairs →
      pairs.Sorted ∧ ∀ pair, pair ∈ pairs ↔ GivesLast (Text.words text) pair) ∧
    (∀ failure, parse field text = .error failure → ∃ before word after,
      Text.words text = before ++ word :: after ∧ (∀ other ∈ before, IsPair other) ∧
        ¬ IsPair word ∧ failure =
          .invalid ("invalid " ++ field ++ " entry \"" ++ word ++ "\", expected key=value")) ∧
    ∀ pairs order : Pairs, pairs.Sorted → pairs.Keyed → pairs.Spreadable → order.Perm pairs →
      Text.IsSpread (order.map written) text → parse field text = .ok pairs := by
  refine ⟨Text.words_eq_iff.mp rfl, parse_eq_ok_iff field text, fun pairs h => ?_,
    fun failure h => ofWords_eq_error h,
    fun pairs order hs hk hb ho hspread => parse_spread hs hk hb ho hspread⟩
  obtain ⟨hs, hm⟩ := mem_ofWords List.Pairwise.nil h
  refine ⟨hs, fun pair => ?_⟩
  rw [hm]
  simp

theorem options_are_read_back :
    parse "option" "  type=\u2003\t o=size=100m\n" = .ok [("o", "size=100m"), ("type", "")] := by
  have hwords : Text.words "  type=\u2003\t o=size=100m\n" = ["type=", "o=size=100m"] := by decide
  refine (parse_accepts_pairs "option" _).2.2.2.2 _ [("type", ""), ("o", "size=100m")]
    (List.pairwise_pair.mpr (by decide)) ?_ ?_ (.swap _ _ _) (Text.words_eq_iff.mp hwords).1
  · simp [Keyed]
  · simp [Spreadable, Text.isBlank]

example : parse "option" "a=1 b= a==2" = .ok [("a", "=2"), ("b", "")] := by decide

end Deckhand.Pairs
