import Mathlib.Data.Nat.Basic
import Mathlib.Tactic.Tauto
import Deckhand.EscapeFilter

namespace Deckhand.EscapeFilter

def Ends (c : Char) : Prop := 'A' ≤ c ∧ c ≤ 'Z' ∨ 'a' ≤ c ∧ c ≤ 'z' ∨ c = '~'

instance (c : Char) : Decidable (Ends c) :=
  inferInstanceAs (Decidable ('A' ≤ c ∧ c ≤ 'Z' ∨ 'a' ≤ c ∧ c ≤ 'z' ∨ c = '~'))

def Unended (cs : List Char) (i : Nat) : Prop := ∀ k < i, ∀ c ∈ cs[k]?, ¬ Ends c

/-- The sequence that begins at position `j` goes on to position `i`. -/
structure Reaches (cs : List Char) (j i : Nat) : Prop where
  le : j ≤ i
  begins : cs[j]? = some escape
  near : i - j ≤ 10
  unended : ∀ k, j < k → k < i → ∀ c ∈ cs[k]?, ¬ Ends c

def Covered (cs : List Char) (i : Nat) : Prop := ∃ j, Reaches cs j i

/-- The sequence under way goes on to position `i` of what follows. -/
structure Pending (filter : EscapeFilter) (cs : List Char) (i : Nat) : Prop where
  active : filter.active = true
  near : i + filter.length.toNat ≤ 10
  unended : Unended cs i

/-- The count of a filter that has read something. It goes beyond ten when a sequence is cut. -/
structure Sound (filter : EscapeFilter) : Prop where
  length_le : filter.length.toNat ≤ 11
  length_le_of_active : filter.active = true → filter.length.toNat ≤ 10

def after (filter : EscapeFilter) (cs : List Char) : EscapeFilter :=
  cs.foldl (fun filter c => (filter.step c).2) filter

variable {filter : EscapeFilter} {cs : List Char} {c : Char} {i : Nat}

theorem covered_iff : Covered cs i ↔ ∃ j < i + 1, cs[j]? = some escape ∧ i - j ≤ 10 ∧
    ∀ k < i, j < k → cs[k]?.all (fun c => !decide (Ends c)) = true := by
  simp only [Option.all_eq_true, Bool.not_eq_true', decide_eq_false_iff_not]
  constructor
  · rintro ⟨j, h⟩
    exact ⟨j, Nat.lt_succ_of_le h.le, h.begins, h.near, fun k hk hj => h.unended k hj hk⟩
  · rintro ⟨j, hj, hb, hn, hu⟩
    exact ⟨j, Nat.le_of_lt_succ hj, hb, hn, fun k hj hk => hu k hk hj⟩

instance (cs : List Char) : DecidablePred (Covered cs) := fun _ => decidable_of_iff' _ covered_iff

theorem isUpper_iff : c.isUpper = true ↔ 'A' ≤ c ∧ c ≤ 'Z' := decide_eq_true_iff

theorem isLower_iff : c.isLower = true ↔ 'a' ≤ c ∧ c ≤ 'z' :=
  Bool.and_eq_true_iff.trans (and_congr decide_eq_true_iff decide_eq_true_iff)

theorem endsSequence_iff : endsSequence c = true ↔ Ends c := by
  have hends : endsSequence c = (c.isUpper || c.isLower || decide (c = '~')) := rfl
  rw [hends, Bool.or_eq_true, Bool.or_eq_true, isUpper_iff, isLower_iff, decide_eq_true_iff,
    or_assoc]
  rfl

theorem step_escape (filter : EscapeFilter) : filter.step escape = (true, ⟨1, true⟩) := if_pos rfl

theorem step_of_active (hc : c ≠ escape) (h : filter.active = true) :
    filter.step c =
      (true, ⟨filter.length + 1, !(endsSequence c || decide (10 < filter.length + 1))⟩) := by
  simp [step, hc, h]

theorem step_of_inactive (hc : c ≠ escape) (h : filter.active = false) :
    filter.step c = (false, filter) := by
  simp [step, hc, h]

theorem Sound.toNat_length_succ (h : filter.Sound) (ha : filter.active = true) :
    (filter.length + 1).toNat = filter.length.toNat + 1 := by
  have hle := h.length_le_of_active ha
  rw [UInt8.toNat_add, UInt8.toNat_one]
  omega

theorem Sound.length_step (h : filter.Sound) (hc : c ≠ escape) (ha : filter.active = true) :
    (filter.step c).2.length.toNat = filter.length.toNat + 1 := by
  rw [step_of_active hc ha]
  exact h.toNat_length_succ ha

theorem Sound.active_step (h : filter.Sound) (hc : c ≠ escape) (ha : filter.active = true) :
    (filter.step c).2.active = true ↔ ¬ Ends c ∧ filter.length.toNat < 10 := by
  have hten : 10 < filter.length + 1 ↔ ¬ filter.length.toNat < 10 := by
    rw [UInt8.lt_iff_toNat_lt, h.toNat_length_succ ha, Nat.not_lt]
    exact Nat.lt_succ_iff
  rw [step_of_active hc ha, ← endsSequence_iff]
  simp [hten]

theorem sound_new : new.Sound := ⟨by decide, nofun⟩

theorem Sound.step (h : filter.Sound) (c : Char) : (filter.step c).2.Sound := by
  by_cases hc : c = escape
  · subst hc
    rw [step_escape]
    exact ⟨by decide, fun _ => by decide⟩
  cases ha : filter.active with
  | false => rwa [step_of_inactive hc ha]
  | true =>
    have hle := h.length_le_of_active ha
    have hlength := h.length_step hc ha
    refine ⟨by omega, fun hactive => ?_⟩
    have hlt := ((h.active_step hc ha).mp hactive).2
    omega

theorem Sound.after (h : filter.Sound) (cs : List Char) : (filter.after cs).Sound := by
  induction cs generalizing filter with
  | nil => exact h
  | cons c cs ih => exact ih (h.step c)

@[simp] theorem length_marks (filter : EscapeFilter) (cs : List Char) :
    (filter.marks cs).length = cs.length := by
  induction cs generalizing filter with
  | nil => rfl
  | cons c cs ih => exact congrArg (· + 1) (ih _)

theorem marks_append (filter : EscapeFilter) (before rest : List Char) :
    filter.marks (before ++ rest) = filter.marks before ++ (filter.after before).marks rest := by
  induction before generalizing filter with
  | nil => rfl
  | cons c before ih => exact congrArg (_ :: ·) (ih _)

theorem unended_succ : Unended (c :: cs) (i + 1) ↔ ¬ Ends c ∧ Unended cs i := by
  constructor
  · intro h
    exact ⟨h 0 (Nat.succ_pos i) c rfl, fun k hk => h (k + 1) (Nat.succ_lt_succ hk)⟩
  · rintro ⟨hc, h⟩ k hk d hd
    cases k with
    | zero => exact Option.some.inj hd ▸ hc
    | succ k => exact h k (Nat.lt_of_succ_lt_succ hk) d hd

theorem covered_zero : Covered (c :: cs) 0 ↔ c = escape := by
  constructor
  · rintro ⟨j, h⟩
    obtain rfl := Nat.le_zero.mp h.le
    exact Option.some.inj h.begins
  · rintro rfl
    exact ⟨0, Nat.le_refl 0, rfl, Nat.zero_le 10, fun k _ hk => absurd hk (Nat.not_lt_zero k)⟩

theorem covered_succ :
    Covered (c :: cs) (i + 1) ↔ c = escape ∧ i + 1 ≤ 10 ∧ Unended cs i ∨ Covered cs i := by
  constructor
  · rintro ⟨j, h⟩
    cases j with
    | zero =>
      exact .inl ⟨Option.some.inj h.begins, h.near,
        fun k hk => h.unended (k + 1) (Nat.succ_pos k) (Nat.succ_lt_succ hk)⟩
    | succ j =>
      have hnear := h.near
      exact .inr ⟨j, Nat.le_of_succ_le_succ h.le, h.begins, by omega,
        fun k hj hk => h.unended (k + 1) (Nat.succ_lt_succ hj) (Nat.succ_lt_succ hk)⟩
  · rintro (⟨rfl, hi, hu⟩ | ⟨j, h⟩)
    · refine ⟨0, Nat.zero_le _, rfl, hi, fun k hj hk => ?_⟩
      cases k with
      | zero => exact absurd hj (Nat.lt_irrefl 0)
      | succ k => exact hu k (Nat.lt_of_succ_lt_succ hk)
    · have hnear := h.near
      refine ⟨j + 1, Nat.succ_le_succ h.le, h.begins, by omega, fun k hj hk => ?_⟩
      cases k with
      | zero => exact absurd hj (Nat.not_lt_zero _)
      | succ k => exact h.unended k (Nat.lt_of_succ_lt_succ hj) (Nat.lt_of_succ_lt_succ hk)

theorem Sound.pending_step (h : filter.Sound) :
    (filter.step c).2.Pending cs i ↔ c = escape ∧ i + 1 ≤ 10 ∧ Unended cs i ∨
      c ≠ escape ∧ filter.Pending (c :: cs) (i + 1) := by
  by_cases hc : c = escape
  · subst hc
    rw [step_escape]
    constructor
    · exact fun hp => .inl ⟨rfl, hp.near, hp.unended⟩
    · rintro (⟨-, hi, hu⟩ | ⟨hne, -⟩)
      · exact ⟨rfl, hi, hu⟩
      · exact absurd rfl hne
  rw [and_iff_right hc, or_iff_right fun he => hc he.1]
  cases ha : filter.active with
  | false =>
    have hnot : ¬ filter.active = true := by simp [ha]
    rw [step_of_inactive hc ha]
    exact ⟨fun hp => absurd hp.active hnot, fun hp => absurd hp.active hnot⟩
  | true =>
    have hlength := h.length_step hc ha
    constructor
    · intro hp
      have hnear := hp.near
      exact ⟨ha, by omega, unended_succ.mpr ⟨((h.active_step hc ha).mp hp.active).1, hp.unended⟩⟩
    · intro hp
      have hnear := hp.near
      obtain ⟨hends, hu⟩ := unended_succ.mp hp.unended
      exact ⟨(h.active_step hc ha).mpr ⟨hends, by omega⟩, by omega, hu⟩

theorem Sound.pending_zero (h : filter.Sound) : filter.Pending cs 0 ↔ filter.active = true := by
  refine ⟨Pending.active, fun ha => ⟨ha, ?_, fun k hk => absurd hk (Nat.not_lt_zero k)⟩⟩
  rw [Nat.zero_add]
  exact h.length_le_of_active ha

theorem step_fst_iff : (filter.step c).1 = true ↔ filter.active = true ∨ c = escape := by
  unfold step
  split
  · simp [*]
  · split <;> simp [*]

/-- A character is dropped if it belongs to the sequence under way or to one that begins later. -/
theorem Sound.getElem?_marks_iff (h : filter.Sound) :
    (filter.marks cs)[i]? = some true ↔
      i < cs.length ∧ (filter.Pending cs i ∨ Covered cs i) := by
  induction cs generalizing filter i with
  | nil => simp [marks]
  | cons c cs ih =>
    cases i with
    | zero =>
      have hfirst : (filter.marks (c :: cs))[0]? = some (filter.step c).1 := rfl
      rw [hfirst, Option.some.injEq, step_fst_iff, h.pending_zero, covered_zero]
      exact (and_iff_right (Nat.succ_pos _)).symm
    | succ i =>
      have hnext : (filter.marks (c :: cs))[i + 1]? = ((filter.step c).2.marks cs)[i]? := rfl
      have hover (hp : filter.Pending (c :: cs) (i + 1)) : i + 1 ≤ 10 ∧ Unended cs i := by
        have hnear := hp.near
        exact ⟨by omega, (unended_succ.mp hp.unended).2⟩
      rw [hnext, ih (h.step c), h.pending_step, covered_succ, List.length_cons,
        Nat.add_lt_add_iff_right]
      tauto

theorem getElem?_marks_new_iff (cs : List Char) (i : Nat) :
    (new.marks cs)[i]? = some true ↔ i < cs.length ∧ Covered cs i := by
  have hnone : ¬ new.Pending cs i := fun h => Bool.false_ne_true h.active
  rw [sound_new.getElem?_marks_iff, or_iff_right hnone]

theorem marks_new (cs : List Char) :
    new.marks cs = cs.zipIdx.map fun p => decide (Covered cs p.2) := by
  refine List.ext_getElem (by simp) fun i h h' => ?_
  have hi : i < cs.length := by simpa using h
  have hiff := getElem?_marks_new_iff cs i
  rw [List.getElem?_eq_getElem h, Option.some.injEq, and_iff_right hi] at hiff
  rw [List.getElem_map, List.getElem_zipIdx, Bool.eq_iff_iff, hiff, decide_eq_true_iff,
    Nat.zero_add]

theorem passed_eq (filter : EscapeFilter) (cs : List Char) :
    filter.passed cs = ((cs.zip (filter.marks cs)).filter (!·.2)).map Prod.fst := by
  induction cs generalizing filter with
  | nil => rfl
  | cons c cs ih =>
    rw [passed_cons, marks_cons, List.zip_cons_cons, List.filter_cons, ih]
    cases (filter.step c).1 <;> rfl

theorem passed_new (cs : List Char) :
    new.passed cs = (cs.zipIdx.filter fun p => !decide (Covered cs p.2)).map Prod.fst := by
  have hzip : cs.zip (new.marks cs) = cs.zipIdx.map fun p => (p.1, decide (Covered cs p.2)) := by
    rw [marks_new, ← List.zip_map', List.zipIdx_map_fst]
  rw [passed_eq, hzip, List.filter_map, List.map_map]
  rfl

theorem escape_notMem_passed (filter : EscapeFilter) (cs : List Char) :
    escape ∉ filter.passed cs := by
  induction cs generalizing filter with
  | nil => exact List.not_mem_nil
  | cons c cs ih =>
    rw [passed_cons]
    split
    · exact ih _
    · rename_i hd
      have hc : escape ≠ c := fun he => hd (step_fst_iff.mpr (.inr he.symm))
      exact List.not_mem_cons_of_ne_of_not_mem hc (ih _)

theorem marks_of_inactive (ha : filter.active = false) (hcs : escape ∉ cs) :
    filter.marks cs = List.replicate cs.length false := by
  induction cs with
  | nil => rfl
  | cons c cs ih =>
    rw [marks_cons, step_of_inactive (List.ne_of_not_mem_cons hcs).symm ha]
    exact congrArg (false :: ·) (ih (List.not_mem_of_not_mem_cons hcs))

theorem passed_of_inactive (ha : filter.active = false) (hcs : escape ∉ cs) :
    filter.passed cs = cs := by
  induction cs with
  | nil => rfl
  | cons c cs ih =>
    rw [passed_cons, step_of_inactive (List.ne_of_not_mem_cons hcs).symm ha]
    exact congrArg (c :: ·) (ih (List.not_mem_of_not_mem_cons hcs))

/-- A sequence of which some characters have been dropped takes at most as many as are left of the
escape and ten more. -/
theorem Sound.count_marks_le (h : filter.Sound) (ha : filter.active = true) (hcs : escape ∉ cs) :
    (filter.marks cs).count true + filter.length.toNat ≤ 11 := by
  induction cs generalizing filter with
  | nil => exact Nat.le_trans (Nat.le_of_eq (Nat.zero_add _)) h.length_le
  | cons c cs ih =>
    have hc := (List.ne_of_not_mem_cons hcs).symm
    have hcs' := List.not_mem_of_not_mem_cons hcs
    have hlength := h.length_step hc ha
    have hmarks : filter.marks (c :: cs) = true :: (filter.step c).2.marks cs := by
      rw [marks_cons, step_of_active hc ha]
    rw [hmarks, List.count_cons_self]
    cases hactive : (filter.step c).2.active with
    | true =>
      have hrest := ih (h.step c) hactive hcs'
      omega
    | false =>
      have hle := h.length_le_of_active ha
      rw [marks_of_inactive hactive hcs', List.count_replicate, if_neg (by decide)]
      omega

theorem after_escape (filter : EscapeFilter) (before : List Char) :
    filter.after (before ++ [escape]) = ⟨1, true⟩ := by
  rw [after, List.foldl_append, List.foldl_cons, step_escape]
  rfl

theorem marks_append_escape (before rest : List Char) :
    new.marks (before ++ escape :: rest) = new.marks before ++ new.marks (escape :: rest) := by
  rw [marks_append, marks_cons, marks_cons, step_escape, step_escape]

theorem count_marks_after_escape {before rest : List Char} (others : List Char)
    (hrest : escape ∉ rest) :
    (((new.marks (before ++ escape :: rest ++ others)).drop (before.length + 1)).take
      rest.length).count true ≤ 10 := by
  have hsplit : before ++ escape :: rest ++ others = (before ++ [escape]) ++ (rest ++ others) := by
    simp
  have hstart : (new.marks (before ++ [escape])).length = before.length + 1 := by simp
  have hsound : Sound ⟨1, true⟩ := sound_new.step escape
  have hcount : (marks ⟨1, true⟩ rest).count true + 1 ≤ 11 := hsound.count_marks_le rfl hrest
  rw [hsplit, marks_append new (before ++ [escape]), after_escape, List.drop_left' hstart,
    marks_append, List.take_left' (length_marks _ _)]
  exact Nat.le_of_succ_le_succ hcount

/-- A character is dropped if and only if an escape stands at it or at most ten places before it,
with nothing between them that ends a sequence. No escape passes, all other characters outside of
sequences do, in their order, and none of them is dropped when they are read again. -/
theorem drops_exactly_sequences (cs : List Char) :
    (new.marks cs).length = cs.length ∧
    (∀ i, (new.marks cs)[i]? = some true ↔ i < cs.length ∧ ∃ j, Reaches cs j i) ∧
    new.passed cs = (cs.zipIdx.filter fun p => !decide (Covered cs p.2)).map Prod.fst ∧
    escape ∉ new.passed cs ∧
    (∀ before rest, cs = before ++ escape :: rest →
      new.marks cs = new.marks before ++ new.marks (escape :: rest)) ∧
    (∀ before rest others, cs = before ++ escape :: rest ++ others → escape ∉ rest →
      (((new.marks cs).drop (before.length + 1)).take rest.length).count true ≤ 10) ∧
    (new.after cs).length.toNat ≤ 11 ∧
    new.marks (new.passed cs) = List.replicate (new.passed cs).length false ∧
    new.passed (new.passed cs) = new.passed cs := by
  have hpassed := escape_notMem_passed new cs
  refine ⟨length_marks new cs, getElem?_marks_new_iff cs, passed_new cs, hpassed, ?_, ?_,
    (sound_new.after cs).length_le, marks_of_inactive rfl hpassed, passed_of_inactive rfl hpassed⟩
  · rintro before rest rfl
    exact marks_append_escape before rest
  · rintro before rest others rfl hrest
    exact count_marks_after_escape others hrest

def reports : List Char := "a\x1b[\x1b[200;300;8Rb".toList

theorem long_report_is_cut :
    (new.marks reports)[13]? = some true ∧ (new.marks reports)[14]? ≠ some true ∧
    (((new.marks reports).drop 4).take 10).count true ≤ 10 ∧
    new.marks reports = new.marks "a\x1b[".toList ++ new.marks "\x1b[200;300;8Rb".toList := by
  obtain ⟨-, hmarks, -, -, hrestart, hcount, -⟩ := drops_exactly_sequences reports
  have hcovered : Covered reports 13 := by decide
  have hpasses : ¬ Covered reports 14 := by decide
  refine ⟨(hmarks 13).mpr ⟨by decide, hcovered⟩, fun h => hpasses ((hmarks 14).mp h).2,
    hcount "a\x1b[".toList "[200;300;8".toList "Rb".toList rfl (by decide),
    hrestart "a\x1b[".toList "[200;300;8Rb".toList rfl⟩

example : new.passed reports = "aRb".toList := by decide

end Deckhand.EscapeFilter
