import Mathlib.Tactic.SplitIfs
import Deckhand.Toml.Document

namespace Deckhand.Toml

variable {c : Char} {digits rest : List Char} {n : Nat}

theorem ne_of_isDigit {d : Char} (hc : c.isDigit = true) (hd : d.isDigit = false) : c ≠ d := by
  rintro rfl
  rw [hc] at hd
  cases hd

theorem moreDigits_digits (hd : ∀ d ∈ digits, d.isDigit = true) :
    moreDigits Char.isDigit (digits ++ '\n' :: rest) = (digits, '\n' :: rest) := by
  induction digits with
  | nil => rfl
  | cons d digits ih =>
    rw [List.forall_mem_cons] at hd
    rw [List.cons_append, moreDigits.eq_2 _ _ _ (fun _ _ h _ => ne_of_isDigit hd.1 rfl h),
      if_pos hd.1, ih hd.2]

theorem digitGroup_digits (hne : digits ≠ []) (hd : ∀ d ∈ digits, d.isDigit = true) :
    digitGroup Char.isDigit (digits ++ '\n' :: rest) = some (digits, '\n' :: rest) := by
  cases digits with
  | nil => exact absurd rfl hne
  | cons d digits =>
    rw [List.forall_mem_cons] at hd
    rw [List.cons_append, digitGroup, if_pos hd.1, moreDigits_digits hd.2]

theorem head?_toDigits_append (n : Nat) (rest : List Char) :
    (Nat.toDigits 10 n ++ rest).head? = (Nat.toDigits 10 n).head? := by
  obtain ⟨d, digits, he⟩ := List.exists_cons_of_ne_nil (Nat.toDigits_ne_nil (n := n) (b := 10))
  rw [he]
  rfl

theorem eq_zero_of_toDigits (h : (Nat.toDigits 10 n).head? = some '0') : n = 0 := by
  induction n using Nat.strongRecOn with
  | _ n ih =>
    by_cases hn : n < 10
    · rw [Nat.toDigits_of_lt_base hn, List.head?_cons, Option.some.injEq] at h
      exact Nat.digitChar_eq_zero.mp h
    · rw [Nat.toDigits_of_base_le (by decide) (Nat.le_of_not_lt hn),
        head?_toDigits_append] at h
      have hzero := ih (n / 10) (by omega) h
      omega

theorem isDigit_toDigits {d : Char} (h : d ∈ Nat.toDigits 10 n) : d.isDigit = true :=
  Nat.isDigit_of_mem_toDigits (by decide) (by decide) h

theorem wholeDigits_toDigits (n : Nat) (rest : List Char) :
    wholeDigits (Nat.toDigits 10 n ++ '\n' :: rest) = some (Nat.toDigits 10 n, '\n' :: rest) := by
  by_cases hz : n = 0
  · subst hz
    rw [Nat.toDigits_zero]
    rfl
  · rw [wholeDigits.eq_2]
    · exact digitGroup_digits Nat.toDigits_ne_nil fun d => isDigit_toDigits
    · intro tail he
      apply hz
      apply eq_zero_of_toDigits
      rw [← head?_toDigits_append n, he, List.head?_cons]

theorem foldl_digits (start : Nat) (hd : ∀ d ∈ digits, d.isDigit = true) :
    digits.foldl (fun n c => n * 10 + (hexDigit? c).getD 0) start =
      Nat.ofDigitChars 10 digits start := by
  induction digits generalizing start with
  | nil => rfl
  | cons d digits ih =>
    rw [List.forall_mem_cons] at hd
    rw [List.foldl_cons, Nat.ofDigitChars_cons, ih _ hd.2, hexDigit?, if_pos hd.1,
      Option.getD_some, Nat.mul_comm]

theorem valueOf_toDigits (n : Nat) : valueOf 10 (Nat.toDigits 10 n) = n := by
  rw [valueOf, foldl_digits 0 fun _ => isDigit_toDigits, Nat.ofDigitChars_ten_toDigits]

theorem mark?_digits (mark rest : List Char) (hd : ∀ d ∈ digits, d.isDigit = true)
    (hc : c.isDigit = false) (hn : c ≠ '\n') :
    mark? (c :: mark) (digits ++ '\n' :: rest) = none := by
  have hhead (d) (hm : d ∈ digits ++ ['\n']) : (c == d) = false := by
    rw [List.mem_append, List.mem_singleton] at hm
    obtain hm | rfl := hm
    · exact beq_false_of_ne (Ne.symm (ne_of_isDigit (hd d hm) hc))
    · exact beq_false_of_ne hn
  have hprefix : (c :: mark).isPrefixOf (digits ++ '\n' :: rest) = false := by
    cases digits with
    | nil => rw [List.nil_append, List.isPrefixOf, hhead _ List.mem_cons_self, Bool.false_and]
    | cons d digits => rw [List.cons_append, List.isPrefixOf, hhead _ List.mem_cons_self, Bool.false_and]
  rw [mark?, hprefix]
  rfl

theorem twoDigits_digits {low high : Nat} {tail : List Char} (hd : ∀ d ∈ digits, d.isDigit = true)
    (h : twoDigits low high (digits ++ '\n' :: rest) = some (n, tail)) :
    ∃ fewer, (∀ d ∈ fewer, d.isDigit = true) ∧ tail = fewer ++ '\n' :: rest := by
  match digits with
  | [] => cases rest <;> cases h
  | [a] => 
    simp [twoDigits] at h
  | a :: b :: digits => 
    simp [twoDigits] at h
    obtain ⟨-, -, rfl⟩ := h
    exact ⟨digits, fun d hm => hd d (List.mem_cons_of_mem _ (List.mem_cons_of_mem _ hm)), rfl⟩

theorem timeOfDay_digits (hd : ∀ d ∈ digits, d.isDigit = true) :
    timeOfDay (digits ++ '\n' :: rest) = none := by
  refine Option.bind_eq_none_iff.mpr fun (n, tail) h => ?_
  obtain ⟨fewer, hfewer, rfl⟩ := twoDigits_digits hd h
  exact congrArg (Option.bind · _) (mark?_digits [] rest hfewer rfl (by decide))

theorem date_digits (hd : ∀ d ∈ digits, d.isDigit = true) :
    date (digits ++ '\n' :: rest) = none := by
  refine Option.bind_eq_none_iff.mpr fun (n, tail) h => ?_
  obtain ⟨fewer, hfewer, rfl⟩ := twoDigits_digits hd h
  refine Option.bind_eq_none_iff.mpr fun (m, tail) h => ?_
  obtain ⟨fewer, hfewer, rfl⟩ := twoDigits_digits hfewer h
  exact congrArg (Option.bind · _) (mark?_digits [] rest hfewer rfl (by decide))

theorem dateTime_digits (hd : ∀ d ∈ digits, d.isDigit = true) :
    dateTime (digits ++ '\n' :: rest) = none := by
  rw [dateTime, date_digits hd]
  exact timeOfDay_digits hd

theorem sign_digits (hne : digits ≠ []) (hd : ∀ d ∈ digits, d.isDigit = true) :
    sign (digits ++ rest) = (false, digits ++ rest) := by
  cases digits with
  | nil => exact absurd rfl hne
  | cons d digits =>
    have hdigit := hd d List.mem_cons_self
    exact sign.eq_3 _ (fun _ h => ne_of_isDigit hdigit rfl (List.cons.inj h).1)
      (fun _ h => ne_of_isDigit hdigit rfl (List.cons.inj h).1)

theorem sign_toDigits (n : Nat) (rest : List Char) :
    sign (Nat.toDigits 10 n ++ rest) = (false, Nat.toDigits 10 n ++ rest) :=
  sign_digits Nat.toDigits_ne_nil fun _ => isDigit_toDigits

theorem special_toDigits (n : Nat) (rest : List Char) :
    special (Nat.toDigits 10 n ++ '\n' :: rest) = none := by
  have hmark {c} (mark) := mark?_digits (c := c) mark rest fun _ => isDigit_toDigits (n := n)
  rw [special, sign_toDigits]
  change (mark? ['i', 'n', 'f'] _ <|> mark? ['n', 'a', 'n'] _) = none
  rw [hmark _ rfl (by decide), hmark _ rfl (by decide)]
  rfl

theorem decimal_toDigits (n : Nat) (rest : List Char) :
    decimal (Nat.toDigits 10 n ++ '\n' :: rest) = none := by
  rw [decimal, sign_toDigits]
  simp only [wholeDigits_toDigits]
  rfl

theorem eq_lineFeed_of_zero {tail : List Char}
    (h : Nat.toDigits 10 n ++ '\n' :: rest = '0' :: c :: tail) : c = '\n' := by
  have hz : n = 0 := by
    apply eq_zero_of_toDigits
    rw [← head?_toDigits_append n, h, List.head?_cons]
  rw [hz, Nat.toDigits_zero] at h
  exact (List.cons.inj (List.cons.inj h).2).1.symm

theorem integer_toDigits (h : n < Nat.pow 2 63) (rest : List Char) :
    integer (Nat.toDigits 10 n ++ '\n' :: rest) = some ((n : Int), '\n' :: rest) := by
  have hbase {c} (hc : c ≠ '\n') (tail) :
      Nat.toDigits 10 n ++ '\n' :: rest ≠ '0' :: c :: tail :=
    fun he => hc (eq_lineFeed_of_zero he)
  rw [integer.eq_4 _ (hbase (by decide)) (hbase (by decide)) (hbase (by decide)), sign_toDigits]
  refine Option.bind_eq_some_iff.mpr ⟨_, wholeDigits_toDigits n rest, ?_⟩
  change (if valueOf 10 (Nat.toDigits 10 n) < Nat.pow 2 63 then
    some ((valueOf 10 (Nat.toDigits 10 n) : Int), '\n' :: rest) else none) = _
  rw [valueOf_toDigits, if_pos h]

theorem numeric_toDigits (h : n < Nat.pow 2 63) (rest : List Char) :
    numeric (Nat.toDigits 10 n ++ '\n' :: rest) = some (.integer n, '\n' :: rest) := by
  rw [numeric, dateTime_digits fun _ => isDigit_toDigits, decimal_toDigits, special_toDigits,
    integer_toDigits h]
  rfl

end Deckhand.Toml
