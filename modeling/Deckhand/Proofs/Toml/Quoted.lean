import Mathlib.Tactic.SplitIfs
import Deckhand.Toml.Printer

namespace Deckhand.Toml

variable {body : Scan (List Char)} {quote c d : Char} {cs rest : List Char}

structure ReadsEscapes (body : Scan (List Char)) : Prop where
  letter {c d : Char} (rest : List Char) (h : escape? c = some d) :
    body ('\\' :: c :: rest) = push (some d) (body rest)
  number (i j k l : Char) (rest : List Char) :
    body ('\\' :: 'u' :: i :: j :: k :: l :: rest) = push (scalar? [i, j, k, l]) (body rest)
  plain {c : Char} (rest : List Char) (hf : isForbidden c = false) (hq : c ≠ '"') (hb : c ≠ '\\') :
    body (c :: rest) = push (some c) (body rest)

theorem of_escape? (h : escape? c = some d) (rest : List Char) :
    c ≠ 'u' ∧ c ≠ 'U' ∧ endsLine (c :: rest) = false := by
  rw [escape?.eq_def] at h
  split at h
  case h_8 => cases h
  all_goals exact ⟨by decide, by decide, rfl⟩

theorem readsEscapes_basic : ReadsEscapes basicBody where
  letter rest h := by
    obtain ⟨hu, hU, -⟩ := of_escape? h rest
    rw [basicBody.eq_5 _ _ (fun _ _ _ _ _ hc _ => hu hc) (fun _ _ _ _ _ _ _ _ _ hc _ => hU hc), h]
  number i j k l rest := basicBody.eq_3 ..
  plain rest hf hq hb := by
    rw [basicBody.eq_6 _ _ hq (fun _ _ _ _ _ hc _ => hb hc) (fun _ _ _ _ _ _ _ _ _ hc _ => hb hc)
      (fun _ _ hc _ => hb hc), hf, decide_eq_false hb]
    rfl

theorem ne_of_isForbidden (hf : isForbidden c = false) (hd : isForbidden d = true) : c ≠ d := by
  rintro rfl
  rw [hf] at hd
  cases hd

theorem readsEscapes_multiLine : ReadsEscapes (multiLineBasicBody false) where
  letter rest h := by
    obtain ⟨hu, hU, he⟩ := of_escape? h rest
    rw [multiLineBasicBody.eq_9 _ _ _ (fun _ _ _ _ _ hc _ => hu hc)
      (fun _ _ _ _ _ _ _ _ _ hc _ => hU hc), he, h]
    rfl
  number i j k l rest := multiLineBasicBody.eq_7 ..
  plain rest hf hq hb := by
    rw [multiLineBasicBody.eq_10 _ _ _ (fun _ hc _ => ne_of_isForbidden hf rfl hc)
      (ne_of_isForbidden hf rfl) (fun _ hc _ => hq hc) (fun _ hc _ => hq hc) (fun _ hc _ => hq hc)
      (fun _ _ _ _ _ hc _ => hb hc) (fun _ _ _ _ _ _ _ _ _ hc _ => hb hc)
      (fun _ _ hc _ => hb hc), hf, decide_eq_false hb]
    rfl

theorem hexDigit?_upperDigit : ∀ n < 16, hexDigit? (upperDigit n) = some n := by
  decide

theorem scalar?_upperDigits {n : Nat} (h : n < 0xd800) :
    scalar? [upperDigit (n / 4096 % 16), upperDigit (n / 256 % 16), upperDigit (n / 16 % 16),
      upperDigit (n % 16)] = some (Char.ofNat n) := by
  have hn : ((n / 4096 % 16 * 16 + n / 256 % 16) * 16 + n / 16 % 16) * 16 + n % 16 = n := by
    omega
  have hdigit (m : Nat) : hexDigit? (upperDigit (m % 16)) = some (m % 16) :=
    hexDigit?_upperDigit _ (Nat.mod_lt m (by decide))
  simp [scalar?, hdigit, hn, h]

theorem ReadsEscapes.numbered (h : ReadsEscapes body) (hf : isForbidden c = true) :
    body (numbered c ++ rest) = push (some c) (body rest) := by
  have hc : c.toNat < 0xd800 := by
    simp [isForbidden] at hf
    omega
  have hread := scalar?_upperDigits hc
  rw [Char.ofNat_toNat] at hread
  rw [← hread]
  exact h.number ..

theorem ReadsEscapes.char (h : ReadsEscapes body) (hq : c ≠ '"') (rest : List Char) :
    body (escapeChar c ++ rest) = push (some c) (body rest) := by
  rw [escapeChar]
  split_ifs with hb ht hp hr hs hf
  · subst hb
    exact h.letter rest rfl
  · subst ht
    exact h.letter rest rfl
  · subst hp
    exact h.letter rest rfl
  · subst hr
    exact h.letter rest rfl
  · subst hs
    exact h.letter rest rfl
  · exact h.numbered hf
  · exact h.plain rest (Bool.eq_false_iff.mpr hf) hq hs

theorem escapeChar_head (hq : c ≠ '"') :
    ∃ d tail, escapeChar c = d :: tail ∧ isForbidden d = false ∧ d ≠ '"' := by
  rw [escapeChar]
  split_ifs with hb ht hp hr hs hf
  · exact ⟨_, _, rfl, rfl, by decide⟩
  · exact ⟨_, _, rfl, rfl, by decide⟩
  · exact ⟨_, _, rfl, rfl, by decide⟩
  · exact ⟨_, _, rfl, rfl, by decide⟩
  · exact ⟨_, _, rfl, rfl, by decide⟩
  · exact ⟨_, _, rfl, rfl, by decide⟩
  · exact ⟨_, _, rfl, Bool.eq_false_iff.mpr hf, hq⟩

theorem basicBody_basicChars (cs rest : List Char) :
    basicBody (basicChars cs ++ '"' :: rest) = some (cs, rest) := by
  induction cs using basicChars.induct with
  | case1 => rfl
  | case2 cs ih =>
    rw [basicChars, List.cons_append, List.cons_append, readsEscapes_basic.letter _ rfl, ih]
    rfl
  | case3 cs ih =>
    rw [basicChars, List.cons_append, List.cons_append, readsEscapes_basic.letter _ rfl, ih]
    rfl
  | case4 c cs hq hn ih =>
    rw [basicChars.eq_4 _ _ hq hn, List.append_assoc, readsEscapes_basic.char hq, ih]
    rfl

theorem literalBody_self (h : ∀ c ∈ cs, isForbidden c = false ∧ c ≠ '\'') :
    literalBody (cs ++ '\'' :: rest) = some (cs, rest) := by
  induction cs with
  | nil => rfl
  | cons c cs ih =>
    rw [List.forall_mem_cons] at h
    rw [List.cons_append, literalBody.eq_3 _ _ h.1.2, h.1.1, ih h.2]
    rfl

def leading (quote : Char) (cs : List Char) : Nat := (cs.takeWhile (· == quote)).length

theorem leading_cons_self (quote : Char) (cs : List Char) :
    leading quote (quote :: cs) = leading quote cs + 1 := by
  simp [leading]

theorem leading_cons_of_ne (h : c ≠ quote) (cs : List Char) : leading quote (c :: cs) = 0 := by
  simp [leading, h]

/-- How a body is read up to its closing quotes: those are triple, and up to two may stand before
them. -/
structure ReadsQuotes (quote : Char) (body : Scan (List Char)) : Prop where
  two (rest : List Char) :
    body (quote :: quote :: quote :: quote :: quote :: rest) = some ([quote, quote], rest)
  one {rest : List Char} (h : rest.head? ≠ some quote) :
    body (quote :: quote :: quote :: quote :: rest) = some ([quote], rest)
  close {rest : List Char} (h : rest.head? ≠ some quote) :
    body (quote :: quote :: quote :: rest) = some ([], rest)
  single {cs : List Char} (h : leading quote cs < 2) :
    body (quote :: cs) = push (some quote) (body cs)

theorem readsQuotes_basic : ReadsQuotes '"' (multiLineBasicBody false) where
  two rest := multiLineBasicBody.eq_4 ..
  one h := multiLineBasicBody.eq_5 _ _ (fun _ he => h (by rw [he]; rfl))
  close h := multiLineBasicBody.eq_6 _ _ (fun _ he => h (by rw [he]; rfl))
    (fun _ he => h (by rw [he]; rfl))
  single {cs} h := by
    have hq (rest) : cs ≠ '"' :: '"' :: rest := by
      rintro rfl
      rw [leading_cons_self, leading_cons_self] at h
      omega
    rw [multiLineBasicBody.eq_10 _ '"' _ nofun nofun (fun _ _ he => hq _ he) (fun _ _ he => hq _ he)
      (fun _ _ he => hq _ he) nofun nofun nofun]
    rfl

theorem readsQuotes_literal : ReadsQuotes '\'' multiLineLiteralBody where
  two rest := multiLineLiteralBody.eq_4 ..
  one h := multiLineLiteralBody.eq_5 _ (fun _ he => h (by rw [he]; rfl))
  close h := multiLineLiteralBody.eq_6 _ (fun _ he => h (by rw [he]; rfl))
    (fun _ he => h (by rw [he]; rfl))
  single {cs} h := by
    have hq (rest) : cs ≠ '\'' :: '\'' :: rest := by
      rintro rfl
      rw [leading_cons_self, leading_cons_self] at h
      omega
    rw [multiLineLiteralBody.eq_7 '\'' _ nofun nofun (fun _ _ he => hq _ he) (fun _ _ he => hq _ he)
      (fun _ _ he => hq _ he)]
    rfl

/-- A text and how it is written between triple quotes, if `before` quotes stand just before: there
are never three in a row, and all else is written so that it is read back. -/
inductive Written (quote : Char) (body : Scan (List Char)) :
    Nat → List Char → List Char → Prop where
  | nil {before : Nat} : Written quote body before [] []
  | quote {before : Nat} {written cs : List Char} (h : before < 2)
    (hw : Written quote body (before + 1) written cs) :
    Written quote body before (quote :: written) (quote :: cs)
  | char {before : Nat} {c d : Char} (tail : List Char) {written cs : List Char} (hd : d ≠ quote)
    (h : ∀ rest, body (d :: tail ++ rest) = push (some c) (body rest))
    (hw : Written quote body 0 written cs) :
    Written quote body before (d :: tail ++ written) (c :: cs)

theorem Written.start {before : Nat} {written : List Char}
    (h : Written quote body before written cs) (hb : before ≤ 2) :
    (∃ n ≤ 2 - before, written = List.replicate n quote ∧ cs = List.replicate n quote) ∨
      ∀ tail, leading quote (written ++ tail) ≤ 2 - before := by
  -- The quotes that it starts with are few, or it holds nothing else.
  induction h with
  | nil => exact .inl ⟨0, Nat.zero_le _, rfl, rfl⟩
  | @quote before _ _ hlt hw ih =>
    obtain ⟨n, hn, rfl, rfl⟩ | hfew := ih hlt
    · exact .inl ⟨n + 1, by omega, rfl, rfl⟩
    · refine .inr fun tail => ?_
      have hf := hfew tail
      rw [List.cons_append, leading_cons_self]
      omega
  | char tail hd h hw ih =>
    refine .inr fun tail => ?_
    rw [List.cons_append, List.cons_append, leading_cons_of_ne hd]
    exact Nat.zero_le _

theorem Written.read {before : Nat} {written : List Char} (hq : ReadsQuotes quote body)
    (h : Written quote body before written cs) (hb : before ≤ 2) (hr : rest.head? ≠ some quote) :
    body (written ++ quote :: quote :: quote :: rest) = some (cs, rest) := by
  induction h with
  | nil => exact hq.close hr
  | @quote before written cs hlt hw ih =>
    -- quotes at the end of the text are read together with the closing ones
    obtain ⟨n, hn, rfl, rfl⟩ | hfew := hw.start hlt
    · obtain rfl | rfl : n = 0 ∨ n = 1 := by omega
      · exact hq.one hr
      · exact hq.two rest
    · have hf := hfew (quote :: quote :: quote :: rest)
      rw [List.cons_append, hq.single (by omega), ih hlt]
      rfl
  | char tail hd h hw ih =>
    rw [List.append_assoc, h, ih (Nat.zero_le 2)]
    rfl

theorem written_basic (cs : List Char) {quotes : Nat} (hb : quotes ≤ 2) :
    Written '"' (multiLineBasicBody false) quotes (multiLineBasicChars quotes cs) cs := by
  induction quotes, cs using multiLineBasicChars.induct with
  | case1 quotes => exact .nil
  | case2 cs ih => 
    rw [multiLineBasicChars, if_pos rfl]
    exact .char ['"'] (by decide) (fun rest => readsEscapes_multiLine.letter rest rfl)
      (ih (Nat.zero_le 2))
  | case3 quotes cs hne ih =>
    rw [multiLineBasicChars, if_neg hne]
    exact .quote (by omega) (ih (by omega))
  | case4 quotes cs ih =>
    rw [multiLineBasicChars]
    exact .char [] (by decide) (fun rest => multiLineBasicBody.eq_3 ..)
      (ih (Nat.zero_le 2))
  | case5 quotes c cs hq hn ih =>
    rw [multiLineBasicChars.eq_4 _ _ _ hq hn]
    have hread (rest) := readsEscapes_multiLine.char hq rest
    obtain ⟨d, tail, he, -, hd⟩ := escapeChar_head hq
    rw [he] at hread ⊢
    exact .char tail hd hread (ih (Nat.zero_le 2))

theorem le_longestRun (wanted : Char) (run : Nat) (cs : List Char) :
    run ≤ longestRun wanted run cs := by
  induction cs generalizing run with
  | nil => exact Nat.le_refl run
  | cons c cs ih =>
    rw [longestRun]
    split_ifs
    · exact Nat.le_of_succ_le (ih (run + 1))
    · exact Nat.le_max_left ..

theorem multiLineLiteralBody_cons (hq : c ≠ '\'') (hc : isForbidden c = true → c = '\n') :
    multiLineLiteralBody (c :: rest) = push (some c) (multiLineLiteralBody rest) := by
  by_cases hf : isForbidden c = true
  · rw [hc hf]
    exact multiLineLiteralBody.eq_3 rest
  · rw [Bool.not_eq_true] at hf
    rw [multiLineLiteralBody.eq_7 _ _ (fun _ he _ => ne_of_isForbidden hf rfl he)
      (ne_of_isForbidden hf rfl) (fun _ he _ => hq he) (fun _ he _ => hq he)
      (fun _ he _ => hq he), hf]
    rfl

theorem written_literal {before : Nat} (hc : ∀ c ∈ cs, isForbidden c = true → c = '\n')
    (hb : longestRun '\'' before cs ≤ 2) :
    Written '\'' multiLineLiteralBody before cs cs := by
  induction cs generalizing before with
  | nil => exact .nil
  | cons c cs ih =>
    rw [List.forall_mem_cons] at hc
    rw [longestRun] at hb
    split_ifs at hb with hq
    · subst hq
      exact .quote (Nat.le_trans (le_longestRun ..) hb) (ih hc.2 hb)
    · exact .char [] hq (fun rest => multiLineLiteralBody_cons hq hc.1)
        (ih hc.2 (Nat.le_trans (Nat.le_max_right ..) hb))

theorem dropLineBreak_opening {written tail : List Char}
    (h : '\n' ∉ cs → ∃ d rest, written ++ tail = d :: rest ∧ isForbidden d = false) :
    dropLineBreak (opening cs ++ written ++ tail) = written ++ tail := by
  rw [opening]
  split_ifs with hn
  · rfl
  · obtain ⟨d, rest, he, hd⟩ := h (by simpa using hn)
    rw [List.nil_append, he]
    exact dropLineBreak.eq_3 _ (fun _ he => by cases he; cases hd) (fun _ he => by cases he; cases hd)

theorem basicChars_head (c : Char) (cs : List Char) :
    ∃ d tail, basicChars (c :: cs) = d :: tail ∧ d ≠ '"' := by
  by_cases hq : c = '"'
  · subst hq
    exact ⟨_, _, rfl, by decide⟩
  · by_cases hn : c = '\n'
    · subst hn
      exact ⟨_, _, rfl, by decide⟩
    · obtain ⟨d, tail, he, -, hd⟩ := escapeChar_head hq
      rw [basicChars.eq_4 _ _ hq hn, he]
      exact ⟨d, _, rfl, hd⟩

theorem multiLineBasicChars_head (hn : c ≠ '\n') (cs : List Char) :
    ∃ d tail, multiLineBasicChars 0 (c :: cs) = d :: tail ∧ isForbidden d = false := by
  by_cases hq : c = '"'
  · subst hq
    exact ⟨_, _, rfl, rfl⟩
  · obtain ⟨d, tail, he, hd, -⟩ := escapeChar_head hq
    rw [multiLineBasicChars.eq_4 _ _ _ hq hn, he]
    exact ⟨d, _, rfl, hd⟩

theorem quoted_basic (cs : List Char) (hr : rest.head? ≠ some '"') :
    quoted ('"' :: (basicChars cs ++ '"' :: rest)) = some (cs, rest) := by
  have hopen (tail) : basicChars cs ++ '"' :: rest ≠ '"' :: '"' :: tail := by
    intro he
    cases cs with
    | nil =>
      cases he
      exact hr rfl
    | cons c cs =>
      obtain ⟨d, _, hd, hne⟩ := basicChars_head c cs
      rw [hd] at he
      exact hne (List.cons.inj he).1
  rw [quoted.eq_2 _ hopen, basicBody_basicChars]

theorem quoted_literal (h : ∀ c ∈ cs, isForbidden c = false ∧ c ≠ '\'')
    (hr : rest.head? ≠ some '\'') :
    quoted ('\'' :: (cs ++ '\'' :: rest)) = some (cs, rest) := by
  have hopen (tail) : cs ++ '\'' :: rest ≠ '\'' :: '\'' :: tail := by
    intro he
    cases cs with
    | nil =>
      cases he
      exact hr rfl
    | cons c cs =>
      exact (h c List.mem_cons_self).2 (List.cons.inj he).1
  rw [quoted.eq_4 _ hopen, literalBody_self h]

theorem quoted_multiLineBasic (cs : List Char) (hr : rest.head? ≠ some '"') :
    quoted ('"' :: '"' :: '"' ::
      (opening cs ++ multiLineBasicChars 0 cs ++ '"' :: '"' :: '"' :: rest)) = some (cs, rest) := by
  rw [quoted, dropLineBreak_opening]
  · exact (written_basic cs (Nat.zero_le 2)).read readsQuotes_basic (Nat.zero_le 2) hr
  · intro hn
    cases cs with
    | nil => exact ⟨_, _, rfl, rfl⟩
    | cons c cs =>
      rw [List.mem_cons, not_or] at hn
      obtain ⟨d, tail, he, hd⟩ := multiLineBasicChars_head (Ne.symm hn.1) cs
      rw [he]
      exact ⟨d, _, rfl, hd⟩

theorem quoted_multiLineLiteral (hc : ∀ c ∈ cs, isForbidden c = true → c = '\n')
    (hb : longestRun '\'' 0 cs ≤ 2) (hr : rest.head? ≠ some '\'') :
    quoted ('\'' :: '\'' :: '\'' :: (opening cs ++ cs ++ '\'' :: '\'' :: '\'' :: rest)) =
      some (cs, rest) := by
  rw [quoted, dropLineBreak_opening]
  · exact (written_literal hc hb).read readsQuotes_literal (Nat.zero_le 2) hr
  · intro hn
    cases cs with
    | nil => exact ⟨_, _, rfl, rfl⟩
    | cons c cs =>
      rw [List.mem_cons, not_or] at hn
      refine ⟨c, _, rfl, Bool.eq_false_iff.mpr fun hf => ?_⟩
      exact hn.1 (hc c List.mem_cons_self hf).symm

theorem notMem_of_longestRun {wanted : Char} {run : Nat} (h : longestRun wanted run cs = 0) :
    wanted ∉ cs := by
  induction cs generalizing run with
  | nil => exact List.not_mem_nil
  | cons c cs ih =>
    rw [longestRun] at h
    split_ifs at h with hc
    · have hrun := le_longestRun wanted (run + 1) cs
      omega
    · have hrest : longestRun wanted 0 cs = 0 := by omega
      rw [List.mem_cons, not_or]
      exact ⟨Ne.symm hc, ih hrest⟩

theorem of_controls (h : (cs.any fun c => isForbidden c && c != '\n') = false) :
    ∀ c ∈ cs, isForbidden c = true → c = '\n' := by
  intro c hc hf
  have hn := List.any_eq_false.mp h c hc
  rw [hf, Bool.true_and, bne_iff_ne, Decidable.not_not] at hn
  exact hn

theorem of_formOf_literal (h : formOf cs = .literal) :
    ∀ c ∈ cs, isForbidden c = false ∧ c ≠ '\'' := by
  simp only [formOf] at h
  split_ifs at h with h1 h2
  rw [Bool.and_eq_true, Bool.and_eq_true, Bool.not_eq_true', Bool.not_eq_true',
    decide_eq_true_eq, List.contains_eq_mem, decide_eq_false_iff_not] at h2
  obtain ⟨⟨hc, hs⟩, hn⟩ := h2
  intro c hm
  constructor
  · exact Bool.eq_false_iff.mpr fun hf => hn (of_controls hc c hm hf ▸ hm)
  · rintro rfl
    exact notMem_of_longestRun hs hm

theorem of_formOf_multiLineLiteral (h : formOf cs = .multiLineLiteral) :
    (∀ c ∈ cs, isForbidden c = true → c = '\n') ∧ longestRun '\'' 0 cs ≤ 2 := by
  simp only [formOf] at h
  split_ifs at h with h1 h2 h3 h4
  rw [Bool.and_eq_true, Bool.not_eq_true', decide_eq_true_eq] at h4
  exact ⟨of_controls h4.1, h4.2⟩

/-- Whatever the form, a string is read back if no quote follows. -/
theorem quoted_stringChars (cs : List Char) (hd : rest.head? ≠ some '"')
    (hs : rest.head? ≠ some '\'') : quoted (stringChars cs ++ rest) = some (cs, rest) := by
  rw [stringChars]
  cases hf : formOf cs with
  | basic => simpa using quoted_basic cs hd
  | literal => simpa using quoted_literal (of_formOf_literal hf) hs
  | multiLineBasic => simpa using quoted_multiLineBasic cs hd
  | multiLineLiteral =>
    obtain ⟨hc, hb⟩ := of_formOf_multiLineLiteral hf
    simpa using quoted_multiLineLiteral hc hb hs

end Deckhand.Toml
