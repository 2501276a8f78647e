import Deckhand.Proofs.Toml.Number
import Deckhand.Proofs.Toml.Quoted

namespace Deckhand.Toml

variable {c : Char} {cs rest : List Char} {key : String}

theorem skipBlanks_cons (hc : isBlank c = false) (rest : List Char) :
    skipBlanks (c :: rest) = c :: rest :=
  List.dropWhile_cons_of_neg (Bool.eq_false_iff.mp hc)

/-- What is written for a value at the end of a line is read back as that value. -/
structure Reads (text : List Char) (scalar : Scalar) : Prop where
  notBlank (rest : List Char) : skipBlanks (text ++ rest) = text ++ rest
  value (depth fuel : Nat) (rest : List Char) :
    value depth (fuel + 1) (text ++ '\n' :: rest) = some (scalar, '\n' :: rest)

theorem stringChars_head (cs : List Char) :
    ∃ quote tail, stringChars cs = quote :: tail ∧ (quote = '"' ∨ quote = '\'') := by
  rw [stringChars]
  cases formOf cs with
  | basic | multiLineBasic => exact ⟨_, _, rfl, .inl rfl⟩
  | literal | multiLineLiteral => exact ⟨_, _, rfl, .inr rfl⟩

theorem reads_stringChars (cs : List Char) :
    Reads (stringChars cs) (.string (String.ofList cs)) where
  notBlank rest := by
    obtain ⟨quote, tail, he, rfl | rfl⟩ := stringChars_head cs <;> rw [he] <;> rfl
  value depth fuel rest := by
    have hread : quoted (stringChars cs ++ '\n' :: rest) = some (cs, '\n' :: rest) :=
      quoted_stringChars cs (by simp) (by simp)
    obtain ⟨quote, tail, he, hq⟩ := stringChars_head cs
    rw [he] at hread ⊢
    rw [List.cons_append] at hread ⊢
    rw [value, if_pos (by simpa using hq), hread]
    rfl

theorem value_digit (hd : c.isDigit = true) (depth fuel : Nat) (rest : List Char) :
    value depth (fuel + 1) (c :: rest) = numeric (c :: rest) := by
  have hne {d : Char} (h : d.isDigit = false) : c ≠ d := ne_of_isDigit hd h
  simp [value, hd, hne (d := '"') rfl, hne (d := '\'') rfl, hne (d := '[') rfl,
    hne (d := '\x7b') rfl, hne (d := 't') rfl, hne (d := 'f') rfl, hne (d := 'i') rfl,
    hne (d := 'n') rfl]

theorem reads_toDigits {n : Nat} (h : n < Nat.pow 2 63) :
    Reads (Nat.toDigits 10 n) (.integer n) := by
  have hread := numeric_toDigits h
  obtain ⟨d, digits, he⟩ := List.exists_cons_of_ne_nil (Nat.toDigits_ne_nil (n := n) (b := 10))
  have hd : d.isDigit = true := isDigit_toDigits (he ▸ List.mem_cons_self)
  rw [he] at hread ⊢
  constructor
  · intro rest
    apply skipBlanks_cons
    simp [isBlank, ne_of_isDigit hd (d := ' ') rfl, ne_of_isDigit hd (d := '\t') rfl]
  · intro depth fuel rest
    exact (value_digit hd depth fuel _).trans (hread rest)

def IsBare (key : String) : Prop := key.toList ≠ [] ∧ key.toList.all isBareKeyChar = true

instance (key : String) : Decidable (IsBare key) := inferInstanceAs (Decidable (_ ∧ _))

theorem ne_of_isBareKeyChar {d : Char} (hc : isBareKeyChar c = true)
    (hd : isBareKeyChar d = false) : c ≠ d := by
  rintro rfl
  rw [hc] at hd
  cases hd

theorem IsBare.exists_cons (h : IsBare key) :
    ∃ c cs, key.toList = c :: cs ∧ isBareKeyChar c = true := by
  obtain ⟨c, cs, he⟩ := List.exists_cons_of_ne_nil h.1
  exact ⟨c, cs, he, List.all_eq_true.mp h.2 c (he ▸ List.mem_cons_self)⟩

theorem skipBlanks_key (h : IsBare key) (rest : List Char) :
    skipBlanks (key.toList ++ rest) = key.toList ++ rest := by
  obtain ⟨c, cs, he, hc⟩ := h.exists_cons
  rw [he]
  apply skipBlanks_cons
  simp [isBlank, ne_of_isBareKeyChar hc (d := ' ') rfl, ne_of_isBareKeyChar hc (d := '\t') rfl]

theorem simpleKey_bare (h : IsBare key) (rest : List Char) :
    simpleKey (key.toList ++ ' ' :: rest) = some (key, ' ' :: rest) := by
  have hbare := List.all_eq_true.mp h.2
  have htake : (key.toList ++ ' ' :: rest).takeWhile isBareKeyChar = key.toList := by
    rw [List.takeWhile_append_of_pos hbare, List.takeWhile_cons_of_neg (by decide), List.append_nil]
  have hdrop : (key.toList ++ ' ' :: rest).dropWhile isBareKeyChar = ' ' :: rest := by
    rw [List.dropWhile_append_of_pos hbare, List.dropWhile_cons_of_neg (by decide)]
  obtain ⟨c, cs, he, hc⟩ := h.exists_cons
  have hne {d : Char} (hd : isBareKeyChar d = false) (tail) :
      key.toList ++ ' ' :: rest ≠ d :: tail := by
    rw [he]
    exact fun heq => ne_of_isBareKeyChar hc hd (List.cons.inj heq).1
  rw [simpleKey.eq_3 _ (hne rfl) (hne rfl), htake, hdrop, List.isEmpty_eq_false_iff.mpr h.1,
    String.ofList_toList]
  rfl

theorem key_bare (h : IsBare key) (rest : List Char) :
    Toml.key (key.toList ++ ' ' :: '=' :: rest) = some ([key], '=' :: rest) := by
  rw [Toml.key, depthLimit, keyParts, skipBlanks_key h, simpleKey_bare h]
  rfl

structure Field where
  key : String
  text : List Char
  scalar : Scalar

namespace Field

def line (field : Field) : List Char :=
  field.key.toList ++ ' ' :: '=' :: ' ' :: (field.text ++ ['\n'])

def entry (field : Field) : String × Node := (field.key, .value field.scalar)

structure Readable (field : Field) : Prop where
  key : IsBare field.key
  value : Reads field.text field.scalar

theorem Readable.head {field : Field} (h : field.Readable) (he : field.line ++ rest = c :: cs) :
    isBareKeyChar c = true := by
  obtain ⟨d, tail, hkey, hd⟩ := h.key.exists_cons
  rw [line, hkey] at he
  rw [← (List.cons.inj he).1]
  exact hd

theorem line_ne_nil (field : Field) : field.line ≠ [] := by
  simp [line]

theorem Readable.assignment {field : Field} (h : field.Readable) (rest : List Char) :
    assignment (field.line ++ rest) = some (([field.key], field.scalar), rest) := by
  have hline : field.line ++ rest =
      field.key.toList ++ ' ' :: '=' :: (' ' :: (field.text ++ '\n' :: rest)) := by
    simp [line]
  have hskip : skipBlanks (' ' :: (field.text ++ '\n' :: rest)) = field.text ++ '\n' :: rest :=
    h.value.notBlank _
  have hmark : mark? ['='] ('=' :: ' ' :: (field.text ++ '\n' :: rest)) =
      some (' ' :: (field.text ++ '\n' :: rest)) := rfl
  rw [Toml.assignment, hline, key_bare h.key]
  simp only [Option.bind_eq_bind, Option.bind_some, hmark, hskip, h.value.value]
  rfl

theorem Readable.lines {field : Field} (h : field.Readable) {filling : Filling} {fuel : Nat}
    (rest : List Char) :
    lines (fuel + 1) filling (field.line ++ rest) =
      (filling.add [field.key] (.value field.scalar)).bind (lines fuel · rest) := by
  have hassign := h.assignment rest
  have hskip : skipBlanks (field.line ++ rest) = field.line ++ rest := by
    rw [line, List.append_assoc]
    exact skipBlanks_key h.key _
  have hhead {d : Char} {tail} (hd : isBareKeyChar d = false) : field.line ++ rest ≠ d :: tail :=
    fun he => ne_of_isBareKeyChar (h.head he) hd rfl
  -- the line starts with its key, so it is no empty line, no comment and no header
  rw [Toml.lines, hskip]
  split
  · rename_i he
    cases field.line_ne_nil (List.append_eq_nil_iff.mp he).1
  · rename_i he
    cases hhead rfl he
  · rename_i he
    cases hhead rfl he
  · rename_i he
    cases hhead rfl he
  · rename_i he
    cases hhead rfl he
  · rw [hassign]
    rfl

end Field

theorem set_new {entries : Entries} (h : entries.lookup key = none) (node : Node) :
    entries.set key node = entries ++ [(key, node)] := by
  induction entries with
  | nil => rfl
  | cons entry entries ih =>
    obtain ⟨k, n⟩ := entry
    rw [List.lookup_cons] at h
    split at h
    · cases h
    · rename_i hk
      rw [Entries.set, if_neg (fun he => by simp [he] at hk), ih h]
      rfl

theorem add_new {filling : Filling} (h : filling.current.lookup key = none) (node : Node) :
    filling.add [key] node = some { filling with current := filling.current ++ [(key, node)] } := by
  simp [Filling.add, Entries.insert, Entries.modifyAt, h, set_new h]

def document (fields : List Field) : List Char := fields.flatMap Field.line

theorem lines_document {fields : List Field} {filling : Filling} {fuel : Nat}
    (hread : ∀ field ∈ fields, field.Readable) (hkeys : (fields.map Field.key).Nodup)
    (hnew : ∀ field ∈ fields, filling.current.lookup field.key = none)
    (hfuel : fields.length < fuel) :
    lines fuel filling (document fields) =
      { filling with current := filling.current ++ fields.map Field.entry }.close := by
  induction fields generalizing filling fuel with
  | nil =>
    obtain ⟨fuel, rfl⟩ := Nat.exists_eq_add_one_of_ne_zero (Nat.ne_zero_of_lt hfuel)
    rw [List.map_nil, List.append_nil]
    rfl
  | cons field fields ih =>
    obtain ⟨fuel, rfl⟩ := Nat.exists_eq_add_one_of_ne_zero (Nat.ne_zero_of_lt hfuel)
    rw [List.forall_mem_cons] at hread hnew
    rw [List.map_cons, List.nodup_cons] at hkeys
    rw [document, List.flatMap_cons, hread.1.lines, add_new hnew.1, Option.bind_some, ← document,
      ih hread.2 hkeys.2 _ (Nat.lt_of_succ_lt_succ hfuel)]
    · simp [Field.entry]
    · intro other hother
      have hne : other.key ≠ field.key := by
        intro he
        exact hkeys.1 (he ▸ List.mem_map_of_mem hother)
      rw [List.lookup_append, hnew.2 other hother, Option.none_or, List.lookup_cons,
        beq_false_of_ne hne]
      rfl

theorem length_le_document (fields : List Field) : fields.length ≤ (document fields).length := by
  induction fields with
  | nil => exact Nat.le_refl 0
  | cons field fields ih =>
    have hline := List.length_pos_iff.mpr field.line_ne_nil
    rw [document, List.flatMap_cons, ← document, List.length_append, List.length_cons]
    omega

theorem document_ne {fields : List Field} (hread : ∀ field ∈ fields, field.Readable)
    (hc : isBareKeyChar c = false) : document fields ≠ c :: cs := by
  intro he
  cases fields with
  | nil => cases he
  | cons field fields =>
    have hbare := (hread field List.mem_cons_self).head he
    rw [hc] at hbare
    cases hbare

theorem parse?_document {fields : List Field} (hread : ∀ field ∈ fields, field.Readable)
    (hkeys : (fields.map Field.key).Nodup) :
    parse? (String.ofList (document fields)) = some (fields.map Field.entry) := by
  have hlines : lines ((document fields).length + 1) .start (document fields) =
      some (fields.map Field.entry) :=
    lines_document hread hkeys (fun _ _ => rfl) (Nat.lt_succ_of_le (length_le_document fields))
  rw [parse?, String.toList_ofList]
  split
  · rename_i he
    cases document_ne hread (by decide) he
  · exact hlines

end Deckhand.Toml
