import Mathlib.Tactic.SplitIfs
import Deckhand.Text.Utf8

namespace Deckhand.Text

open String (utf8EncodeChar)

theorem toList_loop (bytes : ByteArray) (i : Nat) (read : List UInt8) :
    ByteArray.toList.loop bytes i read = read.reverse ++ bytes.data.toList.drop i := by
  fun_induction ByteArray.toList.loop bytes i read with
  | case1 i read h ih =>
    have hi : i < bytes.data.toList.length := h
    have hget : bytes.get! i = bytes.data.toList[i] := getElem!_pos bytes.data i h
    rw [ih, List.drop_eq_getElem_cons hi, List.reverse_cons, List.append_assoc, hget]
    rfl
  | case2 i read h =>
    have hi : bytes.data.toList.length ≤ i := Nat.le_of_not_lt h
    rw [List.drop_eq_nil_of_le hi, List.append_nil]

theorem toList_toUTF8 (text : String) :
    text.toUTF8.toList = text.toList.flatMap utf8EncodeChar := by
  rw [ByteArray.toList, toList_loop, String.toUTF8_eq_toByteArray, ← String.utf8Encode_toList,
    List.utf8Encode, List.toList_data_toByteArray]
  rfl

namespace Utf8State

variable {owed n m lead : Nat} {low high : UInt8}

/-- One more byte, after what is read already, the last first. -/
def feed : Utf8State × List (Option Char) → UInt8 → Utf8State × List (Option Char) :=
  fun (state, given) b =>
    let (state, more) := state.step b
    (state, more.reverse ++ given)

theorem toNat_ofNat (h : n < 256) : (UInt8.ofNat n).toNat = n := by
  simp [Nat.mod_eq_of_lt h]

theorem feed_one (given : List (Option Char)) (h : n < 128) :
    feed (.start, given) (.ofNat n) = (.start, some (Char.ofNat n) :: given) := by
  rw [feed, step, begin, first, toNat_ofNat (by omega), if_pos h]
  rfl

theorem feed_two (given : List (Option Char)) (hlow : 2 ≤ lead) (hhigh : lead < 32) :
    feed (.start, given) (.ofNat (lead + 192)) = (.inside 1 0x80 0xbf lead, given) := by
  rw [feed, step, begin, first, toNat_ofNat (by omega), if_neg (by omega), if_neg (by omega),
    if_pos (by omega), Nat.add_sub_cancel]
  rfl

theorem feed_three (given : List (Option Char)) (h : lead < 16) :
    feed (.start, given) (.ofNat (lead + 224)) =
      (.inside 2 (if lead = 0 then 0xa0 else 0x80) (if lead = 13 then 0x9f else 0xbf) lead,
        given) := by
  have hfirst : lead + 224 = 0xe0 ↔ lead = 0 := by omega
  have hlast : lead + 224 = 0xed ↔ lead = 13 := by omega
  rw [feed, step, begin, first, toNat_ofNat (by omega), if_neg (by omega), if_neg (by omega),
    if_neg (by omega), if_pos (by omega), Nat.add_sub_cancel]
  simp only [hfirst, hlast]
  rfl

theorem feed_four (given : List (Option Char)) (h : lead < 5) :
    feed (.start, given) (.ofNat (lead + 240)) =
      (.inside 3 (if lead = 0 then 0x90 else 0x80) (if lead = 4 then 0x8f else 0xbf) lead,
        given) := by
  have hfirst : lead + 240 = 0xf0 ↔ lead = 0 := by omega
  have hlast : lead + 240 = 0xf4 ↔ lead = 4 := by omega
  rw [feed, step, begin, first, toNat_ofNat (by omega), if_neg (by omega), if_neg (by omega),
    if_neg (by omega), if_neg (by omega), if_pos (by omega), Nat.add_sub_cancel]
  simp only [hfirst, hlast]
  rfl

theorem feed_inside (given : List (Option Char)) (hlow : low.toNat ≤ m + 128)
    (hhigh : m + 128 ≤ high.toNat) :
    feed (.inside owed low high n, given) (.ofNat (m + 128)) =
      if owed ≤ 1 then (.start, some (Char.ofNat (n * 64 + m)) :: given)
      else (.inside (owed - 1) 0x80 0xbf (n * 64 + m), given) := by
  have hm : (UInt8.ofNat (m + 128)).toNat = m + 128 :=
    toNat_ofNat (Nat.lt_of_le_of_lt hhigh high.toNat_lt)
  generalize UInt8.ofNat (m + 128) = b at hm
  have hin : (low ≤ b && b ≤ high) = true := by
    simp [UInt8.le_iff_toNat_le, hm, hlow, hhigh]
  simp only [feed, step, hin, hm, Nat.add_sub_cancel]
  split_ifs <;> rfl

theorem feed_tail (given : List (Option Char)) :
    feed (.inside owed 0x80 0xbf n, given) (.ofNat (m % 64 + 128)) =
      if owed ≤ 1 then (.start, some (Char.ofNat (n * 64 + m % 64)) :: given)
      else (.inside (owed - 1) 0x80 0xbf (n * 64 + m % 64), given) :=
  have hm : m % 64 < 64 := Nat.mod_lt m (by decide)
  feed_inside given (Nat.le_add_left ..) (Nat.add_le_add_right (Nat.le_of_lt_succ hm) _)

theorem feed_char (c : Char) (given : List (Option Char)) :
    (utf8EncodeChar c).foldl feed (.start, given) = (.start, some c :: given) := by
  have hvalid : c.val.toNat < 0xd800 ∨ 0xdfff < c.val.toNat ∧ c.val.toNat < 0x110000 := c.valid
  have hc : Char.ofNat c.val.toNat = c := Char.ofNat_toNat c
  rw [utf8EncodeChar]
  generalize c.val.toNat = n at hc hvalid
  split_ifs with h1 h2 h3
  · rw [List.foldl_cons, feed_one _ (by omega), hc]
    rfl
  · have hlead : n / 64 % 32 = n / 64 := Nat.mod_eq_of_lt (by omega)
    rw [List.foldl_cons, hlead, feed_two _ (by omega) (by omega), List.foldl_cons, feed_tail,
      if_pos (by decide), show n / 64 * 64 + n % 64 = n by omega, hc]
    rfl
  · have hlead : n / 4096 % 16 = n / 4096 := Nat.mod_eq_of_lt (by omega)
    rw [List.foldl_cons, hlead, feed_three _ (by omega), List.foldl_cons, feed_inside,
      if_neg (by decide), List.foldl_cons, feed_tail, if_pos (by decide),
      show (n / 4096 * 64 + n / 64 % 64) * 64 + n % 64 = n by omega, hc]
    · rfl
    -- no surrogate and no character of two bytes is written with three
    · split_ifs
      · change 0xa0 ≤ _
        omega
      · change 0x80 ≤ _
        omega
    · split_ifs
      · change _ ≤ 0x9f
        omega
      · change _ ≤ 0xbf
        omega
  · have hlead : n / 262144 % 8 = n / 262144 := Nat.mod_eq_of_lt (by omega)
    rw [List.foldl_cons, hlead, feed_four _ (by omega), List.foldl_cons, feed_inside,
      if_neg (by decide), List.foldl_cons, feed_tail, if_neg (by decide), List.foldl_cons,
      feed_tail, if_pos (by decide),
      show ((n / 262144 * 64 + n / 4096 % 64) * 64 + n / 64 % 64) * 64 + n % 64 = n by omega, hc]
    · rfl
    · split_ifs
      · change 0x90 ≤ _
        omega
      · change 0x80 ≤ _
        omega
    · split_ifs
      · change _ ≤ 0x8f
        omega
      · change _ ≤ 0xbf
        omega

theorem feed_text (cs : List Char) (given : List (Option Char)) :
    (cs.flatMap utf8EncodeChar).foldl feed (.start, given) =
      (.start, (cs.map some).reverse ++ given) := by
  induction cs generalizing given with
  | nil => rfl
  | cons c cs ih =>
    rw [List.flatMap_cons, List.foldl_append, feed_char, ih]
    simp

end Utf8State

theorem decodeMarked_of_feed {bytes : List UInt8} {given : List (Option Char)}
    (h : bytes.foldl Utf8State.feed (.start, []) = (.start, given)) :
    decodeMarked bytes = given.reverse := by
  unfold Utf8State.feed at h
  rw [decodeMarked, h]

theorem decodeMarked_utf8 (cs : List Char) :
    decodeMarked (cs.flatMap utf8EncodeChar) = cs.map some := by
  rw [decodeMarked_of_feed (Utf8State.feed_text cs []), List.append_nil, List.reverse_reverse]

theorem decode?_toUTF8 (text : String) : decode? text.toUTF8 = some text := by
  have hall : (text.toList.map some).mapM id = some text.toList := by
    rw [List.mapM_map]
    exact List.mapM_pure.trans (congrArg some (List.map_id _))
  rw [decode?, toList_toUTF8, decodeMarked_utf8, hall, Option.map_some, String.ofList_toList]

end Deckhand.Text
