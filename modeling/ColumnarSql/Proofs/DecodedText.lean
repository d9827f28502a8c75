import ColumnarSql.Text.Utf8
import Mathlib.Tactic.SplitIfs

/-!
# Text decoded from its own bytes

The bytes of a character are a lead byte and continuation bytes, and each continuation byte
lies in the range that the bytes before it leave open. So decoding runs through the bytes of a
character without a replacement and ends between two characters
(`decodeFrom_utf8EncodeChar`), and the bytes of a text are decoded to the text
(`decodeLossy_encode`).
-/

set_option autoImplicit false

namespace ColumnarSql.Utf8

variable {p : Pending} {n : Nat} {r : List UInt8}

/-! ## One byte -/

theorem toNat_ofNat_byte (hn : n < 256) : (UInt8.ofNat n).toNat = n := UInt8.toNat_ofNat_of_lt hn

theorem decodeFrom_start (hn : n < 256) : decodeFrom none (UInt8.ofNat n :: r) =
    (start n).1 ++ decodeFrom (start n).2 r := by
  rw [decodeFrom, step, toNat_ofNat_byte hn]

/-- A continuation byte that does not finish the character. -/
theorem decodeFrom_continue (hn : n < 256) (hrange : p.low ≤ n ∧ n ≤ p.high)
    (hmore : p.needed ≠ 1) : decodeFrom (some p) (UInt8.ofNat n :: r) =
      decodeFrom (some ⟨p.bits * 64 + (n - 0x80), p.needed - 1, 0x80, 0xbf⟩) r := by
  rw [decodeFrom, step, toNat_ofNat_byte hn]
  simp only [if_pos hrange, if_neg hmore, List.nil_append]

/-- A continuation byte that finishes the character. -/
theorem decodeFrom_finish (hn : n < 256) (hrange : p.low ≤ n ∧ n ≤ p.high)
    (hlast : p.needed = 1) : decodeFrom (some p) (UInt8.ofNat n :: r) =
      Char.ofNat (p.bits * 64 + (n - 0x80)) :: decodeFrom none r := by
  rw [decodeFrom, step, toNat_ofNat_byte hn]
  simp only [if_pos hrange, if_pos hlast, List.singleton_append]

/-! ## One character -/

/-- The bytes of a character are decoded to the character. -/
theorem decodeFrom_utf8EncodeChar (c : Char) (r : List UInt8) :
    decodeFrom none (String.utf8EncodeChar c ++ r) = c :: decodeFrom none r := by
  have hvalid : c.toNat < 0xd800 ∨ 0xdfff < c.toNat ∧ c.toNat < 0x110000 := c.valid
  have hself : ∀ n, n = c.toNat → Char.ofNat n = c := by
    rintro n rfl
    exact Char.ofNat_toNat c
  simp only [String.utf8EncodeChar, show c.val.toNat = c.toNat from rfl]
  generalize c.toNat = v at hvalid hself
  split_ifs with h1 h2 h3
  · rw [List.singleton_append, decodeFrom_start (by omega), start, if_pos (by omega)]
    simp [hself v rfl]
  · rw [List.cons_append, decodeFrom_start (by omega), start, if_neg (by omega),
      if_pos (by omega), List.singleton_append, List.nil_append,
      decodeFrom_finish (by omega) (by dsimp only; omega) rfl,
      hself _ (by dsimp only; omega)]
  · rw [List.cons_append, decodeFrom_start (by omega), start, if_neg (by omega),
      if_neg (by omega), if_pos (by omega), List.cons_append, List.nil_append,
      decodeFrom_continue (by omega) (by dsimp only; split_ifs <;> omega) (Nat.succ_succ_ne_one 0),
      List.singleton_append,
      decodeFrom_finish (by omega) (by dsimp only; omega) rfl,
      hself _ (by dsimp only; omega)]
  · rw [List.cons_append, decodeFrom_start (by omega), start, if_neg (by omega),
      if_neg (by omega), if_neg (by omega), if_pos (by omega), List.cons_append,
      List.nil_append,
      decodeFrom_continue (by omega) (by dsimp only; split_ifs <;> omega) (Nat.succ_succ_ne_one 1),
      List.cons_append,
      decodeFrom_continue (by omega) (by dsimp only; omega) (Nat.succ_succ_ne_one 0),
      List.singleton_append,
      decodeFrom_finish (by omega) (by dsimp only; omega) rfl,
      hself _ (by dsimp only; omega)]

/-! ## A text -/

theorem decodeFrom_flatMap : ∀ cs : List Char,
    decodeFrom none (cs.flatMap String.utf8EncodeChar) = cs
  | [] => rfl
  | c :: cs => by rw [List.flatMap_cons, decodeFrom_utf8EncodeChar, decodeFrom_flatMap cs]

/-- Listing bytes from a place on. -/
theorem toList_loop (b : ByteArray) (i : Nat) (r : List UInt8) :
    ByteArray.toList.loop b i r = r.reverse ++ b.data.toList.drop i := by
  fun_induction ByteArray.toList.loop b i r with
  | case1 i r h ih =>
    have hi : i < b.data.toList.length := Array.length_toList ▸ h
    have hget : b.get! i = b.data.toList[i] := getElem!_pos b.data i h
    rw [ih, hget, List.reverse_cons, List.append_assoc, List.singleton_append,
      ← List.drop_eq_getElem_cons hi]
  | case2 i r h =>
    have hi : b.data.toList.length ≤ i := Array.length_toList ▸ Nat.le_of_not_lt h
    rw [List.drop_eq_nil_of_le hi, List.append_nil]

theorem encode_eq_flatMap (s : String) : encode s = s.toList.flatMap String.utf8EncodeChar := by
  have hbytes : s.toUTF8 = (s.toList.flatMap String.utf8EncodeChar).toByteArray := by
    rw [← List.utf8Encode, ← String.toByteArray_ofList, String.ofList_toList]
    rfl
  rw [encode, ByteArray.toList, toList_loop, hbytes]
  simp

/-- The bytes of a text are decoded to the text. -/
theorem decodeLossy_encode (s : String) : decodeLossy (encode s) = s := by
  rw [decodeLossy, encode_eq_flatMap, decodeFrom_flatMap, String.ofList_toList]

end ColumnarSql.Utf8
