import ClangHost.Arena
import Mathlib.Tactic.IntervalCases

/-!
Reading undoes writing, lossy or not: the bytes of a text read as that text (`decodeLossy_encode`,
`decode?_encode`). The proof follows a character through the machine, byte by byte. A byte below
0x80 stands in the bytes of a text where its own character does (`ascii_mem_encode_iff`).
-/
namespace ClangHost

namespace Utf8

theorem toNat_toUInt8 {n : Nat} (small : n < 256) : n.toUInt8.toNat = n := by
  simp only [Nat.toUInt8, UInt8.toNat_ofNat']
  omega

theorem lead_two {k : Nat} (low : 2 ≤ k) (high : k < 32) : lead (0xC0 + k).toUInt8 =
    .begins
      { value := k, owed := 1, low := 0x80, high := 0xBF, taken := [(0xC0 + k).toUInt8] } := by
  interval_cases k <;> rfl

theorem lead_three {k : Nat} (high : k < 16) : lead (0xE0 + k).toUInt8 =
    .begins { value := k, owed := 2, low := if k = 0 then 0xA0 else 0x80
              high := if k = 13 then 0x9F else 0xBF, taken := [(0xE0 + k).toUInt8] } := by
  interval_cases k <;> rfl

theorem lead_four {k : Nat} (high : k < 5) : lead (0xF0 + k).toUInt8 =
    .begins { value := k, owed := 3, low := if k = 0 then 0x90 else 0x80
              high := if k = 4 then 0x8F else 0xBF, taken := [(0xF0 + k).toUInt8] } := by
  interval_cases k <;> rfl

theorem piecesFrom_begins {b : UInt8} {p : Begun} (begins : lead b = .begins p) (bs : Bytes) :
    piecesFrom none (b :: bs) = piecesFrom (some p) bs := by
  simp only [piecesFrom, step, begins, Lead.begun, Lead.pieces, List.nil_append]

theorem piecesFrom_more {p : Begun} {m : Nat} (small : m < 64) (low : p.low.toNat ≤ 0x80 + m)
    (high : 0x80 + m ≤ p.high.toNat) (more : p.owed ≠ 1) (bs : Bytes) :
    piecesFrom (some p) ((0x80 + m).toUInt8 :: bs) =
      piecesFrom (some ⟨p.value * 0x40 + m, p.owed - 1, 0x80, 0xBF,
        (0x80 + m).toUInt8 :: p.taken⟩) bs := by
  have byte : (0x80 + m).toUInt8.toNat = 0x80 + m := toNat_toUInt8 (by omega)
  have inside : p.low ≤ (0x80 + m).toUInt8 ∧ (0x80 + m).toUInt8 ≤ p.high := by
    simp only [UInt8.le_iff_toNat_le, byte]
    exact ⟨low, high⟩
  simp only [piecesFrom, step, if_pos inside, if_neg more, List.nil_append, byte,
    Nat.add_sub_cancel_left]

theorem piecesFrom_last {p : Begun} {m : Nat} (small : m < 64) (low : p.low.toNat ≤ 0x80 + m)
    (high : 0x80 + m ≤ p.high.toNat) (last : p.owed = 1) (bs : Bytes) :
    piecesFrom (some p) ((0x80 + m).toUInt8 :: bs) =
      .char (Char.ofNat (p.value * 0x40 + m)) :: pieces bs := by
  have byte : (0x80 + m).toUInt8.toNat = 0x80 + m := toNat_toUInt8 (by omega)
  have inside : p.low ≤ (0x80 + m).toUInt8 ∧ (0x80 + m).toUInt8 ≤ p.high := by
    simp only [UInt8.le_iff_toNat_le, byte]
    exact ⟨low, high⟩
  simp only [piecesFrom, step, if_pos inside, if_pos last, byte, Nat.add_sub_cancel_left, pieces,
    List.singleton_append]

theorem pieces_encodeChar (c : Char) (bs : Bytes) :
    pieces (encodeChar c ++ bs) = .char c :: pieces bs := by
  have scalar : c.toNat < 0xD800 ∨ 0xDFFF < c.toNat ∧ c.toNat < 0x110000 := c.valid
  have value : Char.ofNat c.toNat = c := Char.ofNat_toNat c
  -- a case for each length; the bounds of the second byte hold since the character is a scalar
  -- value that needs this length
  have cut : ∀ n m : Nat, n / m * m + n % m = n := Nat.div_add_mod'
  by_cases one : c.toNat < 0x80
  · have byte : c.toNat.toUInt8 < 0x80 := by
      rw [UInt8.lt_iff_toNat_lt, toNat_toUInt8 (by omega)]
      exact one
    rw [encodeChar_of_lt one, List.singleton_append, pieces_cons_of_lt bs byte,
      toNat_toUInt8 (by omega), value]
  by_cases two : c.toNat < 0x800
  · simp only [encodeChar, if_neg one, if_pos two, List.cons_append, List.nil_append]
    rw [pieces, piecesFrom_begins (lead_two (by omega) (by omega)),
      piecesFrom_last (Nat.mod_lt _ (by omega)) (by simp) (by simp; omega) rfl, cut, value]
  by_cases three : c.toNat < 0x10000
  · simp only [encodeChar, if_neg one, if_neg two, if_pos three, List.cons_append,
      List.nil_append]
    rw [pieces, piecesFrom_begins (lead_three (by omega)),
      piecesFrom_more (Nat.mod_lt _ (by omega)) ?low ?high (by simp),
      piecesFrom_last (Nat.mod_lt _ (by omega)) (by simp) (by simp; omega) rfl]
    · have whole : (c.toNat / 0x1000 * 0x40 + c.toNat / 0x40 % 0x40) * 0x40 + c.toNat % 0x40 =
          c.toNat := by omega
      rw [whole, value]
    · dsimp only
      split <;> (simp; try omega)
    · dsimp only
      split <;> (simp; omega)
  · simp only [encodeChar, if_neg one, if_neg two, if_neg three, List.cons_append,
      List.nil_append]
    rw [pieces, piecesFrom_begins (lead_four (by omega)),
      piecesFrom_more (Nat.mod_lt _ (by omega)) ?least ?most (by simp),
      piecesFrom_more (Nat.mod_lt _ (by omega)) (by simp) (by simp; omega) (by simp),
      piecesFrom_last (Nat.mod_lt _ (by omega)) (by simp) (by simp; omega) rfl]
    · have whole : ((c.toNat / 0x40000 * 0x40 + c.toNat / 0x1000 % 0x40) * 0x40 +
          c.toNat / 0x40 % 0x40) * 0x40 + c.toNat % 0x40 = c.toNat := by omega
      rw [whole, value]
    · dsimp only
      split <;> (simp; try omega)
    · dsimp only
      split <;> (simp; omega)

theorem pieces_encode (s : List Char) : pieces (encode s) = s.map .char := by
  induction s with
  | nil => rfl
  | cons c s ih =>
    rw [encode, List.flatMap_cons, pieces_encodeChar]
    exact congrArg _ ih

theorem decodeLossy_encode (s : List Char) : decodeLossy (encode s) = s := by
  rw [decodeLossy, pieces_encode, List.map_map]
  exact List.map_id' s

theorem decode?_encode (s : List Char) : decode? (encode s) = some s := by
  rw [decode?, pieces_encode, List.mapM_map]
  exact (List.mapM_pure (f := id)).trans (congrArg some (List.map_id s))

theorem encode_append (s t : List Char) : encode (s ++ t) = encode s ++ encode t :=
  List.flatMap_append

theorem ne_toUInt8 {b : UInt8} (ascii : b.toNat < 0x80) {n : Nat} (large : 0x80 ≤ n)
    (small : n < 256) : b ≠ n.toUInt8 := by
  rintro rfl
  rw [toNat_toUInt8 small] at ascii
  omega

theorem ascii_mem_encodeChar_iff {d : Char} (ascii : d.toNat < 0x80) (c : Char) :
    d.toNat.toUInt8 ∈ encodeChar c ↔ c = d := by
  have scalar : c.toNat < 0xD800 ∨ 0xDFFF < c.toNat ∧ c.toNat < 0x110000 := c.valid
  have byte : d.toNat.toUInt8.toNat < 0x80 := by rwa [toNat_toUInt8 (by omega)]
  constructor
  · intro member
    simp only [encodeChar] at member
    split_ifs at member with one two three <;>
      simp only [List.mem_cons, List.mem_nil_iff, or_false] at member
    · have same := congrArg UInt8.toNat member
      rw [toNat_toUInt8 (by omega), toNat_toUInt8 (by omega)] at same
      exact (Char.toNat_inj.mp same).symm
    · rcases member with h | h <;> cases ne_toUInt8 byte (by omega) (by omega) h
    · rcases member with h | h | h <;> cases ne_toUInt8 byte (by omega) (by omega) h
    · rcases member with h | h | h | h <;> cases ne_toUInt8 byte (by omega) (by omega) h
  · rintro rfl
    rw [encodeChar_of_lt ascii]
    exact List.mem_singleton_self _

theorem ascii_mem_encode_iff {d : Char} (ascii : d.toNat < 0x80) (s : List Char) :
    d.toNat.toUInt8 ∈ encode s ↔ d ∈ s := by
  simp only [encode, List.mem_flatMap, ascii_mem_encodeChar_iff ascii, exists_eq_right]

theorem zero_mem_encodeChar_iff (c : Char) : 0 ∈ encodeChar c ↔ c = '\x00' :=
  ascii_mem_encodeChar_iff (d := '\x00') (by decide) c

theorem zero_mem_encode_iff (s : List Char) : 0 ∈ encode s ↔ '\x00' ∈ s :=
  ascii_mem_encode_iff (d := '\x00') (by decide) s

end Utf8

end ClangHost
