import ClangHost.Proofs.Utf8
import Mathlib.Data.List.Infix

/-!
Lossy reading of bytes that need not be UTF-8. Where no character stands, the bytes that go
together are as many as could begin one, and at least one byte. Lossy reading puts one U+FFFD for
such a stretch and reads on behind it (`decodeLossy_eq_iff`).
-/
namespace ClangHost.Utf8

def Opens (p : Bytes) : Prop := ∃ c, p <+: encodeChar c

/-- No character stands at the front of `p ++ rest`, and `p` is the longest front part that could
begin one, or a single byte where no part could. -/
structure MaximalSubpart (p rest : Bytes) : Prop where
  noChar : ∀ c, ¬ encodeChar c <+: p ++ rest
  nonempty : p ≠ []
  opens : Opens p ∨ p.length = 1
  longest : ∀ q, q <+: p ++ rest → Opens q → q.length ≤ p.length

/-- The characters that bytes stand for, with U+FFFD for each maximal subpart. -/
inductive Lossy : Bytes → List Char → Prop where
  | nil : Lossy [] []
  | char (c : Char) {bs : Bytes} {s : List Char} : Lossy bs s →
      Lossy (encodeChar c ++ bs) (c :: s)
  | subpart {p rest : Bytes} {s : List Char} : MaximalSubpart p rest → Lossy rest s →
      Lossy (p ++ rest) (replacement :: s)

theorem Opens.of_prefix {p q : Bytes} (opens : Opens q) (front : p <+: q) : Opens p := by
  obtain ⟨c, begins⟩ := opens
  exact ⟨c, front.trans begins⟩

theorem pieces_char (c : Char) : pieces (encodeChar c) = [.char c] := by
  have whole := pieces_encodeChar c []
  rwa [List.append_nil] at whole

theorem not_opens_of_malformed {p : Bytes}
    (malformed : ∀ x, ∃ q ps, pieces (p ++ x) = .malformed q :: ps) : ¬ Opens p := by
  rintro ⟨c, x, whole⟩
  obtain ⟨q, ps, read⟩ := malformed x
  rw [whole, pieces_char] at read
  cases read

theorem maximalSubpart_of {p rest : Bytes} (read : pieces p = [.malformed p])
    (opens : Opens p ∨ p.length = 1) (stops : ∀ b ∈ rest.head?, ¬ Opens (p ++ [b])) :
    MaximalSubpart p rest := by
  -- a longer front part begins with `p` and the byte behind it
  have longest : ∀ q, q <+: p ++ rest → Opens q → q.length ≤ p.length := by
    intro q front begins
    by_contra long
    cases rest with
    | nil =>
      have := front.length_le
      rw [List.append_nil] at this
      omega
    | cons b rest =>
      have next : p ++ [b] <+: p ++ b :: rest := ⟨rest, by simp⟩
      have inside : p ++ [b] <+: q := by
        apply List.prefix_of_prefix_length_le next front
        rw [List.length_append, List.length_singleton]
        omega
      exact stops b rfl (begins.of_prefix inside)
  constructor
  · intro c front
    have short := longest _ front ⟨c, List.prefix_refl _⟩
    obtain ⟨x, rfl⟩ := List.prefix_of_prefix_length_le front (List.prefix_append p rest) short
    rw [pieces_encodeChar] at read
    cases read
  · rintro rfl
    cases read
  · exact opens
  · exact longest

/-! ### The middle of a character -/

def Begun.Reached (p : Begun) : Prop :=
  ∀ bs, pieces (p.taken.reverse ++ bs) = piecesFrom (some p) bs

def Bounds (low high : UInt8) : Prop :=
  0x80 ≤ low.toNat ∧ low.toNat ≤ high.toNat ∧ high.toNat ≤ 0xBF

/-- Whatever bytes within the bounds follow, they make a character with those taken. -/
inductive Begun.Sound : Begun → Prop where
  | last {value : Nat} {low high : UInt8} {taken : Bytes} : Bounds low high →
      (∀ m, low.toNat ≤ 0x80 + m → 0x80 + m ≤ high.toNat →
        encodeChar (Char.ofNat (value * 0x40 + m)) = taken.reverse ++ [(0x80 + m).toUInt8]) →
      Begun.Sound ⟨value, 1, low, high, taken⟩
  | more {value owed : Nat} {low high : UInt8} {taken : Bytes} : Bounds low high →
      (∀ m, low.toNat ≤ 0x80 + m → 0x80 + m ≤ high.toNat →
        Begun.Sound ⟨value * 0x40 + m, owed + 1, 0x80, 0xBF, (0x80 + m).toUInt8 :: taken⟩) →
      Begun.Sound ⟨value, owed + 2, low, high, taken⟩

theorem piecesFrom_outside {p : Begun} {b : UInt8} (outside : ¬ (p.low ≤ b ∧ b ≤ p.high))
    (bs : Bytes) : piecesFrom (some p) (b :: bs) =
      .malformed p.taken.reverse :: pieces (b :: bs) := by
  simp only [pieces, piecesFrom, step, if_neg outside, List.cons_append]

namespace Begun

theorem Sound.opens {p : Begun} (sound : p.Sound) : Opens p.taken.reverse := by
  induction sound with
  | @last _ low _ _ bounds whole =>
    obtain ⟨least, order, _⟩ := bounds
    have char := whole (low.toNat - 0x80) (by omega) (by omega)
    exact ⟨_, _, char.symm⟩
  | @more _ _ low _ _ bounds _ ih =>
    obtain ⟨least, order, _⟩ := bounds
    have longer := ih (low.toNat - 0x80) (by omega) (by omega)
    apply longer.of_prefix
    simp

end Begun

def Fronted (w : Bytes) : Prop :=
  (∃ c rest, w = encodeChar c ++ rest ∧ pieces w = .char c :: pieces rest) ∨
    ∃ p rest, w = p ++ rest ∧ MaximalSubpart p rest ∧ pieces w = .malformed p :: pieces rest

theorem Begun.Sound.fronted_of_stop {p : Begun} (sound : p.Sound) (reached : p.Reached) {bs : Bytes}
    (stop : ∀ b ∈ bs.head?, ¬ (p.low ≤ b ∧ b ≤ p.high)) : Fronted (p.taken.reverse ++ bs) := by
  have alone : pieces p.taken.reverse = [.malformed p.taken.reverse] := by
    have none := reached []
    rwa [List.append_nil] at none
  right
  refine ⟨p.taken.reverse, bs, rfl, ?_, ?_⟩
  · apply maximalSubpart_of alone (.inl sound.opens)
    intro b next
    apply not_opens_of_malformed
    intro x
    rw [List.append_assoc, reached, List.singleton_append, piecesFrom_outside (stop b next)]
    exact ⟨_, _, rfl⟩
  · rw [reached]
    cases bs with
    | nil => rfl
    | cons b bs => exact piecesFrom_outside (stop b rfl) bs

theorem byte_inside {low high b : UInt8} (least : 0x80 ≤ low.toNat) (inside : low ≤ b ∧ b ≤ high) :
    ∃ m, b = (0x80 + m).toUInt8 ∧ low.toNat ≤ 0x80 + m ∧ 0x80 + m ≤ high.toNat := by
  simp only [UInt8.le_iff_toNat_le] at inside
  have whole : 0x80 + (b.toNat - 0x80) = b.toNat := by omega
  refine ⟨b.toNat - 0x80, ?_, by omega, by omega⟩
  rw [whole, Nat.toUInt8, UInt8.ofNat_toNat]

theorem stops_or_goes_on {low high : UInt8} (bounds : Bounds low high) (bs : Bytes) :
    (∀ b ∈ bs.head?, ¬ (low ≤ b ∧ b ≤ high)) ∨
      ∃ m rest, bs = (0x80 + m).toUInt8 :: rest ∧ low.toNat ≤ 0x80 + m ∧ 0x80 + m ≤ high.toNat := by
  cases bs with
  | nil => exact .inl nofun
  | cons b rest =>
    by_cases inside : low ≤ b ∧ b ≤ high
    · obtain ⟨m, rfl, least, most⟩ := byte_inside bounds.1 inside
      exact .inr ⟨m, rest, rfl, least, most⟩
    · left
      rintro _ ⟨⟩
      exact inside

theorem Begun.Sound.fronted {p : Begun} (sound : p.Sound) (reached : p.Reached) (bs : Bytes) :
    Fronted (p.taken.reverse ++ bs) := by
  induction sound generalizing bs with
  | @last value low high taken bounds whole =>
    rcases stops_or_goes_on bounds bs with stop | ⟨m, rest, rfl, least, most⟩
    · exact (Sound.last bounds whole).fronted_of_stop reached stop
    · have small : m < 64 := by have := bounds.2.2; omega
      left
      refine ⟨Char.ofNat (value * 0x40 + m), rest, ?_, ?_⟩
      · rw [whole m least most, List.append_assoc, List.singleton_append]
      · rw [reached, piecesFrom_last small least most rfl]
  | @more value owed low high taken bounds next ih =>
    rcases stops_or_goes_on bounds bs with stop | ⟨m, rest, rfl, least, most⟩
    · exact (Sound.more bounds next).fronted_of_stop reached stop
    · have small : m < 64 := by have := bounds.2.2; omega
      have front : ∀ x, ((0x80 + m).toUInt8 :: taken).reverse ++ x =
          taken.reverse ++ (0x80 + m).toUInt8 :: x := by
        intro x
        rw [List.reverse_cons, List.append_assoc, List.singleton_append]
      have further := ih m least most ?_ rest
      · rwa [front] at further
      · intro x
        rw [front, reached, piecesFrom_more small least most (by simp)]
        rfl

/-! ### The first byte -/

theorem toNat_ofNat {n : Nat} (scalar : n < 0xD800 ∨ 0xDFFF < n ∧ n < 0x110000) :
    (Char.ofNat n).toNat = n := by
  unfold Char.ofNat
  rw [dif_pos scalar]
  rfl

theorem encodeChar_two {k m : Nat} (low : 2 ≤ k) (high : k < 32) (small : m < 64) :
    encodeChar (Char.ofNat (k * 0x40 + m)) = [(0xC0 + k).toUInt8, (0x80 + m).toUInt8] := by
  unfold encodeChar
  rw [toNat_ofNat (by omega), if_neg (by omega), if_pos (by omega)]
  have first : (k * 0x40 + m) / 0x40 = k := by omega
  have second : (k * 0x40 + m) % 0x40 = m := by omega
  rw [first, second]

theorem encodeChar_three {k l m : Nat} (high : k < 16) (second : l < 64) (third : m < 64)
    (long : k = 0 → 32 ≤ l) (scalar : k = 13 → l < 32) :
    encodeChar (Char.ofNat ((k * 0x40 + l) * 0x40 + m)) =
      [(0xE0 + k).toUInt8, (0x80 + l).toUInt8, (0x80 + m).toUInt8] := by
  unfold encodeChar
  rw [toNat_ofNat (by omega), if_neg (by omega), if_neg (by omega), if_pos (by omega)]
  have one : ((k * 0x40 + l) * 0x40 + m) / 0x1000 = k := by omega
  have two : ((k * 0x40 + l) * 0x40 + m) / 0x40 % 0x40 = l := by omega
  have three : ((k * 0x40 + l) * 0x40 + m) % 0x40 = m := by omega
  rw [one, two, three]

theorem encodeChar_four {k l m n : Nat} (high : k < 5) (second : l < 64) (third : m < 64)
    (fourth : n < 64) (long : k = 0 → 16 ≤ l) (scalar : k = 4 → l < 16) :
    encodeChar (Char.ofNat (((k * 0x40 + l) * 0x40 + m) * 0x40 + n)) =
      [(0xF0 + k).toUInt8, (0x80 + l).toUInt8, (0x80 + m).toUInt8, (0x80 + n).toUInt8] := by
  unfold encodeChar
  rw [toNat_ofNat (by omega), if_neg (by omega), if_neg (by omega), if_neg (by omega)]
  have one : (((k * 0x40 + l) * 0x40 + m) * 0x40 + n) / 0x40000 = k := by omega
  have two : (((k * 0x40 + l) * 0x40 + m) * 0x40 + n) / 0x1000 % 0x40 = l := by omega
  have three : (((k * 0x40 + l) * 0x40 + m) * 0x40 + n) / 0x40 % 0x40 = m := by omega
  have four : (((k * 0x40 + l) * 0x40 + m) * 0x40 + n) % 0x40 = n := by omega
  rw [one, two, three, four]

theorem bounds_all : Bounds 0x80 0xBF := by
  unfold Bounds
  decide

theorem sound_two {k : Nat} (low : 2 ≤ k) (high : k < 32) :
    Begun.Sound ⟨k, 1, 0x80, 0xBF, [(0xC0 + k).toUInt8]⟩ := by
  apply Begun.Sound.last bounds_all
  intro m _ (most : 0x80 + m ≤ 0xBF)
  exact encodeChar_two low high (by omega)

theorem sound_three {k : Nat} {low high : UInt8} (small : k < 16) (bounds : Bounds low high)
    (long : k = 0 → 0xA0 ≤ low.toNat) (scalar : k = 13 → high.toNat ≤ 0x9F) :
    Begun.Sound ⟨k, 2, low, high, [(0xE0 + k).toUInt8]⟩ := by
  apply Begun.Sound.more bounds
  intro l least most
  obtain ⟨_, _, below⟩ := bounds
  apply Begun.Sound.last bounds_all
  intro m _ (last : 0x80 + m ≤ 0xBF)
  exact encodeChar_three small (by omega) (by omega) (by omega) (by omega)

theorem sound_four {k : Nat} {low high : UInt8} (small : k < 5) (bounds : Bounds low high)
    (long : k = 0 → 0x90 ≤ low.toNat) (scalar : k = 4 → high.toNat ≤ 0x8F) :
    Begun.Sound ⟨k, 3, low, high, [(0xF0 + k).toUInt8]⟩ := by
  apply Begun.Sound.more bounds
  intro l least most
  obtain ⟨_, _, below⟩ := bounds
  apply Begun.Sound.more bounds_all
  intro m _ (third : 0x80 + m ≤ 0xBF)
  apply Begun.Sound.last bounds_all
  intro n _ (last : 0x80 + n ≤ 0xBF)
  exact encodeChar_four small (by omega) (by omega) (by omega) (by omega) (by omega)

theorem bounds_ite (P Q : Prop) [Decidable P] [Decidable Q] {low high : UInt8}
    (one : Bounds low 0xBF) (other : Bounds 0x80 high) (apart : P → ¬ Q) :
    Bounds (if P then low else 0x80) (if Q then high else 0xBF) := by
  by_cases first : P
  · rw [if_pos first, if_neg (apart first)]
    exact one
  · rw [if_neg first]
    split
    · exact other
    · exact bounds_all

theorem byte_above {b : UInt8} (base : Nat) (least : base ≤ b.toNat) :
    ∃ k, b.toNat = base + k ∧ b = (base + k).toUInt8 := by
  obtain ⟨k, byte⟩ := Nat.exists_eq_add_of_le least
  refine ⟨k, byte, ?_⟩
  rw [← byte, Nat.toUInt8, UInt8.ofNat_toNat]

theorem lead_of_le {b : UInt8} (large : 0x80 ≤ b.toNat) :
    (∃ p, lead b = .begins p ∧ p.Sound ∧ p.taken = [b]) ∨ lead b = .malformed := by
  have bound := b.toNat_lt
  by_cases two : 0xC2 ≤ b.toNat ∧ b.toNat < 0xE0
  · left
    obtain ⟨k, byte, rfl⟩ := byte_above (b := b) 0xC0 (by omega)
    exact ⟨_, lead_two (by omega) (by omega), sound_two (by omega) (by omega), rfl⟩
  by_cases three : 0xE0 ≤ b.toNat ∧ b.toNat < 0xF0
  · left
    obtain ⟨k, byte, rfl⟩ := byte_above (b := b) 0xE0 (by omega)
    refine ⟨_, lead_three (by omega), sound_three (by omega) ?_ ?_ ?_, rfl⟩
    · exact bounds_ite _ _ (by unfold Bounds; decide) (by unfold Bounds; decide) (by omega)
    · rintro rfl
      decide
    · rintro rfl
      decide
  by_cases four : 0xF0 ≤ b.toNat ∧ b.toNat < 0xF5
  · left
    obtain ⟨k, byte, rfl⟩ := byte_above (b := b) 0xF0 (by omega)
    refine ⟨_, lead_four (by omega), sound_four (by omega) ?_ ?_ ?_, rfl⟩
    · exact bounds_ite _ _ (by unfold Bounds; decide) (by unfold Bounds; decide) (by omega)
    · rintro rfl
      decide
    · rintro rfl
      decide
  · right
    unfold lead
    simp only [UInt8.lt_iff_toNat_lt, ← UInt8.toNat_inj, UInt8.reduceToNat]
    rw [if_neg (by omega)]
    rcases Nat.lt_or_ge b.toNat 0xC2 with low | high
    · rw [if_pos low]
    · iterate 8 rw [if_neg (by omega)]

/-! ### Whole texts -/

theorem fronted (b : UInt8) (bs : Bytes) : Fronted (b :: bs) := by
  by_cases small : b.toNat < 0x80
  · left
    have value := toNat_ofNat (n := b.toNat) (by omega)
    refine ⟨Char.ofNat b.toNat, bs, ?_, pieces_cons_of_lt bs (UInt8.lt_iff_toNat_lt.mpr small)⟩
    rw [encodeChar_of_lt (by rwa [value]), value, Nat.toUInt8, UInt8.ofNat_toNat]
    rfl
  · rcases lead_of_le (Nat.le_of_not_lt small) with ⟨p, begins, sound, taken⟩ | malformed
    · have reached : p.Reached := by
        intro x
        rw [taken]
        exact piecesFrom_begins begins x
      have front := sound.fronted reached bs
      rwa [taken] at front
    · have read : ∀ x, pieces (b :: x) = .malformed [b] :: pieces x := by
        intro x
        simp only [pieces, piecesFrom, step, malformed, Lead.begun, Lead.pieces,
          List.singleton_append]
      right
      refine ⟨[b], bs, rfl, ?_, read bs⟩
      apply maximalSubpart_of (read []) (.inr rfl)
      intro next _
      apply not_opens_of_malformed
      intro x
      exact ⟨_, _, read _⟩

theorem lossy_of_pieces {bs : Bytes} {ps : List Piece} (read : pieces bs = ps) :
    Lossy bs (ps.map Piece.lossy) := by
  induction ps generalizing bs with
  | nil =>
    cases bs with
    | nil => exact .nil
    | cons b bs =>
      rcases fronted b bs with ⟨c, rest, _, front⟩ | ⟨p, rest, _, _, front⟩
      · rw [read] at front
        cases front
      · rw [read] at front
        cases front
  | cons piece ps ih =>
    cases bs with
    | nil => cases read
    | cons b bs =>
      rcases fronted b bs with ⟨c, rest, whole, front⟩ | ⟨p, rest, whole, cut, front⟩
      · obtain ⟨rfl, rfl⟩ := List.cons.inj (read.symm.trans front)
        rw [whole]
        exact .char c (ih rfl)
      · obtain ⟨rfl, rfl⟩ := List.cons.inj (read.symm.trans front)
        rw [whole]
        exact .subpart cut (ih rfl)

/-- How long the first subpart is does not depend on how the bytes are split. -/
theorem MaximalSubpart.length_le {p q rest more : Bytes} (first : MaximalSubpart p rest)
    (second : MaximalSubpart q more) (same : p ++ rest = q ++ more) : p.length ≤ q.length := by
  rcases first.opens with opens | single
  · apply second.longest p _ opens
    exact ⟨rest, same⟩
  · rw [single]
    exact List.length_pos_of_ne_nil second.nonempty

theorem MaximalSubpart.unique {p q rest more : Bytes} (first : MaximalSubpart p rest)
    (second : MaximalSubpart q more) (same : p ++ rest = q ++ more) : p = q ∧ rest = more := by
  apply List.append_inj same
  apply Nat.le_antisymm
  · exact first.length_le second same
  · exact second.length_le first same.symm

theorem pieces_subpart {p rest : Bytes} (cut : MaximalSubpart p rest) :
    ∃ q, pieces (p ++ rest) = .malformed q :: pieces rest := by
  obtain ⟨b, bs, whole⟩ : ∃ b bs, p ++ rest = b :: bs :=
    List.exists_cons_of_ne_nil (List.append_ne_nil_of_left_ne_nil cut.nonempty rest)
  rcases fronted b bs with ⟨c, more, char, _⟩ | ⟨q, more, other, again, front⟩
  · apply False.elim
    apply cut.noChar c
    exact ⟨more, by rw [whole, char]⟩
  · obtain ⟨rfl, rfl⟩ := cut.unique again (whole.trans other)
    rw [whole]
    exact ⟨p, front⟩

/-- Lossy reading is what the maximal subparts of a byte string make it. -/
theorem decodeLossy_eq_iff (bs : Bytes) (s : List Char) : decodeLossy bs = s ↔ Lossy bs s := by
  constructor
  · rintro rfl
    exact lossy_of_pieces rfl
  · intro lossy
    induction lossy with
    | nil => rfl
    | @char c bs s _ ih =>
      rw [decodeLossy, pieces_encodeChar]
      exact congrArg _ ih
    | subpart cut _ ih =>
      obtain ⟨q, front⟩ := pieces_subpart cut
      rw [decodeLossy, front]
      exact congrArg _ ih

theorem Lossy.nul_notMem {bs : Bytes} {s : List Char} (lossy : Lossy bs s) (clean : 0 ∉ bs) :
    '\x00' ∉ s := by
  induction lossy with
  | nil => exact List.not_mem_nil
  | char c _ ih =>
    rw [List.mem_append, not_or] at clean
    rw [List.mem_cons, not_or]
    constructor
    · rintro rfl
      exact clean.1 ((zero_mem_encodeChar_iff _).mpr rfl)
    · exact ih clean.2
  | subpart _ _ ih =>
    rw [List.mem_append, not_or] at clean
    rw [List.mem_cons, not_or]
    exact ⟨by decide, ih clean.2⟩

example : decodeLossy [0xF0, 0x9F, 0x98, 0x41, 0xED, 0xA0, 0x80, 0xC0, 0x80] =
    [replacement, 'A', replacement, replacement, replacement, replacement, replacement] := by
  decide

end ClangHost.Utf8
