import ClangHost.Json.Reader
import ClangHost.Json.Value
import Mathlib.Data.List.Basic
import Mathlib.Data.List.TakeDrop
import Mathlib.Tactic.SplitIfs

/-!
The JSON texts that this library writes, read back. What stands between quotes gives the text back
(`text?_flatMap_escape`), digits give the integer back where a document may hold it
(`Literal.node_ofInt`), and so the text of a value gives its tree back and ends where it ends
(`reads_of_fits`), as a whole document too (`read_chars`).
-/
namespace ClangHost.Json

def TextUnit.ofChar (c : Char) : TextUnit :=
  if c ∈ ['\x08', '\t', '\n', '\x0c', '\r'] then .char c
  else if c.toNat < 0x20 then .code c.toNat
  else .char c

theorem codeUnit?_hexByte (b : UInt8) :
    ∃ h l, Text.hexByte b = [h, l] ∧ codeUnit? '0' '0' h l = some b.toNat := by
  refine ⟨_, _, rfl, ?_⟩
  have high := Text.hexValue?_digitChar (b.toNat / 16) (by have := b.toNat_lt; omega)
  have low := Text.hexValue?_digitChar (b.toNat % 16) (by omega)
  have zero : Text.hexValue? '0' = some 0 := by decide
  simp only [codeUnit?, high, low, zero, Option.bind_eq_bind, Option.bind_some, Option.some_inj]
  omega

theorem textUnits?_numberEscape {c : Char} (low : c.toNat < 0x20) (s : List Char) :
    textUnits? (numberEscape c ++ s) =
      (textUnits? s).map fun (us, r) => (.code c.toNat :: us, r) := by
  obtain ⟨h, l, digits, number⟩ := codeUnit?_hexByte c.toNat.toUInt8
  have byte : c.toNat.toUInt8.toNat = c.toNat := by
    rw [Nat.toUInt8, UInt8.toNat_ofNat']
    omega
  rw [numberEscape, digits]
  simp only [List.cons_append, List.nil_append]
  rw [textUnits?, number, byte]

theorem textUnits?_escape (c : Char) (s : List Char) :
    textUnits? (escape c ++ s) =
      (textUnits? s).map fun (us, r) => (TextUnit.ofChar c :: us, r) := by
  rw [escape]
  split_ifs with quote backslash b t n f r low
  · subst quote; rfl
  · subst backslash; rfl
  · subst b; rfl
  · subst t; rfl
  · subst n; rfl
  · subst f; rfl
  · subst r; rfl
  · rw [textUnits?_numberEscape low, TextUnit.ofChar, if_neg (by simp [b, t, n, f, r]), if_pos low]
  · rw [TextUnit.ofChar, if_neg (by simp [b, t, n, f, r]), if_neg low, List.singleton_append,
      textUnits?.eq_def]
    split
    · contradiction
    · cases quote (List.cons.inj ‹_›).1
    · cases backslash (List.cons.inj ‹_›).1
    · cases backslash (List.cons.inj ‹_›).1
    · obtain ⟨rfl, rfl⟩ := List.cons.inj ‹_›
      rw [if_neg (by simp [backslash, low])]

theorem joinUnits?_code {n : Nat} (low : n < 0xD800) (us : List TextUnit) :
    joinUnits? (.code n :: us) = (joinUnits? us).map (Char.ofNat n :: ·) := by
  rw [joinUnits?.eq_def]
  split
  · contradiction
  · cases ‹TextUnit.code n :: us = _›
  · cases ‹TextUnit.code n :: us = _›
    rw [if_neg (by omega), if_neg (by omega)]
  · cases ‹TextUnit.code n :: us = _›
    rw [if_neg (by omega)]

theorem joinUnits?_ofChar (c : Char) (us : List TextUnit) :
    joinUnits? (TextUnit.ofChar c :: us) = (joinUnits? us).map (c :: ·) := by
  rw [TextUnit.ofChar]
  split_ifs with letter low
  · rw [joinUnits?]
  · rw [joinUnits?_code (by omega), Char.ofNat_toNat]
  · rw [joinUnits?]

theorem text?_flatMap_escape (s rest : List Char) :
    text? (s.flatMap escape ++ '"' :: rest) = some (some s, rest) := by
  -- the units are found first and joined afterwards, since joining looks at two of them at a time
  have units : textUnits? (s.flatMap escape ++ '"' :: rest) =
      some (s.map TextUnit.ofChar, rest) := by
    induction s with
    | nil => rfl
    | cons c s ih =>
      rw [List.flatMap_cons, List.append_assoc, textUnits?_escape, ih]
      rfl
  have joined : joinUnits? (s.map TextUnit.ofChar) = some s := by
    clear units
    induction s with
    | nil => rfl
    | cons c s ih =>
      rw [List.map_cons, joinUnits?_ofChar, ih]
      rfl
  rw [text?, units, ← joined]
  rfl

theorem quote_append (s rest : List Char) :
    quote s ++ rest = '"' :: (s.flatMap escape ++ '"' :: rest) := by
  simp [quote]

/-! ### Numbers -/

def Ends (rest : List Char) : Prop :=
  ∀ c ∈ rest.head?, ¬ c.isDigit ∧ c ≠ '.' ∧ c ≠ 'e' ∧ c ≠ 'E'

theorem digits_append {ds rest : List Char} (all : ∀ c ∈ ds, c.isDigit) (ends : Ends rest) :
    digits (ds ++ rest) = (ds, rest) := by
  rw [digits, List.span_eq_takeWhile_dropWhile, List.takeWhile_append_of_pos all,
    List.dropWhile_append_of_pos all]
  cases rest with
  | nil => simp
  | cons c rest => simp [(ends c rfl).1]

theorem eq_zero_of_head?_toDigits {n : Nat} (zero : (Nat.toDigits 10 n).head? = some '0') :
    n = 0 := by
  -- the first digit of a number is that of its tenth part, down to a single digit
  induction n using Nat.strongRecOn with
  | ind n ih =>
    rw [Nat.toDigits_eq_if (by decide)] at zero
    split at zero
    case isTrue small =>
      revert zero
      have : ∀ m < 10, [Nat.digitChar m].head? = some '0' → m = 0 := by decide
      exact this n small
    case isFalse large =>
      rw [List.head?_append_of_ne_nil _ Nat.toDigits_ne_nil] at zero
      have := ih (n / 10) (by omega) zero
      omega

theorem whole?_toDigits (n : Nat) {rest : List Char} (ends : Ends rest) :
    Literal.whole? (Nat.toDigits 10 n ++ rest) = some (Nat.toDigits 10 n, rest) := by
  have all : ∀ c ∈ Nat.toDigits 10 n, c.isDigit := fun c member =>
    Nat.isDigit_of_mem_toDigits (by decide) (by decide) member
  rw [Literal.whole?, digits_append all ends]
  split
  · rename_i nothing
    cases Nat.toDigits_ne_nil (congrArg Prod.fst nothing)
  · rename_i leading
    have leading := congrArg Prod.fst leading
    dsimp only at leading
    have zero := eq_zero_of_head?_toDigits (n := n) (by rw [leading]; rfl)
    subst zero
    cases leading
  · rename_i same
    rw [← same]

theorem absorb_eq {ds : List Char} {n : Nat} (fits : Nat.ofDigitChars 10 ds n < UInt64.size) :
    absorb n ds = (Nat.ofDigitChars 10 ds n, []) := by
  induction ds generalizing n with
  | nil => rfl
  | cons c ds ih =>
    have next : 10 * n + (c.toNat - '0'.toNat) = n * 10 + digitValue c := by
      rw [Nat.mul_comm]
      rfl
    rw [Nat.ofDigitChars_cons, next] at fits ⊢
    -- no digit makes the number smaller, so it fits at every digit if it does at the last one
    have small : n * 10 + digitValue c < UInt64.size := by
      rw [Nat.ofDigitChars_eq_ofDigitChars_zero] at fits
      have scale : 0 < 10 ^ ds.length := Nat.pow_pos (by decide)
      have := Nat.le_mul_of_pos_left (n * 10 + digitValue c) scale
      omega
    rw [absorb]
    simp only [small, if_true]
    exact ih fits

theorem absorb_toDigits {n : Nat} (fits : n < UInt64.size) :
    absorb 0 (Nat.toDigits 10 n) = (n, []) := by
  have value : Nat.ofDigitChars 10 (Nat.toDigits 10 n) 0 = n := Nat.ofDigitChars_ten_toDigits
  rw [absorb_eq (by rwa [value]), value]

def Fits (n : Int) : Prop := Int64.minValue.toInt ≤ n ∧ n < UInt64.size

theorem fraction?_of_ends {rest : List Char} (ends : Ends rest) :
    Literal.fraction? rest = some (none, rest) := by
  rw [Literal.fraction?.eq_def]
  split
  · cases (ends '.' rfl).2.1 rfl
  · rfl

theorem exponent?_of_ends {rest : List Char} (ends : Ends rest) :
    Literal.exponent? rest = some (none, rest) := by
  cases rest with
  | nil => rfl
  | cons c rest =>
    obtain ⟨_, _, lower, upper⟩ := ends c rfl
    exact if_neg (by simp [lower, upper])

def Literal.ofInt (n : Int) : Literal :=
  { negative := n < 0, whole := Nat.toDigits 10 n.natAbs, fraction := none, exponent := none }

theorem toList_toString_ofNat (m : Nat) :
    (toString (Int.ofNat m)).toList = Nat.toDigits 10 m := Nat.toList_repr

theorem toList_toString_negSucc (m : Nat) :
    (toString (Int.negSucc m)).toList = '-' :: Nat.toDigits 10 (m + 1) := by
  change ("-" ++ (m + 1).repr).toList = _
  rw [String.toList_append, Nat.toList_repr]
  rfl

theorem not_sign_toDigits (n : Nat) (rest s : List Char) :
    Nat.toDigits 10 n ++ rest ≠ '-' :: s := by
  intro signed
  have sign : '-' ∈ (Nat.toDigits 10 n ++ rest).head? := by rw [signed]; rfl
  rw [List.head?_append_of_ne_nil _ Nat.toDigits_ne_nil] at sign
  have := Nat.isDigit_of_mem_toDigits (by decide) (by decide) (List.mem_of_mem_head? sign)
  revert this
  decide

theorem read?_toString (n : Int) {rest : List Char} (ends : Ends rest) :
    Literal.read? ((toString n).toList ++ rest) = some (Literal.ofInt n, rest) := by
  cases n with
  | ofNat m =>
    rw [toList_toString_ofNat, Literal.read?]
    · simp only [whole?_toDigits m ends, fraction?_of_ends ends, exponent?_of_ends ends,
        Option.bind_eq_bind, Option.bind_some]
      rfl
    · exact fun s => not_sign_toDigits m rest s
  | negSucc m =>
    rw [toList_toString_negSucc, List.cons_append, Literal.read?]
    simp only [whole?_toDigits (m + 1) ends, fraction?_of_ends ends, exponent?_of_ends ends,
      Option.bind_eq_bind, Option.bind_some]
    rw [Literal.ofInt, decide_eq_true (Int.negSucc_lt_zero m)]
    rfl

theorem Literal.node_ofInt {n : Int} (fits : Fits n) : (ofInt n).node = .integer n := by
  obtain ⟨low, high⟩ := fits
  have least : Int64.minValue.toInt = -9223372036854775808 := by decide
  have size : UInt64.size = 18446744073709551616 := rfl
  rw [least] at low
  rw [size] at high
  rw [Literal.node, ofInt]
  simp only [absorb_toDigits (n := n.natAbs) (by omega), Option.isNone_none, List.isEmpty_nil,
    Bool.and_self, if_true, least]
  by_cases sign : n < 0
  · rw [decide_eq_true sign, if_neg (by decide), if_pos (by omega)]
    exact congrArg _ (by omega)
  · rw [decide_eq_false sign, if_pos (by decide)]
    exact congrArg _ (by omega)

/-! ### Values -/

namespace Value

/-- What holds of a list or a table as soon as it holds of all in it holds of every value. -/
theorem induction {P : Value → Prop} (null : P .null) (bool : ∀ b, P (.bool b))
    (integer : ∀ n, P (.integer n)) (text : ∀ s, P (.text s))
    (list : ∀ items, (∀ x ∈ items, P x) → P (.list items))
    (table : ∀ entries, (∀ e ∈ entries, P e.2) → P (.table entries)) : ∀ x, P x
  | .null => null
  | .bool b => bool b
  | .integer n => integer n
  | .text s => text s
  | .list items => list items fun x _ => induction null bool integer text list table x
  | .table entries => table entries fun e _ => induction null bool integer text list table e.2
termination_by x => sizeOf x
decreasing_by
  · have := List.sizeOf_lt_of_mem ‹x ∈ items›
    simp only [Value.list.sizeOf_spec]
    omega
  · have := List.sizeOf_lt_of_mem ‹e ∈ entries›
    obtain ⟨key, x⟩ := e
    simp only [Value.table.sizeOf_spec, Prod.mk.sizeOf_spec] at *
    omega

inductive Fits : Value → Prop where
  | null : Fits .null
  | bool (b : Bool) : Fits (.bool b)
  | integer {n : Int} (fits : Json.Fits n) : Fits (.integer n)
  | text (s : String) : Fits (.text s)
  | list {items : List Value} (fits : ∀ x ∈ items, Fits x) : Fits (.list items)
  | table {entries : List (String × Value)} (fits : ∀ e ∈ entries, Fits e.2) :
    Fits (.table entries)

/-- The text of a value reads back, whatever follows it that is no part of a number. -/
def Reads (x : Value) : Prop :=
  ∀ fuel rest, x.chars.length ≤ fuel → Ends rest →
    value fuel (x.chars ++ rest) = (x.node, some rest)

theorem skipBlanks_cons {c : Char} (sign : isBlank c = false) (s : List Char) :
    skipBlanks (c :: s) = c :: s := by
  rw [skipBlanks, List.dropWhile_cons, sign, if_neg Bool.false_ne_true]

theorem ends_cons {c : Char} (other : ¬ c.isDigit ∧ c ≠ '.' ∧ c ≠ 'e' ∧ c ≠ 'E') (s : List Char) :
    Ends (c :: s) := by
  intro d first
  cases first
  exact other

theorem toString_eq_cons (n : Int) :
    ∃ c s, (toString n).toList = c :: s ∧ (c = '-' ∨ c.isDigit) := by
  cases n with
  | ofNat m =>
    obtain ⟨c, s, written⟩ := List.exists_cons_of_ne_nil (Nat.toDigits_ne_nil (n := m) (b := 10))
    have digit := Nat.isDigit_of_mem_toDigits (c := c) (by decide) (by decide : 10 ≤ 10)
      (by rw [written]; exact List.mem_cons_self)
    exact ⟨c, s, (toList_toString_ofNat m).trans written, .inr digit⟩
  | negSucc m => exact ⟨'-', _, toList_toString_negSucc m, .inl rfl⟩

theorem ne_of_number {c d : Char} (number : c = '-' ∨ c.isDigit) (other : ¬ (d = '-' ∨ d.isDigit)) :
    c ≠ d := by
  rintro rfl
  exact other number

theorem isBlank_of_number {c : Char} (number : c = '-' ∨ c.isDigit) : isBlank c = false := by
  simp [isBlank, ne_of_number number]

theorem value_number {c : Char} (number : c = '-' ∨ c.isDigit) (fuel : Nat) {s rest : List Char}
    {l : Literal} (read : Literal.read? (c :: s) = some (l, rest)) :
    value (fuel + 1) (c :: s) = (l.node, some rest) := by
  rw [value, skipBlanks_cons (isBlank_of_number number)]
  split
  · contradiction
  · exact absurd (List.cons.inj ‹_›).1 (ne_of_number number (by decide))
  · exact absurd (List.cons.inj ‹_›).1 (ne_of_number number (by decide))
  · exact absurd (List.cons.inj ‹_›).1 (ne_of_number number (by decide))
  · obtain ⟨rfl, rfl⟩ := List.cons.inj ‹_›
    rw [if_pos number, read]

theorem chars_eq_cons (x : Value) : ∃ c s, x.chars = c :: s ∧ isBlank c = false ∧ c ≠ ']' := by
  cases x with
  | null => exact ⟨_, _, rfl, rfl, by decide⟩
  | bool b => cases b <;> exact ⟨_, _, rfl, rfl, by decide⟩
  | integer n =>
    obtain ⟨c, s, written, number⟩ := toString_eq_cons n
    exact ⟨c, s, written, isBlank_of_number number, ne_of_number number (by decide)⟩
  | text s => exact ⟨_, _, rfl, rfl, by decide⟩
  | list items => cases items <;> exact ⟨_, _, rfl, rfl, by decide⟩
  | table entries => cases entries <;> exact ⟨_, _, rfl, rfl, by decide⟩

theorem ends_charsItems (items : List Value) (rest : List Char) :
    Ends (charsItems items ++ rest) := by
  cases items <;> exact ends_cons (by decide) _

theorem ends_charsEntries (entries : List (String × Value)) (rest : List Char) :
    Ends (charsEntries entries ++ rest) := by
  cases entries <;> exact ends_cons (by decide) _

theorem length_charsItems_pos (items : List Value) : 0 < (charsItems items).length := by
  cases items <;> simp [charsItems]

theorem length_charsEntries_pos (entries : List (String × Value)) :
    0 < (charsEntries entries).length := by
  cases entries <;> simp [charsEntries]

theorem items_charsItems {x : Value} {xs : List Value} (all : ∀ y ∈ x :: xs, Reads y) {fuel : Nat}
    (enough : x.chars.length + (charsItems xs).length ≤ fuel) (rest : List Char) :
    items fuel (x.chars ++ (charsItems xs ++ rest)) = (nodeItems (x :: xs), some rest) := by
  induction xs generalizing x fuel with
  | nil =>
    have closing := length_charsItems_pos []
    obtain ⟨fuel, rfl⟩ : ∃ k, fuel = k + 1 := Nat.exists_eq_add_one.mpr (by omega)
    rw [items, all x List.mem_cons_self fuel _ (by omega) (ends_charsItems _ rest)]
    rfl
  | cons y ys ih =>
    obtain ⟨here, others⟩ := List.forall_mem_cons.mp all
    simp only [charsItems, List.length_append, List.length_cons] at enough
    obtain ⟨fuel, rfl⟩ : ∃ k, fuel = k + 1 := Nat.exists_eq_add_one.mpr (by omega)
    rw [items, here fuel _ (by omega) (ends_charsItems _ rest)]
    simp only [charsItems, List.cons_append, List.append_assoc]
    rw [skipBlanks_cons rfl]
    simp only [ih others (by omega : _ ≤ fuel)]
    rfl

theorem entries_last {key : String} {fuel : Nat} {s rest : List Char} {x : Document.Node}
    (read : value fuel s = (x, some ('\x7d' :: rest))) :
    entries (fuel + 1) (quote key.toList ++ ':' :: s) =
      ([(⟨key, none⟩, none, x)], false, some rest) := by
  rw [entries, quote_append, skipBlanks_cons rfl]
  simp only [text?_flatMap_escape]
  rw [skipBlanks_cons rfl]
  simp only [read]
  rw [skipBlanks_cons rfl, String.ofList_toList]
  rfl

theorem entries_more {key : String} {fuel : Nat} {s rest : List Char} {x : Document.Node}
    (read : value fuel s = (x, some (',' :: rest))) :
    entries (fuel + 1) (quote key.toList ++ ':' :: s) =
      ((⟨key, none⟩, none, x) :: (entries fuel rest).1, (entries fuel rest).2) := by
  rw [entries, quote_append, skipBlanks_cons rfl]
  simp only [text?_flatMap_escape]
  rw [skipBlanks_cons rfl]
  simp only [read]
  rw [skipBlanks_cons rfl, String.ofList_toList]
  rfl

theorem entries_charsEntries {key : String} {x : Value} {es : List (String × Value)}
    (all : ∀ e ∈ (key, x) :: es, Reads e.2) {fuel : Nat}
    (enough : x.chars.length + (charsEntries es).length ≤ fuel) (rest : List Char) :
    entries fuel (quote key.toList ++ (':' :: (x.chars ++ (charsEntries es ++ rest)))) =
      (nodeEntries ((key, x) :: es), false, some rest) := by
  induction es generalizing key x fuel with
  | nil =>
    have closing := length_charsEntries_pos []
    obtain ⟨fuel, rfl⟩ : ∃ k, fuel = k + 1 := Nat.exists_eq_add_one.mpr (by omega)
    have here : Reads x := all (key, x) List.mem_cons_self
    exact entries_last (here fuel _ (by omega) (ends_charsEntries _ rest))
  | cons e es ih =>
    obtain ⟨(here : Reads x), others⟩ := List.forall_mem_cons.mp all
    obtain ⟨name, y⟩ := e
    simp only [charsEntries, List.length_append, List.length_cons] at enough
    obtain ⟨fuel, rfl⟩ : ∃ k, fuel = k + 1 := Nat.exists_eq_add_one.mpr (by omega)
    have read := here fuel (charsEntries ((name, y) :: es) ++ rest) (by omega)
      (ends_charsEntries _ rest)
    simp only [charsEntries, List.cons_append, List.append_assoc] at read ⊢
    rw [entries_more read, ih others (by omega)]
    rfl

theorem chars_ne_nil (x : Value) : x.chars ≠ [] := by
  obtain ⟨c, s, written, _⟩ := chars_eq_cons x
  rw [written]
  exact List.cons_ne_nil c s

theorem reads_of_succ {x : Value} (reads : ∀ fuel rest, x.chars.length ≤ fuel + 1 → Ends rest →
    value (fuel + 1) (x.chars ++ rest) = (x.node, some rest)) : Reads x := by
  intro fuel rest enough ends
  have long := List.length_pos_of_ne_nil x.chars_ne_nil
  obtain ⟨fuel, rfl⟩ : ∃ k, fuel = k + 1 := Nat.exists_eq_add_one.mpr (by omega)
  exact reads fuel rest enough ends

theorem value_list {c : Char} (sign : isBlank c = false) (opened : c ≠ ']') {fuel : Nat}
    {s rest : List Char} {xs : List (Option Document.Span × Document.Node)}
    (read : items fuel (c :: s) = (xs, some rest)) :
    value (fuel + 1) ('[' :: c :: s) = (.list xs false, some rest) := by
  rw [value, skipBlanks_cons rfl]
  simp only [skipBlanks_cons sign]
  split
  · exact absurd (List.cons.inj ‹_›).1 opened
  · rw [read]
    rfl

theorem value_table {fuel : Nat} {s rest : List Char}
    {es : List (Document.Key × Option Document.Span × Document.Node)}
    (read : entries fuel ('"' :: s) = (es, false, some rest)) :
    value (fuel + 1) ('\x7b' :: '"' :: s) = (.table es false, some rest) := by
  have quoted : skipBlanks ('"' :: s) = '"' :: s := skipBlanks_cons rfl s
  rw [value, skipBlanks_cons rfl]
  simp only [quoted]
  split
  · exact absurd (List.cons.inj ‹_›).1 (by decide)
  · rw [read]

/-- Every value whose integers fit reads back from its text. -/
theorem reads_of_fits (x : Value) (fits : x.Fits) : Reads x := by
  induction x using induction with
  | null => exact reads_of_succ fun _ _ _ _ => rfl
  | bool b => cases b <;> exact reads_of_succ fun _ _ _ _ => rfl
  | integer n =>
    cases fits with
    | integer fits =>
      refine reads_of_succ fun fuel rest _ ends => ?_
      obtain ⟨c, s, written, number⟩ := toString_eq_cons n
      have read := read?_toString n ends
      rw [chars, node, ← Literal.node_ofInt fits]
      rw [written, List.cons_append] at read ⊢
      exact value_number number fuel read
  | text s =>
    refine reads_of_succ fun fuel rest _ _ => ?_
    rw [chars, quote_append, value, skipBlanks_cons rfl]
    simp only [text?_flatMap_escape, String.ofList_toList]
    rfl
  | list items ih =>
    -- what follows the elements is a comma or a bracket, so `rest` need not end a number here
    refine reads_of_succ fun fuel rest enough _ => ?_
    cases fits with
    | list fits =>
      cases items with
      | nil => rfl
      | cons x xs =>
        have all : ∀ y ∈ x :: xs, Reads y := fun y member => ih y member (fits y member)
        simp only [chars, List.length_cons, List.length_append] at enough
        have inside := items_charsItems all (by omega : _ ≤ fuel) rest
        obtain ⟨c, s, written, sign, opened⟩ := chars_eq_cons x
        simp only [chars, List.cons_append, List.append_assoc]
        rw [written, List.cons_append] at inside ⊢
        exact value_list sign opened inside
  | table entries ih =>
    refine reads_of_succ fun fuel rest enough _ => ?_
    cases fits with
    | table fits =>
      cases entries with
      | nil => rfl
      | cons e es =>
        obtain ⟨key, x⟩ := e
        have all : ∀ e ∈ (key, x) :: es, Reads e.2 := fun e member => ih e member (fits e member)
        simp only [chars, List.length_cons, List.length_append] at enough
        have inside := entries_charsEntries all (by omega : _ ≤ fuel) rest
        simp only [chars, List.cons_append, List.append_assoc]
        rw [quote_append] at inside ⊢
        exact value_table inside

end Value

theorem read_chars {x : Value} (fits : x.Fits) : read x.chars = ⟨x.node, true⟩ := by
  have ends : Ends [] := nofun
  have whole := x.reads_of_fits fits (2 * x.chars.length + 2) [] (by omega) ends
  rw [List.append_nil] at whole
  rw [read, whole]
  rfl

theorem decode_chars {α : Type} {x : Value} (fits : x.Fits)
    (f : Document.Node → Except Document.Fault α) : decode f x.chars = f x.node := by
  rw [decode, read_chars fits]
  cases f x.node <;> rfl

end ClangHost.Json
