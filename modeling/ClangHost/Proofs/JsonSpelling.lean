import ClangHost.Proofs.JsonReading
import Mathlib.Data.List.Induction
import Mathlib.Data.List.TakeWhile

/-!
How the leaves of a JSON document are spelled. Between quotes a text may be spelled with escapes,
and is read exactly where it is (`text?_eq_some_iff`). A numeral is an integer without fraction,
exponent and leading zeros, so an integer has one numeral only (`numeral_iff`), and a number that
is read as an integer is one (`Literal.numeral_of_node`).
-/
namespace ClangHost.Json

/-! ### Blanks -/

def Blank (b : List Char) : Prop := ∀ c ∈ b, isBlank c

theorem Blank.append {a b : List Char} (first : Blank a) (second : Blank b) : Blank (a ++ b) :=
  List.forall_mem_append.mpr ⟨first, second⟩

theorem skipBlanks_append {b : List Char} (blank : Blank b) (s : List Char) :
    skipBlanks (b ++ s) = skipBlanks s :=
  List.dropWhile_append_of_pos blank

theorem exists_blank (s : List Char) : ∃ b, Blank b ∧ s = b ++ skipBlanks s := by
  refine ⟨s.takeWhile isBlank, ?_, (List.takeWhile_append_dropWhile).symm⟩
  intro c member
  exact List.mem_takeWhile_imp member

theorem blank_iff (s : List Char) : (skipBlanks s).isEmpty ↔ Blank s := by
  rw [List.isEmpty_iff, skipBlanks, List.dropWhile_eq_nil_iff]
  rfl

theorem ends_of_blank {b : List Char} (blank : Blank b) : Ends b := by
  intro c first
  have sign := blank c (List.mem_of_mem_head? first)
  simp only [isBlank, Bool.or_eq_true, beq_iff_eq] at sign
  rcases sign with ((rfl | rfl) | rfl) | rfl <;> decide

/-! ### Texts -/

inductive Units : List Char → List TextUnit → Prop where
  | nil : Units [] []
  | plain {c : Char} {raw : List Char} {us : List TextUnit} : c ≠ '"' → c ≠ '\\' →
      0x20 ≤ c.toNat → Units raw us → Units (c :: raw) (.char c :: us)
  | letter {l c : Char} {raw : List Char} {us : List TextUnit} : letterEscape? l = some c →
      Units raw us → Units ('\\' :: l :: raw) (.char c :: us)
  | code {a b c d : Char} {n : Nat} {raw : List Char} {us : List TextUnit} :
      codeUnit? a b c d = some n → Units raw us →
      Units ('\\' :: 'u' :: a :: b :: c :: d :: raw) (.code n :: us)

/-- The characters of units; a surrogate stands for one only in a pair. -/
inductive Joins : List TextUnit → List Char → Prop where
  | nil : Joins [] []
  | char (c : Char) {us : List TextUnit} {s : List Char} : Joins us s →
      Joins (.char c :: us) (c :: s)
  | code {n : Nat} {us : List TextUnit} {s : List Char} : n < 0xD800 ∨ 0xE000 ≤ n → Joins us s →
      Joins (.code n :: us) (Char.ofNat n :: s)
  | pair {high low : Nat} {us : List TextUnit} {s : List Char} : 0xD800 ≤ high ∧ high < 0xDC00 →
      0xDC00 ≤ low ∧ low < 0xE000 → Joins us s →
      Joins (.code high :: .code low :: us)
        (Char.ofNat ((high - 0xD800) * 0x400 + (low - 0xDC00) + 0x10000) :: s)

/-- The texts between quotes that stand for some characters. -/
def Spells (raw s : List Char) : Prop := ∃ us, Units raw us ∧ Joins us s

theorem Units.read {raw : List Char} {us : List TextUnit} (units : Units raw us)
    (rest : List Char) : textUnits? (raw ++ '"' :: rest) = some (us, rest) := by
  induction units with
  | nil => rfl
  | @plain c raw us quote backslash high _ ih =>
    rw [List.cons_append, textUnits?.eq_def]
    split
    · contradiction
    · cases quote (List.cons.inj ‹_›).1
    · cases backslash (List.cons.inj ‹_›).1
    · cases backslash (List.cons.inj ‹_›).1
    · obtain ⟨rfl, rfl⟩ := List.cons.inj ‹_›
      rw [if_neg (by simp only [backslash, false_or]; omega), ih]
      rfl
  | @letter l c raw us stands _ ih =>
    simp only [List.cons_append]
    rw [textUnits?]
    · simp only [stands, ih]
      rfl
    · intro a b c d rest' l eq
      subst l
      cases stands
  | code stands _ ih =>
    simp only [List.cons_append, textUnits?, stands, ih]
    rfl

theorem exists_units {s rest : List Char} {us : List TextUnit}
    (read : textUnits? s = some (us, rest)) : ∃ raw, s = raw ++ '"' :: rest ∧ Units raw us := by
  fun_induction textUnits? s generalizing us with
  | case1 | case3 | case5 | case7 => cases read
  | case2 s =>
    obtain ⟨rfl, rfl⟩ := Prod.mk.inj (Option.some.inj read)
    exact ⟨[], rfl, .nil⟩
  | case4 a b c d s n stands ih =>
    obtain ⟨⟨us', _⟩, inner, same⟩ := Option.map_eq_some_iff.mp read
    cases same
    obtain ⟨raw, rfl, units⟩ := ih inner
    exact ⟨'\\' :: 'u' :: a :: b :: c :: d :: raw, rfl, .code stands units⟩
  | case6 l s _ c stands ih =>
    obtain ⟨⟨us', _⟩, inner, same⟩ := Option.map_eq_some_iff.mp read
    cases same
    obtain ⟨raw, rfl, units⟩ := ih inner
    exact ⟨'\\' :: l :: raw, rfl, .letter stands units⟩
  | case8 c s quote letter code plain ih =>
    obtain ⟨⟨us', _⟩, inner, same⟩ := Option.map_eq_some_iff.mp read
    cases same
    obtain ⟨raw, rfl, units⟩ := ih inner
    exact ⟨c :: raw, rfl, .plain (by simpa using quote) (not_or.mp plain).1 (by omega) units⟩

theorem joinUnits?_eq_some_iff (us : List TextUnit) (s : List Char) :
    joinUnits? us = some s ↔ Joins us s := by
  constructor
  · intro joined
    fun_induction joinUnits? us generalizing s with
    | case1 => cases joined; exact .nil
    | case2 c us ih =>
      obtain ⟨s, inner, rfl⟩ := Option.map_eq_some_iff.mp joined
      exact .char c (ih s inner)
    | case3 high low us h l ih =>
      obtain ⟨s, inner, rfl⟩ := Option.map_eq_some_iff.mp joined
      exact .pair h l (ih s inner)
    | case4 | case5 | case7 => cases joined
    | case6 n low us high low' ih =>
      obtain ⟨s, inner, rfl⟩ := Option.map_eq_some_iff.mp joined
      exact .code (by omega) (ih s inner)
    | case8 n us _ single ih =>
      obtain ⟨s, inner, rfl⟩ := Option.map_eq_some_iff.mp joined
      exact .code (by omega) (ih s inner)
  · intro joins
    induction joins with
    | nil => rfl
    | char c _ ih => rw [joinUnits?, ih]; rfl
    | @code n us s single _ ih =>
      rw [joinUnits?.eq_def]
      split
      · contradiction
      · cases ‹TextUnit.code n :: us = _›
      · cases ‹TextUnit.code n :: us = _›
        rw [if_neg (by omega), if_neg (by omega), ih]
        rfl
      · cases ‹TextUnit.code n :: us = _›
        rw [if_neg (by omega), ih]
        rfl
    | pair h l _ ih =>
      rw [joinUnits?, if_pos h, if_pos l, ih]
      rfl

theorem text?_eq_some_iff (s cs rest : List Char) :
    text? s = some (some cs, rest) ↔ ∃ raw, s = raw ++ '"' :: rest ∧ Spells raw cs := by
  constructor
  · intro read
    obtain ⟨⟨us, _⟩, units, same⟩ := Option.map_eq_some_iff.mp read
    obtain ⟨joined, rfl⟩ := Prod.mk.inj same
    obtain ⟨raw, rfl, spelled⟩ := exists_units units
    exact ⟨raw, rfl, us, spelled, (joinUnits?_eq_some_iff us cs).mp joined⟩
  · rintro ⟨raw, rfl, us, units, joins⟩
    rw [text?, units.read, ← (joinUnits?_eq_some_iff us cs).mpr joins]
    rfl

/-! ### Numerals -/

structure WholeDigits (ds : List Char) : Prop where
  nonempty : ds ≠ []
  digits : ∀ c ∈ ds, c.isDigit
  leading : ds.head? = some '0' → ds = ['0']

/-- An integer as a number without fraction and exponent. No zero has a sign. -/
inductive Numeral : List Char → Int → Prop where
  | whole {ds : List Char} : WholeDigits ds → Numeral ds (Nat.ofDigitChars 10 ds 0)
  | negative {ds : List Char} : WholeDigits ds → ds ≠ ['0'] →
      Numeral ('-' :: ds) (-Nat.ofDigitChars 10 ds 0)

theorem Numeral.ne_nil {raw : List Char} {n : Int} (numeral : Numeral raw n) : raw ≠ [] := by
  cases numeral with
  | whole digits => exact digits.nonempty
  | negative => exact List.cons_ne_nil _ _

theorem toNat_of_isDigit {c : Char} (digit : c.isDigit) :
    c.toNat - '0'.toNat < 10 ∧ Nat.digitChar (c.toNat - '0'.toNat) = c := by
  have range : 48 ≤ c.toNat ∧ c.toNat ≤ 57 := by
    simp only [Char.isDigit, ge_iff_le, Bool.and_eq_true, decide_eq_true_eq,
      UInt32.le_iff_toNat_le] at digit
    exact digit
  have digits : ∀ n < 10, Nat.digitChar n = Char.ofNat (n + 48) := by decide
  have zero : '0'.toNat = 48 := rfl
  refine ⟨by omega, ?_⟩
  rw [digits _ (by omega), zero, Nat.sub_add_cancel range.1, Char.ofNat_toNat]

theorem toDigits_of_isDigit {c : Char} (digit : c.isDigit) :
    Nat.toDigits 10 (c.toNat - '0'.toNat) = [c] := by
  obtain ⟨small, same⟩ := toNat_of_isDigit digit
  rw [Nat.toDigits_of_lt_base small, same]

theorem ofDigitChars_concat (ds : List Char) (c : Char) :
    Nat.ofDigitChars 10 (ds ++ [c]) 0 =
      10 * Nat.ofDigitChars 10 ds 0 + (c.toNat - '0'.toNat) := by
  rw [Nat.ofDigitChars_append, Nat.ofDigitChars_cons, Nat.ofDigitChars_nil]

theorem ofDigitChars_pos {c : Char} {ds : List Char} (digit : c.isDigit) (other : c ≠ '0') :
    0 < Nat.ofDigitChars 10 (c :: ds) 0 := by
  obtain ⟨_, same⟩ := toNat_of_isDigit digit
  have first : 0 < c.toNat - '0'.toNat := by
    apply Nat.pos_of_ne_zero
    intro zero
    rw [zero] at same
    exact other same.symm
  rw [Nat.ofDigitChars_cons, Nat.ofDigitChars_eq_ofDigitChars_zero, Nat.mul_zero, Nat.zero_add]
  have := Nat.mul_pos (Nat.pow_pos (n := ds.length) (by decide : 0 < 10)) first
  omega

theorem WholeDigits.cons_of_concat {ds : List Char} {c : Char} (whole : WholeDigits (ds ++ [c]))
    (more : ds ≠ []) : ∃ d ds', ds = d :: ds' ∧ d.isDigit ∧ d ≠ '0' := by
  obtain ⟨d, ds, rfl⟩ := List.exists_cons_of_ne_nil more
  refine ⟨d, ds, rfl, whole.digits d List.mem_cons_self, ?_⟩
  rintro rfl
  have short := congrArg List.length (whole.leading rfl)
  simp at short

theorem WholeDigits.toDigits_ofDigitChars {ds : List Char} (whole : WholeDigits ds) :
    Nat.toDigits 10 (Nat.ofDigitChars 10 ds 0) = ds := by
  -- from the last digit on, since that is the one that a division by ten takes off
  induction ds using List.reverseRecOn with
  | nil => cases whole.nonempty rfl
  | append_singleton ds c ih =>
    have last : c.isDigit := whole.digits c (by simp)
    rw [ofDigitChars_concat]
    by_cases more : ds = []
    · subst more
      simpa [Nat.ofDigitChars_nil] using toDigits_of_isDigit last
    · obtain ⟨d, ds, rfl, first, other⟩ := whole.cons_of_concat more
      have front : WholeDigits (d :: ds) := by
        refine ⟨more, fun e member => whole.digits e (List.mem_append_left _ member),
          fun zero => ?_⟩
        cases other (Option.some.inj zero)
      rw [← Nat.toDigits_append_toDigits (by decide) (ofDigitChars_pos first other)
        (toNat_of_isDigit last).1, ih front, toDigits_of_isDigit last]

theorem wholeDigits_toDigits (n : Nat) : WholeDigits (Nat.toDigits 10 n) := by
  refine ⟨Nat.toDigits_ne_nil, fun c => Nat.isDigit_of_mem_toDigits (by decide) (by decide), ?_⟩
  intro zero
  rw [eq_zero_of_head?_toDigits zero]
  rfl

theorem numeral_iff (raw : List Char) (n : Int) : Numeral raw n ↔ raw = (toString n).toList := by
  constructor
  · intro numeral
    cases numeral with
    | whole digits => exact ((toList_toString_ofNat _).trans digits.toDigits_ofDigitChars).symm
    | @negative ds digits other =>
      obtain ⟨m, pos⟩ : ∃ m, Nat.ofDigitChars 10 ds 0 = m + 1 := by
        apply Nat.exists_eq_succ_of_ne_zero
        intro zero
        apply other
        rw [← digits.toDigits_ofDigitChars, zero]
        rfl
      have written := digits.toDigits_ofDigitChars
      rw [pos] at written ⊢
      rw [← written]
      exact (toList_toString_negSucc m).symm
  · rintro rfl
    cases n with
    | ofNat m =>
      have numeral := Numeral.whole (wholeDigits_toDigits m)
      rw [Nat.ofDigitChars_ten_toDigits] at numeral
      rw [toList_toString_ofNat]
      exact numeral
    | negSucc m =>
      have other : Nat.toDigits 10 (m + 1) ≠ ['0'] := by
        intro zero
        cases eq_zero_of_head?_toDigits (congrArg List.head? zero)
      have numeral := Numeral.negative (wholeDigits_toDigits (m + 1)) other
      rw [Nat.ofDigitChars_ten_toDigits] at numeral
      rw [toList_toString_negSucc]
      exact numeral

theorem digits_eq {s ds rest : List Char} (read : digits s = (ds, rest)) :
    s = ds ++ rest ∧ ∀ c ∈ ds, c.isDigit := by
  rw [digits, List.span_eq_takeWhile_dropWhile] at read
  obtain ⟨rfl, rfl⟩ := Prod.mk.inj read
  exact ⟨List.takeWhile_append_dropWhile.symm, fun c => List.mem_takeWhile_imp⟩

theorem Literal.whole?_eq_some {s ds rest : List Char} (read : whole? s = some (ds, rest)) :
    s = ds ++ rest ∧ WholeDigits ds := by
  rw [whole?] at read
  split at read
  case h_1 | h_2 => cases read
  case h_3 ds' rest' found leading same =>
    cases read
    obtain ⟨split, all⟩ := digits_eq same
    refine ⟨split, ?_, all, ?_⟩
    · rintro rfl
      exact found rfl
    · intro zero
      cases ds with
      | nil => cases zero
      | cons c ds =>
        cases ds with
        | nil => rw [Option.some.inj zero]
        | cons d ds =>
          cases zero
          cases leading d ds rfl

theorem eq_ofDigitChars_of_absorb {n m : Nat} {ds : List Char} (all : absorb n ds = (m, [])) :
    m = Nat.ofDigitChars 10 ds n := by
  induction ds generalizing n with
  | nil =>
    cases all
    rfl
  | cons c ds ih =>
    rw [absorb] at all
    split at all
    · rw [ih all, Nat.ofDigitChars_cons, Nat.mul_comm]
      rfl
    · cases all

theorem Literal.fraction?_eq_none {s rest : List Char} (read : fraction? s = some (none, rest)) :
    s = rest := by
  rw [fraction?.eq_def] at read
  split at read
  · split at read <;> cases read
  · cases read
    rfl

theorem Literal.exponent?_eq_none {s rest : List Char} (read : exponent? s = some (none, rest)) :
    s = rest := by
  cases s with
  | nil =>
    cases read
    rfl
  | cons c s =>
    by_cases mark : c = 'e' ∨ c = 'E'
    · simp only [exponent?, if_pos mark] at read
      split at read <;> cases read
    · simp only [exponent?, if_neg mark] at read
      cases read
      rfl

theorem Literal.read?_eq_some {s rest : List Char} {l : Literal} (read : read? s = some (l, rest)) :
    ∃ magnitude behind last, s = (if l.negative then ['-'] else []) ++ magnitude ∧
      whole? magnitude = some (l.whole, behind) ∧ fraction? behind = some (l.fraction, last) ∧
      exponent? last = some (l.exponent, rest) := by
  rw [read?.eq_def] at read
  split at read
  rename_i negative magnitude signed
  simp only [Option.bind_eq_bind, Option.bind_eq_some_iff, Option.some_inj, Prod.exists,
    Prod.mk.injEq] at read
  obtain ⟨whole, behind, first, fraction, last, second, exponent, _, third, rfl, rfl⟩ := read
  refine ⟨magnitude, behind, last, ?_, first, second, third⟩
  split at signed
  · cases signed
    rfl
  · cases signed
    rfl

theorem Literal.floatNode_ne_integer (negative : Bool) (x : Option Binary64) (n : Int) :
    floatNode negative x ≠ .integer n := by
  cases x <;> exact Document.Node.noConfusion

theorem Literal.node_eq_integer {l : Literal} {n : Int} (integer : l.node = .integer n) :
    l.fraction = none ∧ l.exponent = none ∧ ∃ m, absorb 0 l.whole = (m, []) ∧
      n = (if l.negative then -(m : Int) else m) ∧ (l.negative → 0 < m) := by
  rw [node] at integer
  split at integer
  rename_i m left absorbed
  split at integer
  case isFalse => cases floatNode_ne_integer _ _ _ integer
  case isTrue plain =>
    simp only [Bool.and_eq_true, Option.isNone_iff_eq_none, List.isEmpty_iff] at plain
    obtain ⟨⟨fraction, exponent⟩, rfl⟩ := plain
    refine ⟨fraction, exponent, m, absorbed, ?_⟩
    cases sign : l.negative with
    | false =>
      rw [sign] at integer
      cases integer
      exact ⟨rfl, fun sign => absurd sign Bool.false_ne_true⟩
    | true =>
      rw [sign, if_neg (by decide)] at integer
      split at integer
      case isTrue bounds =>
        cases integer
        exact ⟨rfl, fun _ => bounds.1⟩
      case isFalse => cases floatNode_ne_integer _ _ _ integer

theorem Literal.numeral_of_node {s rest : List Char} {l : Literal} {n : Int}
    (read : read? s = some (l, rest)) (integer : l.node = .integer n) :
    ∃ raw, s = raw ++ rest ∧ Numeral raw n := by
  obtain ⟨magnitude, behind, last, rfl, whole, fraction, exponent⟩ := read?_eq_some read
  obtain ⟨rfl, digits⟩ := whole?_eq_some whole
  obtain ⟨noFraction, noExponent, m, absorbed, value, positive⟩ := node_eq_integer integer
  rw [noFraction] at fraction
  rw [noExponent] at exponent
  rw [fraction?_eq_none fraction, exponent?_eq_none exponent]
  have number := eq_ofDigitChars_of_absorb absorbed
  cases sign : l.negative with
  | false =>
    refine ⟨l.whole, by simp, ?_⟩
    rw [value, sign, if_neg Bool.false_ne_true, number]
    exact .whole digits
  | true =>
    refine ⟨'-' :: l.whole, by simp, ?_⟩
    rw [value, sign, if_pos rfl, number]
    refine .negative digits fun zero => ?_
    have := positive sign
    rw [number, zero] at this
    cases this

theorem Literal.node_cases (l : Literal) :
    (∃ n, l.node = .integer n) ∨ (∃ t, l.node = .float t) ∨ l.node = .unreadable := by
  have float : ∀ negative x, (∃ t, floatNode negative x = .float t) ∨
      floatNode negative x = .unreadable := by
    intro negative x
    cases x with
    | none => exact .inr rfl
    | some x => exact .inl ⟨_, rfl⟩
  rw [node]
  split
  split_ifs
  · exact .inl ⟨_, rfl⟩
  · exact .inl ⟨_, rfl⟩
  · exact .inr (float _ _)
  · exact .inr (float _ _)

end ClangHost.Json
