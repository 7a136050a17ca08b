import ClangHost.Completion.Results
import Mathlib.Tactic.SplitIfs

/-!
When the view over records is made, and which fault is told when it is not: that of the first
condition which does not hold, in the order of `conditions` (`make_exact`). The order matters, as
the engine's own alignment is divided by only once it is known to be the host's.
-/
namespace ClangHost

variable {σ : Type}

def RecordLayout.conditions (l : RecordLayout) : List (Bool × SchemaFault) :=
  [(l.completionString.isSome, .missingField),
   (l.completionString == host.completionString,
    .fieldOffset (l.completionString.getD 0) (host.completionString.getD 0)),
   (l.size == host.size, .recordSize l.size host.size),
   (l.align == host.align, .recordAlign l.align host.align)]

namespace RecordView

def placeConditions (base : Address) (l : RecordLayout) (count : UInt64) :
    List (Bool × SchemaFault) :=
  [(base != 0, .nullRecords count),
   (decide (RecordLayout.host.align.toNat ∣ base.toNat), .misaligned base l.align),
   (decide (count.toNat * l.size.toNat ≤ 0x7FFFFFFFFFFFFFFF), .overflow count l.size)]

def conditions (base : Address) (l : RecordLayout) (count : UInt64) : List (Bool × SchemaFault) :=
  l.conditions ++ placeConditions base l count

def FirstBroken (cs : List (Bool × SchemaFault)) (fault : SchemaFault) : Prop :=
  ∃ before after, cs = before ++ (false, fault) :: after ∧ ∀ c ∈ before, c.1 = true

def walk : List (Bool × SchemaFault) → Except SchemaFault Unit
  | [] => .ok ()
  | (met, fault) :: cs => if met then walk cs else .error fault

theorem walk_append (cs ds : List (Bool × SchemaFault)) :
    walk (cs ++ ds) = (do walk cs; walk ds) := by
  induction cs with
  | nil => rfl
  | cons c cs ih =>
    obtain ⟨_ | _, fault⟩ := c
    · rfl
    · exact ih

theorem walk_eq_ok_iff (cs : List (Bool × SchemaFault)) :
    walk cs = .ok () ↔ ∀ c ∈ cs, c.1 = true := by
  induction cs with
  | nil => simp [walk]
  | cons c cs ih => rcases c with ⟨_ | _, _⟩ <;> simp [walk, ih]

theorem walk_eq_error_iff (cs : List (Bool × SchemaFault)) (fault : SchemaFault) :
    walk cs = .error fault ↔ FirstBroken cs fault := by
  induction cs with
  | nil => simp [walk, FirstBroken]
  | cons c cs ih =>
    obtain ⟨met, told⟩ := c
    cases met with
    | false =>
      constructor
      · intro same
        cases same
        exact ⟨[], cs, rfl, by simp⟩
      · rintro ⟨_ | ⟨b, before⟩, after, split, met⟩
        · cases split
          rfl
        · cases split
          cases met _ List.mem_cons_self
    | true =>
      constructor
      · intro broken
        obtain ⟨before, after, rfl, met⟩ := ih.mp broken
        exact ⟨(true, told) :: before, after, rfl, by simpa using met⟩
      · rintro ⟨_ | ⟨b, before⟩, after, split, met⟩
        · cases split
        · cases split
          exact ih.mpr ⟨before, after, rfl, fun c member => met c (List.mem_cons_of_mem _ member)⟩

theorem layout_check_eq (l : RecordLayout) : l.check = walk l.conditions := by
  rcases l with ⟨size, align, _ | offset⟩
  · rfl
  · by_cases there : offset = 8 <;> by_cases sized : size = 16 <;> by_cases even : align = 8 <;>
      simp [RecordLayout.check, RecordLayout.conditions, RecordLayout.host, walk, there, sized,
        even]

theorem mod_eq_zero_iff (a b : UInt64) : a % b = 0 ↔ b.toNat ∣ a.toNat := by
  rw [← UInt64.toNat_inj, UInt64.toNat_mod, Nat.dvd_iff_mod_eq_zero]
  rfl

theorem checkPlace_eq (base : Address) (count : UInt64) :
    checkPlace base .host count = walk (placeConditions base .host count) := by
  have aligned := mod_eq_zero_iff base RecordLayout.host.align
  have fits : (count.toNat * RecordLayout.host.size.toNat ≤ 0x7FFFFFFFFFFFFFFF) ↔
      ¬ addressable < count.toNat * RecordLayout.host.size.toNat := Nat.not_lt.symm
  simp only [placeConditions, walk, ← aligned, fits, checkPlace]
  by_cases nowhere : base = 0 <;> by_cases even : base % RecordLayout.host.align = 0 <;>
    by_cases long : addressable < count.toNat * RecordLayout.host.size.toNat <;>
    simp [nowhere, even, long]

theorem check_eq (base : Address) (l : RecordLayout) {count : UInt64} (some_records : count ≠ 0) :
    check base l count = walk (conditions base l count) := by
  rw [check, if_neg some_records, conditions, walk_append, ← layout_check_eq]
  cases layout : l.check with
  | error fault => rfl
  | ok _ =>
    have same := l.check_eq_ok_iff.mp layout
    subst same
    exact checkPlace_eq base count

def remainder? (a b : UInt64) : Option UInt64 := if b = 0 then none else some (a % b)

/-- The checks of records, where a remainder by zero ends everything. -/
def trappingCheck (base : Address) (l : RecordLayout) (count : UInt64) :
    Option (Except SchemaFault Unit) :=
  if count = 0 then some (.ok ())
  else match l.check with
    | .error fault => some (.error fault)
    | .ok () =>
      if base = 0 then some (.error (.nullRecords count))
      else (remainder? base l.align).map fun rest =>
        if rest ≠ 0 then .error (.misaligned base l.align)
        else if addressable < count.toNat * l.size.toNat then .error (.overflow count l.size)
        else .ok ()

theorem trappingCheck_eq (base : Address) (l : RecordLayout) (count : UInt64) :
    trappingCheck base l count = some (check base l count) := by
  unfold trappingCheck check
  split
  · rfl
  cases layout : l.check with
  | error fault => rfl
  | ok _ =>
    -- Here the engine's alignment is known to be the host's.
    have align : l.align ≠ 0 := by
      rw [l.check_eq_ok_iff.mp layout]
      decide
    simp only [bind, Except.bind, checkPlace, remainder?, if_neg align, Option.map_some]
    split <;> rfl

theorem conditions_met_iff (base : Address) (l : RecordLayout) (count : UInt64) :
    (∀ c ∈ conditions base l count, c.1 = true) ↔ l = .host ∧ base ≠ 0 ∧
      RecordLayout.host.align.toNat ∣ base.toNat ∧
      count.toNat * l.size.toNat ≤ 0x7FFFFFFFFFFFFFFF := by
  have layout : (∀ c ∈ l.conditions, c.1 = true) ↔ l = .host := by
    rw [← walk_eq_ok_iff, ← layout_check_eq, l.check_eq_ok_iff]
  simp only [conditions, List.mem_append, or_imp, forall_and, layout]
  simp [placeConditions]

theorem make_eq (base : Address) (l : RecordLayout) (count : UInt64)
    (record : Nat → CompletionRecord) :
    make base l count record =
      ((check base l count).map fun _ => ⟨count.toNat, record⟩).mapError .schemaMismatch := by
  rw [make]
  cases check base l count <;> rfl

theorem make_eq_error_iff {base : Address} {l : RecordLayout} {count : UInt64}
    {record : Nat → CompletionRecord} {error : Error} :
    make base l count record = .error error ↔
      ∃ fault, check base l count = .error fault ∧ error = .schemaMismatch fault := by
  rw [make_eq]
  cases check base l count <;> simp [Except.map, Except.mapError, eq_comm]

theorem make_eq_ok_iff {base : Address} {l : RecordLayout} {count : UInt64}
    {record : Nat → CompletionRecord} {v : RecordView} :
    make base l count record = .ok v ↔ check base l count = .ok () ∧ v = ⟨count.toNat, record⟩ := by
  rw [make_eq]
  cases check base l count <;> simp [Except.map, Except.mapError, eq_comm]

theorem check_eq_ok_iff (base : Address) (l : RecordLayout) (count : UInt64) :
    check base l count = .ok () ↔ count = 0 ∨
      l = .host ∧ base ≠ 0 ∧ RecordLayout.host.align.toNat ∣ base.toNat ∧
        count.toNat * l.size.toNat ≤ 0x7FFFFFFFFFFFFFFF := by
  by_cases none : count = 0
  · simp [none, check_zero]
  · rw [check_eq base l none, walk_eq_ok_iff, conditions_met_iff, or_iff_right none]

theorem check_eq_error_iff (base : Address) (l : RecordLayout) (count : UInt64)
    (fault : SchemaFault) :
    check base l count = .error fault ↔ count ≠ 0 ∧
      FirstBroken (conditions base l count) fault := by
  by_cases none : count = 0
  · simp [none, check_zero]
  · rw [check_eq base l none, walk_eq_error_iff, and_iff_right none]

theorem layout_check_ne_overflow (l : RecordLayout) (m size : UInt64) :
    l.check ≠ .error (.overflow m size) := by
  unfold RecordLayout.check
  split
  · simp
  · split_ifs <;> simp

/-- A block reports too few records for their bytes to overflow. -/
theorem check_block_ne_overflow (base : Address) (l : RecordLayout) (n : UInt32)
    (m size : UInt64) : check base l n.toUInt64 ≠ .error (.overflow m size) := by
  unfold check
  split
  · simp
  cases layout : l.check with
  | error fault =>
    intro told
    exact layout_check_ne_overflow l m size (layout.trans told)
  | ok _ =>
    have fits : ¬ addressable < n.toUInt64.toNat * l.size.toNat := by
      have size : RecordLayout.host.size.toNat = 16 := rfl
      have few := n.toNat_lt
      rw [l.check_eq_ok_iff.mp layout, size, UInt32.toNat_toUInt64, addressable]
      omega
    simp only [bind, Except.bind, checkPlace, if_neg fits]
    split_ifs <;> simp

theorem make_block_ne_overflow (base : Address) (l : RecordLayout) (n : UInt32)
    (record : Nat → CompletionRecord) (m size : UInt64) :
    make base l n.toUInt64 record ≠ .error (.schemaMismatch (.overflow m size)) := by
  intro told
  obtain ⟨fault, checked, same⟩ := make_eq_error_iff.mp told
  cases same
  exact check_block_ne_overflow base l n m size checked

/-- A view is made exactly where all is as the host would have it; else the first lack is told. -/
theorem make_exact (base : Address) (l : RecordLayout) (count : UInt64)
    (record : Nat → CompletionRecord) :
    ((∃ v, make base l count record = .ok v) ↔ count = 0 ∨
      l = .host ∧ base ≠ 0 ∧ RecordLayout.host.align.toNat ∣ base.toNat ∧
        count.toNat * l.size.toNat ≤ 0x7FFFFFFFFFFFFFFF) ∧
    (∀ error, make base l count record = .error error ↔
      count ≠ 0 ∧ ∃ fault, FirstBroken (conditions base l count) fault ∧
        error = .schemaMismatch fault) ∧
    trappingCheck base l count = some (check base l count) ∧
    (∀ v, make base l count record = .ok v →
      v.count = count.toNat ∧
      (∀ i, v.get? i = if i < count.toNat then some (record i) else none) ∧
      v.toList.length = count.toNat ∧ ∀ i, v.toList[i]? = v.get? i) ∧
    (∀ (n : UInt32) (m size : UInt64),
      make base l n.toUInt64 record ≠ .error (.schemaMismatch (.overflow m size))) ∧
    ∀ (e : Engine σ) (b : ResultBlock) (s : σ) (m size : UInt64),
      ((Results.records e ⟨some b⟩).run s).1 ≠ .error (.schemaMismatch (.overflow m size)) := by
  refine ⟨?_, fun error => ?_, trappingCheck_eq base l count, fun v made => ?_,
    fun n => make_block_ne_overflow base l n record, fun e b s => ?_⟩
  · simp only [make_eq_ok_iff, exists_and_left, exists_eq, and_true, check_eq_ok_iff]
  · simp only [make_eq_error_iff, check_eq_error_iff, and_assoc, exists_and_left]
  · obtain ⟨_, rfl⟩ := make_eq_ok_iff.mp made
    exact ⟨rfl, fun i => rfl, by simp [toList], getElem?_toList _⟩
  · exact make_block_ne_overflow b.base _ b.count b.record

end RecordView
end ClangHost
