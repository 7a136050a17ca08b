import ClangHost.Engine.Scripted
import ClangHost.Proofs.Protocol

/-!
Which completions fail, and how. `Failure` says it by rules, one for each cause, over what an
engine says about its records; the rules exclude each other. `run_fails_iff` is the main result:
a completion fails exactly by these rules, and otherwise has a candidate for every record.
-/
namespace ClangHost

variable {σ : Type}

/-- What an engine says about how it lays records out, and about their completion strings. -/
structure Description where
  layout : RecordLayout
  availability : Address → Int32
  chunkCount : Address → UInt32

structure Engine.Describes (e : Engine σ) (d : Description) : Prop where
  layout : ∀ s, (e .recordLayout s).1 = d.layout
  availability : ∀ a s, (e (.availability a) s).1 = d.availability a
  chunkCount : ∀ a s, (e (.chunkCount a) s).1 = d.chunkCount a

def Script.description (s : Script) : Description :=
  { layout := s.layout
    availability := fun a => ((s.candidate? a).map ScriptedCandidate.availability).getD 0
    chunkCount := fun a => ((s.candidate? a).map fun c =>
      c.reportedChunks.getD (UInt32.ofNat c.chunks.size)).getD 0 }

theorem Script.describes (s : Script) : s.engine.Describes s.description :=
  { layout := fun _ => rfl
    availability := fun _ _ => rfl
    chunkCount := fun _ _ => rfl }

inductive ViewFault (l : RecordLayout) (b : ResultBlock) : SchemaFault → Prop where
  | field : l.completionString = none → ViewFault l b .missingField
  | offset (o : UInt64) : l.completionString = some o → o ≠ 8 → ViewFault l b (.fieldOffset o 8)
  | size : l.completionString = some 8 → l.size ≠ 16 → ViewFault l b (.recordSize l.size 16)
  | align : l.completionString = some 8 → l.size = 16 → l.align ≠ 8 →
      ViewFault l b (.recordAlign l.align 8)
  | null : l = .host → b.base = 0 → ViewFault l b (.nullRecords b.count.toUInt64)
  | misaligned : l = .host → b.base ≠ 0 → b.base % 8 ≠ 0 → ViewFault l b (.misaligned b.base 8)

inductive RecordFault (d : Description) (raw : Bool) (r : CompletionRecord) (i : Nat) :
    SchemaFault → Prop where
  | null : r.string = 0 → RecordFault d raw r i (.nullString i)
  | availability : r.string ≠ 0 → raw = false → Availability.Unknown (d.availability r.string) →
      RecordFault d raw r i (.availability i (d.availability r.string))
  | chunkCount : r.string ≠ 0 → (raw = false → ¬ Availability.Unknown (d.availability r.string)) →
      0xFFFF < d.chunkCount r.string →
      RecordFault d raw r i (.chunkCount i (d.chunkCount r.string) 0xFFFF)

/-- How a completion fails that is answered with `block`. -/
inductive Failure (d : Description) (q : CompletionRequest) (block : Option ResultBlock) :
    Error → Prop where
  | path : 0 ∈ q.file → Failure d q block (.allocation (shown q.file) .nulInPath)
  | block : 0 ∉ q.file → block = none → Failure d q block (.invalidHandle .completionResults)
  | view (b : ResultBlock) (f : SchemaFault) : 0 ∉ q.file → block = some b → b.count ≠ 0 →
      ViewFault d.layout b f → Failure d q block (.schemaMismatch f)
  | record (b : ResultBlock) (i : Nat) (f : SchemaFault) : 0 ∉ q.file → block = some b →
      b.Readable d.layout → i < b.count.toNat →
      (∀ j < i, ∀ g, ¬ RecordFault d q.raw (b.record j) j g) →
      RecordFault d q.raw (b.record i) i f → Failure d q block (.schemaMismatch f)

theorem RecordLayout.check_eq_error_iff (l : RecordLayout) (b : ResultBlock) (f : SchemaFault) :
    l.check = .error f ↔ l ≠ .host ∧ ViewFault l b f := by
  constructor
  · intro h
    have other : l ≠ .host := by
      intro same
      rw [(check_eq_ok_iff l).mpr same] at h
      contradiction
    refine ⟨other, ?_⟩
    simp only [check] at h
    split at h
    · rename_i none
      cases h
      exact .field none
    rename_i o offset
    split_ifs at h with ho size align
    · cases h
      exact .offset o offset ho
    · cases h
      exact .size (by rw [offset, not_not.mp ho]) size
    · cases h
      exact .align (by rw [offset, not_not.mp ho]) (not_not.mp size) align
  · rintro ⟨other, fault⟩
    cases fault with
    | field none => simp [check, none]
    | offset o offset different => simp [check, offset, different]
    | size offset size => simp [check, offset, size, host]
    | align offset size align => simp [check, offset, size, align, host]
    | null same _ => exact absurd same other
    | misaligned same _ _ => exact absurd same other

theorem ResultBlock.check_eq_error_iff (b : ResultBlock) (l : RecordLayout) (f : SchemaFault)
    (some_records : b.count ≠ 0) :
    RecordView.check b.base l b.count.toUInt64 = .error f ↔ ViewFault l b f := by
  rw [check_eq b l some_records]
  cases layout : l.check with
  | error g =>
    have of_layout := RecordLayout.check_eq_error_iff l b f
    have other := ((RecordLayout.check_eq_error_iff l b g).mp layout).1
    rw [layout] at of_layout
    rw [of_layout]
    exact and_iff_right other
  | ok _ =>
    have same := (RecordLayout.check_eq_ok_iff l).mp layout
    constructor
    · intro h
      simp only at h
      split_ifs at h with null aligned
      · cases h
        exact .null same null
      · cases h
        exact .misaligned same null aligned
    · intro fault
      by_cases place : l ≠ .host ∧ ViewFault l b f
      · exact absurd same place.1
      cases fault with
      | null _ null => simp [null]
      | misaligned _ null aligned => simp [null, aligned]
      | _ => simp_all [RecordLayout.host]

theorem ViewFault.not_readable {l : RecordLayout} {b : ResultBlock} {f : SchemaFault}
    (fault : ViewFault l b f) (some_records : b.count ≠ 0) : ¬ b.Readable l := by
  rw [← b.check_eq_ok_iff l some_records, (b.check_eq_error_iff l f some_records).mpr fault]
  simp

theorem exists_viewFault_iff (b : ResultBlock) (l : RecordLayout) (some_records : b.count ≠ 0) :
    (∃ f, ViewFault l b f) ↔ l ≠ .host ∨ b.base = 0 ∨ b.base % 8 ≠ 0 := by
  have unreadable : (l ≠ .host ∨ b.base = 0 ∨ b.base % 8 ≠ 0) ↔ ¬ b.Readable l := by
    simp only [ResultBlock.Readable]
    tauto
  rw [unreadable, ← b.check_eq_ok_iff l some_records]
  simp only [← b.check_eq_error_iff l _ some_records]
  cases RecordView.check b.base l b.count.toUInt64 <;> simp

section Loops

variable {ε α : Type}

theorem mapM_cons_eq_ok {ι : Type} {f : ι → Except ε α} {i : ι} {l : List ι} {vs : List α}
    (ok : (i :: l).mapM f = .ok vs) : ∃ v ws, f i = .ok v ∧ l.mapM f = .ok ws ∧ vs = v :: ws := by
  rw [List.mapM_cons] at ok
  cases head : f i with
  | error e => rw [head] at ok; contradiction
  | ok v =>
    cases tail : l.mapM f with
    | error e => rw [head, tail] at ok; contradiction
    | ok ws =>
      rw [head, tail] at ok
      cases ok
      exact ⟨v, ws, rfl, rfl, rfl⟩

theorem isOk_of_mapM_eq_ok {ι : Type} {f : ι → Except ε α} {l : List ι} {vs : List α}
    (ok : l.mapM f = .ok vs) : ∀ i ∈ l, (f i).isOk := by
  induction l generalizing vs with
  | nil => intro i hi; contradiction
  | cons i l ih =>
    obtain ⟨v, ws, head, tail, rfl⟩ := mapM_cons_eq_ok ok
    intro j hj
    rcases List.mem_cons.mp hj with rfl | hj
    · rw [head]; rfl
    · exact ih tail j hj

theorem mapM_range_eq_error_iff (f : Nat → Except ε α) (n : Nat) (error : ε) :
    (List.range n).mapM f = .error error ↔
      ∃ i < n, (∀ j < i, (f j).isOk) ∧ f i = .error error := by
  induction n generalizing error with
  | zero => simp [pure, Except.pure]
  | succ n ih =>
    have last : (List.range (n + 1)).mapM f =
        ((List.range n).mapM f >>= fun vs => f n >>= fun v => pure (vs ++ [v])) := by
      simp [List.range_succ]
    rw [last]
    -- the first failing turn is unique, so the loop over fewer turns decides where it fails
    cases before : (List.range n).mapM f with
    | error e =>
      obtain ⟨k, hk, before_k, at_k⟩ := (ih e).mp before
      constructor
      · intro h
        cases h
        exact ⟨k, by omega, before_k, at_k⟩
      · rintro ⟨i, _, before_i, at_i⟩
        rcases Nat.lt_trichotomy i k with lt | same | gt
        · have := before_k i lt
          rw [at_i] at this
          contradiction
        · rw [← same, at_i] at at_k
          cases at_k
          rfl
        · have := before_i k gt
          rw [at_k] at this
          contradiction
    | ok vs =>
      have all_ok : ∀ j < n, (f j).isOk := fun j hj =>
        isOk_of_mapM_eq_ok before j (List.mem_range.mpr hj)
      constructor
      · intro h
        refine ⟨n, by omega, all_ok, ?_⟩
        cases at_n : f n with
        | error e => rw [at_n] at h; cases h; rfl
        | ok v => rw [at_n] at h; contradiction
      · rintro ⟨i, hi, _, at_i⟩
        have : i = n := by
          by_contra other
          have := all_ok i (by omega)
          rw [at_i] at this
          contradiction
        subst this
        rw [at_i]
        rfl

end Loops

namespace RecordAnswers

theorem fault?_eq_some_iff {e : Engine σ} {d : Description} (told : e.Describes d) (raw : Bool)
    (i : Nat) (r : CompletionRecord) {x : RecordAnswers} (given : x.GivenBy e r.string)
    (f : SchemaFault) : x.fault? raw i r = some f ↔ RecordFault d raw r i f := by
  obtain ⟨s, availability⟩ := given.availability
  obtain ⟨t, count⟩ := given.chunkCount
  rw [told.availability] at availability
  rw [told.chunkCount] at count
  simp only [RecordAnswers.fault?, availability, count]
  constructor
  · intro h
    split_ifs at h with null unknown many
    · cases h
      exact .null null
    · cases h
      exact .availability null unknown.1 unknown.2
    · cases h
      exact .chunkCount null (fun labels bad => unknown ⟨labels, bad⟩) many
  · intro fault
    cases fault with
    | null null => rw [if_pos null]
    | availability present labels unknown => rw [if_neg present, if_pos ⟨labels, unknown⟩]
    | chunkCount present known many =>
      rw [if_neg present, if_neg fun h => known h.1 h.2, if_pos many]

theorem outcome_eq_error_iff (raw : Bool) (i : Nat) (r : CompletionRecord) (x : RecordAnswers)
    (error : Error) : x.outcome raw i r = .error error ↔
      ∃ f, x.fault? raw i r = some f ∧ error = .schemaMismatch f := by
  simp only [RecordAnswers.outcome]
  cases x.fault? raw i r with
  | none => simp
  | some f => simp [eq_comm]

end RecordAnswers

namespace Answers

theorem decoded_eq_error_iff (raw : Bool) (b : ResultBlock) (a : Answers) (error : Error) :
    a.decoded raw b = .error error ↔
      (b.count ≠ 0 ∧ ∃ f, ViewFault a.layout b f ∧ error = .schemaMismatch f) ∨
      (b.Readable a.layout ∧ ∃ i < b.count.toNat,
        (∀ j < i, (a.record j).fault? raw j (b.record j) = none) ∧
        ∃ f, (a.record i).fault? raw i (b.record i) = some f ∧ error = .schemaMismatch f) := by
  by_cases zero : b.count = 0
  · simp [Answers.decoded, zero]
  simp only [Answers.decoded, if_neg zero]
  cases check : RecordView.check b.base a.layout b.count.toUInt64 with
  | error f =>
    have view : ∀ g, ViewFault a.layout b g ↔ f = g := by
      intro g
      rw [← b.check_eq_error_iff a.layout g zero, check, Except.error.injEq]
    have unreadable := ((view f).mpr rfl).not_readable zero
    simp [view, unreadable, zero, eq_comm]
  | ok _ =>
    have view : ∀ g, ¬ ViewFault a.layout b g := by
      intro g
      rw [← b.check_eq_error_iff a.layout g zero, check]
      simp
    have readable := (b.check_eq_ok_iff a.layout zero).mp check
    simp [view, readable, mapM_range_eq_error_iff, RecordAnswers.isOk_outcome,
      RecordAnswers.outcome_eq_error_iff]

theorem decoded_eq_ok_iff (raw : Bool) (b : ResultBlock) (a : Answers) (cs : List Candidate) :
    a.decoded raw b = .ok cs ↔
      (b.count = 0 ∨ b.Readable a.layout ∧
        ∀ i < b.count.toNat, (a.record i).fault? raw i (b.record i) = none) ∧
      cs = (List.range b.count.toNat).map fun i => (a.record i).candidate raw := by
  by_cases zero : b.count = 0
  · simp [Answers.decoded, zero, eq_comm]
  simp only [Answers.decoded, zero, false_or]
  cases check : RecordView.check b.base a.layout b.count.toUInt64 with
  | error f =>
    have unreadable : ¬ b.Readable a.layout := by
      rw [← b.check_eq_ok_iff a.layout zero, check]
      simp
    simp [unreadable]
  | ok _ =>
    have readable := (b.check_eq_ok_iff a.layout zero).mp check
    have whole : (∀ i < b.count.toNat, (a.record i).fault? raw i (b.record i) = none) →
        (List.range b.count.toNat).mapM (fun i => (a.record i).outcome raw i (b.record i)) =
          .ok ((List.range b.count.toNat).map fun i => (a.record i).candidate raw) := by
      intro sound
      rw [mapM_congr (g := fun i => pure ((a.record i).candidate raw)), List.mapM_pure]
      · rfl
      · intro i hi
        simp only [RecordAnswers.outcome, sound i (List.mem_range.mp hi)]
        rfl
    constructor
    · intro ok
      have sound : ∀ i < b.count.toNat, (a.record i).fault? raw i (b.record i) = none := by
        intro i hi
        have := isOk_of_mapM_eq_ok ok i (List.mem_range.mpr hi)
        rwa [RecordAnswers.isOk_outcome, Option.isNone_iff_eq_none] at this
      rw [whole sound] at ok
      cases ok
      exact ⟨⟨readable, sound⟩, rfl⟩
    · rintro ⟨⟨_, sound⟩, rfl⟩
      exact whole sound

theorem findIdx_of_fault (raw : Bool) {b : ResultBlock} (a : Answers) {i : Nat}
    (hi : i < b.count.toNat) (before : ∀ j < i, (a.record j).fault? raw j (b.record j) = none)
    {f : SchemaFault} (fault : (a.record i).fault? raw i (b.record i) = some f) :
    (List.range b.count.toNat).findIdx
      (fun j => ((a.record j).fault? raw j (b.record j)).isSome) = i := by
  rw [List.findIdx_eq (by simpa using hi)]
  simp only [List.getElem_range]
  exact ⟨by rw [fault]; rfl, fun j hj => by rw [before j hj]; rfl⟩

theorem length_of_decoded_eq_ok (raw : Bool) (b : ResultBlock) (a : Answers) {cs : List Candidate}
    (ok : a.decoded raw b = .ok cs) : cs.length = b.count.toNat := by
  rw [((decoded_eq_ok_iff raw b a cs).mp ok).2, List.length_map, List.length_range]

end Answers

namespace Completion

theorem outcome_fails_iff {e : Engine σ} {d : Description} (told : e.Describes d) (o : Observer σ)
    (unit : Handle) (q : CompletionRequest) (s : σ) {a : Answers} (given : Given e o unit q s a)
    (error : Error) :
    a.outcome q = .error error ↔ Failure d q (answeredBlock e o unit q s) error := by
  have layout : a.layout = d.layout := by
    obtain ⟨u, h⟩ := given.layout
    rw [h, told.layout]
  rw [← given.block]
  by_cases nul : 0 ∈ q.file
  · simp only [Answers.outcome, if_pos nul]
    constructor
    · intro h
      cases h
      exact .path nul
    · intro failure
      cases failure <;> first | rfl | contradiction
  simp only [Answers.outcome, if_neg nul]
  cases held : a.block with
  | none =>
    constructor
    · intro h
      cases h
      exact .block nul rfl
    · intro failure
      cases failure <;> first | rfl | contradiction
  | some b =>
    have fault : ∀ i f, (a.record i).fault? q.raw i (b.record i) = some f ↔
        RecordFault d q.raw (b.record i) i f := fun i f =>
      RecordAnswers.fault?_eq_some_iff told q.raw i (b.record i) (given.record b held i) f
    have sound : ∀ i, (a.record i).fault? q.raw i (b.record i) = none ↔
        ∀ f, ¬ RecordFault d q.raw (b.record i) i f := by
      intro i
      simp only [← fault, Option.eq_none_iff_forall_ne_some, ne_eq]
    simp only [Answers.decoded_eq_error_iff, layout, fault, sound]
    constructor
    · rintro (⟨some_records, f, view, rfl⟩ | ⟨readable, i, hi, before, f, at_i, rfl⟩)
      · exact .view b f nul rfl some_records view
      · exact .record b i f nul rfl readable hi before at_i
    · intro failure
      cases failure with
      | path bad => exact absurd bad nul
      | block _ none => contradiction
      | view c f _ same some_records view =>
        cases same
        exact .inl ⟨some_records, f, view, rfl⟩
      | record c i f _ same readable hi before at_i =>
        cases same
        exact .inr ⟨readable, i, hi, before, f, at_i, rfl⟩

/-- Which completions fail, and how: an error is returned exactly by the rules of `Failure`, the
view complains exactly of another layout, of no array or of a misaligned one, and a completion
that does not fail gives a candidate for every record. No failure is due to the disposal. -/
theorem run_fails_iff (e : Engine σ) (d : Description) (told : e.Describes d) (o : Observer σ)
    (unit : Handle) (q : CompletionRequest) (s : σ) :
    (∀ error, ((run e o unit q).run s).1 = .error error ↔
      Failure d q (answeredBlock e o unit q s) error) ∧
    (∀ b : ResultBlock, b.count ≠ 0 →
      ((∃ f, ViewFault d.layout b f) ↔ d.layout ≠ .host ∨ b.base = 0 ∨ b.base % 8 ≠ 0)) ∧
    (∀ b, 0 ∉ q.file → answeredBlock e o unit q s = some b → b.count = 0 →
      ((run e o unit q).run s).1 = .ok []) ∧
    (∀ cs, ((run e o unit q).run s).1 = .ok cs →
      ∃ b, answeredBlock e o unit q s = some b ∧ cs.length = b.count.toNat) ∧
    ((run e o unit q).run s).1 ≠ .error .resultDisposal := by
  obtain ⟨a, t, given, result, _⟩ := run_unfolds e o unit q s
  have fails := outcome_fails_iff told o unit q s given
  rw [result]
  refine ⟨fails, ?_, ?_, ?_, ?_⟩
  · intro b some_records
    exact exists_viewFault_iff b d.layout some_records
  · intro b clean held zero
    rw [← given.block] at held
    simp only [Answers.outcome, if_neg clean, held, Answers.decoded, if_pos zero]
  · intro cs ok
    simp only [Answers.outcome] at ok
    split_ifs at ok with nul
    split at ok
    · contradiction
    · rename_i b held
      exact ⟨b, given.block ▸ held, a.length_of_decoded_eq_ok q.raw b ok⟩
  · intro disposal
    have failure := (fails .resultDisposal).mp disposal
    cases failure

def faultyScript : Script :=
  { candidates := #[{ availability := 3, priority := 50, reportedChunks := some 0xFFFF },
      { availability := 7, priority := 0, reportedChunks := some 0x10000 },
      { availability := 0, priority := 0, nullString := true },
      { availability := 0, priority := 0, reportedChunks := some 0x10000 }] }

/-- Of several defects the first one is reported. -/
theorem run_fails_at_first_defect :
    faultyScript.engine.Describes faultyScript.description ∧
    ((run faultyScript.engine .silent 1 ⟨[0x61], 1, 1, false⟩).run {}).1 =
      .error (.schemaMismatch (.availability 1 7)) := by
  have fails := (run_fails_iff faultyScript.engine _ faultyScript.describes .silent 1
    ⟨[0x61], 1, 1, false⟩ {}).1 (.schemaMismatch (.availability 1 7))
  refine ⟨faultyScript.describes, fails.mpr (.record (faultyScript.block 0) 1 _ (by decide) rfl
    (by decide) (by decide) ?_ (.availability (by decide) rfl (by decide)))⟩
  intro j hj f fault
  obtain rfl : j = 0 := by omega
  cases fault with
  | null null => revert null; decide
  | availability _ _ unknown => revert unknown; decide
  | chunkCount _ _ many => revert many; decide

end Completion
end ClangHost
