import ClangHost.Proofs.Failures
import ClangHost.Proofs.Persistence
import Mathlib.Data.List.Forall2

/-!
The two modes of a completion. A labelled run comes to what the raw run over the same answers comes
to, with labels in place of integers, unless an availability that the raw run met has no label:
then it fails at the first one of these (`course_modes`). The raw run may fail on its own, and what
it has met until then decides which of the two errors the labelled run gives.
-/
namespace ClangHost

theorem ChunkKind.ofRaw_eq_typedText_iff (n : Int32) : ofRaw n = .typedText ↔ n = 1 := by
  constructor
  · intro typed
    simp only [ofRaw] at typed
    split at typed
    · contradiction
    rename_i sign
    have inside : n.toInt.toNat < all.length := by
      by_contra outside
      rw [List.getElem?_eq_none (by omega)] at typed
      contradiction
    have member : all[n.toInt.toNat]? = all[1]? := by
      rw [List.getElem?_eq_getElem inside] at typed ⊢
      exact congrArg some typed
    -- no label stands twice in the table, so the place is that of `typedText`
    have index := (List.getElem?_inj inside (by decide)).mp member
    simp only [Int32.lt_iff_toInt_lt, show (0 : Int32).toInt = 0 from rfl] at sign
    refine Int32.toInt_inj.mp ?_
    rw [show (1 : Int32).toInt = 1 from rfl]
    omega
  · rintro rfl
    rfl

theorem Candidate.isTyped_iff {kind : Tag ChunkKind} :
    isTyped kind = true ↔ kind = .named .typedText ∨ kind = .raw 1 := by
  constructor
  · intro typed
    unfold isTyped at typed
    split at typed
    · exact .inl rfl
    · exact .inr rfl
    · contradiction
  · rintro (rfl | rfl) <;> rfl

/-- What a user types is the text of the first chunk that is marked so, by its label or by the
engine's integer for it. -/
theorem Candidate.typedText?_eq_some_iff {c : Candidate} {text : String} :
    c.typedText? = some text ↔ ∃ before chunk after, c.chunks = before ++ chunk :: after ∧
      (chunk.kind = .named .typedText ∨ chunk.kind = .raw 1) ∧ chunk.text = text ∧
      ∀ x ∈ before, x.kind ≠ .named .typedText ∧ x.kind ≠ .raw 1 := by
  have untyped : ∀ x : Chunk, (!isTyped x.kind) = true ↔
      x.kind ≠ .named .typedText ∧ x.kind ≠ .raw 1 := by
    intro x
    rw [Bool.not_eq_true', ← Bool.not_eq_true, isTyped_iff, not_or]
  simp only [typedText?, Option.map_eq_some_iff, List.find?_eq_some_iff_append, isTyped_iff,
    untyped]
  constructor
  · rintro ⟨chunk, ⟨typed, before, after, split, first⟩, same⟩
    exact ⟨before, chunk, after, split, typed, same, first⟩
  · rintro ⟨before, chunk, after, split, typed, same, first⟩
    exact ⟨chunk, ⟨typed, before, after, split, first⟩, same⟩

theorem Candidate.isTyped_ofRaw (n : Int32) : isTyped (.named (.ofRaw n)) = isTyped (.raw n) := by
  have label : isTyped (.named (ChunkKind.ofRaw n)) = true ↔ n = 1 := by
    simp [isTyped_iff, ChunkKind.ofRaw_eq_typedText_iff]
  have integer : isTyped (.raw n) = true ↔ n = 1 := by simp [isTyped_iff]
  exact Bool.eq_iff_iff.mpr (label.trans integer.symm)

def Chunk.Labels (r l : Chunk) : Prop :=
  l.text = r.text ∧ ∃ n, r.kind = .raw n ∧ l.kind = .named (.ofRaw n)

structure Candidate.Labels (r l : Candidate) : Prop where
  availability : ∃ n a, r.availability = .raw n ∧ Availability.ofRaw? n = some a ∧
    l.availability = .named a
  priority : l.priority = r.priority
  comment : l.comment = r.comment
  chunks : List.Forall₂ Chunk.Labels r.chunks l.chunks

theorem Candidate.Labels.typedText? {r l : Candidate} (labels : r.Labels l) :
    l.typedText? = r.typedText? := by
  simp only [Candidate.typedText?]
  have chunks := labels.chunks
  generalize r.chunks = xs, l.chunks = ys at chunks
  induction chunks with
  | nil => rfl
  | @cons x y xs ys here _ ih =>
    obtain ⟨text, n, integer, label⟩ := here
    have typed : isTyped y.kind = isTyped x.kind := by rw [integer, label, isTyped_ofRaw]
    cases found : isTyped x.kind with
    | true => simp [typed, found, text]
    | false => simpa [List.find?_cons, typed, found] using ih

def FirstUnknown (values : List Int32) (i : Nat) (n : Int32) : Prop :=
  values[i]? = some n ∧ Availability.Unknown n ∧ ∀ m ∈ values.take i, ¬ Availability.Unknown m

theorem exists_firstUnknown {values : List Int32}
    (some_unknown : ∃ n ∈ values, Availability.Unknown n) :
    ∃ i n, FirstUnknown values i n := by
  induction values with
  | nil => simp at some_unknown
  | cons v values ih =>
    by_cases here : Availability.Unknown v
    · exact ⟨0, v, rfl, here, by simp⟩
    · obtain ⟨i, n, at_i, unknown, before⟩ := ih (by simpa [here] using some_unknown)
      refine ⟨i + 1, n, by simpa using at_i, unknown, ?_⟩
      simpa [here] using before

theorem FirstUnknown.mem {values : List Int32} {i : Nat} {n : Int32}
    (first : FirstUnknown values i n) :
    ∃ n ∈ values, Availability.Unknown n :=
  ⟨n, List.mem_of_getElem? first.1, first.2.1⟩

theorem firstUnknown_map_range_iff (f : Nat → Int32) (k i : Nat) (n : Int32) :
    FirstUnknown ((List.range k).map f) i n ↔
      i < k ∧ f i = n ∧ Availability.Unknown n ∧ ∀ j < i, ¬ Availability.Unknown (f j) := by
  by_cases inside : i < k
  · simp [FirstUnknown, inside, ← List.map_take, List.take_range,
      Nat.min_eq_left (Nat.le_of_lt inside)]
  · simp [FirstUnknown, inside]

def Exchange.availability? : Exchange → Option (Address × Int32)
  | ⟨.availability string, value⟩ => some (string, value)
  | _ => none

def availabilities (h : List Exchange) : List (Address × Int32) :=
  h.filterMap Exchange.availability?

@[simp]
theorem availabilities_append (h k : List Exchange) :
    availabilities (h ++ k) = availabilities h ++ availabilities k :=
  List.filterMap_append

/-- The records that a raw run asks the availability of before it gives up. -/
def Error.asked : Error → Nat
  | .schemaMismatch (.nullString i) => i
  | .schemaMismatch (.chunkCount i _ _) => i + 1
  | _ => 0

/-- What a labelled run comes to beside a raw one, where `values` are the availabilities that the
raw run met. -/
structure Completion.ModesAgree (labelled raw : Except Error (List Candidate))
    (values : List Int32) : Prop where
  labels : ∀ L, labelled = .ok L → ∃ R, raw = .ok R ∧
    List.Forall₂ (fun r l => r.Labels l ∧ l.typedText? = r.typedText?) R L
  of_ok : ∀ R, raw = .ok R → R.map Candidate.availability = values.map .raw ∧
    ((∃ error, labelled = .error error) ↔ ∃ n ∈ values, Availability.Unknown n) ∧
    ∀ error, labelled = .error error →
      ∃ i n, FirstUnknown values i n ∧ error = .schemaMismatch (.availability i n)
  of_error : ∀ e, raw = .error e → values.length = e.asked ∧
    ∃ error, labelled = .error error ∧
      ((∀ n ∈ values, ¬ Availability.Unknown n) → error = e) ∧
      ∀ i n, FirstUnknown values i n → error = .schemaMismatch (.availability i n)

namespace Completion

def Met : Except Error (List Candidate) → List Int32 → Prop
  | .ok R, values => R.map Candidate.availability = values.map .raw
  | .error e, values => values.length = e.asked

def Relabelled : Except Error (List Candidate) → Except Error (List Candidate) → Prop
  | .ok R, labelled => ∃ L, labelled = .ok L ∧
    List.Forall₂ (fun r l => r.Labels l ∧ l.typedText? = r.typedText?) R L
  | .error e, labelled => labelled = .error e

theorem ModesAgree.intro {labelled raw : Except Error (List Candidate)} {values : List Int32}
    (met : Met raw values)
    (unknown : ∀ i n, FirstUnknown values i n →
      labelled = .error (.schemaMismatch (.availability i n)))
    (known : (∀ n ∈ values, ¬ Availability.Unknown n) → Relabelled raw labelled) :
    ModesAgree labelled raw values := by
  -- a value without a label wins over whatever the raw run came to
  by_cases some_unknown : ∃ n ∈ values, Availability.Unknown n
  · obtain ⟨i, n, first⟩ := exists_firstUnknown some_unknown
    have failed := unknown i n first
    constructor
    case labels =>
      intro L done
      rw [failed] at done
      contradiction
    case of_ok =>
      rintro R rfl
      refine ⟨met, iff_of_true ⟨_, failed⟩ some_unknown, fun error is => ⟨i, n, first, ?_⟩⟩
      rw [failed] at is
      exact (Except.error.inj is).symm
    case of_error =>
      rintro e rfl
      refine ⟨met, _, failed, fun known => absurd first.mem (by simpa using known), ?_⟩
      intro j m other
      exact Except.error.inj (failed.symm.trans (unknown j m other))
  · have all_known : ∀ n ∈ values, ¬ Availability.Unknown n := by simpa using some_unknown
    have same := known all_known
    constructor
    case labels =>
      rintro L rfl
      cases raw with
      | ok R =>
        obtain ⟨L', is, labels⟩ := same
        cases is
        exact ⟨R, rfl, labels⟩
      | error e => contradiction
    case of_ok =>
      rintro R rfl
      obtain ⟨L, rfl, -⟩ := same
      exact ⟨met, by simpa using all_known, fun error is => by contradiction⟩
    case of_error =>
      rintro e rfl
      exact ⟨met, e, same, fun _ => rfl, fun i n first => absurd first.mem some_unknown⟩

theorem ModesAgree.of_unasked {e : Error} (unasked : e.asked = 0) :
    ModesAgree (.error e) (.error e) [] :=
  .intro unasked.symm (fun i n first => by simp [FirstUnknown] at first) fun _ => rfl

end Completion

namespace RecordAnswers

theorem fault?_labelled (i : Nat) (r : CompletionRecord) (x : RecordAnswers) :
    x.fault? false i r =
      if r.string ≠ 0 ∧ Availability.Unknown x.availability then
        some (.availability i x.availability)
      else x.fault? true i r := by
  by_cases null : r.string = 0
  · simp [fault?, null]
  · by_cases unknown : Availability.Unknown x.availability <;> simp [fault?, null, unknown]

theorem fault?_raw_cases {i : Nat} {r : CompletionRecord} {x : RecordAnswers} {f : SchemaFault}
    (fault : x.fault? true i r = some f) :
    r.string = 0 ∧ f = .nullString i ∨
      r.string ≠ 0 ∧ f = .chunkCount i x.chunkCount 0xFFFF := by
  by_cases null : r.string = 0
  · simp only [fault?, if_pos null, Option.some.injEq] at fault
    exact .inl ⟨null, fault.symm⟩
  · simp only [fault?, if_neg null, Bool.true_eq_false, false_and, if_false] at fault
    split at fault
    · exact .inr ⟨null, (Option.some.inj fault).symm⟩
    · contradiction

theorem string_of_sound {raw : Bool} {i : Nat} {r : CompletionRecord} {x : RecordAnswers}
    (sound : x.fault? raw i r = none) : r.string ≠ 0 := by
  intro null
  simp [fault?, null] at sound

theorem availabilities_exchanges (raw : Bool) (r : CompletionRecord) (x : RecordAnswers) :
    availabilities (x.exchanges raw r) =
      if r.string = 0 then [] else [(r.string, x.availability)] := by
  have text : ∀ y : TextAnswers, availabilities y.exchanges = [] := fun y => rfl
  have chunks : ∀ n, availabilities
      ((List.range n).flatMap fun j => (x.chunk j).exchanges r.string j) = [] := by
    intro n
    rw [availabilities, List.filterMap_flatMap, List.flatMap_eq_nil_iff]
    intro j _
    change availabilities ((x.chunk j).text.exchanges ++ _) = []
    rw [availabilities_append, text]
    rfl
  rw [exchanges]
  split
  · rfl
  change (r.string, x.availability) :: availabilities _ = _
  refine congrArg (List.cons _) ?_
  split
  · rfl
  change availabilities (x.comment.exchanges ++ _) = []
  rw [availabilities_append, text, List.nil_append]
  change availabilities (ite _ _ _) = []
  split
  · rfl
  · exact chunks _

theorem labels_candidate {x : RecordAnswers} (known : ¬ Availability.Unknown x.availability) :
    (x.candidate true).Labels (x.candidate false) := by
  constructor
  case availability =>
    cases label : Availability.ofRaw? x.availability with
    | none => exact absurd ((Availability.ofRaw?_eq_none_iff _).mp label) known
    | some a => exact ⟨x.availability, a, rfl, label, by simp [candidate, label]⟩
  case priority => rfl
  case comment => rfl
  case chunks =>
    simp only [candidate, List.forall₂_map_left_iff, List.forall₂_map_right_iff, List.forall₂_same]
    intro j _
    exact ⟨rfl, (x.chunk j).kind, rfl, rfl⟩

end RecordAnswers

namespace Answers

open Availability (Unknown)

variable {b : ResultBlock} {a : Answers}

def asked (b : ResultBlock) (a : Answers) (k : Nat) : List (Address × Int32) :=
  (List.range k).map fun i => ((b.record i).string, (a.record i).availability)

theorem availabilities_decoding (readable : b.Readable a.layout) :
    availabilities (a.decoding true b) = (a.visited true b).flatMap fun i =>
      if (b.record i).string = 0 then []
      else [((b.record i).string, (a.record i).availability)] := by
  by_cases zero : b.count = 0
  · simp [decoding, visited, zero, upToFirst, availabilities]
  · rw [decoding, if_neg zero, if_pos readable]
    change availabilities (List.flatMap _ _) = _
    rw [availabilities, List.filterMap_flatMap]
    exact List.flatMap_congr fun i _ => (a.record i).availabilities_exchanges true (b.record i)

theorem flatMap_present {k : Nat} (present : ∀ i < k, (b.record i).string ≠ 0) :
    ((List.range k).flatMap fun i => if (b.record i).string = 0 then []
      else [((b.record i).string, (a.record i).availability)]) = a.asked b k := by
  rw [asked, List.map_eq_flatMap]
  exact List.flatMap_congr fun i hi => if_neg (present i (List.mem_range.mp hi))

theorem decoded_of_firstUnknown (readable : b.Readable a.layout) {k : Nat}
    (inside : k ≤ b.count.toNat) (present : ∀ j < k, (b.record j).string ≠ 0)
    (sound : ∀ j, j + 1 < k → (a.record j).fault? true j (b.record j) = none) {i : Nat} {n : Int32}
    (first : FirstUnknown ((List.range k).map fun i => (a.record i).availability) i n) :
    a.decoded false b = .error (.schemaMismatch (.availability i n)) := by
  -- the record at `i` may be the one where the raw run fails: its string is there, and the
  -- availability is looked at before the chunks
  obtain ⟨hi, rfl, unknown, before⟩ := (firstUnknown_map_range_iff _ k i n).mp first
  rw [decoded_eq_error_iff]
  refine .inr ⟨readable, i, by omega, fun j hj => ?_, _, ?_, rfl⟩
  · rw [RecordAnswers.fault?_labelled, if_neg fun bad => before j hj bad.2]
    exact sound j (by omega)
  · rw [RecordAnswers.fault?_labelled, if_pos ⟨present i hi, unknown⟩]

theorem visited_of_sound (raw : Bool)
    (sound : ∀ i < b.count.toNat, (a.record i).fault? raw i (b.record i) = none) :
    a.visited raw b = List.range b.count.toNat :=
  upToFirst_eq_self fun i hi => by rw [sound i (List.mem_range.mp hi)]; rfl

theorem visited_of_fault (raw : Bool) {i : Nat} (hi : i < b.count.toNat)
    (before : ∀ j < i, (a.record j).fault? raw j (b.record j) = none) {f : SchemaFault}
    (fault : (a.record i).fault? raw i (b.record i) = some f) :
    a.visited raw b = List.range (i + 1) := by
  rw [visited, upToFirst_eq_take, a.findIdx_of_fault raw hi before fault, List.take_range,
    Nat.min_eq_left hi]

theorem modesAgree_of_ok {R : List Candidate} (ok : a.decoded true b = .ok R) :
    availabilities (a.decoding true b) = a.asked b b.count.toNat ∧
      Completion.ModesAgree (a.decoded false b) (.ok R)
        ((List.range b.count.toNat).map fun i => (a.record i).availability) := by
  obtain ⟨viewed, rfl⟩ := (a.decoded_eq_ok_iff true b R).mp ok
  constructor
  · rcases viewed with zero | ⟨readable, sound⟩
    · simp [decoding, asked, zero, availabilities]
    · rw [availabilities_decoding readable, visited_of_sound true sound]
      exact flatMap_present fun i hi => RecordAnswers.string_of_sound (sound i hi)
  refine .intro ?_ ?_ ?_
  · simp [Completion.Met, RecordAnswers.candidate]
  · intro i n first
    rcases viewed with zero | ⟨readable, sound⟩
    · simp [zero, FirstUnknown] at first
    · exact decoded_of_firstUnknown readable (Nat.le_refl _)
        (fun j hj => RecordAnswers.string_of_sound (sound j hj)) (fun j hj => sound j (by omega))
        first
  · intro known
    simp only [List.forall_mem_map, List.mem_range] at known
    refine ⟨_, (a.decoded_eq_ok_iff false b _).mpr ⟨viewed.imp_right ?_, rfl⟩, ?_⟩
    · rintro ⟨readable, sound⟩
      refine ⟨readable, fun i hi => ?_⟩
      rw [RecordAnswers.fault?_labelled, if_neg fun bad => known i hi bad.2]
      exact sound i hi
    · simp only [List.forall₂_map_left_iff, List.forall₂_map_right_iff, List.forall₂_same]
      intro i hi
      have labels := RecordAnswers.labels_candidate (known i (List.mem_range.mp hi))
      exact ⟨labels, labels.typedText?⟩

theorem modesAgree_of_error {e : Error} (failed : a.decoded true b = .error e) :
    availabilities (a.decoding true b) = a.asked b e.asked ∧
      Completion.ModesAgree (a.decoded false b) (.error e)
        ((List.range e.asked).map fun i => (a.record i).availability) := by
  rcases (a.decoded_eq_error_iff true b e).mp failed with
    ⟨some_records, f, view, rfl⟩ | ⟨readable, i, hi, before, f, fault, rfl⟩
  · have none_asked : (Error.schemaMismatch f).asked = 0 := by cases view <;> rfl
    have unreadable := view.not_readable some_records
    have labelled : a.decoded false b = .error (.schemaMismatch f) :=
      (a.decoded_eq_error_iff false b _).mpr (.inl ⟨some_records, f, view, rfl⟩)
    rw [none_asked, labelled]
    exact ⟨by simp [decoding, some_records, unreadable]; rfl, .of_unasked none_asked⟩
  have sound_before : ∀ j < i, (b.record j).string ≠ 0 :=
    fun j hj => RecordAnswers.string_of_sound (before j hj)
  have visits := a.visited_of_fault true hi before fault
  -- the record that fails was asked for its availability, unless its string is null
  have asked : i ≤ (Error.schemaMismatch f).asked ∧ (Error.schemaMismatch f).asked ≤ i + 1 ∧
      ((Error.schemaMismatch f).asked = i + 1 ↔ (b.record i).string ≠ 0) := by
    rcases RecordAnswers.fault?_raw_cases fault with ⟨null, rfl⟩ | ⟨present, rfl⟩
    · simp [Error.asked, null]
    · simp [Error.asked, present]
  generalize is : (Error.schemaMismatch f).asked = k at asked
  obtain ⟨least, most, last⟩ := asked
  have present : ∀ j < k, (b.record j).string ≠ 0 := by
    intro j hj
    by_cases here : j < i
    · exact sound_before j here
    · obtain rfl : j = i := by omega
      exact last.mp (by omega)
  constructor
  · rw [availabilities_decoding readable, visits, List.range_succ, List.flatMap_append,
      flatMap_present sound_before]
    by_cases null : (b.record i).string = 0
    · obtain rfl : k = i := by
        have := mt last.mp (not_not.mpr null)
        omega
      simp [null]
    · obtain rfl : k = i + 1 := last.mpr null
      simp [Answers.asked, List.range_succ, null]
  refine .intro (by simp [Completion.Met, is]) ?_ ?_
  · intro j n first
    exact decoded_of_firstUnknown readable (by omega) present
      (fun j hj => before j (by omega)) first
  · intro known
    simp only [List.forall_mem_map, List.mem_range] at known
    refine (a.decoded_eq_error_iff false b _).mpr
      (.inr ⟨readable, i, hi, fun j hj => ?_, f, ?_, rfl⟩)
    · rw [RecordAnswers.fault?_labelled, if_neg fun bad => known j (by omega) bad.2]
      exact before j hj
    · rw [RecordAnswers.fault?_labelled,
        if_neg fun bad => known i (by have := last.mpr bad.1; omega) bad.2]
      exact fault

theorem modesAgree (a : Answers) (unit : Handle) (q : CompletionRequest) :
    Completion.ModesAgree (a.outcome { q with raw := false }) (a.outcome { q with raw := true })
        ((availabilities (a.exchanges unit { q with raw := true })).map Prod.snd) ∧
      ∀ b, a.block = some b →
        (availabilities (a.exchanges unit { q with raw := true })).map Prod.fst =
        (List.range (availabilities (a.exchanges unit { q with raw := true })).length).map
          fun i => (b.record i).string := by
  by_cases nul : 0 ∈ q.file
  · simp only [outcome, exchanges, if_pos nul]
    exact ⟨.of_unasked rfl, fun _ _ => rfl⟩
  cases held : a.block with
  | none =>
    simp only [outcome, exchanges, if_neg nul, held]
    exact ⟨.of_unasked rfl, fun b some => by contradiction⟩
  | some b =>
    have only : availabilities (a.exchanges unit { q with raw := true }) =
        availabilities (a.decoding true b) := by
      simp only [exchanges, if_neg nul, held]
      change availabilities (a.decoding true b ++ [_]) = _
      rw [availabilities_append]
      exact List.append_nil _
    have counted : ∀ k, availabilities (a.decoding true b) = a.asked b k →
        (availabilities (a.decoding true b)).map Prod.snd =
          (List.range k).map (fun i => (a.record i).availability) ∧
        (availabilities (a.decoding true b)).map Prod.fst =
          (List.range (availabilities (a.decoding true b)).length).map
            fun i => (b.record i).string := by
      intro k met
      simp [met, asked]
    have agree : ∃ k, availabilities (a.decoding true b) = a.asked b k ∧
        Completion.ModesAgree (a.decoded false b) (a.decoded true b)
          ((List.range k).map fun i => (a.record i).availability) := by
      cases result : a.decoded true b with
      | ok R => exact ⟨_, modesAgree_of_ok result⟩
      | error e => exact ⟨_, modesAgree_of_error result⟩
    obtain ⟨k, met, agree⟩ := agree
    obtain ⟨values, strings⟩ := counted k met
    simp only [outcome, if_neg nul, held, only]
    refine ⟨by rwa [values], ?_⟩
    rintro b' same
    cases same
    exact strings

end Answers

namespace Completion

variable {σ τ : Type}

/-- The two modes over engines that answer alike. The labelled run returns the raw candidates with
labels in place of integers, unless the raw run met an availability without a label, and then it
fails at the first of these; otherwise it fails where the raw run fails, with the same error. -/
theorem course_modes (e : Engine σ) (o : Observer σ) (s : σ) (e' : Engine τ) (o' : Observer τ)
    (t : τ) (unit : Handle) (q : CompletionRequest)
    (alike : AnsweredAlike (course e o unit { q with raw := false } s).2.exchanges
      (course e' o' unit { q with raw := true } t).2.exchanges) :
    ∃ asked, asked = availabilities (course e' o' unit { q with raw := true } t).2.exchanges ∧
      (∀ b, answeredBlock e' o' unit { q with raw := true } t = some b →
        asked.map Prod.fst = (List.range asked.length).map fun i => (b.record i).string) ∧
      ModesAgree (course e o unit { q with raw := false } s).1
        (course e' o' unit { q with raw := true } t).1 (asked.map Prod.snd) := by
  obtain ⟨a, _, labelled⟩ := course_eq e o unit { q with raw := false } s
  obtain ⟨a', given, raw⟩ := course_eq e' o' unit { q with raw := true } t
  rw [labelled, raw] at alike ⊢
  simp only [Answers.exchanges_history] at alike ⊢
  obtain ⟨same, _⟩ := Answers.outcome_alike alike ⟨rfl, rfl, rfl⟩ fun _ => rfl
  obtain ⟨agree, strings⟩ := a'.modesAgree unit q
  rw [given.block] at strings
  exact ⟨_, rfl, strings, by rwa [same]⟩

def unlabelledScript : Script :=
  { candidates := #[{ availability := 3, priority := 1 },
      { availability := 7, priority := 0, reportedChunks := some 0x10000 }] }

def typedScript : Script :=
  { candidates := #[{ availability := 2, priority := 7
                      chunks := #[(15, .chars "int"), (1, .chars "size"), (1, .chars "x")] }] }

/-- Over the first script each mode gives an error of its own about the same record; over the second
one both succeed, and a user types the same. -/
theorem course_modes_scripts :
    (course unlabelledScript.engine .silent 1 ⟨[0x61], 1, 1, true⟩ {}).1 =
      .error (.schemaMismatch (.chunkCount 1 0x10000 0xFFFF)) ∧
    (course unlabelledScript.engine .silent 1 ⟨[0x61], 1, 1, false⟩ {}).1 =
      .error (.schemaMismatch (.availability 1 7)) ∧
    ∃ l R, (course typedScript.engine .silent 1 ⟨[0x61], 1, 1, false⟩ {}).1 = .ok [l] ∧
      (course typedScript.engine .silent 1 ⟨[0x61], 1, 1, true⟩ {}).1 = .ok R ∧
      l.chunks.map Chunk.kind =
        [.named .resultType, .named .typedText, .named .typedText] ∧
      l.typedText? = some "size" ∧ R.map Candidate.typedText? = [some "size"] := by
  have alike (s : Script) := course_answeredAlike s.engine.livesIn_self (Observer.silent_spares id)
    s.engine.livesIn_self (Observer.silent_spares id) (rfl : id ({} : ScriptState) = id {}) 1 1
    ⟨[0x61], 1, 1, false⟩ ⟨[0x61], 1, 1, true⟩
  obtain ⟨asked, met, -, agree⟩ := course_modes unlabelledScript.engine .silent {}
    unlabelledScript.engine .silent {} 1 ⟨[0x61], 1, 1, true⟩ (alike unlabelledScript)
  have raw : (course unlabelledScript.engine .silent 1 ⟨[0x61], 1, 1, true⟩ {}).1 =
      .error (.schemaMismatch (.chunkCount 1 0x10000 0xFFFF)) := by decide +kernel
  have values : asked = [(1, 3), (2, 7)] := met.trans (by decide +kernel)
  obtain ⟨-, error, labelled, -, first⟩ := agree.of_error _ raw
  have unknown : FirstUnknown (asked.map Prod.snd) 1 7 := by
    rw [values]
    refine ⟨rfl, by decide, fun m before => ?_⟩
    obtain rfl : m = 3 := by simpa using before
    decide
  rw [first 1 7 unknown] at labelled
  let l : Candidate := ⟨.named .notAvailable, 7, none,
    [⟨"int", .named .resultType⟩, ⟨"size", .named .typedText⟩, ⟨"x", .named .typedText⟩]⟩
  have done : (course typedScript.engine .silent 1 ⟨[0x61], 1, 1, false⟩ {}).1 = .ok [l] := by
    decide +kernel
  obtain ⟨_, _, -, agree⟩ := course_modes typedScript.engine .silent {}
    typedScript.engine .silent {} 1 ⟨[0x61], 1, 1, true⟩ (alike typedScript)
  obtain ⟨R, plain, all⟩ := agree.labels [l] done
  have typed : R.map Candidate.typedText? = [l].map Candidate.typedText? := by
    rw [← List.forall₂_eq_eq_eq, List.forall₂_map_left_iff, List.forall₂_map_right_iff]
    exact all.imp fun r l here => here.2.symm
  exact ⟨raw, labelled, l, R, done, plain, rfl, rfl, typed⟩

end Completion
end ClangHost
