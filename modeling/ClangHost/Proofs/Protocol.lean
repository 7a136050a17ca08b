import ClangHost.Proofs.Answers

/-!
The course of a completion. Whatever the engine answers, the calls that are made and the notices
that are given follow from the answers alone (`run_unfolds`), and so does the outcome. Read as a
protocol: the block that comes with the answer is looked into record by record, up to the first
bad one, and given back last on every way out.
-/
namespace ClangHost

open Completion (availabilityTag kindTag decodeChunk decodeRecord decodeAll chunkLimit)

variable {σ : Type}

namespace Completion

theorem take_unfolds (e : Engine σ) (text : EngineString) (s : σ) :
    ∃ (c : CString) (t : σ), c = (e (.cString text) s).1 ∧
      Unfolds (text.take e.watched) (text.take e) s (CString.text? c) t
        ((TextAnswers.exchanges ⟨text, c⟩).map .asked) := by
  obtain ⟨c, t, content, look⟩ := Unfolds.call e (.cString text) s
  obtain ⟨_, u, _, back⟩ := Unfolds.call e (.disposeString text) t
  exact ⟨c, u, by rw [content], look.bind (back.bind (.pure _ _))⟩

theorem decodeChunk_unfolds (e : Engine σ) (raw : Bool) (string : Address) (i : Nat) (s : σ) :
    ∃ (x : ChunkAnswers) (t : σ), x.GivenBy e string i ∧
      Unfolds (decodeChunk e.watched raw string i) (decodeChunk e raw string i) s (x.chunk raw) t
        ((x.exchanges string i).map .asked) := by
  obtain ⟨text, s₁, h₁, ask⟩ := Unfolds.call e (.chunkText string (.ofNat i)) s
  obtain ⟨content, s₂, h₂, take⟩ := take_unfolds e text s₁
  obtain ⟨kind, s₃, h₃, named⟩ := Unfolds.call e (.chunkKind string (.ofNat i)) s₂
  refine ⟨⟨⟨text, content⟩, kind⟩, s₃, ⟨⟨s, by rw [h₁], by rw [h₁, h₂]⟩, s₂, by rw [h₃]⟩, ?_⟩
  exact ask.bind (take.bind (named.bind (.pure _ _)))

theorem decodeChunks_unfolds (e : Engine σ) (raw : Bool) (string : Address) (n : Nat) (s : σ) :
    ∃ (x : Nat → ChunkAnswers) (t : σ), (∀ i, (x i).GivenBy e string i) ∧
      Unfolds ((List.range n).mapM fun i => (liftM (decodeChunk e.watched raw string i) :
          ExceptT Error (StateM (σ × History)) Chunk)).run
        ((List.range n).mapM fun i => (liftM (decodeChunk e raw string i) :
          ExceptT Error (StateM σ) Chunk)).run s
        (.ok ((List.range n).map fun i => (x i).chunk raw)) t
        (((List.range n).flatMap fun i => (x i).exchanges string i).map .asked) := by
  have turn : ∀ i s, ∃ (x : ChunkAnswers) (t : σ), x.GivenBy e string i ∧
      Unfolds (liftM (decodeChunk e.watched raw string i) : ExceptT Error _ Chunk).run
        (liftM (decodeChunk e raw string i) : ExceptT Error _ Chunk).run s (.ok (x.chunk raw)) t
        ((x.exchanges string i).map .asked) := by
    intro i s
    obtain ⟨x, t, given, here⟩ := decodeChunk_unfolds e raw string i s
    exact ⟨x, t, given, here.lift⟩
  obtain ⟨x, t, given, loop⟩ := Unfolds.mapM turn (List.nodup_range (n := n)) s
  have all : (List.range n).mapM (fun i => .ok ((x i).chunk raw)) =
    (.ok ((List.range n).map fun i => (x i).chunk raw) : Except Error (List Chunk)) :=
  List.mapM_pure
  rw [all, upToFirst_eq_self (p := fun i => !(Except.ok ((x i).chunk raw) : Except Error _).isOk)
    fun _ _ => rfl] at loop
  exact ⟨x, t, given, by rwa [List.map_flatMap]⟩

theorem availabilityTag_of_unknown (i : Nat) {value : Int32}
    (unknown : Availability.Unknown value) :
    availabilityTag false i value = .error (.schemaMismatch (.availability i value)) := by
  have none := (Availability.ofRaw?_eq_none_iff value).mpr unknown
  simp [availabilityTag, none]

theorem availabilityTag_of_known (raw : Bool) (i : Nat) {value : Int32}
    (known : ¬ (raw = false ∧ Availability.Unknown value)) :
    availabilityTag raw i value =
      .ok (if raw then .raw value else .named ((Availability.ofRaw? value).getD .available)) := by
  cases raw with
  | true => rfl
  | false =>
    cases label : Availability.ofRaw? value with
    | none => exact absurd ⟨rfl, (Availability.ofRaw?_eq_none_iff value).mp label⟩ known
    | some a => simp [availabilityTag, label]

theorem decodeRecord_unfolds (e : Engine σ) (raw : Bool) (i : Nat) (r : CompletionRecord) (s : σ) :
    ∃ (x : RecordAnswers) (t : σ), x.GivenBy e r.string ∧
      Unfolds (decodeRecord e.watched raw i r).run (decodeRecord e raw i r).run s
        (x.outcome raw i r) t ((x.exchanges raw r).map .asked) := by
  -- all that could be asked, whether or not a check ends the decoding before
  obtain ⟨value, s₁, h₁, availability⟩ := Unfolds.call e (.availability r.string) s
  obtain ⟨priority, s₂, h₂, prioritized⟩ := Unfolds.call e (.priority r.string) s₁
  obtain ⟨text, s₃, h₃, commented⟩ := Unfolds.call e (.briefComment r.string) s₂
  obtain ⟨content, s₄, h₄, taken⟩ := take_unfolds e text s₃
  obtain ⟨count, s₅, h₅, counted⟩ := Unfolds.call e (.chunkCount r.string) s₄
  obtain ⟨chunk, s₆, h₆, chunks⟩ := decodeChunks_unfolds e raw r.string count.toNat s₅
  let x : RecordAnswers := ⟨value, priority, ⟨text, content⟩, count, chunk⟩
  have given : x.GivenBy e r.string :=
    { availability := ⟨s, by rw [h₁]⟩
      priority := ⟨s₁, by rw [h₂]⟩
      comment := ⟨s₂, by rw [h₃], by rw [h₃]; exact h₄⟩
      chunkCount := ⟨s₄, by rw [h₅]⟩
      chunk := h₆ }
  unfold decodeRecord
  -- the checks in their order; each one that fails cuts the answers off
  by_cases null : r.string = 0
  · refine ⟨x, s, given, Unfolds.congr (.ite_pos null (Unfolds.throw _ s).bind_error) ?_ ?_⟩
    · simp [RecordAnswers.outcome, RecordAnswers.fault?, null]
    · simp [RecordAnswers.exchanges, null]
  by_cases unknown : raw = false ∧ Availability.Unknown value
  · have refused : availabilityTag raw i value = _ :=
      unknown.1 ▸ availabilityTag_of_unknown i unknown.2
    refine ⟨x, s₁, given, Unfolds.congr (.ite_neg null
      (availability.lift.bind_ok (Unfolds.outcome refused s₁).bind_error)) ?_ ?_⟩
    · simp only [RecordAnswers.outcome, RecordAnswers.fault?, if_neg null, if_pos unknown, x]
    · simp only [RecordAnswers.exchanges, if_neg null, if_pos unknown, x]
      rfl
  have tagged := Unfolds.outcome (availabilityTag_of_known raw i unknown) s₁
  by_cases many : chunkLimit < count
  · refine ⟨x, s₅, given, Unfolds.congr (.ite_neg null
      (availability.lift.bind_ok (tagged.bind_ok (prioritized.lift.bind_ok
      (commented.lift.bind_ok (taken.lift.bind_ok (counted.lift.bind_ok
      (.ite_pos many (Unfolds.throw _ s₅).bind_error)))))))) ?_ ?_⟩
    · simp only [RecordAnswers.outcome, RecordAnswers.fault?, if_neg null, if_neg unknown, x]
      rw [if_pos (show 0xFFFF < count from many)]
      rfl
    · simp only [RecordAnswers.exchanges, if_neg null, if_neg unknown, x]
      rw [if_pos (show 0xFFFF < count from many)]
      simp
  · refine ⟨x, s₆, given, Unfolds.congr (.ite_neg null
      (availability.lift.bind_ok (tagged.bind_ok (prioritized.lift.bind_ok
      (commented.lift.bind_ok (taken.lift.bind_ok (counted.lift.bind_ok
      (.ite_neg many (chunks.bind_ok (.pure _ s₆)))))))))) ?_ ?_⟩
    · simp only [RecordAnswers.outcome, RecordAnswers.fault?, if_neg null, if_neg unknown, x]
      rw [if_neg (show ¬ 0xFFFF < count from many)]
      rfl
    · simp only [RecordAnswers.exchanges, if_neg null, if_neg unknown, x]
      rw [if_neg (show ¬ 0xFFFF < count from many)]
      simp

theorem visit_unfolds (e : Engine σ) (o : Observer σ) (raw : Bool) (i : Nat) (r : CompletionRecord)
    (s : σ) :
    ∃ (x : RecordAnswers) (t : σ), x.GivenBy e r.string ∧
      Unfolds (do
          let c ← decodeRecord e.watched raw i r
          o.watched.onCandidate i c
          return c : ExceptT Error (StateM (σ × History)) Candidate).run
        (do
          let c ← decodeRecord e raw i r
          o.onCandidate i c
          return c : ExceptT Error (StateM σ) Candidate).run s
        (x.outcome raw i r) t (x.history raw i r) := by
  obtain ⟨x, t, given, decoding⟩ := decodeRecord_unfolds e raw i r s
  cases fault : x.fault? raw i r with
  | some f =>
    have failed : x.outcome raw i r = .error (.schemaMismatch f) := by
      simp only [RecordAnswers.outcome, fault]
    rw [failed] at decoding
    refine ⟨x, t, given, Unfolds.congr decoding.bind_error failed.symm ?_⟩
    simp [RecordAnswers.history, fault]
  | none =>
    have sound : x.outcome raw i r = .ok (x.candidate raw) := by
      simp only [RecordAnswers.outcome, fault]
    rw [sound] at decoding
    have told := Unfolds.tell (.candidate i (x.candidate raw)) (o.onCandidate i (x.candidate raw)) t
    refine ⟨x, _, given, Unfolds.congr (decoding.bind_ok (told.lift.bind_ok (.pure _ _)))
      sound.symm ?_⟩
    simp [RecordAnswers.history, fault]

theorem zipIdx_toList (v : RecordView) :
    v.toList.zipIdx = (List.range v.count).map fun i => (v.record i, i) := by
  refine List.ext_getElem (by simp [RecordView.toList]) fun i h₁ h₂ => ?_
  simp [RecordView.toList]

theorem visits_unfold (e : Engine σ) (o : Observer σ) (raw : Bool) (v : RecordView) (s : σ) :
    ∃ (x : Nat → RecordAnswers) (t : σ), (∀ i, (x i).GivenBy e (v.record i).string) ∧
      Unfolds (v.toList.zipIdx.mapM fun (r, i) => (do
          let c ← decodeRecord e.watched raw i r
          o.watched.onCandidate i c
          return c : ExceptT Error (StateM (σ × History)) Candidate)).run
        (v.toList.zipIdx.mapM fun (r, i) => (do
          let c ← decodeRecord e raw i r
          o.onCandidate i c
          return c : ExceptT Error (StateM σ) Candidate)).run s
        ((List.range v.count).mapM fun i => (x i).outcome raw i (v.record i)) t
        ((upToFirst (fun i => ((x i).fault? raw i (v.record i)).isSome)
          (List.range v.count)).flatMap fun i => (x i).history raw i (v.record i)) := by
  obtain ⟨x, t, given, loop⟩ := Unfolds.mapM
    (fun i s => visit_unfolds e o raw i (v.record i) s) (List.nodup_range (n := v.count)) s
  refine ⟨x, t, given, ?_⟩
  simp only [zipIdx_toList, List.mapM_map]
  refine Unfolds.congr loop rfl ?_
  simp only [RecordAnswers.isOk_outcome, Option.not_isNone]

theorem decodeAll_unfolds (e : Engine σ) (o : Observer σ) (raw : Bool) (b : ResultBlock) (s : σ) :
    ∃ (a : Answers) (t : σ), (∃ u, a.layout = (e .recordLayout u).1) ∧
      (∀ i, (a.record i).GivenBy e (b.record i).string) ∧
      Unfolds (decodeAll e.watched o.watched raw ⟨some b⟩).run (decodeAll e o raw ⟨some b⟩).run s
        (a.decoded raw b) t (a.decodingHistory raw b) := by
  have told := Unfolds.tell (.results b.count) (o.onResults b.count) s
  obtain ⟨l, s₂, h₂, described⟩ := Unfolds.call e .recordLayout (o.onResults b.count s).2
  obtain ⟨x, s₃, given, loop⟩ := visits_unfold e o raw ⟨b.count.toNat, b.record⟩ s₂
  let a : Answers := ⟨0, none, l, x⟩
  have layout : ∃ u, a.layout = (e .recordLayout u).1 := ⟨_, by rw [h₂]⟩
  unfold decodeAll
  by_cases zero : b.count = 0
  · have empty : Results.isEmpty ⟨some b⟩ = true := by
      simp [Results.isEmpty, Results.length, zero]
    refine ⟨a, _, layout, given,
      Unfolds.congr (told.lift.bind_ok (.ite_pos empty (.pure _ _))) ?_ ?_⟩
    · simp only [Answers.decoded, if_pos zero]
    · simp only [Answers.decodingHistory, if_pos zero]
      rfl
  have full : ¬ Results.isEmpty ⟨some b⟩ = true := by
    simp [Results.isEmpty, Results.length, zero]
  cases check : RecordView.check b.base a.layout b.count.toUInt64 with
  | error f =>
    have unreadable : ¬ b.Readable a.layout := by
      rw [← ResultBlock.check_eq_ok_iff b _ zero, check]
      simp
    have refused : RecordView.make b.base a.layout b.count.toUInt64 b.record =
        .error (.schemaMismatch f) := by
      simp only [RecordView.make, check]
    refine ⟨a, s₂, layout, given, Unfolds.congr (told.lift.bind_ok (.ite_neg full
      (described.lift.bind_ok (Unfolds.outcome refused s₂)).bind_error)) ?_ ?_⟩
    · simp only [Answers.decoded, if_neg zero, check]
    · simp only [Answers.decodingHistory, if_neg zero, if_neg unreadable]
      rfl
  | ok _ =>
    have readable : b.Readable a.layout := (ResultBlock.check_eq_ok_iff b _ zero).mp check
    have made : RecordView.make b.base a.layout b.count.toUInt64 b.record =
        .ok ⟨b.count.toNat, b.record⟩ := by
      simp only [RecordView.make, check, UInt32.toNat_toUInt64]
    refine ⟨a, s₃, layout, given, Unfolds.congr (told.lift.bind_ok (.ite_neg full
      ((described.lift.bind_ok (Unfolds.outcome made s₂)).bind_ok loop))) ?_ ?_⟩
    · simp only [Answers.decoded, if_neg zero, check]
      rfl
    · simp only [Answers.decodingHistory, if_neg zero, if_pos readable]
      rfl

theorem path_eq (p : Bytes) : (Arena.path p).run.run .empty =
    if 0 ∈ p then (.error (.allocation (shown p) .nulInPath), .empty)
    else (.ok 0, Arena.empty.push p) := by
  by_cases nul : 0 ∈ p
  · cases offset : nulOffset? p with
    | none => exact absurd nul ((nulOffset?_eq_none_iff p).mp offset)
    | some n =>
      simp only [if_pos nul, Arena.path, Arena.copy, offset]
      rfl
  · simp only [if_neg nul, Arena.path, Arena.copy, (nulOffset?_eq_none_iff p).mpr nul]
    rfl

theorem dispose_unfolds (e : Engine σ) (b : ResultBlock) (s : σ) :
    ∃ t, Unfolds (Results.dispose e.watched ⟨some b⟩) (Results.dispose e ⟨some b⟩) s
      (.ok (), ⟨none⟩) t [.asked ⟨.disposeBlock b.id, ()⟩] :=
  ⟨_, rfl, fun _ => rfl⟩

def answeredBlock (e : Engine σ) (o : Observer σ) (unit : Handle) (q : CompletionRequest) (s : σ) :
    Option ResultBlock :=
  let options := e .defaultOptions (o.onRequest q.file q.line q.column s).2
  (e (.completeAt unit (some q.file) q.line q.column true 0 options.1) options.2).1

/-- The engine gave these answers, the block in the state it was asked in and all others in some
states. -/
structure Given (e : Engine σ) (o : Observer σ) (unit : Handle) (q : CompletionRequest) (s : σ)
    (a : Answers) : Prop where
  block : a.block = answeredBlock e o unit q s
  layout : ∃ u, a.layout = (e .recordLayout u).1
  record : ∀ b, a.block = some b → ∀ i, (a.record i).GivenBy e (b.record i).string

theorem run_unfolds (e : Engine σ) (o : Observer σ) (unit : Handle) (q : CompletionRequest)
    (s : σ) :
    ∃ (a : Answers) (t : σ), Given e o unit q s a ∧
      Unfolds (run e.watched o.watched unit q).run (run e o unit q).run s (a.outcome q) t
        (a.history unit q) := by
  let s₁ := (o.onRequest q.file q.line q.column s).2
  have told := Unfolds.tell (.request q.file q.line q.column) (o.onRequest q.file q.line q.column) s
  obtain ⟨options, s₂, h₂, opted⟩ := Unfolds.call e .defaultOptions s₁
  obtain ⟨block, s₃, h₃, completed⟩ := Unfolds.call e
    (.completeAt unit (some q.file) q.line q.column true 0 options) s₂
  obtain ⟨a, s₄, layout, records, decoding⟩ := decodeAll_unfolds e o q.raw
    (block.getD ⟨0, 0, 0, fun _ => ⟨0, 0⟩⟩) s₃
  let whole : Answers := { a with options := options, block := block }
  have given : Given e o unit q s whole :=
    { block := by rw [answeredBlock, h₂, h₃]
      layout := layout
      record := by
        intro b hb
        rw [show block = some b from hb] at records
        exact records }
  have place := path_eq q.file
  unfold run
  -- a NUL in the path, no block, or a block that goes back on whatever way out
  by_cases nul : 0 ∈ q.file
  · rw [if_pos nul] at place
    rw [place]
    refine ⟨whole, s₁, given, Unfolds.congr
      (told.lift.bind_ok (Unfolds.outcome rfl s₁).bind_error) ?_ ?_⟩
    · simp only [Answers.outcome, if_pos nul]
    · simp only [Answers.history, if_pos nul, List.append_nil]
  rw [if_neg nul] at place
  rw [place]
  have path : (Arena.empty.push q.file).pointer 0 = some q.file :=
    Arena.pointer_push .empty ((nulOffset?_eq_none_iff q.file).mpr nul)
  have asked : Unfolds
      (e.watched
        (.completeAt unit ((Arena.empty.push q.file).pointer 0) q.line q.column true 0 options))
      (e (.completeAt unit ((Arena.empty.push q.file).pointer 0) q.line q.column true 0 options))
      s₂ block s₃
      [.asked ⟨.completeAt unit (some q.file) q.line q.column true 0 options, block⟩] := by
    rw [path]
    exact completed
  cases block with
  | none =>
    refine ⟨whole, s₃, given, Unfolds.congr (told.lift.bind_ok ((Unfolds.outcome rfl _).bind_ok
      (opted.lift.bind_ok (asked.lift.bind_ok (Unfolds.outcome rfl s₃).bind_error)))) ?_ ?_⟩
    · simp only [Answers.outcome, if_neg nul, whole]
    · simp only [Answers.history, if_neg nul, whole]
      rfl
  | some b =>
    obtain ⟨s₅, disposed⟩ := dispose_unfolds e b s₄
    have ended := Unfolds.tell (.disposed (a.decoded q.raw b).isOk)
      (o.onDisposed (a.decoded q.raw b).isOk) s₅
    refine ⟨whole, _, given, Unfolds.congr (told.lift.bind_ok ((Unfolds.outcome rfl _).bind_ok
      (opted.lift.bind_ok (asked.lift.bind_ok ((Unfolds.outcome rfl s₃).bind_ok
      (decoding.lift.bind_ok (disposed.lift.bind_ok ((Unfolds.outcome rfl s₅).bind_ok
      (ended.lift.bind_ok (Unfolds.outcome rfl _)))))))))) ?_ ?_⟩
    · simp only [Answers.outcome, if_neg nul, whole]
      rfl
    · simp only [Answers.history, if_neg nul, whole]
      rfl

/-- The calls of a completion. From whatever state, the engine is asked as `Answers.exchanges`
says and not otherwise, and a block is given back once, as the last of all. -/
theorem run_exchanges (e : Engine σ) (o : Observer σ) (unit : Handle) (q : CompletionRequest)
    (s : σ) :
    ∃ (a : Answers) (h : History),
      (run e.watched o.watched unit q).run (s, []) =
        (((run e o unit q).run s).1, ((run e o unit q).run s).2, h) ∧
      h.exchanges = a.exchanges unit q ∧
      ∀ b, 0 ∉ q.file → a.block = some b → ∃ before,
        a.exchanges unit q = before ++ [⟨.disposeBlock b.id, ()⟩] ∧
        ∀ x ∈ before, ∀ id, x.call ≠ .disposeBlock id := by
  obtain ⟨a, t, _, result, watched⟩ := run_unfolds e o unit q s
  refine ⟨a, a.history unit q, ?_, a.exchanges_history unit q, ?_⟩
  · rw [watched, result]
    rfl
  · intro b clean held
    refine ⟨⟨.defaultOptions, a.options⟩ ::
      ⟨.completeAt unit (some q.file) q.line q.column true 0 a.options, a.block⟩ ::
      a.decoding q.raw b, ?_, ?_⟩
    · simp only [Answers.exchanges, if_neg clean, held]
      rfl
    · intro x hx id
      rcases List.mem_cons.mp hx with rfl | hx
      · simp
      rcases List.mem_cons.mp hx with rfl | hx
      · simp
      exact a.keeps_block q.raw b x hx id

end Completion
end ClangHost
