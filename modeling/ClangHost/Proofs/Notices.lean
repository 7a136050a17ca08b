import ClangHost.Proofs.Failures
import ClangHost.Proofs.Persistence
import ClangHost.Session.World

/-!
What an observer is told. The request comes first, and nothing else is told where no block is had.
Over a block the observer hears how many records there are, then of each candidate in order up to
the first bad record, and last, once the block was given back, whether all went well
(`course_tells`). The calls that are made, and the result, are the same for every observer.
-/
namespace ClangHost

open Observer (Notice)

def Happening.notice? : Happening → Option Notice
  | .asked _ => none
  | .told n => some n

namespace History

def notices (h : History) : List Notice := h.filterMap Happening.notice?

@[simp]
theorem notices_nil : notices [] = [] := rfl

@[simp]
theorem notices_asked (x : Exchange) (h : History) : notices (.asked x :: h) = notices h := rfl

@[simp]
theorem notices_told (n : Notice) (h : History) : notices (.told n :: h) = n :: notices h := rfl

@[simp]
theorem notices_append (h k : History) : notices (h ++ k) = notices h ++ notices k :=
  List.filterMap_append

@[simp]
theorem notices_map_asked (xs : List Exchange) : notices (xs.map .asked) = [] := by
  simp [notices, Happening.notice?]

theorem notices_flatMap {ι : Type} (l : List ι) (h : ι → History) :
    notices (l.flatMap h) = l.flatMap fun i => notices (h i) :=
  List.filterMap_flatMap

end History

/-- The record that a fault is about; a fault of the layout or of the array is about none. -/
def SchemaFault.record? : SchemaFault → Option Nat
  | .nullString i => some i
  | .availability i _ => some i
  | .chunkCount i _ _ => some i
  | _ => none

theorem ViewFault.record? {l : RecordLayout} {b : ResultBlock} {f : SchemaFault}
    (fault : ViewFault l b f) : f.record? = none := by
  cases fault <;> rfl

theorem flatMap_upToFirst {ι α : Type} (p : ι → Bool) (f : ι → α) (l : List ι) :
    ((upToFirst p l).flatMap fun i => if p i then [] else [f i]) =
      (l.take (l.findIdx p)).map f := by
  induction l with
  | nil => rfl
  | cons i l ih =>
    cases stops : p i with
    | true => simp [upToFirst, stops, List.findIdx_cons]
    | false => simp [upToFirst, stops, List.findIdx_cons, ih]

namespace RecordAnswers

theorem record?_of_fault? {raw : Bool} {i : Nat} {r : CompletionRecord} {x : RecordAnswers}
    {f : SchemaFault} (fault : x.fault? raw i r = some f) : f.record? = some i := by
  simp only [fault?] at fault
  split_ifs at fault <;> cases fault <;> rfl

theorem notices_history (raw : Bool) (i : Nat) (r : CompletionRecord) (x : RecordAnswers) :
    (x.history raw i r).notices =
      if (x.fault? raw i r).isSome then [] else [.candidate i (x.candidate raw)] := by
  rw [history, History.notices_append, History.notices_map_asked]
  split <;> rfl

end RecordAnswers

namespace Answers

def shown (raw : Bool) (b : ResultBlock) (a : Answers) : Nat :=
  if b.Readable a.layout then
    (List.range b.count.toNat).findIdx fun i => ((a.record i).fault? raw i (b.record i)).isSome
  else 0

variable {raw : Bool} {b : ResultBlock} {a : Answers}

theorem notices_decodingHistory (raw : Bool) (b : ResultBlock) (a : Answers) :
    (a.decodingHistory raw b).notices = .results b.count ::
      (List.range (a.shown raw b)).map fun i => .candidate i ((a.record i).candidate raw) := by
  rw [decodingHistory, shown]
  by_cases zero : b.count = 0
  · simp [zero]
  by_cases readable : b.Readable a.layout
  · have inside : (List.range b.count.toNat).findIdx
        (fun i => ((a.record i).fault? raw i (b.record i)).isSome) ≤ b.count.toNat :=
      Nat.le_trans List.findIdx_le_length (Nat.le_of_eq List.length_range)
    simp only [if_neg zero, if_pos readable, History.notices_told, History.notices_asked, visited,
      History.notices_flatMap, RecordAnswers.notices_history]
    rw [flatMap_upToFirst, List.take_range, Nat.min_eq_left inside]
  · simp [zero, readable]

theorem shown_of_ok {cs : List Candidate} (ok : a.decoded raw b = .ok cs) :
    a.shown raw b = b.count.toNat ∧
      cs = (List.range b.count.toNat).map fun i => (a.record i).candidate raw := by
  obtain ⟨sound, all⟩ := (a.decoded_eq_ok_iff raw b cs).mp ok
  refine ⟨?_, all⟩
  rcases sound with zero | ⟨readable, sound⟩
  · simp [shown, zero]
  · have no_stop : (List.range b.count.toNat).findIdx
        (fun i => ((a.record i).fault? raw i (b.record i)).isSome) =
          (List.range b.count.toNat).length := by
      rw [List.findIdx_eq_length]
      intro i hi
      rw [sound i (List.mem_range.mp hi)]
      rfl
    rw [shown, if_pos readable, no_stop, List.length_range]

theorem shown_of_error {error : Error} (failed : a.decoded raw b = .error error) :
    ∃ f, error = .schemaMismatch f ∧
      (ViewFault a.layout b f ∧ a.shown raw b = 0 ∨
        f.record? = some (a.shown raw b) ∧ a.shown raw b < b.count.toNat) := by
  rcases (a.decoded_eq_error_iff raw b error).mp failed with
    ⟨some_records, f, view, rfl⟩ | ⟨readable, i, hi, before, f, at_i, rfl⟩
  · have none_shown : a.shown raw b = 0 := by rw [shown, if_neg (view.not_readable some_records)]
    exact ⟨f, rfl, .inl ⟨view, none_shown⟩⟩
  · have first : a.shown raw b = i := by
      rw [shown, if_pos readable, a.findIdx_of_fault raw hi before at_i]
    rw [first]
    exact ⟨f, rfl, .inr ⟨RecordAnswers.record?_of_fault? at_i, hi⟩⟩

end Answers

namespace Completion

variable {σ : Type}

/-- What an observer is told on the way to the result `r` of a completion that is answered with
`block`, where the records lie as `layouts` allows. -/
structure Tells (q : CompletionRequest) (block : Option ResultBlock)
    (layouts : RecordLayout → Prop) (r : Except Error (List Candidate)) (h : History) : Prop where
  refused : 0 ∈ q.file → h = [.told (.request q.file q.line q.column)]
  unanswered : 0 ∉ q.file → block = none → ∃ asked : List Exchange,
    h = .told (.request q.file q.line q.column) :: asked.map .asked
  /-- A block is told of by its number of records, the candidates in their order, and the end,
  after it was given back. -/
  answered : ∀ b, 0 ∉ q.file → block = some b →
    ∃ (m : Nat) (shown : Nat → Candidate) (before : History),
      h = .told (.request q.file q.line q.column) :: before ++
        [.asked ⟨.disposeBlock b.id, ()⟩, .told (.disposed r.isOk)] ∧
      before.notices =
        .results b.count :: (List.range m).map (fun i => .candidate i (shown i)) ∧
      (∀ x ∈ before.exchanges, ∀ id, x.call ≠ .disposeBlock id) ∧
      (∀ cs, r = .ok cs → m = b.count.toNat ∧ cs = (List.range m).map shown) ∧
      ∀ error, r = .error error → ∃ f, error = .schemaMismatch f ∧
        ((∃ l, layouts l ∧ ViewFault l b f) ∧ m = 0 ∨ f.record? = some m ∧ m < b.count.toNat)

theorem tells (a : Answers) (unit : Handle) (q : CompletionRequest) {layouts : RecordLayout → Prop}
    (layout : layouts a.layout) :
    Tells q a.block layouts (a.outcome q) (a.history unit q) := by
  constructor
  case refused =>
    intro nul
    simp only [Answers.history, if_pos nul]
  case unanswered =>
    intro clean none
    simp only [Answers.history, if_neg clean, none]
    exact ⟨[_, _], rfl⟩
  case answered =>
    intro b clean held
    obtain ⟨options, _, l, record⟩ := a
    subst held
    simp only [Answers.history, Answers.outcome, if_neg clean]
    -- from here on the block of `a` is spelled out, and the rest is about `a` as a whole
    generalize whole : (⟨options, some b, l, record⟩ : Answers) = a
    have at_layout : a.layout = l := by rw [← whole]
    let completed : Exchange :=
      ⟨.completeAt unit (some q.file) q.line q.column true 0 options, some b⟩
    refine ⟨a.shown q.raw b, fun i => (a.record i).candidate q.raw,
      .asked ⟨.defaultOptions, options⟩ :: .asked completed :: a.decodingHistory q.raw b,
      rfl, a.notices_decodingHistory q.raw b, ?_, ?_, ?_⟩
    · simp only [History.exchanges_asked, Answers.exchanges_decodingHistory]
      intro x hx id
      rcases List.mem_cons.mp hx with rfl | hx
      · simp
      rcases List.mem_cons.mp hx with rfl | hx
      · simp [completed]
      exact a.keeps_block q.raw b x hx id
    · intro cs ok
      obtain ⟨all, same⟩ := Answers.shown_of_ok ok
      exact ⟨all, by rw [all, same]⟩
    · intro error failed
      obtain ⟨f, is, about⟩ := Answers.shown_of_error failed
      exact ⟨f, is, about.imp_left (And.imp_left fun view => ⟨a.layout, by rwa [at_layout], view⟩)⟩

/-- An observer is told of the request first and of no more where no block is had; otherwise of the
records, of the candidates that are returned or come before the record that the error is about, and
of the end after the block was given back. Where another engine answers alike, another observer
changes neither the result nor the calls. -/
theorem course_tells (e : Engine σ) (o : Observer σ) (unit : Handle) (q : CompletionRequest)
    (s : σ) :
    Tells q (answeredBlock e o unit q s) (fun l => ∃ u, l = (e .recordLayout u).1)
      (course e o unit q s).1 (course e o unit q s).2 ∧
    ∀ (τ : Type) (e' : Engine τ) (o' : Observer τ) (t : τ),
      AnsweredAlike (course e o unit q s).2.exchanges (course e' o' unit q t).2.exchanges →
      (course e' o' unit q t).1 = (course e o unit q s).1 ∧
        (course e' o' unit q t).2.exchanges = (course e o unit q s).2.exchanges := by
  obtain ⟨a, given, here⟩ := course_eq e o unit q s
  constructor
  · rw [here, ← given.block]
    exact tells a unit q given.layout
  · intro τ e' o' t alike
    obtain ⟨a', _, there⟩ := course_eq e' o' unit q t
    rw [here, there] at alike ⊢
    simp only [Answers.exchanges_history] at alike ⊢
    obtain ⟨result, calls⟩ := Answers.outcome_alike alike ⟨rfl, rfl, rfl⟩ id
    exact ⟨result.symm, calls.symm⟩

def brokenScript : Script :=
  { candidates := #[{ availability := 0, priority := 9, chunks := #[(1, .chars "f")] },
      { availability := 0, priority := 0, nullString := true },
      { availability := 0, priority := 0 }] }

/-- One observer writes down what it is told, and the other one does nothing. -/
theorem course_tells_brokenScript :
    let heard := course (World.scripted brokenScript) (Observer.keeping.within World.act) 1
      ⟨[0x61], 1, 2, true⟩ { observed := #[] }
    let unheard := course brokenScript.engine .silent 1 ⟨[0x61], 1, 2, true⟩ {}
    AnsweredAlike heard.2.exchanges unheard.2.exchanges ∧
    unheard.1 = heard.1 ∧ unheard.2.exchanges = heard.2.exchanges ∧
    heard.2.notices = [.request [0x61] 1 2, .results 3,
      .candidate 0 ⟨.raw 0, 9, none, [⟨"f", .raw 1⟩]⟩, .disposed false] := by
  have lives : (World.scripted brokenScript : Engine (World (Array Notice))).LivesIn
      brokenScript.engine World.engine :=
    ⟨fun _ _ => rfl, fun _ _ => rfl⟩
  have spares : (Observer.keeping.within World.act).Spares World.engine :=
    ⟨fun _ _ _ _ => rfl, fun _ _ => rfl, fun _ _ _ => rfl, fun _ _ => rfl⟩
  have start : ({ observed := #[] } : World (Array Notice)).engine = id ({} : ScriptState) := rfl
  have alike := course_answeredAlike lives spares brokenScript.engine.livesIn_self
    (Observer.silent_spares id) start 1 1 ⟨[0x61], 1, 2, true⟩ ⟨[0x61], 1, 2, true⟩
  have same := (course_tells (World.scripted brokenScript) (Observer.keeping.within World.act) 1
    ⟨[0x61], 1, 2, true⟩ { observed := #[] }).2 ScriptState brokenScript.engine .silent {} alike
  exact ⟨alike, same.1, same.2, by decide +kernel⟩

end Completion
end ClangHost
