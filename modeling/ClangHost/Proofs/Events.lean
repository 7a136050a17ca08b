import ClangHost.Proofs.Notices
import ClangHost.Proofs.Ownership

/-!
Events over whole sessions. A run is the same whoever listens: a sink with a threshold keeps the
events up to it of those that the finest sink keeps, and all else agrees (`course_kept`). At the
finest level a completion reports the notices of its history (`run_reports`), so the candidates
that were decoded stand in their order between their number and the end.
-/
namespace ClangHost

open Observer (Notice)

theorem Level.within_trace (l : Level) : l.within (some .trace) = true := by
  cases l <;> rfl

theorem Level.within_debug (l : Level) : l.within (some .debug) = decide (l ≠ .trace) := by
  cases l <;> rfl

variable {υ : Type}

namespace World

def kept (threshold : Option Level) (w : World υ) : World υ :=
  { w with events := w.events.filter fun e => e.level.within threshold }

theorem put_sink (threshold : Option Level) (e : Event) (w : World υ) :
    (sink threshold).put e w =
      ((), { w with
        events := if e.level.within threshold then w.events.push e else w.events }) := rfl

variable (threshold : Option Level)

theorem put_kept (e : Event) :
    Relates (fun (w v : World υ) => v = kept threshold w) ((sink (some .trace)).put e)
      ((sink threshold).put e) := by
  rintro w _ rfl
  refine ⟨rfl, ?_⟩
  rw [put_sink, put_sink, if_pos e.level.within_trace]
  cases within : e.level.within threshold <;> simp [kept, within]

/-- A candidate is not even written out for a sink that would not take it. -/
theorem candidate_kept (i : Nat) (c : Candidate) :
    Relates (fun (w v : World υ) => v = kept threshold w)
      ((Observer.tracing (sink (some .trace))).onCandidate i c)
      ((Observer.tracing (sink threshold)).onCandidate i c) := by
  have finest : (sink (some .trace) : Sink (World υ)).wants .trace Observer.target = true := rfl
  simp only [Observer.tracing, if_pos finest]
  split
  case isTrue => exact put_kept threshold _
  case isFalse unwanted =>
    have out : Level.trace.within threshold = false := Bool.eq_false_iff.mpr unwanted
    rintro w _ rfl
    refine ⟨rfl, ?_⟩
    change kept threshold w = kept threshold _
    rw [put_sink, if_pos (Level.within_trace _)]
    simp [kept, out]

theorem host_kept (s : Script) :
    (host s (some .trace)).Relates (fun (w v : World υ) => v = kept threshold w)
      (host s threshold) :=
  { engine := by
      rintro c w _ rfl
      exact ⟨rfl, rfl⟩
    put := put_kept threshold
    candidate := candidate_kept threshold }

end World

theorem Session.course_kept (s : Script) (threshold : Option Level) (steps : List (Step υ))
    (x : υ) :
    course (World.host s threshold) World.act steps {} { observed := x } =
      (course (World.host s (some .trace)) World.act steps {} { observed := x }).map
        (World.kept threshold) := by
  have acts : ∀ y : StateM υ Unit, Relates (fun w v => v = World.kept threshold w) (World.act y)
      (World.act y) := by
    rintro y w _ rfl
    exact ⟨rfl, rfl⟩
  have start : ({ observed := x } : World υ) = World.kept threshold { observed := x } := by
    simp [World.kept]
  exact (course_relates (World.host_kept threshold s) acts steps {} start).eq_map

def Observer.Notice.event : Notice → Event
  | .request file line column =>
    { level := .debug, target := "completion", message := "code completion requested"
      fields := [("file", .text (shown file)), ("line", .integer line.toNat),
        ("column", .integer column.toNat)] }
  | .results count =>
    { level := .debug, target := "completion", message := "completion result count"
      fields := [("results", .integer count.toNat)] }
  | .candidate i c =>
    { level := .trace, target := "completion", message := "decoded candidate"
      fields := [("index", .integer i), ("candidate", .text c.json.render)] }
  | .disposed decoded =>
    { level := .trace, target := "completion", message := "completion results disposed"
      fields := [("decoded", .bool decoded)] }

theorem Answers.notices_history (unit : Handle) (q : CompletionRequest) (a : Answers) :
    (a.history unit q).notices = .request q.file q.line q.column ::
      if 0 ∈ q.file then []
      else match a.block with
        | none => []
        | some b => .results b.count ::
          (List.range (a.shown q.raw b)).map
            (fun i => .candidate i ((a.record i).candidate q.raw)) ++
          [.disposed (a.decoded q.raw b).isOk] := by
  rw [history]
  split
  · rfl
  · cases a.block with
    | none => rfl
    | some b => simp [notices_decodingHistory]

namespace Completion

/-- What a completion reports at the finest level, where the engine gave the answers `a`. -/
structure Reports (q : CompletionRequest) (a : Answers) (r : Except Error (List Candidate))
    (events : List Event) : Prop where
  result : r = a.outcome q
  alone : 0 ∈ q.file ∨ a.block = none →
    events = [(Notice.request q.file q.line q.column).event]
  /-- Between the number of records and the end stand the candidates that were decoded: those that
  are returned, or those before the record that the error is about. -/
  block : ∀ b, 0 ∉ q.file → a.block = some b → ∃ decoded : List Candidate,
    events = (Notice.request q.file q.line q.column).event :: (Notice.results b.count).event ::
      decoded.zipIdx.map (fun (c, i) => (Notice.candidate i c).event) ++
      [(Notice.disposed r.isOk).event] ∧
    decoded = (List.range decoded.length).map (fun i => (a.record i).candidate q.raw) ∧
    (∀ cs, r = .ok cs → decoded = cs) ∧
    ∀ error, r = .error error → ∃ f, error = .schemaMismatch f ∧
      (f.record? = none ∧ decoded = [] ∨
        f.record? = some decoded.length ∧ decoded.length < b.count.toNat)

theorem reports (unit : Handle) (q : CompletionRequest) (a : Answers) :
    Reports q a (a.outcome q) ((a.history unit q).notices.map Notice.event) := by
  rw [a.notices_history]
  constructor
  case result => rfl
  case alone =>
    rintro (nul | none)
    · rw [if_pos nul]
      rfl
    · rw [none]
      simp
  case block =>
    intro b clean held
    have outcome : a.outcome q = a.decoded q.raw b := by
      simp only [Answers.outcome, if_neg clean, held]
    simp only [if_neg clean, held, outcome]
    refine ⟨(List.range (a.shown q.raw b)).map fun i => (a.record i).candidate q.raw,
      ?_, by simp, ?_, ?_⟩
    · have numbered : ((List.range (a.shown q.raw b)).map
            fun i => (a.record i).candidate q.raw).zipIdx =
          (List.range (a.shown q.raw b)).map fun i => ((a.record i).candidate q.raw, i) :=
        List.ext_getElem (by simp) fun i _ _ => by simp
      simp only [numbered, List.map_cons, List.map_append, List.map_map, List.map_nil]
      rfl
    · intro cs ok
      obtain ⟨all, same⟩ := Answers.shown_of_ok ok
      rw [all, same]
    · intro error failed
      obtain ⟨f, is, about⟩ := Answers.shown_of_error failed
      refine ⟨f, is, ?_⟩
      rcases about with ⟨view, none_shown⟩ | about
      · rw [none_shown]
        exact .inl ⟨view.record?, rfl⟩
      · rw [List.length_map, List.length_range]
        exact .inr about

/-- At the finest level the events of a completion tell of the notices in its history. -/
theorem run_reports (s : Script) (unit : Handle) (q : CompletionRequest) (w : World υ) :
    let o := Observer.tracing (World.sink (some .trace))
    let r := (run (World.scripted s) o unit q).run w
    ∃ (a : Answers) (events : List Event), Given (World.scripted s) o unit q w a ∧
      Reports q a r.1 events ∧ r.2.events.toList = w.events.toList ++ events := by
  intro o r
  obtain ⟨a, t, given, plain, watched⟩ := run_unfolds (World.scripted s) o unit q w
  -- the events so far are those of the notices so far, which no call changes
  let I : World υ × History → Prop := fun x =>
    x.1.events.toList = w.events.toList ++ x.2.notices.map Notice.event
  have calls : ∀ c, Maintains I ((World.scripted s).watched c) := by
    intro c (v, h) so_far
    change v.events.toList =
      w.events.toList ++ (History.notices (h ++ [.asked _])).map Notice.event
    rw [History.notices_append, History.notices_asked, History.notices_nil, List.append_nil]
    exact so_far
  have tell : ∀ (n : Notice) (x : StateM (World υ) Unit),
      (∀ v, (x v).2.events = v.events.push n.event) → Maintains I (Observer.tell n x) := by
    intro n x reported (v, h) so_far
    change (x v).2.events.toList =
      w.events.toList ++ (History.notices (h ++ [.told n])).map Notice.event
    rw [reported, Array.toList_push, so_far, History.notices_append, List.map_append,
      List.append_assoc]
    rfl
  have told : o.watched.Maintains I :=
    { onRequest := fun _ _ _ => tell _ _ fun _ => rfl
      onResults := fun _ => tell _ _ fun _ => rfl
      onCandidate := fun _ _ => tell _ _ fun _ => rfl
      onDisposed := fun _ => tell _ _ fun _ => rfl }
  have kept := run_maintains calls told unit q (w, []) (by simp [I])
  rw [watched] at kept
  have done : r = (a.outcome q, t) := plain
  refine ⟨a, (a.history unit q).notices.map Notice.event, given, ?_, ?_⟩
  · rw [done]
    exact reports unit q a
  · rw [done]
    exact kept

end Completion

namespace Session

/-- The unit and the completion that a step asks for, where the host's sink is told of it. -/
def Step.reported? : Step υ → Option (Nat × CompletionRequest)
  | .complete n q => some (n, q)
  | .completeWith n file line column c .tracing => some (n, ⟨file, line, column, c.raw⟩)
  | _ => none

theorem go_reported (h : Host (World υ)) (act : StateM υ Unit → StateM (World υ) Unit)
    {a : Step υ} {n : Nat} {q : CompletionRequest} (asked : a.reported? = some (n, q))
    {hs : Session} {u : TranslationUnit × Nat} (held : hs.units[n]? = some (some u)) (w : World υ) :
    let r := (Completion.run h.engine (.tracing h.sink) u.1.raw q).run w
    (step h act a).go hs w = (((r.1.map .candidates).mapError .host, hs), r.2) := by
  -- both steps look the unit up and reply with what the completion gives
  have go : ∀ x : TranslationUnit → HostM (World υ) (List Candidate),
      SessionM.go (Session.held hs.units n >>= fun u => host (x u.1) >>= fun cs =>
        pure (Reply.candidates cs)) hs w =
      (((((x u.1).run w).1.map .candidates).mapError .host, hs), ((x u.1).run w).2) := by
    intro x
    rw [SessionM.go_held_bind, held]
    dsimp only
    rw [SessionM.go_host_bind]
    cases ((x u.1).run w).1 <;> rfl
  cases a with
  | complete m p =>
    cases asked
    exact go fun u => u.completeAt h q
  | completeWith m file line column c watcher =>
    cases watcher with
    | tracing =>
      cases asked
      exact go fun u => u.completeWith h.engine file line column c (.tracing h.sink)
    | _ => cases asked
  | _ => cases asked

/-- Who listens makes no difference to a session: with nobody there the run is the one at the
finest level without its events, and at debug level it is that one without the events of trace
level. A completion, from whatever is held and whatever was reported before, adds its own events
to those before: the request, and over a block the number of records, the candidates that were
decoded in their order, and the end. -/
theorem course_reports (s : Script) (steps : List (Step υ)) (x : υ) :
    let run := fun threshold =>
      course (World.host s threshold) World.act steps {} { observed := x }
    run none = (run (some .trace)).map (fun w => { w with events := #[] }) ∧
    run (some .debug) = (run (some .trace)).map
      (fun w => { w with events := w.events.filter fun e => e.level ≠ .trace }) ∧
    ∀ (a : Step υ) (n : Nat) (q : CompletionRequest) (hs : Session) (u : TranslationUnit × Nat)
      (w : World υ), a.reported? = some (n, q) → hs.units[n]? = some (some u) →
      let host := World.host s (some .trace)
      let r := (step host World.act a).go hs w
      ∃ (answers : Answers) (result : Except Error (List Candidate)) (events : List Event),
        Completion.Given host.engine (.tracing host.sink) u.1.raw q w answers ∧
        Completion.Reports q answers result events ∧
        r.1 = ((result.map .candidates).mapError .host, hs) ∧
        r.2.events.toList = w.events.toList ++ events := by
  have nothing : World.kept none = fun w : World υ => { w with events := #[] } := by
    funext w
    simp [World.kept, Level.within]
  have coarser : World.kept (some .debug) =
      fun w : World υ => { w with events := w.events.filter fun e => e.level ≠ .trace } := by
    funext w
    simp only [World.kept, Level.within_debug]
  refine ⟨?_, ?_, ?_⟩
  · rw [← nothing]
    exact course_kept s none steps x
  · rw [← coarser]
    exact course_kept s (some .debug) steps x
  · intro a n q hs u w asked held
    obtain ⟨answers, events, given, reports, added⟩ := Completion.run_reports s u.1.raw q w
    refine ⟨answers, _, events, given, reports, ?_⟩
    rw [go_reported (World.host s (some .trace)) World.act asked held w]
    exact ⟨rfl, added⟩

def holdingUnit : Session := { units := #[some (⟨1⟩, 0)] }

def brokenEvents : List Event :=
  [{ level := .debug, target := "completion", message := "code completion requested"
     fields := [("file", .text "a"), ("line", .integer 1), ("column", .integer 2)] },
    { level := .debug, target := "completion", message := "completion result count"
      fields := [("results", .integer 3)] },
    { level := .trace, target := "completion", message := "decoded candidate"
      fields := [("index", .integer 0), ("candidate", .text
        "\x7b\"availability\":0,\"priority\":9,\"comment\":null,\"chunks\":[\"f\",1]\x7d")] },
    { level := .trace, target := "completion", message := "completion results disposed"
      fields := [("decoded", .bool false)] }]

/-- One candidate was decoded, and it is reported between the number of records and the end. -/
theorem course_reports_brokenScript :
    let host := World.host Completion.brokenScript (some .trace)
    let q : CompletionRequest := ⟨[0x61], 1, 2, true⟩
    let a : Step Unit := .completeWith 0 [0x61] 1 2 { raw := true } .tracing
    let r := (step host World.act a).go holdingUnit { observed := () }
    a.reported? = some (0, q) ∧ holdingUnit.units[0]? = some (some (⟨1⟩, 0)) ∧
    (∃ answers result events,
      Completion.Given host.engine (.tracing host.sink) (⟨1⟩ : TranslationUnit).raw q
        { observed := () } answers ∧
      Completion.Reports q answers result events ∧
      r.1 = ((result.map .candidates).mapError .host, holdingUnit) ∧
      r.2.events.toList = events) ∧
    r.2.events.toList = brokenEvents := by
  -- The events are read off the closed run, before the run stands behind `let`s.
  have told :
      ((step (World.host Completion.brokenScript (some .trace)) World.act
        (.completeWith 0 [0x61] 1 2 { raw := true } (.tracing : Watcher Unit))).go holdingUnit
          { observed := () }).2.events.toList = brokenEvents := by
    decide +kernel
  obtain ⟨answers, result, events, given, reports, reply, added⟩ :=
    (course_reports Completion.brokenScript [] ()).2.2
      (.completeWith 0 [0x61] 1 2 { raw := true } .tracing) 0 ⟨[0x61], 1, 2, true⟩ holdingUnit
      (⟨1⟩, 0) { observed := () } rfl rfl
  exact ⟨rfl, rfl, ⟨answers, result, events, given, reports, reply, added⟩, told⟩

end Session
end ClangHost
