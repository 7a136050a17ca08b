import ClangHost.Session.Basic

/-!
Two hosts side by side, each in a world of its own. Where their engines and sinks answer the same
and keep the two worlds related, so does whatever the hosts do with them: every completion
(`run_relates`), every step of a session (`step_relates`), and a whole session with all that is
dropped at its end (`course_relates`).
-/
namespace ClangHost

variable {σ τ : Type} {R : σ → τ → Prop}

/-- From related worlds, the same comes out, and the worlds stay related. -/
def Relates {α : Type} (R : σ → τ → Prop) (x : StateM σ α) (y : StateM τ α) : Prop :=
  ∀ s t, R s t → (x s).1 = (y t).1 ∧ R (x s).2 (y t).2

namespace Relates

variable {α β : Type}

protected theorem pure (v : α) : Relates R (pure v) (pure v) := fun _ _ r => ⟨rfl, r⟩

protected theorem bind {x : StateM σ α} {y : StateM τ α} {f : α → StateM σ β} {g : α → StateM τ β}
    (first : Relates R x y) (rest : ∀ v, Relates R (f v) (g v)) :
    Relates R (x >>= f) (y >>= g) := by
  intro s t r
  obtain ⟨same, r⟩ := first s t r
  change (f (x s).1 (x s).2).1 = (g (y t).1 (y t).2).1 ∧
    R (f (x s).1 (x s).2).2 (g (y t).1 (y t).2).2
  rw [← same]
  exact rest _ _ _ r

theorem lift {x : StateM σ α} {y : StateM τ α} (related : Relates R x y) :
    Relates R (liftM x : HostM σ α).run (liftM y : HostM τ α).run := by
  intro s t r
  obtain ⟨same, r⟩ := related s t r
  exact ⟨congrArg Except.ok same, r⟩

theorem except (r : Except Error α) :
    Relates R (liftM r : HostM σ α).run (liftM r : HostM τ α).run :=
  .pure r

theorem throw_bind (e : Error) (f : α → HostM σ β) (g : α → HostM τ β) :
    Relates R (throw e >>= f).run (throw e >>= g).run :=
  .pure (Except.error e)

theorem run_bind {x : HostM σ α} {y : HostM τ α} {f : α → HostM σ β} {g : α → HostM τ β}
    (first : Relates R x.run y.run) (rest : ∀ v, Relates R (f v).run (g v).run) :
    Relates R (x >>= f).run (y >>= g).run := by
  refine Relates.bind (f := ExceptT.bindCont f) (g := ExceptT.bindCont g) first fun v => ?_
  cases v with
  | ok v => exact rest v
  | error e => exact .pure (Except.error e)

theorem ite {c : Prop} [Decidable c] {x x' : HostM σ α} {y y' : HostM τ α}
    (pos : Relates R x.run y.run) (neg : Relates R x'.run y'.run) :
    Relates R (if c then x else x').run (if c then y else y').run := by
  split
  · exact pos
  · exact neg

theorem mapM {ι : Type} {f : ι → HostM σ α} {g : ι → HostM τ α}
    (turn : ∀ i, Relates R (f i).run (g i).run) (l : List ι) :
    Relates R (l.mapM f).run (l.mapM g).run := by
  induction l with
  | nil => exact .pure (Except.ok [])
  | cons i l ih =>
    rw [List.mapM_cons, List.mapM_cons]
    exact run_bind (turn i) fun v => run_bind ih fun vs => .pure (Except.ok (v :: vs))

theorem forM {ι : Type} {f : ι → StateM σ PUnit} {g : ι → StateM τ PUnit}
    (turn : ∀ i, Relates R (f i) (g i)) (l : List ι) : Relates R (l.forM f) (l.forM g) := by
  induction l with
  | nil => exact .pure ()
  | cons i l ih => exact (turn i).bind fun _ => ih

end Relates

structure Observer.Relates (R : σ → τ → Prop) (o : Observer σ) (p : Observer τ) : Prop where
  onRequest : ∀ file line column,
    ClangHost.Relates R (o.onRequest file line column) (p.onRequest file line column)
  onResults : ∀ count, ClangHost.Relates R (o.onResults count) (p.onResults count)
  onCandidate : ∀ i c, ClangHost.Relates R (o.onCandidate i c) (p.onCandidate i c)
  onDisposed : ∀ decoded, ClangHost.Relates R (o.onDisposed decoded) (p.onDisposed decoded)

section Engines

variable {e : Engine σ} {f : Engine τ} (calls : ∀ c, Relates R (e c) (f c))
include calls

theorem Results.records_relates (r : Results) :
    Relates R (r.records e).run (r.records f).run := by
  cases held : r.block with
  | none =>
    simp only [Results.records, held]
    exact .pure (Except.error _)
  | some b =>
    simp only [Results.records, held]
    exact .run_bind (calls _).lift fun l => .except _

theorem Results.release_relates (r : Results) : Relates R (r.release e) (r.release f) := by
  obtain ⟨_ | b⟩ := r
  · exact .pure _
  · exact (calls _).bind fun _ => .pure _

theorem Results.dispose_relates (r : Results) : Relates R (r.dispose e) (r.dispose f) :=
  (release_relates calls r).bind fun _ => .pure _

theorem Results.drop_relates (r : Results) : Relates R (r.drop e) (r.drop f) :=
  (release_relates calls r).bind fun _ => .pure _

theorem Index.drop_relates (i : Index) : Relates R (i.drop e) (i.drop f) := by
  unfold Index.drop
  split
  · exact calls _
  · exact .pure _

theorem TranslationUnit.cursor_relates (u : TranslationUnit) :
    Relates R (u.cursor e).run (u.cursor f).run :=
  .run_bind (calls _).lift fun _ => .ite (.throw_bind _ _ _) (.pure _)

namespace Completion

theorem take_relates (t : EngineString) : Relates R (t.take e) (t.take f) :=
  (calls _).bind fun _ => (calls _).bind fun _ => .pure _

theorem decodeChunk_relates (raw : Bool) (string : Address) (i : Nat) :
    Relates R (decodeChunk e raw string i) (decodeChunk f raw string i) :=
  (calls _).bind fun t => (take_relates calls t).bind fun _ => (calls _).bind fun _ => .pure _

theorem decodeRecord_relates (raw : Bool) (i : Nat) (r : CompletionRecord) :
    Relates R (decodeRecord e raw i r).run (decodeRecord f raw i r).run := by
  unfold decodeRecord
  refine .ite (.throw_bind _ _ _) (.run_bind (calls _).lift fun value => .run_bind (.except _)
    fun tag => .run_bind (calls _).lift fun priority => .run_bind (calls _).lift fun t =>
    .run_bind (take_relates calls t).lift fun comment => .run_bind (calls _).lift fun n => ?_)
  refine .ite (.throw_bind _ _ _) (.run_bind (.mapM (fun j => ?_) _) fun chunks => .pure _)
  exact (decodeChunk_relates calls raw r.string j).lift

variable {o : Observer σ} {p : Observer τ} (told : o.Relates R p)
include told

theorem decodeAll_relates (raw : Bool) (r : Results) :
    Relates R (decodeAll e o raw r).run (decodeAll f p raw r).run := by
  unfold decodeAll
  refine .run_bind (told.onResults _).lift fun _ => .ite (.pure (Except.ok [])) ?_
  refine .run_bind (r.records_relates calls) fun view => .mapM (fun turn => ?_) _
  exact .run_bind (decodeRecord_relates calls raw _ _) fun c =>
    .run_bind (told.onCandidate _ _).lift fun _ => .pure _

theorem run_relates (unit : Handle) (q : CompletionRequest) :
    Relates R (run e o unit q).run (run f p unit q).run := by
  unfold run
  refine .run_bind (told.onRequest _ _ _).lift fun _ => ?_
  obtain ⟨path, arena⟩ := (Arena.path q.file).run.run .empty
  refine .run_bind (.except path) fun slot => .run_bind (calls _).lift fun options =>
    .run_bind (calls _).lift fun block => .run_bind (.except _) fun results => ?_
  have decoded := (decodeAll_relates calls told q.raw results).lift
  refine .run_bind decoded fun decoded => .run_bind (results.dispose_relates calls).lift
    fun outcome => .run_bind (.except _) fun _ => ?_
  exact .run_bind (told.onDisposed decoded.isOk).lift fun _ => .except decoded

end Completion

end Engines

theorem TranslationUnit.marshal_relates {h : Host σ} {k : Host τ}
    (puts : ∀ ev, Relates R (h.sink.put ev) (k.sink.put ev)) (file : Bytes) (args : List String) :
    Relates R (marshal h file args).run (marshal k file args).run := by
  unfold marshal
  split
  refine .run_bind (.except _) fun copies => .run_bind (puts _).lift fun _ => ?_
  exact .run_bind (.except _) fun n => .pure _

/-- Two hosts that keep two worlds related. A sink may want events that the other one does not
want, as long as taking them makes no difference between the worlds. -/
structure Host.Relates (R : σ → τ → Prop) (h : Host σ) (k : Host τ) : Prop where
  engine : ∀ c, ClangHost.Relates R (h.engine c) (k.engine c)
  put : ∀ ev, ClangHost.Relates R (h.sink.put ev) (k.sink.put ev)
  candidate : ∀ i c, ClangHost.Relates R ((Observer.tracing h.sink).onCandidate i c)
    ((Observer.tracing k.sink).onCandidate i c)

namespace Host.Relates

variable {h : Host σ} {k : Host τ} (hosts : h.Relates R k)
include hosts

theorem tracing : (Observer.tracing h.sink).Relates R (Observer.tracing k.sink) :=
  { onRequest := fun _ _ _ => hosts.put _
    onResults := fun _ => hosts.put _
    onCandidate := hosts.candidate
    onDisposed := fun _ => hosts.put _ }

theorem create (excludePch displayDiagnostics : Bool) :
    ClangHost.Relates R (Index.create h excludePch displayDiagnostics).run
      (Index.create k excludePch displayDiagnostics).run :=
  .run_bind (hosts.engine _).lift fun _ => .ite (.throw_bind _ _ _)
    (.run_bind (hosts.put _).lift fun _ => .pure _)

theorem ofSource (i : Index) (file : Bytes) (args : List String) :
    ClangHost.Relates R (TranslationUnit.ofSource h i file args).run
      (TranslationUnit.ofSource k i file args).run :=
  .run_bind (TranslationUnit.marshal_relates hosts.put file args) fun _ =>
    .run_bind (hosts.put _).lift fun _ =>
    .run_bind (hosts.engine _).lift fun _ => .except _

theorem parse (i : Index) (file : Bytes) (args : List String) (unsaved : List UnsavedFile)
    (flags : ParseFlags) :
    ClangHost.Relates R (TranslationUnit.parse h i file args unsaved flags).run
      (TranslationUnit.parse k i file args unsaved flags).run := by
  refine .run_bind (TranslationUnit.marshal_relates hosts.put file args) fun input => ?_
  have parsed := fun ev => Relates.run_bind (hosts.put ev).lift fun _ =>
    .run_bind (hosts.engine (.parseUnit i.raw input.source input.args input.count true 0
      flags.encode)).lift fun raw => .except (TranslationUnit.ofRaw raw)
  exact .ite (.run_bind (hosts.put _).lift fun _ => parsed _) (parsed _)

theorem completeAt (u : TranslationUnit) (q : CompletionRequest) :
    ClangHost.Relates R (u.completeAt h q).run (u.completeAt k q).run :=
  Completion.run_relates hosts.engine hosts.tracing u.raw q

end Host.Relates

def SessionM.Related {α : Type} (R : σ → τ → Prop) (x : SessionM σ α) (y : SessionM τ α) : Prop :=
  ∀ hs, Relates R (x.run.run hs) (y.run.run hs)

namespace SessionM.Related

variable {α β : Type}

protected theorem pure (v : α) : SessionM.Related R (pure v) (pure v) := fun hs =>
  Relates.pure (Except.ok v, hs)

protected theorem throw (e : StepFault) : SessionM.Related R (throw e : SessionM σ α) (throw e) :=
  fun hs => Relates.pure (Except.error e, hs)

protected theorem bind {x : SessionM σ α} {y : SessionM τ α} {f : α → SessionM σ β}
    {g : α → SessionM τ β} (first : SessionM.Related R x y)
    (rest : ∀ v, SessionM.Related R (f v) (g v)) : SessionM.Related R (x >>= f) (y >>= g) := by
  intro hs
  refine Relates.bind (f := fun r => (ExceptT.bindCont f r.1).run r.2)
    (g := fun r => (ExceptT.bindCont g r.1).run r.2) (first hs) fun r => ?_
  obtain ⟨v | e, hs⟩ := r
  · exact Relates.pure (Except.error v, hs)
  · exact rest e hs

theorem get : SessionM.Related R (get : SessionM σ Session) get := fun hs =>
  Relates.pure (Except.ok hs, hs)

theorem modify (change : Session → Session) :
    SessionM.Related R (modify change : SessionM σ Unit) (modify change) := fun hs =>
  Relates.pure (Except.ok (), change hs)

theorem lift {x : StateM σ α} {y : StateM τ α} (related : Relates R x y) :
    SessionM.Related R (liftM x) (liftM y) := by
  intro hs s t r
  obtain ⟨same, r⟩ := related s t r
  exact ⟨congrArg (fun v => (Except.ok v, hs)) same, r⟩

theorem host {x : HostM σ α} {y : HostM τ α} (related : Relates R x.run y.run) :
    SessionM.Related R (Session.host x) (Session.host y) := by
  refine SessionM.Related.bind (lift related) fun r => ?_
  cases r with
  | ok v => exact .pure v
  | error e => exact .throw (.host e)

theorem held (things : Array (Option α)) (n : Nat) :
    SessionM.Related R (Session.held things n : SessionM σ α) (Session.held things n) := by
  unfold Session.held
  split
  · exact .pure _
  · exact .throw _

end SessionM.Related

namespace Session

variable {υ : Type} {h : Host σ} {k : Host τ} {act : StateM υ Unit → StateM σ Unit}
  {act' : StateM υ Unit → StateM τ Unit}

theorem observer_relates (hosts : h.Relates R k) (acts : ∀ x, Relates R (act x) (act' x))
    (a : Watcher υ) : (observer h act a).Relates R (observer k act' a) := by
  cases a with
  | tracing => exact hosts.tracing
  | own o =>
    exact
      { onRequest := fun _ _ _ => acts _
        onResults := fun _ => acts _
        onCandidate := fun _ _ => acts _
        onDisposed := fun _ => acts _ }

open SessionM (Related)

theorem step_relates (hosts : h.Relates R k) (acts : ∀ x, Relates R (act x) (act' x))
    (a : Step υ) : Related R (step h act a) (step k act' a) := by
  have engine := hosts.engine
  have add_index : ∀ i : Index, Related R (addIndex (σ := σ) i) (addIndex i) := fun _ =>
    .bind .get fun _ => .bind (.modify _) fun _ => .pure _
  have add_unit : ∀ n u, Related R (addUnit (σ := σ) n u) (addUnit n u) := fun _ _ =>
    .bind .get fun _ => .bind (.modify _) fun _ => .pure _
  have add_results : ∀ r : Results, Related R (addResults (σ := σ) r) (addResults r) := fun _ =>
    .bind .get fun _ => .bind (.modify _) fun _ => .pure _
  cases a with
  | newIndex excludePch displayDiagnostics => exact .bind (.host (hosts.create _ _)) add_index
  | configIndex c => exact .bind (.host (hosts.create _ _)) add_index
  | wrapIndex raw => exact .bind (.host (.except _)) add_index
  | dropIndex n =>
    refine .bind .get fun hs => .bind (.held _ _) fun i => .bind .get fun hs => ?_
    have dropped : Related R _ _ := .bind (.lift (i.drop_relates engine)) fun _ =>
      .bind (.modify fun s => { s with indexes := s.indexes.setIfInBounds n none }) fun _ =>
        .pure Reply.done
    dsimp only
    split
    · exact .bind (.throw _) fun _ => dropped
    · exact dropped
  | parseSource n file args =>
    exact .bind .get fun hs => .bind (.held _ _) fun i => .bind (.host (hosts.ofSource i file args))
      (add_unit n)
  | parse n file args unsaved flags =>
    exact .bind .get fun hs => .bind (.held _ _) fun i =>
      .bind (.host (hosts.parse i file args unsaved flags)) (add_unit n)
  | dropUnit n =>
    exact .bind .get fun hs => .bind (.held _ _) fun u => .bind (.lift (engine _)) fun _ =>
      .bind (.modify _) fun _ => .pure _
  | cursor n =>
    exact .bind .get fun hs => .bind (.held _ _) fun u =>
      .bind (.host (u.1.cursor_relates engine)) fun c => .pure _
  | sameCursor n m =>
    refine .bind .get fun hs => .bind (.held _ _) fun u =>
      .bind (.host (u.1.cursor_relates engine)) fun c => ?_
    exact .bind .get fun hs => .bind (.held _ _) fun v =>
      .bind (.host (v.1.cursor_relates engine)) fun d => .pure _
  | complete n q =>
    exact .bind .get fun hs => .bind (.held _ _) fun u =>
      .bind (.host (hosts.completeAt u.1 q)) fun cs => .pure _
  | completeWith n file line column c watcher =>
    refine .bind .get fun hs => .bind (.held _ _) fun u => .bind (.host ?_) fun cs => .pure _
    exact Completion.run_relates engine (observer_relates hosts acts watcher) u.1.raw _
  | acquire =>
    exact .bind (.lift (engine _)) fun b => .bind (.host (.except _)) add_results
  | resultsLength n => exact .bind .get fun hs => .bind (.held _ _) fun r => .pure _
  | resultsRecords n =>
    exact .bind .get fun hs => .bind (.held _ _) fun r =>
      .bind (.host (r.records_relates engine)) fun view => .pure _
  | resultsAt n i =>
    exact .bind .get fun hs => .bind (.held _ _) fun r =>
      .bind (.host (r.records_relates engine)) fun view => .pure _
  | disposeResults n =>
    exact .bind .get fun hs => .bind (.held _ _) fun r =>
      .bind (.lift (r.dispose_relates engine)) fun answer => .bind (.modify _) fun _ =>
        .bind (.host (.except _)) fun _ => .pure _
  | dropResults n =>
    exact .bind .get fun hs => .bind (.held _ _) fun r =>
      .bind (.lift (r.drop_relates engine)) fun _ => .bind (.modify _) fun _ => .pure _

theorem close_relates {e : Engine σ} {f : Engine τ} (calls : ∀ c, Relates R (e c) (f c))
    (hs : Session) : Relates R (close e hs) (close f hs) :=
  .bind (.forM (fun r => r.drop_relates calls) _) fun _ =>
    .bind (.forM (fun _ => calls _) _) fun _ => .forM (fun i => i.drop_relates calls) _

/-- A whole run: the reply to each step with what is held and the world then, and the world after
all that was still held has been dropped. -/
inductive Course (σ : Type) where
  | closed (w : σ)
  | stage (reply : Except StepFault Reply) (held : Session) (w : σ) (rest : Course σ)

def course (h : Host σ) (act : StateM υ Unit → StateM σ Unit) :
    List (Step υ) → Session → σ → Course σ
  | [], hs, w => .closed (close h.engine hs w).2
  | a :: steps, hs, w =>
    let r := (step h act a).run.run hs w
    .stage r.1.1 r.1.2 r.2 (course h act steps r.1.2 r.2)

namespace Course

def map (f : σ → τ) : Course σ → Course τ
  | closed w => closed (f w)
  | stage reply hs w rest => stage reply hs (f w) (rest.map f)

inductive Relates (R : σ → τ → Prop) : Course σ → Course τ → Prop where
  | closed {w v} : R w v → Relates R (closed w) (closed v)
  | stage {reply hs w v c d} : R w v → Relates R c d →
      Relates R (stage reply hs w c) (stage reply hs v d)

theorem Relates.eq_map {f : σ → τ} {c : Course σ} {d : Course τ}
    (related : Relates (fun w v => v = f w) c d) : d = c.map f := by
  induction related with
  | closed same => rw [same, map]
  | stage same _ ih => rw [same, ih, map]

end Course

theorem course_relates (hosts : h.Relates R k) (acts : ∀ x, Relates R (act x) (act' x))
    (steps : List (Step υ)) (hs : Session) {w : σ} {v : τ} (related : R w v) :
    Course.Relates R (course h act steps hs w) (course k act' steps hs v) := by
  induction steps generalizing hs w v with
  | nil => exact .closed (close_relates hosts.engine hs w v related).2
  | cons a steps ih =>
    obtain ⟨same, related⟩ := step_relates hosts acts a hs w v related
    simp only [course]
    rw [← same]
    exact .stage related (ih _ related)

end Session
end ClangHost
