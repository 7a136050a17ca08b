import ClangHost.Proofs.Persistence
import Mathlib.Data.List.ReduceOption

/-!
Whatever a session does, it never gives the null handle back as that of a unit
(`Session.course_nullKept`): a unit that is made has a handle (`MakesPresent`), so every unit that a
session holds has one (`Session.UnitsPresent`), and nothing else gives units back.
-/
namespace ClangHost

variable {σ : Type}

def besideHistory {α : Type} (x : StateM σ α) : StateM (σ × History) α := fun (s, h) =>
  ((x s).1, (x s).2, h)

def Host.watched (h : Host σ) : Host (σ × History) :=
  { engine := h.engine.watched
    sink := { wants := h.sink.wants, put := fun e => besideHistory (h.sink.put e) } }

theorem Unfolds.beside {α : Type} (x : StateM σ α) (s : σ) :
    Unfolds (besideHistory x) x s (x s).1 (x s).2 [] :=
  ⟨rfl, fun h => by rw [List.append_nil]; rfl⟩

theorem Unfolds.put (h : Host σ) (e : Event) (s : σ) :
    Unfolds (liftM (h.watched.sink.put e) : HostM (σ × History) Unit).run
      (liftM (h.sink.put e) : HostM σ Unit).run s (.ok ()) (h.sink.put e s).2 [] :=
  (Unfolds.beside (h.sink.put e) s).lift

def MakesPresent (x : HostM σ TranslationUnit) : Prop :=
  ∀ w u, (x.run w).1 = .ok u → u.raw ≠ 0

namespace MakesPresent

theorem after {α : Type} {x : HostM σ α} {k : α → HostM σ TranslationUnit}
    (rest : ∀ v, MakesPresent (k v)) : MakesPresent (x >>= k) := by
  intro w u made
  change (ExceptT.bindCont k (x.run w).1 (x.run w).2).1 = .ok u at made
  cases first : (x.run w).1 with
  | ok v =>
    rw [first] at made
    exact rest v _ u made
  | error e =>
    rw [first] at made
    cases made

theorem ofRaw (raw : Handle) : MakesPresent (liftM (TranslationUnit.ofRaw raw) : HostM σ _) := by
  intro w u made
  change TranslationUnit.ofRaw raw = .ok u at made
  rw [TranslationUnit.ofRaw] at made
  split_ifs at made with null
  cases made
  exact null

theorem ofSource (h : Host σ) (index : Index) (file : Bytes) (args : List String) :
    MakesPresent (TranslationUnit.ofSource h index file args) :=
  .after fun _ => .after fun _ => .after ofRaw

theorem parse (h : Host σ) (index : Index) (file : Bytes) (args : List String)
    (unsaved : List UnsavedFile) (flags : ParseFlags) :
    MakesPresent (TranslationUnit.parse h index file args unsaved flags) := by
  refine .after fun input => ?_
  dsimp only
  split
  · exact .after fun _ => .after fun _ => .after ofRaw
  · exact .after fun _ => .after ofRaw

end MakesPresent

/-- The engine, but for what it does about units that are given back. -/
def Engine.keepingUnits (e : Engine σ) : Engine σ
  | .disposeUnit _ => pure ()
  | c => e c

namespace Session

variable {υ : Type}

theorem step_keepingUnits (h : Host σ) (act : StateM υ Unit → StateM σ Unit) {a : Step υ}
    (other : ∀ n, a ≠ .dropUnit n) :
    step { h with engine := h.engine.keepingUnits } act a = step h act a := by
  cases a with
  | dropUnit n => exact absurd rfl (other n)
  | _ => rfl

def UnitsPresent (hs : Session) : Prop := ∀ u n, some (u, n) ∈ hs.units → u.raw ≠ 0

def KeepsPresent {α : Type} (m : SessionM σ α) : Prop :=
  ∀ hs w, hs.UnitsPresent → (m.run.run hs w).1.2.UnitsPresent

namespace KeepsPresent

variable {α β : Type}

protected theorem pure (v : α) : KeepsPresent (pure v : SessionM σ α) := fun _ _ present => present

protected theorem throw (e : StepFault) : KeepsPresent (throw e : SessionM σ α) :=
  fun _ _ present => present

protected theorem bind {x : SessionM σ α} {f : α → SessionM σ β} (first : KeepsPresent x)
    (rest : ∀ v, KeepsPresent (f v)) : KeepsPresent (x >>= f) := by
  intro hs w present
  have after := first hs w present
  change (((ExceptT.bindCont f (x.run.run hs w).1.1).run (x.run.run hs w).1.2)
    (x.run.run hs w).2).1.2.UnitsPresent
  cases (x.run.run hs w).1.1 with
  | ok v => exact rest v _ _ after
  | error e => exact after

theorem get : KeepsPresent (get : SessionM σ Session) := fun _ _ present => present

theorem modify (change : Session → Session)
    (kept : ∀ hs, hs.UnitsPresent → (change hs).UnitsPresent) :
    KeepsPresent (modify change : SessionM σ Unit) := fun hs _ present => kept hs present

theorem lift (x : StateM σ α) : KeepsPresent (liftM x : SessionM σ α) := fun _ _ present => present

theorem host (x : HostM σ α) : KeepsPresent (Session.host x) :=
  .bind (lift x.run) fun r => by
    cases r with
    | ok v => exact .pure v
    | error e => exact .throw _

theorem held (things : Array (Option α)) (n : Nat) :
    KeepsPresent (Session.held things n : SessionM σ α) := by
  unfold Session.held
  split
  · exact .pure _
  · exact .throw _

theorem run_host_bind (x : HostM σ α) (k : α → SessionM σ β) (hs : Session) (w : σ) :
    (Session.host x >>= k).run.run hs w =
      match (x.run w).1 with
      | .ok v => (k v).run.run hs (x.run w).2
      | .error e => ((.error (.host e), hs), (x.run w).2) := by
  simp only [Session.host, bind_assoc]
  change ((match (x.run w).1 with
    | .ok v => pure v
    | .error e => throw (.host e)) >>= k : SessionM σ β).run.run hs (x.run w).2 = _
  cases (x.run w).1 <;> rfl

theorem parse {x : HostM σ TranslationUnit} (made : MakesPresent x) (n : Nat) :
    KeepsPresent (Session.host x >>= addUnit n) := by
  intro hs w present
  rw [run_host_bind]
  cases parsed : (x.run w).1 with
  | error e => exact present
  | ok u =>
    intro v m member
    rcases Array.mem_push.mp member with old | new
    · exact present v m old
    · cases new
      exact made w u parsed

end KeepsPresent

theorem step_present (h : Host σ) (act : StateM υ Unit → StateM σ Unit) (a : Step υ) :
    KeepsPresent (step h act a) := by
  have add_index : ∀ i : Index, KeepsPresent (addIndex (σ := σ) i) := fun _ =>
    .bind .get fun _ => .bind (.modify _ fun _ present => present) fun _ => .pure _
  have add_results : ∀ r : Results, KeepsPresent (addResults (σ := σ) r) := fun _ =>
    .bind .get fun _ => .bind (.modify _ fun _ present => present) fun _ => .pure _
  cases a with
  | newIndex excludePch displayDiagnostics => exact .bind (.host _) add_index
  | configIndex c => exact .bind (.host _) add_index
  | wrapIndex raw => exact .bind (.host _) add_index
  | dropIndex n =>
    refine .bind .get fun hs => .bind (.held _ _) fun i => .bind .get fun hs => ?_
    have dropped : KeepsPresent _ := .bind (.lift (i.drop h.engine)) fun _ =>
      .bind (.modify (fun s => { s with indexes := s.indexes.setIfInBounds n none })
        fun _ present => present) fun _ => .pure Reply.done
    dsimp only
    split
    · exact .bind (.throw _) fun _ => dropped
    · exact dropped
  | parseSource n file args =>
    exact .bind .get fun hs => .bind (.held _ _) fun i => .parse (.ofSource h i file args) n
  | parse n file args unsaved flags =>
    exact .bind .get fun hs => .bind (.held _ _) fun i =>
      .parse (.parse h i file args unsaved flags) n
  | dropUnit n =>
    refine .bind .get fun hs => .bind (.held _ _) fun u => .bind (.lift _) fun _ =>
      .bind (.modify _ fun s present v m member => ?_) fun _ => .pure _
    rcases Array.mem_or_eq_of_mem_setIfInBounds member with old | gone
    · exact present v m old
    · cases gone
  | cursor n =>
    exact .bind .get fun hs => .bind (.held _ _) fun u => .bind (.host _) fun c => .pure _
  | sameCursor n m =>
    refine .bind .get fun hs => .bind (.held _ _) fun u => .bind (.host _) fun c => ?_
    exact .bind .get fun hs => .bind (.held _ _) fun v => .bind (.host _) fun d => .pure _
  | complete n q =>
    exact .bind .get fun hs => .bind (.held _ _) fun u => .bind (.host _) fun cs => .pure _
  | completeWith n file line column c watcher =>
    exact .bind .get fun hs => .bind (.held _ _) fun u => .bind (.host _) fun cs => .pure _
  | acquire => exact .bind (.lift _) fun b => .bind (.host _) add_results
  | resultsLength n => exact .bind .get fun hs => .bind (.held _ _) fun r => .pure _
  | resultsRecords n =>
    exact .bind .get fun hs => .bind (.held _ _) fun r => .bind (.host _) fun view => .pure _
  | resultsAt n i =>
    exact .bind .get fun hs => .bind (.held _ _) fun r => .bind (.host _) fun view => .pure _
  | disposeResults n =>
    exact .bind .get fun hs => .bind (.held _ _) fun r => .bind (.lift _) fun answer =>
      .bind (.modify _ fun _ present => present) fun _ => .bind (.host _) fun _ => .pure _
  | dropResults n =>
    exact .bind .get fun hs => .bind (.held _ _) fun r => .bind (.lift _) fun _ =>
      .bind (.modify _ fun _ present => present) fun _ => .pure _

end Session

def NullKept (w : σ × History) : Prop := ∀ x ∈ w.2.exchanges, x.call ≠ .disposeUnit 0

namespace NullKept

theorem call (h : Host σ) {c : Call} (other : c ≠ .disposeUnit 0) :
    Maintains NullKept (h.watched.engine c) := by
  rintro ⟨s, k⟩ kept x member
  change x ∈ History.exchanges (k ++ [.asked ⟨c, (h.engine c s).1⟩]) at member
  rw [History.exchanges_append] at member
  rcases List.mem_append.mp member with old | new
  · exact kept x old
  · cases List.mem_singleton.mp new
    exact other

theorem beside {α : Type} (x : StateM σ α) : Maintains NullKept (besideHistory x) :=
  fun _ kept => kept

theorem host (h : Host σ) :
    Host.Relates (fun w v => w = v ∧ NullKept w)
      { h.watched with engine := h.watched.engine.keepingUnits }
      { h.watched with engine := h.watched.engine.keepingUnits } := by
  refine ⟨fun c => maintains_iff.mp ?_, fun e => maintains_iff.mp (beside _), fun i c => ?_⟩
  · cases c with
    | disposeUnit u => exact .pure ()
    | _ => exact call h (by simp)
  · refine maintains_iff.mp ?_
    simp only [Observer.tracing]
    split
    · exact beside _
    · exact .pure ()

end NullKept

namespace Session

variable {υ : Type} (h : Host σ) (act : StateM υ Unit → StateM σ Unit)

def actBeside (x : StateM υ Unit) : StateM (σ × History) Unit := besideHistory (act x)

theorem step_nullKept {a : Step υ} {hs : Session} {w : σ × History} (present : hs.UnitsPresent)
    (kept : NullKept w) : NullKept ((step h.watched (actBeside act) a).run.run hs w).2 := by
  -- All other steps do the same over an engine that keeps units, which gives none back.
  by_cases ends : ∃ n, a = .dropUnit n
  · obtain ⟨n, rfl⟩ := ends
    change NullKept ((held hs.units n >>= _).run.run hs w).2
    rcases found : hs.units[n]? with _ | _ | ⟨u, m⟩ <;> rw [held, found]
    · exact kept
    · exact kept
    · have other : Call.disposeUnit u.raw ≠ .disposeUnit 0 := fun same =>
        present u m (Array.mem_of_getElem? found) (Call.disposeUnit.inj same)
      exact NullKept.call h other w kept
  · have acts : ∀ x, Relates (fun w v => w = v ∧ NullKept w) (actBeside act x)
        (actBeside act x) := fun x => maintains_iff.mp (NullKept.beside _)
    have related := step_relates (NullKept.host h) acts a hs w w ⟨rfl, kept⟩
    rw [step_keepingUnits _ _ fun n is => ends ⟨n, is⟩] at related
    exact related.2.2

theorem close_nullKept {hs : Session} (present : hs.UnitsPresent) :
    Maintains NullKept (close h.watched.engine hs) := by
  have calls := (NullKept.host h).engine
  refine .bind (.forM (fun r => ?_) _) fun _ => .bind (.forM_of_mem fun u member => ?_) fun _ =>
    .forM (fun i => ?_) _
  · exact maintains_iff.mpr (r.drop_relates calls)
  · have other : Call.disposeUnit u.1.raw ≠ .disposeUnit 0 := fun same =>
      present u.1 u.2 (Array.mem_toList_iff.mp (List.reduceOption_mem_iff.mp member))
        (Call.disposeUnit.inj same)
    exact NullKept.call h other
  · exact maintains_iff.mpr (i.drop_relates calls)

def Course.final : Course σ → σ
  | .closed w => w
  | .stage _ _ _ rest => rest.final

/-- A session never gives a null handle back as that of a unit. -/
theorem course_nullKept (steps : List (Step υ)) {hs : Session} {w : σ × History}
    (present : hs.UnitsPresent) (kept : NullKept w) :
    NullKept (course h.watched (actBeside act) steps hs w).final := by
  induction steps generalizing hs w with
  | nil => exact close_nullKept h present w kept
  | cons a steps ih =>
    exact ih (step_present _ _ a hs w present) (step_nullKept h act present kept)

end Session

end ClangHost
