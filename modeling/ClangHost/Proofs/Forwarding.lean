import ClangHost.Engine.Library
import ClangHost.Proofs.Simulation
import ClangHost.Session.World

/-!
A binding as a forwarder. A library exports each C function under its own name; nothing is assumed
of what a function does with the calls of another one. Whole sessions over the binding are then
sessions over the engine behind the library, except that the layout of records is never asked for:
the host's own is taken, whatever the engine would say (`forwards`).
-/
namespace ClangHost

def Call.function? : Call → Option String
  | .createIndex _ _ => some "clang_createIndex"
  | .disposeIndex _ => some "clang_disposeIndex"
  | .createUnit _ _ _ _ _ _ => some "clang_createTranslationUnitFromSourceFile"
  | .parseUnit _ _ _ _ _ _ _ => some "clang_parseTranslationUnit"
  | .disposeUnit _ => some "clang_disposeTranslationUnit"
  | .unitCursor _ => some "clang_getTranslationUnitCursor"
  | .defaultOptions => some "clang_defaultCodeCompleteOptions"
  | .completeAt _ _ _ _ _ _ _ => some "clang_codeCompleteAt"
  | .disposeBlock _ => some "clang_disposeCodeCompleteResults"
  | .recordLayout => none
  | .availability _ => some "clang_getCompletionAvailability"
  | .priority _ => some "clang_getCompletionPriority"
  | .briefComment _ => some "clang_getCompletionBriefComment"
  | .chunkCount _ => some "clang_getNumCompletionChunks"
  | .chunkText _ _ => some "clang_getCompletionChunkText"
  | .chunkKind _ _ => some "clang_getCompletionChunkKind"
  | .cString _ => some "clang_getCString"
  | .disposeString _ => some "clang_disposeString"

theorem EntryPoint.exists_call (p : EntryPoint) : ∃ c : Call, c.function? = some p.symbol := by
  cases p with
  | createIndex => exact ⟨.createIndex 0 0, rfl⟩
  | disposeIndex => exact ⟨.disposeIndex 0, rfl⟩
  | createUnit => exact ⟨.createUnit 0 none 0 none 0 true, rfl⟩
  | parseUnit => exact ⟨.parseUnit 0 none none 0 true 0 0, rfl⟩
  | disposeUnit => exact ⟨.disposeUnit 0, rfl⟩
  | unitCursor => exact ⟨.unitCursor 0, rfl⟩
  | defaultOptions => exact ⟨.defaultOptions, rfl⟩
  | completeAt => exact ⟨.completeAt 0 none 0 0 true 0 0, rfl⟩
  | disposeBlock => exact ⟨.disposeBlock 0, rfl⟩
  | availability => exact ⟨.availability 0, rfl⟩
  | priority => exact ⟨.priority 0, rfl⟩
  | briefComment => exact ⟨.briefComment 0, rfl⟩
  | chunkCount => exact ⟨.chunkCount 0, rfl⟩
  | chunkText => exact ⟨.chunkText 0 0, rfl⟩
  | chunkKind => exact ⟨.chunkKind 0 0, rfl⟩
  | cString => exact ⟨.cString .null, rfl⟩
  | disposeString => exact ⟨.disposeString .null, rfl⟩

variable {σ : Type}

/-- Each C function is there under its name and does what the engine does when it is called. -/
def Library.Exports (l : Library σ) (e : Engine σ) : Prop :=
  ∀ (c : Call) (name : String), c.function? = some name →
    ∃ f, l.lookup name = some f ∧ f c = e c

namespace Binding

variable {l : Library σ} {e : Engine σ}

theorem library_of_bind {b : Binding σ} (bound : bind l = .ok b) : b.library = l := by
  unfold bind at bound
  split at bound
  · cases bound
    rfl
  · cases bound

theorem exists_of_exports (exports : l.Exports e) : ∃ b, bind l = .ok b ∧ b.library = l := by
  have complete : (bind l).isOk := by
    refine (bind_isOk_iff l).mpr fun p => ?_
    obtain ⟨c, called⟩ := p.exists_call
    obtain ⟨f, found, _⟩ := exports c p.symbol called
    rw [found]
    rfl
  cases bound : bind l with
  | error fault =>
    rw [bound] at complete
    contradiction
  | ok b => exact ⟨b, rfl, library_of_bind bound⟩

variable {b : Binding σ}

theorem entry_eq (exports : b.library.Exports e) {p : EntryPoint} {c : Call}
    (called : c.function? = some p.symbol) : b.entry p c = e c := by
  obtain ⟨f, found, same⟩ := exports c p.symbol called
  have here : b.entry p = f := by
    unfold entry
    simp only [found, Option.get_some]
  rw [here, same]

theorem engine_eq (exports : b.library.Exports e) {c : Call} (asked : c ≠ .recordLayout) :
    b.engine c = e c := by
  cases c with
  | recordLayout => exact absurd rfl asked
  | _ => exact entry_eq exports rfl

end Binding

def Script.hostLaid (s : Script) : Script := { s with layout := .host }

theorem Script.engine_hostLaid (s : Script) {c : Call} (asked : c ≠ .recordLayout) :
    s.hostLaid.engine c = s.engine c := by
  cases c with
  | recordLayout => exact absurd rfl asked
  | _ => rfl

variable {υ : Type}

namespace World

def withoutLayouts (w : World υ) : World υ :=
  { w with calls := w.calls.filter fun c => c ≠ .recordLayout }

theorem withoutLayouts_asked (w : World υ) {c : Call} (asked : c ≠ .recordLayout)
    (st : ScriptState) :
    ({ w with calls := w.calls.push c, engine := st } : World υ).withoutLayouts =
      { w.withoutLayouts with calls := w.withoutLayouts.calls.push c, engine := st } := by
  simp only [withoutLayouts, Array.filter_push, decide_eq_true asked, if_true]

theorem withoutLayouts_layout (w : World υ) :
    ({ w with calls := w.calls.push .recordLayout } : World υ).withoutLayouts =
      w.withoutLayouts := by
  simp [withoutLayouts]

end World

namespace Binding

variable {s : Script} {b : Binding (World υ)}

theorem engine_relates (exports : b.library.Exports (World.scripted s)) (c : Call) :
    Relates (fun w v => v = w.withoutLayouts) (World.scripted s.hostLaid c) (b.engine c) := by
  rintro w _ rfl
  by_cases asked : c = .recordLayout
  · subst asked
    exact ⟨rfl, (World.withoutLayouts_layout w).symm⟩
  · rw [engine_eq exports asked]
    have same : s.hostLaid.engine c w.engine = s.engine c w.engine := by
      rw [s.engine_hostLaid asked]
    have answer : (s.hostLaid.engine c w.engine).1 = (s.engine c w.engine).1 := by rw [same]
    refine ⟨answer, ?_⟩
    change _ = ({ w with
      calls := w.calls.push c
      engine := (s.hostLaid.engine c w.engine).2 } : World υ).withoutLayouts
    rw [same]
    exact (w.withoutLayouts_asked asked _).symm

theorem host_relates (exports : b.library.Exports (World.scripted s)) (threshold : Option Level) :
    (World.host s.hostLaid threshold).Relates (fun w v => v = w.withoutLayouts)
      ⟨b.engine, World.sink threshold⟩ := by
  have put : ∀ ev, Relates (fun (w v : World υ) => v = w.withoutLayouts)
      ((World.sink threshold).put ev) ((World.sink threshold).put ev) := by
    rintro ev w _ rfl
    exact ⟨rfl, rfl⟩
  have candidate : ∀ i c, Relates (fun (w v : World υ) => v = w.withoutLayouts)
      ((Observer.tracing (World.sink threshold)).onCandidate i c)
      ((Observer.tracing (World.sink threshold)).onCandidate i c) := by
    intro i c
    simp only [Observer.tracing]
    split
    · exact put _
    · exact .pure ()
  exact ⟨engine_relates exports, put, candidate⟩

/-- A library that exports all C functions of an engine can be bound, and whatever a session does
over the binding, it does over the engine: step by step the same replies, and the same calls in the
same order, events and acts of observers, only that records are laid out as the host has them, and
that the engine is not asked. -/
theorem forwards (s : Script) (threshold : Option Level) (l : Library (World υ))
    (exports : l.Exports (World.scripted s)) :
    ∃ b, bind l = .ok b ∧ ∀ (steps : List (Session.Step υ)) (x : υ),
      let bound :=
        Session.course ⟨b.engine, World.sink threshold⟩ World.act steps {} { observed := x }
      let direct := fun s : Script =>
        Session.course (World.host s threshold) World.act steps {} { observed := x }
      bound = (direct { s with layout := .host }).map World.withoutLayouts ∧
      (s.layout = .host → bound = (direct s).map World.withoutLayouts) := by
  obtain ⟨b, done, rfl⟩ := exists_of_exports exports
  refine ⟨b, done, fun steps x => ?_⟩
  have acts : ∀ y : StateM υ Unit, Relates (fun w v => v = w.withoutLayouts) (World.act y)
      (World.act y) := by
    rintro y w _ rfl
    exact ⟨rfl, rfl⟩
  have start : ({ observed := x } : World υ) = ({ observed := x } : World υ).withoutLayouts := rfl
  have hosted := (Session.course_relates (host_relates exports threshold) acts steps {}
    start).eq_map
  refine ⟨hosted, fun layout => ?_⟩
  have unchanged : s.hostLaid = s := by
    rw [Script.hostLaid, ← layout]
  rwa [unchanged] at hosted

def narrowScript : Script :=
  { candidates := #[{ availability := 0, priority := 1 }]
    layout := { size := 12, align := 4, completionString := some 4 } }

/-- Each function is one of that engine's only for the calls that are its own. -/
def narrowLibrary : Library (World (Array Observer.Notice)) :=
  { origin := [], file := []
    lookup := fun name => some fun c =>
      if c.function? = some name then World.scripted narrowScript c else World.scripted {} c }

theorem forwards_narrowLibrary :
    ∃ b, bind narrowLibrary = .ok b ∧
      let steps : List (Session.Step (Array Observer.Notice)) :=
        [.newIndex false false, .parseSource 0 [0x61] [], .complete 0 ⟨[0x61], 1, 1, false⟩,
          .completeWith 0 [0x61] 1 1 { raw := true } (.own .keeping), .acquire, .resultsRecords 0,
          .dropUnit 0]
      Session.course ⟨b.engine, World.sink none⟩ World.act steps {} { observed := #[] } =
        (Session.course (World.host { narrowScript with layout := .host } none) World.act steps {}
          { observed := #[] }).map World.withoutLayouts := by
  have exports : narrowLibrary.Exports (World.scripted narrowScript) :=
    fun c name called => ⟨_, rfl, if_pos called⟩
  obtain ⟨b, done, same⟩ := forwards narrowScript none narrowLibrary exports
  exact ⟨b, done, (same _ _).1⟩

end Binding
end ClangHost
