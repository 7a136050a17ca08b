import ClangHost.Proofs.Alike
import ClangHost.Proofs.Simulation

/-!
What every call of the engine and every notice to the observer maintains, a completion maintains
(`run_maintains`). So two completions are answered alike where the engine has a state of its own
that no observer touches (`course_answeredAlike`): whatever the observers do, and in either mode.
-/
namespace ClangHost

variable {σ τ : Type}

def Maintains {α : Type} (I : σ → Prop) (x : StateM σ α) : Prop := ∀ s, I s → I (x s).2

theorem maintains_iff {α : Type} {I : σ → Prop} {x : StateM σ α} :
    Maintains I x ↔ Relates (fun s t => s = t ∧ I s) x x := by
  constructor
  · rintro kept s _ ⟨rfl, holds⟩
    exact ⟨rfl, rfl, kept s holds⟩
  · intro related s holds
    exact (related s s ⟨rfl, holds⟩).2.2

theorem bind_apply {α β : Type} (x : StateM σ α) (f : α → StateM σ β) (s : σ) :
    (x >>= f) s = f (x s).1 (x s).2 := rfl

namespace Maintains

variable {α β : Type} {I : σ → Prop}

protected theorem pure (v : α) : Maintains I (pure v) := fun _ holds => holds

protected theorem bind {x : StateM σ α} {f : α → StateM σ β} (first : Maintains I x)
    (rest : ∀ v, Maintains I (f v)) : Maintains I (x >>= f) :=
  fun s holds => rest _ _ (first s holds)

protected theorem modify {f : σ → σ} (kept : ∀ s, I s → I (f s)) :
    Maintains I (modify f : StateM σ PUnit) := kept

theorem get_bind {f : σ → StateM σ α} (rest : ∀ s, I s → I (f s s).2) :
    Maintains I (get >>= f) := rest

theorem forM_of_mem {ι : Type} {f : ι → StateM σ PUnit} {l : List ι}
    (turn : ∀ i ∈ l, Maintains I (f i)) : Maintains I (l.forM f) := by
  induction l with
  | nil => exact .pure ()
  | cons i l ih =>
    exact (turn i List.mem_cons_self).bind fun _ =>
      ih fun j member => turn j (List.mem_cons_of_mem i member)

protected theorem forM {ι : Type} {f : ι → StateM σ PUnit} (turn : ∀ i, Maintains I (f i))
    (l : List ι) : Maintains I (l.forM f) := forM_of_mem fun i _ => turn i

end Maintains

structure Observer.Maintains (I : σ → Prop) (o : Observer σ) : Prop where
  onRequest : ∀ file line column, ClangHost.Maintains I (o.onRequest file line column)
  onResults : ∀ count, ClangHost.Maintains I (o.onResults count)
  onCandidate : ∀ i c, ClangHost.Maintains I (o.onCandidate i c)
  onDisposed : ∀ decoded, ClangHost.Maintains I (o.onDisposed decoded)

theorem Completion.run_maintains {I : σ → Prop} {e : Engine σ} {o : Observer σ}
    (calls : ∀ c, Maintains I (e c)) (told : o.Maintains I) (unit : Handle)
    (q : CompletionRequest) : Maintains I (run e o unit q).run := by
  refine maintains_iff.mpr (run_relates (fun c => maintains_iff.mp (calls c)) ?_ unit q)
  exact
    { onRequest := fun _ _ _ => maintains_iff.mp (told.onRequest _ _ _)
      onResults := fun _ => maintains_iff.mp (told.onResults _)
      onCandidate := fun _ _ => maintains_iff.mp (told.onCandidate _ _)
      onDisposed := fun _ => maintains_iff.mp (told.onDisposed _) }

/-- The engine is another one, in one part of a larger world. -/
structure Engine.LivesIn (e : Engine σ) (f : Engine τ) (part : σ → τ) : Prop where
  answer : ∀ c s, (e c s).1 = (f c (part s)).1
  state : ∀ c s, part (e c s).2 = (f c (part s)).2

structure Observer.Spares (o : Observer σ) (part : σ → τ) : Prop where
  onRequest : ∀ file line column s, part (o.onRequest file line column s).2 = part s
  onResults : ∀ count s, part (o.onResults count s).2 = part s
  onCandidate : ∀ i c s, part (o.onCandidate i c s).2 = part s
  onDisposed : ∀ decoded s, part (o.onDisposed decoded s).2 = part s

theorem Engine.livesIn_self (e : Engine σ) : e.LivesIn e id := ⟨fun _ _ => rfl, fun _ _ => rfl⟩

theorem Observer.silent_spares (part : σ → τ) : Observer.silent.Spares part :=
  ⟨fun _ _ _ _ => rfl, fun _ _ => rfl, fun _ _ _ => rfl, fun _ _ => rfl⟩

/-- From state `t` the engine answers like this, one call after the other, and ends in `u`. -/
def Engine.Transcript (f : Engine τ) : τ → List Exchange → τ → Prop
  | t, [], u => t = u
  | t, x :: h, u => x.answer = (f x.call t).1 ∧ f.Transcript (f x.call t).2 h u

namespace Engine.Transcript

variable {f : Engine τ} {t u v : τ} {h k : List Exchange}

theorem snoc (so_far : f.Transcript t h u) (c : Call) :
    f.Transcript t (h ++ [⟨c, (f c u).1⟩]) (f c u).2 := by
  induction h generalizing t with
  | nil =>
    cases so_far
    exact ⟨rfl, rfl⟩
  | cons x h ih => exact ⟨so_far.1, ih so_far.2⟩

theorem answeredAlike (left : f.Transcript t h u) (right : f.Transcript t k v) :
    AnsweredAlike h k := by
  induction h generalizing t k with
  | nil => exact .done k
  | cons x h ih =>
    cases k with
    | nil => exact .ended (x :: h)
    | cons y k =>
      refine AnsweredAlike.cons_iff.mpr fun same => ?_
      obtain ⟨call, answer⟩ := x
      obtain ⟨_, answer'⟩ := y
      cases same
      obtain ⟨here, rest⟩ := left
      obtain ⟨here', rest'⟩ := right
      exact ⟨by rw [show answer = answer' from here.trans here'.symm], ih rest rest'⟩

end Engine.Transcript

namespace Completion

theorem transcript_course {e : Engine σ} {f : Engine τ} {part : σ → τ} (lives : e.LivesIn f part)
    {o : Observer σ} (spares : o.Spares part) (unit : Handle) (q : CompletionRequest) (s : σ) :
    ∃ u, f.Transcript (part s) (course e o unit q s).2.exchanges u := by
  -- the exchanges so far lead the engine to where it is now, which only a call changes
  let I : σ × History → Prop := fun w => f.Transcript (part s) w.2.exchanges (part w.1)
  have calls : ∀ c, Maintains I (e.watched c) := by
    intro c (w, h) so_far
    have next := so_far.snoc c
    rw [← lives.answer, ← lives.state] at next
    change f.Transcript (part s) (History.exchanges (h ++ [.asked ⟨c, (e c w).1⟩])) (part (e c w).2)
    rwa [History.exchanges_append]
  have tell : ∀ (n : Observer.Notice) (x : StateM σ Unit), (∀ w, part (x w).2 = part w) →
      Maintains I (Observer.tell n x) := by
    intro n x spared (w, h) so_far
    simpa [I, Observer.tell, spared w] using so_far
  have told : o.watched.Maintains I :=
    { onRequest := fun file line column => tell _ _ (spares.onRequest file line column)
      onResults := fun count => tell _ _ (spares.onResults count)
      onCandidate := fun i c => tell _ _ (spares.onCandidate i c)
      onDisposed := fun decoded => tell _ _ (spares.onDisposed decoded) }
  exact ⟨_, run_maintains calls told unit q (s, []) rfl⟩

/-- An engine with a state of its own answers alike, whatever observers do besides, and in whatever
mode it is asked. -/
theorem course_answeredAlike {υ : Type} {f : Engine τ} {e : Engine σ} {part : σ → τ}
    (lives : e.LivesIn f part) {o : Observer σ} (spares : o.Spares part)
    {e' : Engine υ} {part' : υ → τ} (lives' : e'.LivesIn f part') {o' : Observer υ}
    (spares' : o'.Spares part') {s : σ} {s' : υ} (start : part s = part' s')
    (unit unit' : Handle) (q q' : CompletionRequest) :
    AnsweredAlike (course e o unit q s).2.exchanges (course e' o' unit' q' s').2.exchanges := by
  obtain ⟨u, left⟩ := transcript_course lives spares unit q s
  obtain ⟨v, right⟩ := transcript_course lives' spares' unit' q' s'
  rw [start] at left
  exact left.answeredAlike right

end Completion
end ClangHost
