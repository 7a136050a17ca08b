import ClangHost.Completion.Request
import Mathlib.Data.List.Basic
import Mathlib.Tactic.Choose

/-!
Watched computations. In a watched world every call of the engine is written down with its
answer, and every notice of an observer is written down too, in the order in which they happen.
`Unfolds` says what a computation gives from one state and what happens on the way; it composes
along binds and loops. A loop that may fail ends at the first failure (`Unfolds.mapM`).
-/
namespace ClangHost

structure Exchange where
  call : Call
  answer : call.Answer

inductive Happening where
  | asked (x : Exchange)
  | told (n : Observer.Notice)

def Happening.exchange? : Happening → Option Exchange
  | .asked x => some x
  | .told _ => none

abbrev History := List Happening

namespace History

def exchanges (h : History) : List Exchange := h.filterMap Happening.exchange?

@[simp]
theorem exchanges_nil : exchanges [] = [] := rfl

@[simp]
theorem exchanges_asked (x : Exchange) (h : History) :
    exchanges (.asked x :: h) = x :: exchanges h := rfl

@[simp]
theorem exchanges_told (n : Observer.Notice) (h : History) :
    exchanges (.told n :: h) = exchanges h := rfl

@[simp]
theorem exchanges_append (h k : History) : exchanges (h ++ k) = exchanges h ++ exchanges k :=
  List.filterMap_append

@[simp]
theorem exchanges_map_asked (xs : List Exchange) : exchanges (xs.map .asked) = xs := by
  rw [exchanges, List.filterMap_map]
  exact List.filterMap_some

theorem exchanges_flatMap {ι : Type} (l : List ι) (h : ι → History) :
    exchanges (l.flatMap h) = l.flatMap fun i => exchanges (h i) :=
  List.filterMap_flatMap

end History

variable {σ : Type}

def Engine.watched (e : Engine σ) : Engine (σ × History) := fun c (s, h) =>
  let (a, s) := e c s
  (a, s, h ++ [.asked ⟨c, a⟩])

namespace Observer

def tell (n : Notice) (x : StateM σ Unit) : StateM (σ × History) Unit := fun (s, h) =>
  ((), (x s).2, h ++ [.told n])

def watched (o : Observer σ) : Observer (σ × History) :=
  { onRequest := fun file line column =>
      tell (.request file line column) (o.onRequest file line column)
    onResults := fun count => tell (.results count) (o.onResults count)
    onCandidate := fun index c => tell (.candidate index c) (o.onCandidate index c)
    onDisposed := fun decoded => tell (.disposed decoded) (o.onDisposed decoded) }

end Observer

/-- From state `s`, `x` gives `v` and leaves `t`; `y` is `x` watched, and `hs` happens. -/
def Unfolds {α : Type} (y : StateM (σ × History) α) (x : StateM σ α) (s : σ) (v : α) (t : σ)
    (hs : History) : Prop :=
  x s = (v, t) ∧ ∀ h, y (s, h) = (v, t, h ++ hs)

def upToFirst {ι : Type} (stops : ι → Bool) : List ι → List ι
  | [] => []
  | i :: l => i :: if stops i then [] else upToFirst stops l

theorem upToFirst_congr {ι : Type} {p q : ι → Bool} {l : List ι} (same : ∀ i ∈ l, p i = q i) :
    upToFirst p l = upToFirst q l := by
  induction l with
  | nil => rfl
  | cons i l ih =>
    simp only [upToFirst, same i (by simp), ih fun j hj => same j (List.mem_cons_of_mem i hj)]

theorem upToFirst_eq_self {ι : Type} {p : ι → Bool} {l : List ι} (goes : ∀ i ∈ l, p i = false) :
    upToFirst p l = l := by
  induction l with
  | nil => rfl
  | cons i l ih =>
    simp [upToFirst, goes i (by simp), ih fun j hj => goes j (List.mem_cons_of_mem i hj)]

theorem upToFirst_eq_take {ι : Type} (p : ι → Bool) (l : List ι) :
    upToFirst p l = l.take (l.findIdx p + 1) := by
  induction l with
  | nil => rfl
  | cons i l ih => cases stops : p i <;> simp [upToFirst, List.findIdx_cons, stops, ih]

theorem mem_of_mem_upToFirst {ι : Type} {p : ι → Bool} {l : List ι} {i : ι}
    (h : i ∈ upToFirst p l) : i ∈ l := by
  induction l with
  | nil => exact h
  | cons j l ih =>
    rcases List.mem_cons.mp h with rfl | h
    · exact List.mem_cons_self
    · split at h
      · contradiction
      · exact List.mem_cons_of_mem j (ih h)

theorem mapM_congr {ι ε α : Type} {f g : ι → Except ε α} {l : List ι}
    (same : ∀ i ∈ l, f i = g i) : l.mapM f = l.mapM g := by
  induction l with
  | nil => rfl
  | cons i l ih =>
    simp only [List.mapM_cons, same i (by simp), ih fun j hj => same j (List.mem_cons_of_mem i hj)]

section

variable {τ α β ε : Type} {a b : τ}

theorem run_bind_ok {x : ExceptT ε (StateM τ) α} {v : α} (done : x.run a = (.ok v, b))
    (k : α → ExceptT ε (StateM τ) β) : (x >>= k).run a = (k v).run b := by
  change ExceptT.bindCont k (x.run a).1 (x.run a).2 = _
  rw [done]
  rfl

theorem run_bind_error {x : ExceptT ε (StateM τ) α} {e : ε} (failed : x.run a = (.error e, b))
    (k : α → ExceptT ε (StateM τ) β) : (x >>= k).run a = (.error e, b) := by
  change ExceptT.bindCont k (x.run a).1 (x.run a).2 = _
  rw [failed]
  rfl

theorem run_lift {x : StateM τ α} {v : α} (done : x a = (v, b)) :
    (monadLift x : ExceptT ε (StateM τ) α).run a = (.ok v, b) := by
  change (Except.ok (x a).1, (x a).2) = _
  rw [done]

end

namespace Unfolds

variable {α β ε : Type} {s t u : σ} {hs ks : History}

protected theorem pure (v : α) (s : σ) : Unfolds (pure v) (pure v) s v s [] :=
  ⟨rfl, fun h => by rw [List.append_nil]; rfl⟩

protected theorem congr {y : StateM (σ × History) α} {x : StateM σ α} {v w : α}
    (h : Unfolds y x s v t hs)
    (value : v = w) (history : hs = ks) : Unfolds y x s w t ks := by
  subst value history
  exact h

theorem call (e : Engine σ) (c : Call) (s : σ) :
    ∃ (a : c.Answer) (t : σ),
      (e c s = (a, t)) ∧ Unfolds (e.watched c) (e c) s a t [.asked ⟨c, a⟩] :=
  ⟨_, _, rfl, rfl, fun _ => rfl⟩

protected theorem tell (n : Observer.Notice) (x : StateM σ Unit) (s : σ) :
    Unfolds (Observer.tell n x) x s () (x s).2 [.told n] :=
  ⟨rfl, fun _ => rfl⟩

protected theorem bind {y : StateM (σ × History) α} {x : StateM σ α} {v : α}
    {g : α → StateM (σ × History) β} {f : α → StateM σ β} {w : β}
    (first : Unfolds y x s v t hs) (rest : Unfolds (g v) (f v) t w u ks) :
    Unfolds (y >>= g) (x >>= f) s w u (hs ++ ks) := by
  constructor
  · change f (x s).1 (x s).2 = _
    rw [first.1]
    exact rest.1
  · intro h
    change g (y (s, h)).1 (y (s, h)).2 = _
    rw [first.2 h, ← List.append_assoc]
    exact rest.2 _

protected theorem lift {y : StateM (σ × History) α} {x : StateM σ α} {v : α}
    (h : Unfolds y x s v t hs) :
    Unfolds (liftM y : ExceptT ε (StateM (σ × History)) α).run
      (liftM x : ExceptT ε (StateM σ) α).run s (.ok v) t hs := by
  constructor
  · change (Except.ok (x s).1, (x s).2) = _
    rw [h.1]
  · intro k
    change (Except.ok (y (s, k)).1, (y (s, k)).2) = _
    rw [h.2]

theorem outcome {r q : Except ε α} (known : r = q) (s : σ) :
    Unfolds (liftM r : ExceptT ε (StateM (σ × History)) α).run
      (liftM r : ExceptT ε (StateM σ) α).run s q s [] := by
  subst known
  exact .pure r s

protected theorem throw (e : ε) (s : σ) :
    Unfolds (throw e : ExceptT ε (StateM (σ × History)) α).run
      (throw e : ExceptT ε (StateM σ) α).run s (.error e) s [] :=
  .pure (Except.error e) s

theorem bind_ok {y : ExceptT ε (StateM (σ × History)) α} {x : ExceptT ε (StateM σ) α} {v : α}
    {g : α → ExceptT ε (StateM (σ × History)) β} {f : α → ExceptT ε (StateM σ) β} {w : Except ε β}
    (first : Unfolds y.run x.run s (.ok v) t hs) (rest : Unfolds (g v).run (f v).run t w u ks) :
    Unfolds (y >>= g).run (x >>= f).run s w u (hs ++ ks) :=
  first.bind (g := ExceptT.bindCont g) (f := ExceptT.bindCont f) rest

theorem bind_error {y : ExceptT ε (StateM (σ × History)) α} {x : ExceptT ε (StateM σ) α} {e : ε}
    {g : α → ExceptT ε (StateM (σ × History)) β} {f : α → ExceptT ε (StateM σ) β}
    (first : Unfolds y.run x.run s (.error e) t hs) :
    Unfolds (y >>= g).run (x >>= f).run s (.error e) t hs := by
  have h := first.bind (g := ExceptT.bindCont g) (f := ExceptT.bindCont f)
    (.pure (Except.error e) t)
  rwa [List.append_nil] at h

theorem ite_pos {c : Prop} [Decidable c] {y y' : ExceptT ε (StateM (σ × History)) α}
    {x x' : ExceptT ε (StateM σ) α} {r : Except ε α} (holds : c)
    (h : Unfolds y.run x.run s r t hs) :
    Unfolds (if c then y else y').run (if c then x else x').run s r t hs := by
  rwa [if_pos holds, if_pos holds]

theorem ite_neg {c : Prop} [Decidable c] {y y' : ExceptT ε (StateM (σ × History)) α}
    {x x' : ExceptT ε (StateM σ) α} {r : Except ε α} (fails : ¬ c)
    (h : Unfolds y'.run x'.run s r t hs) :
    Unfolds (if c then y else y').run (if c then x else x').run s r t hs := by
  rwa [if_neg fails, if_neg fails]

theorem map_ok {y : ExceptT ε (StateM (σ × History)) α} {x : ExceptT ε (StateM σ) α}
    {r : Except ε α} (f : α → β) (h : Unfolds y.run x.run s r t hs) :
    Unfolds (f <$> y).run (f <$> x).run s (r.map f) t hs := by
  rw [map_eq_pure_bind, map_eq_pure_bind]
  cases r with
  | ok v =>
    have whole := h.bind_ok (g := fun v => pure (f v)) (f := fun v => pure (f v))
      (.pure (Except.ok (f v)) t)
    rwa [List.append_nil] at whole
  | error e => exact h.bind_error

theorem mapM_cons_map {ι : Type} {m : Type → Type} [Monad m] [LawfulMonad m] (f : ι → m α) (i : ι)
    (l : List ι) : (i :: l).mapM f = f i >>= fun v => List.cons v <$> l.mapM f := by
  simp

/-- A loop that ends at the first failure. `val` is what a turn gives after the answers `a i`
that were met in it, and `hap` is what happens in it. -/
protected theorem mapM {A : Type} {y : Nat → ExceptT ε (StateM (σ × History)) α}
    {x : Nat → ExceptT ε (StateM σ) α} {val : Nat → A → Except ε α} {hap : Nat → A → History}
    {met : Nat → A → Prop}
    (turn : ∀ i s, ∃ a t, met i a ∧ Unfolds (y i).run (x i).run s (val i a) t (hap i a))
    {l : List Nat} (distinct : l.Nodup) (s : σ) :
    ∃ (a : Nat → A) (t : σ), (∀ i, met i (a i)) ∧
      Unfolds (l.mapM y).run (l.mapM x).run s (l.mapM fun i => val i (a i)) t
        ((upToFirst (fun i => !(val i (a i)).isOk) l).flatMap fun i => hap i (a i)) := by
  induction l generalizing s with
  | nil =>
    choose a _ h using fun i => turn i s
    exact ⟨a, s, fun i => (h i).1, .pure (Except.ok []) s⟩
  | cons i l ih =>
    obtain ⟨new, l_distinct⟩ := List.nodup_cons.mp distinct
    obtain ⟨b, t, hb, here⟩ := turn i s
    obtain ⟨a, u, ha, there⟩ := ih l_distinct t
    -- the answers of this turn beside those of all later ones
    let c : Nat → A := fun j => if j = i then b else a j
    have hc : ∀ j, met j (c j) := by
      intro j
      by_cases hj : j = i
      · subst hj; simpa [c] using hb
      · simpa [c, hj] using ha j
    have ci : c i = b := by simp [c]
    have cl : ∀ j ∈ l, c j = a j := fun j hj => by
      have : j ≠ i := fun h => new (h ▸ hj)
      simp [c, this]
    have vals : (l.mapM fun j => val j (c j)) = l.mapM fun j => val j (a j) :=
      mapM_congr fun j hj => by rw [cl j hj]
    have stops : upToFirst (fun j => !(val j (c j)).isOk) l =
        upToFirst (fun j => !(val j (a j)).isOk) l := upToFirst_congr fun j hj => by rw [cl j hj]
    have haps : ((upToFirst (fun j => !(val j (a j)).isOk) l).flatMap fun j => hap j (c j)) =
        (upToFirst (fun j => !(val j (a j)).isOk) l).flatMap fun j => hap j (a j) :=
      List.flatMap_congr fun j hj => by rw [cl j (mem_of_mem_upToFirst hj)]
    simp only [mapM_cons_map]
    cases hv : val i b with
    | error e =>
      rw [hv] at here
      refine ⟨c, t, hc, ?_⟩
      have last : upToFirst (fun j => !(val j (c j)).isOk) (i :: l) = [i] := by
        rw [upToFirst, ci, hv]
        rfl
      rw [last, ci, hv, List.flatMap_singleton, ci]
      exact here.bind_error
    | ok v =>
      rw [hv] at here
      refine ⟨c, u, hc, ?_⟩
      have more : upToFirst (fun j => !(val j (c j)).isOk) (i :: l) =
          i :: upToFirst (fun j => !(val j (a j)).isOk) l := by
        rw [upToFirst, stops, ci, hv]
        rfl
      rw [more, ci, hv, List.flatMap_cons, ci, haps, vals]
      exact here.bind_ok (f := fun v => List.cons v <$> l.mapM x) (there.map_ok (List.cons v))

end Unfolds
end ClangHost
