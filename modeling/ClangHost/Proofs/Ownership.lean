import ClangHost.Proofs.Custody

/-!
Who holds what, over whole runs. A run is any sequence of session steps, of sessions opened and
closed on the engine directly, and of blocks that are asked for directly and turned into guards
later or never. Between any two operations the books of the engine show exactly what is held
(`run_accounts`).
-/
namespace ClangHost

open Custody

section Slots

variable {α β : Type} (f : α → Option β)

theorem filterMap_push (a : Array α) (v : α) :
    ((a.push v).toList.filterMap f).Perm ((f v).toList ++ a.toList.filterMap f) := by
  rw [Array.toList_push, List.filterMap_append]
  refine List.perm_append_comm.trans (.of_eq ?_)
  cases h : f v <;> simp [h]

theorem filterMap_set {a : Array α} {n : Nat} {v : α} (found : a[n]? = some v) (u : α) :
    ∃ rest, (a.toList.filterMap f).Perm ((f v).toList ++ rest) ∧
      ((a.setIfInBounds n u).toList.filterMap f).Perm ((f u).toList ++ rest) := by
  obtain ⟨inside, here⟩ := Array.getElem?_eq_some_iff.mp found
  have inside : n < a.toList.length := inside
  have here : a.toList[n] = v := here
  have before : a.toList = a.toList.take n ++ v :: a.toList.drop (n + 1) := by
    rw [← here, List.getElem_cons_drop, List.take_append_drop]
  have after : (a.setIfInBounds n u).toList = a.toList.take n ++ u :: a.toList.drop (n + 1) := by
    rw [Array.toList_setIfInBounds, List.set_eq_take_append_cons_drop,
      if_pos inside]
  have moved : ∀ z, ((a.toList.take n ++ z :: a.toList.drop (n + 1)).filterMap f).Perm
      ((f z).toList ++ (a.toList.take n ++ a.toList.drop (n + 1)).filterMap f) := by
    intro z
    refine (List.perm_middle.filterMap f).trans (.of_eq ?_)
    cases h : f z <;> simp [h]
  refine ⟨(a.toList.take n ++ a.toList.drop (n + 1)).filterMap f, ?_, ?_⟩
  · exact (List.Perm.of_eq (congrArg (List.filterMap f) before)).trans (moved v)
  · exact (List.Perm.of_eq (congrArg (List.filterMap f) after)).trans (moved u)

end Slots

namespace Session

def openedHandle? (i : Option Index) : Option Handle :=
  i.bind fun i => if i.owned then some i.raw else none

def unitHandle? (u : Option (TranslationUnit × Nat)) : Option Handle := u.map fun u => u.1.raw

def guardedBlock? (r : Option Results) : Option Nat := r.bind fun r => r.block.map ResultBlock.id

def openedHandles (x : Session) : List Handle := x.indexes.toList.filterMap openedHandle?
def unitHandles (x : Session) : List Handle := x.units.toList.filterMap unitHandle?
def guardedBlocks (x : Session) : List Nat := x.results.toList.filterMap guardedBlock?

end Session

/-- What the host holds, the sessions that were opened on the engine directly and not closed, and
the blocks that no guard was made of. -/
structure Holdings where
  session : Session := {}
  opened : List Handle := []
  loose : List ResultBlock := []

namespace Holdings

def estate (x : Holdings) : Estate :=
  { indexes := x.session.openedHandles ++ x.opened
    units := x.session.unitHandles
    blocks := x.session.guardedBlocks ++ x.loose.map ResultBlock.id
    texts := [] }

def putIndexes (x : Holdings) (a : Array (Option Index)) : Holdings :=
  { x with session := { x.session with indexes := a } }

def putUnits (x : Holdings) (a : Array (Option (TranslationUnit × Nat))) : Holdings :=
  { x with session := { x.session with units := a } }

def putResults (x : Holdings) (a : Array (Option Results)) : Holdings :=
  { x with session := { x.session with results := a } }

theorem push_index (x : Holdings) (i : Index) :
    (addIndex? i x.estate).Perm (x.putIndexes (x.session.indexes.push (some i))).estate := by
  have slots := filterMap_push Session.openedHandle? x.session.indexes (some i)
  have indexes := slots.symm.append_right x.opened
  cases owned : i.owned <;>
    simp only [Session.openedHandle?, Option.bind_some, owned] at indexes <;>
    simp only [addIndex?, owned] <;>
    exact ⟨indexes, .refl _, .refl _, .refl _⟩

theorem push_unit (x : Holdings) (u : TranslationUnit) (n : Nat) :
    (x.estate.addUnit u.raw).Perm (x.putUnits (x.session.units.push (some (u, n)))).estate :=
  ⟨.refl _, (filterMap_push Session.unitHandle? x.session.units (some (u, n))).symm, .refl _,
    .refl _⟩

theorem push_results (x : Holdings) (r : Results) :
    (addBlock? r.block x.estate).Perm (x.putResults (x.session.results.push (some r))).estate := by
  obtain ⟨block⟩ := r
  have slots := filterMap_push Session.guardedBlock? x.session.results (some ⟨block⟩)
  have blocks := slots.symm.append_right (x.loose.map ResultBlock.id)
  cases block <;> exact ⟨.refl _, .refl _, blocks, .refl _⟩

theorem drop_index (x : Holdings) {n : Nat} {i : Index}
    (held : x.session.indexes[n]? = some (some i)) :
    x.estate.Perm
      (addIndex? i (x.putIndexes (x.session.indexes.setIfInBounds n none)).estate) := by
  obtain ⟨rest, before, after⟩ := filterMap_set Session.openedHandle? held none
  have left := before.append_right x.opened
  have right := (after.append_right x.opened).symm
  cases owned : i.owned <;>
    simp only [Session.openedHandle?, Option.bind_some, owned] at left <;>
    simp only [addIndex?, owned]
  · exact ⟨left.trans right, .refl _, .refl _, .refl _⟩
  · exact ⟨left.trans (right.cons i.raw), .refl _, .refl _, .refl _⟩

theorem drop_unit (x : Holdings) {n : Nat} {u : TranslationUnit × Nat}
    (held : x.session.units[n]? = some (some u)) :
    x.estate.Perm
      (Estate.addUnit u.1.raw (x.putUnits (x.session.units.setIfInBounds n none)).estate) := by
  obtain ⟨rest, before, after⟩ := filterMap_set Session.unitHandle? held none
  exact ⟨.refl _, before.trans (after.symm.cons u.1.raw), .refl _, .refl _⟩

theorem release_results (x : Holdings) {n : Nat} {r : Results} {z : Option Results}
    (held : x.session.results[n]? = some (some r)) (empty : Session.guardedBlock? z = none) :
    x.estate.Perm
      (addBlock? r.block (x.putResults (x.session.results.setIfInBounds n z)).estate) := by
  obtain ⟨rest, before, after⟩ := filterMap_set Session.guardedBlock? held z
  obtain ⟨block⟩ := r
  rw [empty] at after
  have left := before.append_right (x.loose.map ResultBlock.id)
  have right := (after.append_right (x.loose.map ResultBlock.id)).symm
  cases block with
  | none => exact ⟨.refl _, .refl _, left.trans right, .refl _⟩
  | some b => exact ⟨.refl _, .refl _, left.trans (right.cons b.id), .refl _⟩

end Holdings

variable {υ : Type}

def SessionM.go {α : Type} (x : SessionM (World υ) α) (hs : Session) (w : World υ) :
    (Except StepFault α × Session) × World υ :=
  (x.run.run hs).run w

namespace SessionM

variable {α β : Type}

theorem go_get_bind (k : Session → SessionM (World υ) β) (hs : Session) (w : World υ) :
    go (get >>= k) hs w = go (k hs) hs w := rfl

theorem go_lift_bind (x : StateM (World υ) α) (k : α → SessionM (World υ) β) (hs : Session)
    (w : World υ) :
    go (liftM x >>= k) hs w = go (k (x w).1) hs (x w).2 := rfl

theorem go_host_bind (x : HostM (World υ) α) (k : α → SessionM (World υ) β) (hs : Session)
    (w : World υ) :
    go (Session.host x >>= k) hs w =
      match (x.run w).1 with
      | .ok a => go (k a) hs (x.run w).2
      | .error e => ((.error (.host e), hs), (x.run w).2) := by
  simp only [Session.host, bind_assoc, go_lift_bind]
  cases (x.run w).1 <;> rfl

theorem go_held_bind (things : Array (Option α)) (n : Nat) (k : α → SessionM (World υ) β)
    (hs : Session) (w : World υ) :
    go (Session.held things n >>= k) hs w =
      match things[n]? with
      | some (some a) => go (k a) hs w
      | _ => ((.error .nothingHeld, hs), w) := by
  rcases found : things[n]? with _ | _ | a <;> simp only [Session.held, found] <;> rfl

end SessionM

/-- The books follow what is held, unless a null handle was handed out. -/
def Accounted (x : Holdings) (w : World υ) (y : Holdings) (v : World υ) : Prop :=
  ∃ F, Move x.estate w.engine F v.engine ∧ (0 ∉ F.indexes → 0 ∉ F.units → F.Perm y.estate)

def Holdings.follow (x : Holdings) (hs : Session) : Holdings := { x with session := hs }

def Keeps {α : Type} (m : SessionM (World υ) α) (x : Holdings) (w : World υ) : Prop :=
  Accounted x w (x.follow (m.go x.session w).1.2) (m.go x.session w).2

namespace Keeps

open SessionM

variable {α β : Type} {x : Holdings} {w : World υ}

theorem of_move {m : SessionM (World υ) α} (same : (m.go x.session w).1.2 = x.session)
    (move : Move x.estate w.engine x.estate (m.go x.session w).2.engine) : Keeps m x w := by
  refine ⟨x.estate, move, fun _ _ => ?_⟩
  rw [same]
  exact .refl _

protected theorem pure (a : α) : Keeps (pure a) x w := of_move rfl (.keep rfl)

theorem get_bind {k : Session → SessionM (World υ) α} (rest : Keeps (k x.session) x w) :
    Keeps (get >>= k) x w := rest

theorem held_bind {things : Array (Option α)} {n : Nat} {k : α → SessionM (World υ) β}
    (rest : ∀ a, things[n]? = some (some a) → Keeps (k a) x w) :
    Keeps (Session.held things n >>= k) x w := by
  rcases found : things[n]? with _ | _ | a
  · refine of_move ?_ ?_ <;> rw [go_held_bind, found]
    exact .keep rfl
  · refine of_move ?_ ?_ <;> rw [go_held_bind, found]
    exact .keep rfl
  · have here := rest a found
    unfold Keeps at here ⊢
    rw [go_held_bind, found]
    exact here

theorem host_bind {a : HostM (World υ) α} {k : α → SessionM (World υ) β} (back : Returns a.run)
    (rest : ∀ b v, Keeps (k b) x v) : Keeps (Session.host a >>= k) x w := by
  have move := back x.estate w
  unfold Keeps
  rw [go_host_bind]
  cases (a.run w).1 with
  | error e => exact ⟨x.estate, move, fun _ _ => .refl _⟩
  | ok b =>
    obtain ⟨F, further, same⟩ := rest b (a.run w).2
    exact ⟨F, move.trans further, same⟩

theorem open_bind {a : HostM (World υ) α} {k : α → SessionM (World υ) β}
    {add : Handle → Estate → Estate} {hold : α → Estate → Estate} (opens : Opens a add hold)
    (null : ∀ E, 0 ∈ (add 0 E).indexes ∨ 0 ∈ (add 0 E).units)
    (put : ∀ b v, (go (k b) x.session v).2 = v ∧
      (hold b x.estate).Perm (x.follow (go (k b) x.session v).1.2).estate) :
    Keeps (Session.host a >>= k) x w := by
  obtain ⟨F, move, result⟩ := opens x.estate w
  unfold Keeps
  rw [go_host_bind]
  cases h : (a.run w).1 with
  | ok b =>
    rw [h] at result
    subst result
    obtain ⟨world, held⟩ := put b (a.run w).2
    refine ⟨_, ?_, fun _ _ => held⟩
    dsimp only
    rw [world]
    exact move
  | error e =>
    rw [h] at result
    -- a null handle that was handed out is in the books, and nobody holds it
    rcases result with rfl | rfl
    · exact ⟨_, move, fun _ _ => .refl _⟩
    · refine ⟨_, move, fun indexes units => ?_⟩
      rcases null x.estate with bad | bad
      · exact absurd bad indexes
      · exact absurd bad units

theorem release_bind {c : StateM (World υ) α} {k : α → SessionM (World υ) β} {p : Estate → Estate}
    {hs : Session} (back : Carries c p fun _ => id)
    (before : x.estate.Perm (p (x.follow hs).estate))
    (after : ∀ v, (go (k (c w).1) x.session v).1.2 = hs ∧ (go (k (c w).1) x.session v).2 = v) :
    Keeps (liftM c >>= k) x w := by
  obtain ⟨slots, world⟩ := after (c w).2
  unfold Keeps
  rw [go_lift_bind, slots, world]
  exact ⟨(x.follow hs).estate, .trans (.sort before) (back _ w), fun _ _ => .refl _⟩

end Keeps

namespace Session

variable (s : Script) (threshold : Option Level)

theorem observer_quiet (a : Watcher υ) :
    Quiet (observer (World.host s threshold) World.act a) := by
  cases a with
  | tracing => exact tracing_quiet threshold
  | own o => exact within_quiet o

theorem acquire_keeps (x : Holdings) (w : World υ) :
    Keeps (step (World.host s threshold) World.act .acquire) x w := by
  have move : Move x.estate w.engine
      (addBlock? (looseBlock (World.host s threshold).engine w).1 x.estate)
      (looseBlock (World.host s threshold).engine w).2.engine :=
    complete_moves s _ x.estate w.engine
  unfold Keeps
  simp only [step]
  rw [SessionM.go_lift_bind]
  generalize looseBlock (World.host s threshold).engine w = answer at move ⊢
  obtain ⟨_ | b, v⟩ := answer
  · exact ⟨x.estate, move, fun _ _ => .refl _⟩
  · exact ⟨_, move, fun _ _ => x.push_results ⟨some b⟩⟩

theorem step_keeps (a : Step υ) (x : Holdings) (w : World υ) :
    Keeps (step (World.host s threshold) World.act a) x w := by
  have null_index : ∀ E : Estate, 0 ∈ (E.addIndex 0).indexes ∨ 0 ∈ (E.addIndex 0).units :=
    fun E => .inl List.mem_cons_self
  have null_unit : ∀ E : Estate, 0 ∈ (E.addUnit 0).indexes ∨ 0 ∈ (E.addUnit 0).units :=
    fun E => .inr List.mem_cons_self
  cases a with
  | newIndex excludePch displayDiagnostics =>
    exact .open_bind (create_opens s threshold _ _) null_index fun i v => ⟨rfl, x.push_index i⟩
  | configIndex c =>
    exact .open_bind (create_opens s threshold _ _) null_index fun i v => ⟨rfl, x.push_index i⟩
  | wrapIndex raw => exact .open_bind (wrap_opens raw) null_index fun i v => ⟨rfl, x.push_index i⟩
  | dropIndex n =>
    refine .get_bind (.held_bind fun i held => .get_bind ?_)
    by_cases lent : lends x.session n = true
    · rw [if_pos lent]
      exact .of_move rfl (.keep rfl)
    · rw [if_neg lent]
      exact .release_bind (drop_carries s i) (x.drop_index held) fun v => ⟨rfl, rfl⟩
  | parseSource n file args =>
    refine .get_bind (.held_bind fun i _ => ?_)
    exact .open_bind (ofSource_opens s threshold i file args) null_unit
      fun u v => ⟨rfl, x.push_unit u n⟩
  | parse n file args unsaved flags =>
    refine .get_bind (.held_bind fun i _ => ?_)
    exact .open_bind (parse_opens s threshold i file args unsaved flags) null_unit
      fun u v => ⟨rfl, x.push_unit u n⟩
  | dropUnit n =>
    refine .get_bind (.held_bind fun u held => ?_)
    exact .release_bind (p := Estate.addUnit u.1.raw) (fun _ _ => .closeUnit) (x.drop_unit held)
      fun v => ⟨rfl, rfl⟩
  | cursor n =>
    refine .get_bind (.held_bind fun u _ => ?_)
    exact .host_bind (cursor_returns s u.1) fun c v => .pure _
  | sameCursor n m =>
    refine .get_bind (.held_bind fun a _ => .host_bind (cursor_returns s a.1) fun c v => ?_)
    refine .get_bind (.held_bind fun b _ => .host_bind (cursor_returns s b.1) fun d v => ?_)
    exact .pure _
  | complete n q =>
    refine .get_bind (.held_bind fun u _ => ?_)
    exact .host_bind (completeAt_returns s threshold u.1 q) fun cs v => .pure _
  | completeWith n file line column c watcher =>
    refine .get_bind (.held_bind fun u _ => ?_)
    exact .host_bind (run_returns s (observer_quiet s threshold watcher) u.1.raw _)
      fun cs v => .pure _
  | acquire => exact acquire_keeps s threshold x w
  | resultsLength n => exact .get_bind (.held_bind fun r _ => .pure _)
  | resultsRecords n =>
    exact .get_bind (.held_bind fun r _ => .host_bind (records_returns s r) fun view v => .pure _)
  | resultsAt n i =>
    exact .get_bind (.held_bind fun r _ => .host_bind (records_returns s r) fun view v => .pure _)
  | disposeResults n =>
    refine .get_bind (.held_bind fun r held => ?_)
    have empty : guardedBlock? (some ((r.dispose (World.scripted s) w).1.2)) = none := by
      obtain ⟨_ | b⟩ := r <;> rfl
    refine .release_bind (dispose_carries s r) (x.release_results held empty) fun v => ?_
    obtain ⟨_ | b⟩ := r <;> exact ⟨rfl, rfl⟩
  | dropResults n =>
    refine .get_bind (.held_bind fun r held => ?_)
    exact .release_bind (release_carries s r) (x.release_results held rfl) fun v => ⟨rfl, rfl⟩

end Session

/-- One operation of a run. What is no session step is a call past the host's own guards, within
the bounds that the engine sets: only sessions that were opened so are closed so. -/
inductive Operation (υ : Type) where
  | step (a : Session.Step υ)
  | openSession (excludePch displayDiagnostics : Int32)
  | closeSession (raw : Handle)
  | requestBlock (unit : Handle) (file : CString) (line column : UInt32) (unsavedNull : Bool)
      (unsavedCount options : UInt32)
  | guardBlock (n : Nat)

namespace Operation

variable (s : Script) (threshold : Option Level)

def perform : Operation υ → Holdings × World υ → Holdings × World υ
  | .step a, (x, w) =>
    let r := (Session.step (World.host s threshold) World.act a).go x.session w
    (x.follow r.1.2, r.2)
  | .openSession excludePch displayDiagnostics, (x, w) =>
    let r := World.scripted s (.createIndex excludePch displayDiagnostics) w
    (if r.1 = 0 then x else { x with opened := r.1 :: x.opened }, r.2)
  | .closeSession raw, (x, w) =>
    if raw ∈ x.opened then
      ({ x with opened := x.opened.erase raw }, (World.scripted s (.disposeIndex raw) w).2)
    else (x, w)
  | .requestBlock unit file line column unsavedNull unsavedCount options, (x, w) =>
    let r := World.scripted s
      (.completeAt unit file line column unsavedNull unsavedCount options) w
    match r.1 with
    | none => (x, r.2)
    | some b => ({ x with loose := b :: x.loose }, r.2)
  | .guardBlock n, (x, w) =>
    match x.loose[n]? with
    | none => (x, w)
    | some b =>
      let r := (Session.host (Results.acquire (some b)) >>= Session.addResults).go x.session w
      ({ x with session := r.1.2, loose := x.loose.eraseIdx n }, r.2)

def run (ops : List (Operation υ)) (c : Holdings × World υ) : Holdings × World υ :=
  ops.foldl (fun c a => a.perform s threshold c) c

theorem perform_wrapIndex (raw : Handle) (x : Holdings) (w : World υ) :
    (perform s threshold (.step (.wrapIndex raw)) (x, w)).2 = w ∧
      (perform s threshold (.step (.wrapIndex raw)) (x, w)).1.estate = x.estate := by
  simp only [perform, Session.step]
  rw [SessionM.go_host_bind]
  by_cases null : raw = 0
  · rw [Index.ofRaw, if_pos null]
    exact ⟨rfl, rfl⟩
  · rw [Index.ofRaw, if_neg null]
    have handles : (x.session.indexes.push (some ⟨raw, false⟩)).toList.filterMap
        Session.openedHandle? = x.session.openedHandles := by
      simp [Session.openedHandles, Session.openedHandle?]
    exact ⟨rfl, congrArg (fun hs => { x.estate with indexes := hs ++ x.opened }) handles⟩

theorem perform_dropIndex {n : Nat} {i : Index} {x : Holdings} (w : World υ)
    (held : x.session.indexes[n]? = some (some i)) (wrapped : i.owned = false) :
    (perform s threshold (.step (.dropIndex n)) (x, w)).2 = w := by
  simp only [perform, Session.step]
  rw [SessionM.go_get_bind, SessionM.go_held_bind, held]
  dsimp only
  rw [SessionM.go_get_bind]
  by_cases lent : Session.lends x.session n = true
  · rw [if_pos lent]
    rfl
  · rw [if_neg lent, SessionM.go_lift_bind, Index.drop, wrapped]
    rfl

theorem perform_accounted (a : Operation υ) (x : Holdings) (w : World υ) :
    Accounted x w (a.perform s threshold (x, w)).1 (a.perform s threshold (x, w)).2 := by
  cases a with
  | step a => exact Session.step_keeps s threshold a x w
  | openSession excludePch displayDiagnostics =>
    have opened : (World.scripted s (.createIndex excludePch displayDiagnostics) w).1 = 0 ∧
          Move x.estate w.engine x.estate
            (World.scripted s (.createIndex excludePch displayDiagnostics) w).2.engine ∨
        Move x.estate w.engine
          (x.estate.addIndex (World.scripted s (.createIndex excludePch displayDiagnostics) w).1)
          (World.scripted s (.createIndex excludePch displayDiagnostics) w).2.engine :=
      createIndex_moves s excludePch displayDiagnostics x.estate w.engine
    simp only [perform]
    by_cases null : (World.scripted s (.createIndex excludePch displayDiagnostics) w).1 = 0
    · rw [if_pos null]
      rcases opened with ⟨_, move⟩ | move
      · exact ⟨_, move, fun _ _ => .refl _⟩
      · refine ⟨_, move, fun indexes _ => absurd ?_ indexes⟩
        exact List.mem_cons.mpr (.inl null.symm)
    · rw [if_neg null]
      rcases opened with ⟨bad, _⟩ | move
      · exact absurd bad null
      · exact ⟨_, move, fun _ _ => ⟨List.perm_middle.symm, .refl _, .refl _, .refl _⟩⟩
  | closeSession raw =>
    simp only [perform]
    by_cases mine : raw ∈ x.opened
    · rw [if_pos mine]
      let y : Holdings := { x with opened := x.opened.erase raw }
      have before : x.estate.Perm (y.estate.addIndex raw) :=
        ⟨((List.perm_cons_erase mine).append_left _).trans List.perm_middle, .refl _, .refl _,
          .refl _⟩
      exact ⟨y.estate, .trans (.sort before) .closeIndex, fun _ _ => .refl _⟩
    · rw [if_neg mine]
      exact ⟨x.estate, .keep rfl, fun _ _ => .refl _⟩
  | requestBlock unit file line column unsavedNull unsavedCount options =>
    let call : Call := .completeAt unit file line column unsavedNull unsavedCount options
    have move : Move x.estate w.engine (addBlock? (World.scripted s call w).1 x.estate)
        (World.scripted s call w).2.engine := complete_moves s _ x.estate w.engine
    simp only [perform]
    generalize World.scripted s call w = answer at move ⊢
    obtain ⟨_ | b, v⟩ := answer
    · exact ⟨x.estate, move, fun _ _ => .refl _⟩
    · exact ⟨_, move, fun _ _ => ⟨.refl _, .refl _, List.perm_middle.symm, .refl _⟩⟩
  | guardBlock n =>
    simp only [perform]
    cases found : x.loose[n]? with
    | none => exact ⟨x.estate, .keep rfl, fun _ _ => .refl _⟩
    | some b =>
      -- the engine is not asked; the block only changes hands
      let y : Holdings := { x with loose := x.loose.eraseIdx n }
      obtain ⟨inside, here⟩ := List.getElem?_eq_some_iff.mp found
      have loose : x.loose.Perm (b :: x.loose.eraseIdx n) := by
        rw [← here]
        exact (List.getElem_cons_eraseIdx_perm inside).symm
      have before : x.estate.Perm (y.estate.addBlock b.id) :=
        ⟨.refl _, .refl _, ((loose.map ResultBlock.id).append_left _).trans List.perm_middle,
          .refl _⟩
      exact ⟨x.estate, .keep rfl, fun _ _ => before.trans (y.push_results ⟨some b⟩)⟩

end Operation

namespace Accounted

variable {x y : Holdings} {w v : World υ}

theorem issued_le (a : Accounted x w y v) : w.engine.issued ≤ v.engine.issued := by
  obtain ⟨F, move, _⟩ := a
  exact move.issued_le

theorem ledger (a : Accounted x w y v) (few : v.engine.issued < UInt64.size)
    (l : Ledger x.estate w.engine.books) : Ledger y.estate v.engine.books := by
  obtain ⟨F, move, same⟩ := a
  have held := move.ledger few l
  refine held.sort (same (fun null => ?_) fun null => ?_)
  · have live := held.indexes.mem_iff.mpr null
    exact absurd (held.handles_bounded 0 (List.mem_append_left _ live)).1 (by simp)
  · have live := held.units.mem_iff.mpr null
    exact absurd (held.handles_bounded 0 (List.mem_append_right _ live)).1 (by simp)

end Accounted

namespace Operation

variable (s : Script) (threshold : Option Level)

theorem run_issued_le (ops : List (Operation υ)) (c : Holdings × World υ) :
    c.2.engine.issued ≤ (run s threshold ops c).2.engine.issued := by
  induction ops generalizing c with
  | nil => exact Nat.le_refl _
  | cons a ops ih =>
    exact Nat.le_trans (perform_accounted s threshold a c.1 c.2).issued_le (ih _)

theorem run_ledger (ops : List (Operation υ)) (c : Holdings × World υ)
    (few : (run s threshold ops c).2.engine.issued < UInt64.size)
    (l : Ledger c.1.estate c.2.engine.books) :
    Ledger (run s threshold ops c).1.estate (run s threshold ops c).2.engine.books := by
  induction ops generalizing c with
  | nil => exact l
  | cons a ops ih =>
    have rest := run_issued_le s threshold ops (a.perform s threshold c)
    have here := perform_accounted s threshold a c.1 c.2
    exact ih _ few (here.ledger (Nat.lt_of_le_of_lt rest few) l)

end Operation

structure Accounts (x : Holdings) (st : ScriptState) : Prop where
  indexes : st.liveIndexes.Perm (x.session.openedHandles ++ x.opened)
  units : st.liveUnits.Perm x.session.unitHandles
  blocks : st.liveBlocks.Perm (x.session.guardedBlocks ++ x.loose.map ResultBlock.id)
  texts : st.liveStrings = []
  invalid : st.stats.invalidDisposals = 0
  handles_distinct : (st.liveIndexes ++ st.liveUnits).Nodup
  blocks_distinct : st.liveBlocks.Nodup

theorem Ledger.accounts {x : Holdings} {st : ScriptState} (l : Ledger x.estate st.books) :
    Accounts x st :=
  { indexes := l.indexes
    units := l.units
    blocks := l.blocks
    texts := List.map_eq_nil_iff.mp l.texts.eq_nil
    invalid := l.invalid
    handles_distinct := l.handles_distinct
    blocks_distinct := l.blocks_distinct }

theorem ledger_start : Ledger ({} : Holdings).estate ({} : ScriptState).books := by
  refine ⟨.refl _, .refl _, .refl _, .refl _, rfl, rfl, ?_, .nil, ?_, .nil⟩
  · intro h hh
    contradiction
  · intro id hid
    contradiction

namespace Operation

variable (s : Script) (threshold : Option Level)

/-- Between any two operations of a run, whoever observes, the sessions, units and blocks that are
live are the ones that are held, no text is live and no disposal was invalid, as long as the counter
of handles has not overflowed; an engine that checks its arithmetic stops there. A wrapped session
is nobody's: neither wrapping one nor dropping the wrapper has any effect on the engine. -/
theorem run_accounts (ops : List (Operation υ)) (x : υ)
    (few : (run s threshold ops ({}, { observed := x })).2.engine.issued < UInt64.size) :
    let c := run s threshold ops ({}, { observed := x })
    Accounts c.1 c.2.engine ∧
    (∀ raw, let d := perform s threshold (.step (.wrapIndex raw)) c
      d.2 = c.2 ∧ d.1.estate = c.1.estate) ∧
    (∀ n i, c.1.session.indexes[n]? = some (some i) → i.owned = false →
      (perform s threshold (.step (.dropIndex n)) c).2 = c.2) := by
  refine ⟨(run_ledger s threshold ops _ few ledger_start).accounts, ?_, ?_⟩
  · intro raw
    exact perform_wrapIndex s threshold raw _ _
  · intro n i held wrapped
    exact perform_dropIndex s threshold _ held wrapped

/-- Owned, wrapped and direct sessions side by side, a unit, blocks with and without a guard, and an
observer that keeps what it is told. -/
def mixedRun : List (Operation (Array Observer.Notice)) :=
  [.step (.newIndex false false), .openSession 0 0, .step (.wrapIndex 2), .step (.dropIndex 9),
    .step (.parseSource 1 [0x61] []), .step .acquire, .requestBlock 3 (some [0x61]) 1 1 true 0 0,
    .step (.complete 0 ⟨[0x61], 1, 1, false⟩),
    .step (.completeWith 0 [0x61] 1 1 { raw := true } (.own .keeping)), .step (.dropIndex 0),
    .closeSession 2, .step (.disposeResults 0), .guardBlock 0]

theorem run_accounts_mixedRun :
    (run {} none mixedRun ({}, { observed := #[] })).2.engine.issued = 3 ∧
    Accounts (run {} none mixedRun ({}, { observed := #[] })).1
      (run {} none mixedRun ({}, { observed := #[] })).2.engine := by
  have issued : (run {} none mixedRun ({}, { observed := #[] })).2.engine.issued = 3 := by
    decide +kernel
  exact ⟨issued, (run_accounts {} none mixedRun #[] (by rw [issued]; decide)).1⟩

end Operation

end ClangHost
