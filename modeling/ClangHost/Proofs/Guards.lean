import ClangHost.Proofs.Alike
import ClangHost.Proofs.Ownership

/-!
Guards side by side over one engine, with completions in between. Each guard goes through the same
states, apart from all others: it holds its block, is empty after its block was given back, and may
be dropped. `run_guards` says what each operation gives and calls in each state, after any
operations at all, and that every block is held by its guard or was given back once.
-/
namespace ClangHost

variable {σ : Type}

inductive GuardOp where
  | length
  | isEmpty
  | records
  | dispose
  | drop
  deriving DecidableEq, Repr

def GuardOp.releases : GuardOp → Bool
  | .dispose | .drop => true
  | _ => false

/-- A block that is to be held by a new guard, an operation on the guard with a number, or a
completion on the same engine. -/
inductive GuardStep (σ : Type) where
  | acquire (block : Option ResultBlock)
  | use (n : Nat) (op : GuardOp)
  | complete (o : Observer σ) (unit : Handle) (q : CompletionRequest)

inductive GuardReply where
  | acquired (r : Except Error Unit)
  | size (length : UInt32)
  | flag (b : Bool)
  | view (r : Except Error RecordView)
  | done (r : Except Error Unit)
  | dropped
  | candidates (r : Except Error (List Candidate))
  | absent

def Results.use (e : Engine σ) (r : Results) : GuardOp → StateM σ (GuardReply × Option Results)
  | .length => return (.size r.length, some r)
  | .isEmpty => return (.flag r.isEmpty, some r)
  | .records => do return (.view (← (r.records e).run), some r)
  | .dispose => do
    let (outcome, r) ← r.dispose e
    return (.done outcome, some r)
  | .drop => do
    r.drop e
    return (.dropped, none)

structure Guards (σ : Type) where
  slots : Array (Option Results) := #[]
  world : σ
  log : List Exchange := []

namespace Guards

structure Turn (σ : Type) where
  reply : GuardReply
  made : List Exchange
  next : Guards σ

def turn (e : Engine σ) (g : Guards σ) : GuardStep σ → Turn σ
  | .acquire block =>
    match Results.acquire block with
    | .ok r => ⟨.acquired (.ok ()), [], { g with slots := g.slots.push (some r) }⟩
    | .error e => ⟨.acquired (.error e), [], g⟩
  | .use n op =>
    match g.slots[n]? with
    | some (some r) =>
      let ((reply, left), world, h) := r.use e.watched op (g.world, [])
      ⟨reply, h.exchanges,
        { slots := g.slots.setIfInBounds n left, world, log := g.log ++ h.exchanges }⟩
    | _ => ⟨.absent, [], g⟩
  | .complete o unit q =>
    let (r, world, h) := (Completion.run e.watched o.watched unit q).run (g.world, [])
    ⟨.candidates r, h.exchanges, { g with world, log := g.log ++ h.exchanges }⟩

def run (e : Engine σ) (g : Guards σ) (steps : List (GuardStep σ)) : Guards σ :=
  steps.foldl (fun g a => (g.turn e a).next) g

def blocks (steps : List (GuardStep σ)) : List ResultBlock :=
  steps.filterMap fun
    | .acquire block => block
    | _ => none

/-- The block of guard `n` is to be given back, or the guard to be dropped. -/
def Released (n : Nat) (steps : List (GuardStep σ)) : Prop :=
  ∃ op, .use n op ∈ steps ∧ op.releases = true

/-- What an operation gives while the guard holds its block, where `l` is the layout of records. -/
def heldReply (b : ResultBlock) (l : RecordLayout) : GuardOp → GuardReply
  | .length => .size b.count
  | .isEmpty => .flag (b.count == 0)
  | .records => .view (RecordView.make b.base l b.count.toUInt64 b.record)
  | .dispose => .done (.ok ())
  | .drop => .dropped

def heldCalls (b : ResultBlock) (l : RecordLayout) : GuardOp → List Exchange
  | .length | .isEmpty => []
  | .records => [⟨.recordLayout, l⟩]
  | .dispose | .drop => [⟨.disposeBlock b.id, ()⟩]

def spentReply : GuardOp → GuardReply
  | .length => .size 0
  | .isEmpty => .flag true
  | .records => .view (.error .resultDisposal)
  | .dispose => .done (.error .resultDisposal)
  | .drop => .dropped

def leftOf (b : ResultBlock) : GuardOp → Option Results
  | .length | .isEmpty | .records => some ⟨some b⟩
  | .dispose => some ⟨none⟩
  | .drop => none

def leftOfSpent : GuardOp → Option Results
  | .drop => none
  | _ => some ⟨none⟩

theorem use_held (e : Engine σ) (b : ResultBlock) (op : GuardOp) (s : σ) :
    ∃ (l : RecordLayout) (t : σ), (∃ u, l = (e .recordLayout u).1) ∧
      (Results.mk (some b)).use e.watched op (s, []) =
        ((heldReply b l op, leftOf b op), t, (heldCalls b l op).map .asked) := by
  refine ⟨(e .recordLayout s).1, ?_⟩
  cases op with
  | length => exact ⟨s, ⟨s, rfl⟩, rfl⟩
  | isEmpty => exact ⟨s, ⟨s, rfl⟩, rfl⟩
  | records => exact ⟨_, ⟨s, rfl⟩, rfl⟩
  | dispose => exact ⟨_, ⟨s, rfl⟩, rfl⟩
  | drop => exact ⟨_, ⟨s, rfl⟩, rfl⟩

theorem use_spent (e : Engine σ) (op : GuardOp) (s : σ) :
    (Results.mk none).use e.watched op (s, []) = ((spentReply op, leftOfSpent op), s, []) := by
  cases op <;> rfl

section Turns

variable {e : Engine σ} {g : Guards σ} {n : Nat} {b : ResultBlock}

theorem turn_held (held : g.slots[n]? = some (some ⟨some b⟩)) (op : GuardOp) :
    ∃ l, (∃ u, l = (e .recordLayout u).1) ∧
      (g.turn e (.use n op)).reply = heldReply b l op ∧
      (g.turn e (.use n op)).made = heldCalls b l op ∧
      (g.turn e (.use n op)).next.slots = g.slots.setIfInBounds n (leftOf b op) := by
  obtain ⟨l, t, layout, used⟩ := use_held e b op g.world
  refine ⟨l, layout, ?_⟩
  simp [turn, held, used]

theorem turn_spent (spent : g.slots[n]? = some (some ⟨none⟩)) (op : GuardOp) :
    (g.turn e (.use n op)).reply = spentReply op ∧ (g.turn e (.use n op)).made = [] ∧
      (g.turn e (.use n op)).next.slots = g.slots.setIfInBounds n (leftOfSpent op) := by
  simp [turn, spent, use_spent e op g.world]

theorem turn_gone (gone : g.slots[n]? = some none) (op : GuardOp) :
    g.turn e (.use n op) = ⟨.absent, [], g⟩ := by
  simp [turn, gone]

theorem turn_missing (missing : g.slots[n]? = none) (op : GuardOp) :
    g.turn e (.use n op) = ⟨.absent, [], g⟩ := by
  simp [turn, missing]

theorem turn_other (inside : n < g.slots.size) {a : GuardStep σ} (other : ∀ op, a ≠ .use n op) :
    (g.turn e a).next.slots[n]? = g.slots[n]? := by
  cases a with
  | acquire block =>
    cases block with
    | none => rfl
    | some b =>
      change (g.slots.push (some ⟨some b⟩))[n]? = _
      rw [Array.getElem?_push, if_neg (by omega)]
  | complete o unit q => rfl
  | use m op =>
    have apart : m ≠ n := by
      rintro rfl
      exact other op rfl
    rcases slot : g.slots[m]? with _ | _ | ⟨_ | c⟩
    · rw [turn_missing slot]
    · rw [turn_gone slot]
    · rw [(turn_spent slot op).2.2, Array.getElem?_setIfInBounds_ne apart]
    · obtain ⟨_, _, _, _, slots⟩ := turn_held (e := e) slot op
      rw [slots, Array.getElem?_setIfInBounds_ne apart]

theorem log_turn (a : GuardStep σ) : (g.turn e a).next.log = g.log ++ (g.turn e a).made := by
  cases a with
  | acquire block => cases block <;> exact (List.append_nil _).symm
  | complete o unit q => rfl
  | use n op =>
    rcases slot : g.slots[n]? with _ | _ | r
    · rw [turn_missing slot]
      exact (List.append_nil _).symm
    · rw [turn_gone slot]
      exact (List.append_nil _).symm
    · simp only [turn, slot]
      rfl

end Turns

section Runs

variable {e : Engine σ} {g : Guards σ} {n : Nat} {b : ResultBlock}

theorem run_cons (a : GuardStep σ) (steps : List (GuardStep σ)) :
    g.run e (a :: steps) = (g.turn e a).next.run e steps := rfl

theorem run_append (steps more : List (GuardStep σ)) :
    g.run e (steps ++ more) = (g.run e steps).run e more := List.foldl_append

theorem released_cons_iff {a : GuardStep σ} {steps : List (GuardStep σ)} :
    Released n (a :: steps) ↔
      (∃ op, a = .use n op ∧ op.releases = true) ∨ Released n steps := by
  simp only [Released, List.mem_cons, or_and_right, exists_or]
  simp only [eq_comm]

theorem inside_of_slot {r : Option Results} (slot : g.slots[n]? = some r) : n < g.slots.size :=
  (Array.getElem?_eq_some_iff.mp slot).1

theorem turn_stays_held (held : g.slots[n]? = some (some ⟨some b⟩)) {a : GuardStep σ}
    (keeps : ¬ ∃ op, a = .use n op ∧ op.releases = true) :
    (g.turn e a).next.slots[n]? = some (some ⟨some b⟩) := by
  by_cases here : ∃ op, a = .use n op
  · obtain ⟨op, rfl⟩ := here
    obtain ⟨_, _, _, _, slots⟩ := turn_held (e := e) held op
    rw [slots, Array.getElem?_setIfInBounds_self, if_pos (inside_of_slot held)]
    cases op with
    | length => rfl
    | isEmpty => rfl
    | records => rfl
    | dispose => exact absurd ⟨.dispose, rfl, rfl⟩ keeps
    | drop => exact absurd ⟨.drop, rfl, rfl⟩ keeps
  · rw [turn_other (inside_of_slot held) fun op is => here ⟨op, is⟩, held]

theorem turn_stays_spent (spent : g.slots[n]? = some (some ⟨none⟩)) {a : GuardStep σ}
    (keeps : a ≠ .use n .drop) : (g.turn e a).next.slots[n]? = some (some ⟨none⟩) := by
  by_cases here : ∃ op, a = .use n op
  · obtain ⟨op, rfl⟩ := here
    rw [(turn_spent spent op).2.2, Array.getElem?_setIfInBounds_self, if_pos (inside_of_slot spent)]
    cases op with
    | drop => exact absurd rfl keeps
    | _ => rfl
  · rw [turn_other (inside_of_slot spent) fun op is => here ⟨op, is⟩, spent]

theorem run_held (held : g.slots[n]? = some (some ⟨some b⟩)) {steps : List (GuardStep σ)}
    (keeps : ¬ Released n steps) : (g.run e steps).slots[n]? = some (some ⟨some b⟩) := by
  induction steps generalizing g with
  | nil => exact held
  | cons a steps ih =>
    rw [released_cons_iff, not_or] at keeps
    exact ih (turn_stays_held held keeps.1) keeps.2

theorem run_spent (spent : g.slots[n]? = some (some ⟨none⟩)) {steps : List (GuardStep σ)}
    (keeps : .use n .drop ∉ steps) : (g.run e steps).slots[n]? = some (some ⟨none⟩) := by
  induction steps generalizing g with
  | nil => exact spent
  | cons a steps ih =>
    rw [List.mem_cons, not_or] at keeps
    exact ih (turn_stays_spent spent (Ne.symm keeps.1)) keeps.2

theorem run_released (held : g.slots[n]? = some (some ⟨some b⟩)) {steps : List (GuardStep σ)}
    (released : Released n steps) (keeps : .use n .drop ∉ steps) :
    (g.run e steps).slots[n]? = some (some ⟨none⟩) := by
  induction steps generalizing g with
  | nil =>
    obtain ⟨op, h, -⟩ := released
    contradiction
  | cons a steps ih =>
    rw [List.mem_cons, not_or] at keeps
    by_cases here : ∃ op, a = .use n op ∧ op.releases = true
    · obtain ⟨op, rfl, releases⟩ := here
      obtain ⟨_, _, _, _, slots⟩ := turn_held (e := e) held op
      have spent : (g.turn e (.use n op)).next.slots[n]? = some (some ⟨none⟩) := by
        rw [slots, Array.getElem?_setIfInBounds_self, if_pos (inside_of_slot held)]
        cases op with
        | dispose => rfl
        | drop => exact absurd rfl keeps.1
        | _ => contradiction
      exact run_spent spent keeps.2
    · exact ih (turn_stays_held held here)
          ((released_cons_iff.mp released).resolve_left here) keeps.2

theorem log_run (steps : List (GuardStep σ)) : ∃ made, (g.run e steps).log = g.log ++ made := by
  induction steps generalizing g with
  | nil => exact ⟨[], (List.append_nil _).symm⟩
  | cons a steps ih =>
    obtain ⟨made, later⟩ := ih (g := (g.turn e a).next)
    exact ⟨(g.turn e a).made ++ made, by rw [run_cons, later, log_turn, List.append_assoc]⟩

theorem blockBack_of_released (held : g.slots[n]? = some (some ⟨some b⟩))
    {steps : List (GuardStep σ)} (released : Released n steps) :
    b.id ∈ (g.run e steps).log.filterMap Exchange.blockBack? := by
  induction steps generalizing g with
  | nil =>
    obtain ⟨op, h, -⟩ := released
    contradiction
  | cons a steps ih =>
    by_cases here : ∃ op, a = .use n op ∧ op.releases = true
    · obtain ⟨op, rfl, releases⟩ := here
      obtain ⟨l, _, _, made, _⟩ := turn_held (e := e) held op
      obtain ⟨more, log⟩ := log_run (e := e) (g := (g.turn e (.use n op)).next) steps
      have given : heldCalls b l op = [⟨.disposeBlock b.id, ()⟩] := by
        cases op <;> first | rfl | contradiction
      rw [run_cons, log, log_turn, made, given]
      simp [Exchange.blockBack?]
    · exact ih (turn_stays_held held here) ((released_cons_iff.mp released).resolve_left here)

end Runs

theorem blocks_cons (a : GuardStep σ) (steps : List (GuardStep σ)) :
    blocks (a :: steps) = blocks [a] ++ blocks steps :=
  List.filterMap_append (l := [a])

theorem size_turn (e : Engine σ) (g : Guards σ) (a : GuardStep σ) :
    (g.turn e a).next.slots.size = g.slots.size + (blocks [a]).length := by
  cases a with
  | acquire block =>
    cases block with
    | none => rfl
    | some b => exact Array.size_push _
  | complete o unit q => rfl
  | use n op =>
    rcases slot : g.slots[n]? with _ | _ | ⟨_ | b⟩
    · rw [turn_missing slot]; rfl
    · rw [turn_gone slot]; rfl
    · rw [(turn_spent slot op).2.2, Array.size_setIfInBounds]; rfl
    · obtain ⟨_, _, _, _, slots⟩ := turn_held (e := e) slot op
      rw [slots, Array.size_setIfInBounds]
      rfl

theorem size_run (e : Engine σ) (g : Guards σ) (steps : List (GuardStep σ)) :
    (g.run e steps).slots.size = g.slots.size + (blocks steps).length := by
  induction steps generalizing g with
  | nil => rfl
  | cons a steps ih =>
    rw [run_cons, ih, size_turn, blocks_cons a steps, List.length_append, Nat.add_assoc]

def held (g : Guards σ) : List Nat := g.slots.toList.filterMap Session.guardedBlock?

theorem mem_held {g : Guards σ} {n : Nat} {b : ResultBlock}
    (slot : g.slots[n]? = some (some ⟨some b⟩)) : b.id ∈ g.held :=
  List.mem_filterMap.mpr
    ⟨some ⟨some b⟩, Array.mem_toList_iff.mpr (Array.mem_of_getElem? slot), rfl⟩

def handedOut (g : Guards σ) : List Nat := g.log.filterMap Exchange.blockOut?

def givenBack (g : Guards σ) : List Nat := g.log.filterMap Exchange.blockBack?

theorem turn_conserves (e : Engine σ) (g : Guards σ) (a : GuardStep σ) :
    ((g.turn e a).made.filterMap Exchange.blockBack? ++ (g.turn e a).next.held).Perm
      ((blocks [a]).map ResultBlock.id ++ g.held ++
        (g.turn e a).made.filterMap Exchange.blockOut?) := by
  cases a with
  | acquire block =>
    cases block with
    | none => exact .of_eq (List.append_nil _).symm
    | some b =>
      refine (filterMap_push Session.guardedBlock? g.slots (some ⟨some b⟩)).trans (.of_eq ?_)
      exact (List.append_nil _).symm
  | complete o unit q =>
    obtain ⟨a, t, _, _, watched⟩ := Completion.run_unfolds e o unit q g.world
    -- a completion gives back within the turn what it got
    have made : (g.turn e (.complete o unit q)).made = a.exchanges unit q := by
      have unfolded := watched []
      change
        History.exchanges ((Completion.run e.watched o.watched unit q).run (g.world, [])).2.2 = _
      rw [unfolded]
      exact a.exchanges_history unit q
    rw [made, a.blocks_return]
    exact List.perm_append_comm
  | use n op =>
    rcases slot : g.slots[n]? with _ | _ | ⟨_ | b⟩
    · rw [turn_missing slot]
      exact .of_eq (List.append_nil _).symm
    · rw [turn_gone slot]
      exact .of_eq (List.append_nil _).symm
    · obtain ⟨_, made, slots⟩ := turn_spent (e := e) slot op
      obtain ⟨rest, before, after⟩ := filterMap_set Session.guardedBlock? slot (leftOfSpent op)
      have nothing : Session.guardedBlock? (leftOfSpent op) = none := by cases op <;> rfl
      -- an empty guard holds nothing, before and after
      rw [nothing] at after
      rw [made, held, slots]
      exact (after.trans before.symm).trans (.of_eq (List.append_nil _).symm)
    · obtain ⟨l, _, _, made, slots⟩ := turn_held (e := e) slot op
      obtain ⟨rest, before, after⟩ := filterMap_set Session.guardedBlock? slot (leftOf b op)
      rw [made, held, slots]
      -- the block stays, or goes into the exchanges of this turn
      have moved : (heldCalls b l op).filterMap Exchange.blockBack? ++
          (Session.guardedBlock? (leftOf b op)).toList = [b.id] ∧
          (heldCalls b l op).filterMap Exchange.blockOut? = [] := by
        cases op <;> exact ⟨rfl, rfl⟩
      rw [moved.2, List.append_nil]
      refine (after.append_left _).trans ?_
      rw [← List.append_assoc, moved.1]
      exact before.symm

theorem run_conserves (e : Engine σ) (g : Guards σ) (steps : List (GuardStep σ))
    (taken : List Nat) (start : (g.givenBack ++ g.held).Perm (taken ++ g.handedOut)) :
    ((g.run e steps).givenBack ++ (g.run e steps).held).Perm
      (taken ++ (blocks steps).map ResultBlock.id ++ (g.run e steps).handedOut) := by
  induction steps generalizing g taken with
  | nil => simpa [run, blocks] using start
  | cons a steps ih =>
    have more := turn_conserves e g a
    have next : ((g.turn e a).next.givenBack ++ (g.turn e a).next.held).Perm
        (taken ++ (blocks [a]).map ResultBlock.id ++ (g.turn e a).next.handedOut) := by
      simp only [givenBack, handedOut, log_turn, List.filterMap_append] at start ⊢
      rw [List.perm_iff_count] at start more ⊢
      intro id
      have before := start id
      have here := more id
      simp only [List.count_append] at before here ⊢
      omega
    rw [run_cons, blocks_cons, List.map_append, ← List.append_assoc]
    exact ih _ _ next

/-- Guards side by side. A guard that took the block `b`, whatever was done before and after on
other guards and by completions, answers from its block until it is asked to dispose of it, and
gives it back at that point or when it is dropped; then it answers as empty and makes no call. All
blocks are held or were given back once, and one that no other guard or completion got is given back
exactly once, if at all. Without a block there is no guard. -/
theorem run_guards (e : Engine σ) (s : σ) (before after : List (GuardStep σ)) (b : ResultBlock) :
    let n := (blocks before).length
    let steps := before ++ .acquire (some b) :: after
    let g := run e { world := s } steps
    (¬ Released n after → ∀ op, ∃ l, (∃ u, l = (e .recordLayout u).1) ∧
      (g.turn e (.use n op)).reply = heldReply b l op ∧
      (g.turn e (.use n op)).made = heldCalls b l op) ∧
    (Released n after → .use n .drop ∉ after → ∀ op,
      (g.turn e (.use n op)).reply = spentReply op ∧ (g.turn e (.use n op)).made = []) ∧
    (∀ l, (RecordView.make b.base l b.count.toUInt64 b.record).isOk ↔
      RecordView.check b.base l b.count.toUInt64 = .ok ()) ∧
    (g.givenBack ++ g.held).Perm ((blocks steps).map ResultBlock.id ++ g.handedOut) ∧
    (((blocks steps).map ResultBlock.id ++ g.handedOut).count b.id = 1 →
      (Released n after → g.givenBack.count b.id = 1) ∧
      (¬ Released n after → g.givenBack.count b.id = 0)) ∧
    (∀ a, (∀ op, a ≠ .use n op) → (g.turn e a).next.slots[n]? = g.slots[n]?) ∧
    g.turn e (.acquire none) = ⟨.acquired (.error (.invalidHandle .completionResults)), [], g⟩ := by
  intro n steps g
  let start : Guards σ := run e { world := s } before
  have size : start.slots.size = n := by
    rw [size_run]
    exact Nat.zero_add _
  have taken : (start.turn e (.acquire (some b))).next.slots[n]? = some (some ⟨some b⟩) := by
    rw [← size]
    exact Array.getElem?_push_size
  have split : g = (start.turn e (.acquire (some b))).next.run e after := run_append before _
  have all : (g.givenBack ++ g.held).Perm ((blocks steps).map ResultBlock.id ++ g.handedOut) :=
    run_conserves e { world := s } steps [] (.refl _)
  refine ⟨?_, ?_, ?_, all, ?_, ?_, rfl⟩
  · intro keeps op
    rw [split]
    obtain ⟨l, layout, reply, made, _⟩ := turn_held (e := e) (run_held taken keeps) op
    exact ⟨l, layout, reply, made⟩
  · intro released keeps op
    rw [split]
    obtain ⟨reply, made, _⟩ := turn_spent (e := e) (run_released taken released keeps) op
    exact ⟨reply, made⟩
  · intro l
    rw [RecordView.make]
    split <;> simp_all [Except.isOk, Except.toBool]
  · intro own
    -- of its one copy, the block is either held or given back
    have counted := all.count_eq b.id
    rw [own, List.count_append] at counted
    constructor
    · intro released
      have given : b.id ∈ g.givenBack := split ▸ blockBack_of_released taken released
      have := List.count_pos_iff.mpr given
      omega
    · intro keeps
      have here : b.id ∈ g.held := split ▸ mem_held (run_held taken keeps)
      have := List.count_pos_iff.mpr here
      omega
  · intro a other
    refine turn_other ?_ other
    rw [size_run]
    simp [steps, blocks, n]

def plainScript : Script := { candidates := #[{ availability := 0, priority := 1 }] }

/-- A second guard is dropped after the first one was disposed of twice, with a completion in
between. -/
def crossedUses : List (GuardStep ScriptState) :=
  [.use 0 .dispose, .complete .silent 1 ⟨[0x61], 1, 1, false⟩, .use 1 .records, .use 0 .dispose,
    .use 1 .drop]

theorem run_guards_crossedUses :
    let g := run plainScript.engine { world := {} }
      ([.acquire (some (plainScript.block 7)), .acquire none] ++
        .acquire (some (plainScript.block 8)) :: crossedUses)
    g.givenBack.count 8 = 1 ∧ g.givenBack = [7, 0, 8] ∧ g.held = [] := by
  obtain ⟨-, -, -, -, once, -⟩ := run_guards plainScript.engine {}
    [.acquire (some (plainScript.block 7)), .acquire none] crossedUses (plainScript.block 8)
  exact ⟨(once (by decide +kernel)).1 ⟨.drop, by simp [crossedUses, blocks], rfl⟩,
    by decide +kernel,
    by decide +kernel⟩

end Guards
end ClangHost
