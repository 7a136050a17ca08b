import ClangHost.Proofs.Ownership
import ClangHost.Proofs.Persistence
import Mathlib.Data.List.Nodup

/-!
Cursors over whole runs of host operations. Every parse takes a handle that is larger than all
before it, so a handle tells its unit from every other one, also from those that were dropped
(`run_named`). A cursor carries the handle of its unit: two cursors are one exactly when they were
asked of one unit, at whatever moments (`run_cursors`).
-/
namespace ClangHost

def CursorHandle.root (unit : Handle) : CursorHandle :=
  { kind := translationUnitKind, xdata := 0, data := (0, 0, unit) }

theorem CursorHandle.root_inj {g h : Handle} : root g = root h ↔ g = h := by
  simp [root]

theorem CursorHandle.isNull_root {h : Handle} (present : h ≠ 0) : (root h).isNull = false := by
  simp [isNull, root, present]

theorem Script.cursor_eq_root {s : Script} (present : s.nullCursor = false) (unit : Handle) :
    s.cursor unit = .root unit := by
  simp only [cursor, present, Bool.false_eq_true, if_false]
  rfl

def ScriptState.queried (st : ScriptState) : ScriptState :=
  { st with stats := { st.stats with cursorQueries := st.stats.cursorQueries + 1 } }

variable {υ : Type}

namespace TranslationUnit

variable (s : Script)

theorem cursor_run (u : TranslationUnit) (w : World υ) :
    (u.cursor (World.scripted s)).run w =
      (if (s.cursor u.raw).isNull then .error (.invalidHandle .cursor) else .ok (s.cursor u.raw),
        (World.scripted s (.unitCursor u.raw) w).2) := by
  have asked : (u.cursor (World.scripted s)).run w =
      (if (s.cursor u.raw).isNull then throw (.invalidHandle .cursor) else pure (s.cursor u.raw) :
        HostM (World υ) CursorHandle).run (World.scripted s (.unitCursor u.raw) w).2 := rfl
  rw [asked]
  split <;> rfl

end TranslationUnit

/-- A unit that is parsed takes the next handle. -/
def Mints (x : HostM (World υ) TranslationUnit) : Prop :=
  ∀ w u, (x.run w).1 = .ok u →
    u.raw = w.engine.lastHandle + 1 ∧ (x.run w).2.engine.issued = w.engine.issued + 1

namespace Mints

variable {α : Type}

theorem after {x : HostM (World υ) α} {k : α → HostM (World υ) TranslationUnit}
    (quiet : ∀ st, Maintains (fun w => w.engine = st) x.run) (rest : ∀ v, Mints (k v)) :
    Mints (x >>= k) := by
  intro w u done
  have same : (x.run w).2.engine = w.engine := quiet w.engine w rfl
  change (ExceptT.bindCont k (x.run w).1 (x.run w).2).1 = .ok u at done
  change _ ∧ (ExceptT.bindCont k (x.run w).1 (x.run w).2).2.engine.issued = _
  cases result : (x.run w).1 with
  | error e =>
    rw [result] at done
    cases done
  | ok v =>
    rw [result] at done
    have minted := rest v (x.run w).2 u done
    rw [same] at minted
    exact minted

theorem of_parse (s : Script) (ask : StateM (World υ) Handle) (p : ParseRecord)
    (asked : ∀ w, (ask w).1 = (s.parse p w.engine).1 ∧ (ask w).2.engine = (s.parse p w.engine).2) :
    Mints (liftM ask >>= fun raw => liftM (TranslationUnit.ofRaw raw) : HostM (World υ) _) := by
  intro w u done
  obtain ⟨answer, engine⟩ := asked w
  change (TranslationUnit.ofRaw (ask w).1) = .ok u at done
  change _ ∧ (ask w).2.engine.issued = _
  rw [answer] at done
  rw [engine]
  cases fail : s.failParse with
  | true =>
    have refused : (s.parse p w.engine).1 = 0 := by
      simp only [Script.parse, fail, if_true]
      rfl
    rw [refused] at done
    cases done
  | false =>
    have parsed : s.parse p w.engine =
        ({ w.engine with lastParse := some p } : ScriptState).createUnit := by
      simp only [Script.parse, fail]
      rfl
    rw [parsed] at done ⊢
    constructor
    · unfold TranslationUnit.ofRaw at done
      split at done
      · cases done
      · cases done
        rfl
    · rfl

variable (s : Script) (threshold : Option Level)

theorem put_quiet (ev : Event) (st : ScriptState) :
    Maintains (fun w => w.engine = st)
      (liftM ((World.host s threshold).sink.put ev : StateM (World υ) Unit) :
        HostM (World υ) Unit).run :=
  fun _ same => same

theorem marshal_quiet (file : Bytes) (args : List String) (st : ScriptState) :
    Maintains (fun w => w.engine = st)
      (TranslationUnit.marshal (World.host s threshold) file args : HostM (World υ) _).run := by
  refine maintains_iff.mpr (TranslationUnit.marshal_relates (fun ev => ?_) file args)
  exact maintains_iff.mp fun _ same => same

theorem ofSource (i : Index) (file : Bytes) (args : List String) :
    Mints (TranslationUnit.ofSource (World.host s threshold) i file args : HostM (World υ) _) := by
  refine .after (marshal_quiet s threshold file args) fun input => ?_
  refine .after (put_quiet s threshold _) fun _ => ?_
  exact of_parse s _
    { source := input.source.text, args := argumentTexts input.args input.count
      options := none, unsavedCount := 0, unsavedNull := true }
    fun w => ⟨rfl, rfl⟩

theorem parse (i : Index) (file : Bytes) (args : List String) (unsaved : List UnsavedFile)
    (flags : ParseFlags) :
    Mints (TranslationUnit.parse (World.host s threshold) i file args unsaved flags :
      HostM (World υ) _) := by
  refine .after (marshal_quiet s threshold file args) fun input => ?_
  have asked := of_parse s
    ((World.host s threshold).engine
      (.parseUnit i.raw input.source input.args input.count true 0 flags.encode) :
      StateM (World υ) _)
    { source := input.source.text, args := argumentTexts input.args input.count
      options := some flags.encode, unsavedCount := 0, unsavedNull := true }
    fun w => ⟨rfl, rfl⟩
  have told := fun ev => after (put_quiet s threshold ev) fun _ => asked
  dsimp only
  split
  · exact .after (put_quiet s threshold _) fun _ => told _
  · exact told _

end Mints

def KeepsUnits {α : Type} (m : SessionM (World υ) α) : Prop :=
  ∀ hs w, (m.go hs w).1.2.units = hs.units

namespace KeepsUnits

open SessionM

variable {α β : Type}

protected theorem pure (a : α) : KeepsUnits (pure a : SessionM (World υ) α) := fun _ _ => rfl

theorem get_bind {k : Session → SessionM (World υ) β} (rest : ∀ hs, KeepsUnits (k hs)) :
    KeepsUnits (get >>= k) := fun hs w => rest hs hs w

theorem host_bind {x : HostM (World υ) α} {k : α → SessionM (World υ) β}
    (rest : ∀ a, KeepsUnits (k a)) :
    KeepsUnits (Session.host x >>= k) := by
  intro hs w
  rw [go_host_bind]
  cases (x.run w).1 with
  | ok a => exact rest a hs _
  | error e => rfl

theorem held_bind {things : Array (Option α)} {n : Nat} {k : α → SessionM (World υ) β}
    (rest : ∀ a, KeepsUnits (k a)) : KeepsUnits (Session.held things n >>= k) := by
  intro hs w
  rw [go_held_bind]
  split
  · exact rest _ hs w
  · rfl

theorem lift_bind {x : StateM (World υ) α} {k : α → SessionM (World υ) β}
    (rest : ∀ a, KeepsUnits (k a)) :
    KeepsUnits (liftM x >>= k) := fun hs w => rest (x w).1 hs (x w).2

end KeepsUnits

inductive UnitsMove (x : Session) (w : World υ) (y : Session) (v : World υ) : Prop where
  | keep (same : y.units = x.units)
  | empty (n : Nat) (gone : y.units = x.units.setIfInBounds n none)
  | push (u : TranslationUnit) (n : Nat) (added : y.units = x.units.push (some (u, n)))
      (next : u.raw = w.engine.lastHandle + 1) (issued : v.engine.issued = w.engine.issued + 1)

namespace Session

open SessionM

variable (s : Script) (threshold : Option Level)

theorem step_parses {x : HostM (World υ) TranslationUnit} (mints : Mints x) (n : Nat) (hs : Session)
    (w : World υ) :
    UnitsMove hs w ((host x >>= addUnit n).go hs w).1.2 ((host x >>= addUnit n).go hs w).2 := by
  rw [go_host_bind]
  cases parsed : (x.run w).1 with
  | error e => exact .keep rfl
  | ok u =>
    obtain ⟨next, issued⟩ := mints w u parsed
    exact .push u n rfl next issued

theorem step_units (a : Step υ) (hs : Session) (w : World υ) :
    UnitsMove hs w ((step (World.host s threshold) World.act a).go hs w).1.2
      ((step (World.host s threshold) World.act a).go hs w).2 := by
  have of_keeps : ∀ {m : SessionM (World υ) Reply}, KeepsUnits m →
      UnitsMove hs w (m.go hs w).1.2 (m.go hs w).2 := fun kept => .keep (kept hs w)
  have of_held : ∀ {α : Type} (things : Array (Option α)) (n : Nat)
      {k : α → SessionM (World υ) Reply},
      (∀ a, UnitsMove hs w ((k a).go hs w).1.2 ((k a).go hs w).2) →
      UnitsMove hs w ((held things n >>= k).go hs w).1.2 ((held things n >>= k).go hs w).2 := by
    intro α things n k rest
    rw [go_held_bind]
    split
    · exact rest _
    · exact .keep rfl
  cases a with
  | newIndex excludePch displayDiagnostics => exact of_keeps (.host_bind fun i _ _ => rfl)
  | configIndex c => exact of_keeps (.host_bind fun i _ _ => rfl)
  | wrapIndex raw => exact of_keeps (.host_bind fun i _ _ => rfl)
  | dropIndex n =>
    refine of_keeps (.get_bind fun x => .held_bind fun i => .get_bind fun y => ?_)
    split
    · exact fun _ _ => rfl
    · exact .lift_bind fun _ _ _ => rfl
  | parseSource n file args =>
    exact of_held _ n fun i => step_parses (.ofSource s threshold i file args) n hs w
  | parse n file args unsaved flags =>
    exact of_held _ n fun i => step_parses (.parse s threshold i file args unsaved flags) n hs w
  | dropUnit n => exact of_held _ n fun u => .empty n rfl
  | cursor n => exact of_keeps (.get_bind fun x => .held_bind fun u => .host_bind fun c => .pure _)
  | sameCursor n m =>
    refine of_keeps (.get_bind fun x => .held_bind fun a => .host_bind fun c => ?_)
    exact .get_bind fun y => .held_bind fun b => .host_bind fun d => .pure _
  | complete n q =>
    exact of_keeps (.get_bind fun x => .held_bind fun u => .host_bind fun cs => .pure _)
  | completeWith n file line column c watcher =>
    exact of_keeps (.get_bind fun x => .held_bind fun u => .host_bind fun cs => .pure _)
  | acquire => exact of_keeps (.lift_bind fun b => .host_bind fun r _ _ => rfl)
  | resultsLength n => exact of_keeps (.get_bind fun x => .held_bind fun r => .pure _)
  | resultsRecords n =>
    exact of_keeps (.get_bind fun x => .held_bind fun r => .host_bind fun view => .pure _)
  | resultsAt n i =>
    exact of_keeps (.get_bind fun x => .held_bind fun r => .host_bind fun view => .pure _)
  | disposeResults n =>
    refine of_keeps (.get_bind fun x => .held_bind fun r => .lift_bind fun answer => ?_)
    obtain ⟨_ | e, r⟩ := answer <;> exact fun _ _ => rfl
  | dropResults n =>
    exact of_keeps (.get_bind fun x => .held_bind fun r => .lift_bind fun _ _ _ => rfl)

end Session

theorem Operation.perform_units (s : Script) (threshold : Option Level) (a : Operation υ)
    (x : Holdings) (w : World υ) :
    UnitsMove x.session w (a.perform s threshold (x, w)).1.session
      (a.perform s threshold (x, w)).2 := by
  cases a with
  | step a => exact Session.step_units s threshold a x.session w
  | openSession excludePch displayDiagnostics =>
    refine .keep ?_
    simp only [perform]
    split <;> rfl
  | closeSession raw =>
    refine .keep ?_
    simp only [perform]
    split <;> rfl
  | requestBlock unit file line column unsavedNull unsavedCount options =>
    refine .keep ?_
    simp only [perform]
    split <;> rfl
  | guardBlock n =>
    refine .keep ?_
    simp only [perform]
    split <;> rfl

/-- The handles of all units that were ever parsed, in the order of their numbers. A unit that is
still held has the handle that stands under its number. -/
structure Named (handles : List Handle) (x : Session) (st : ScriptState) : Prop where
  numbered : handles.length = x.units.size
  held : ∀ (n : Nat) (u : TranslationUnit) (i : Nat), x.units[n]? = some (some (u, i)) →
    handles[n]? = some u.raw
  increasing : handles.Pairwise fun g h => g.toNat < h.toNat
  bounded : ∀ h ∈ handles, 0 < h.toNat ∧ h.toNat ≤ st.lastHandle.toNat

namespace Named

variable {handles : List Handle} {x y : Session} {w v : World υ}

theorem start : Named [] {} {} := by
  refine ⟨rfl, fun n u i held => ?_, .nil, fun h hh => ?_⟩
  · simp at held
  · contradiction

theorem ne_zero {st : ScriptState} (named : Named handles x st) {n : Nat} {h : Handle}
    (here : handles[n]? = some h) : h ≠ 0 := by
  rintro rfl
  exact absurd (named.bounded 0 (List.mem_of_getElem? here)).1 (by simp)

theorem eq_iff {st : ScriptState} (named : Named handles x st) {n m : Nat} {g h : Handle}
    (left : handles[n]? = some g) (right : handles[m]? = some h) : g = h ↔ n = m := by
  obtain ⟨hn, rfl⟩ := List.getElem?_eq_some_iff.mp left
  obtain ⟨hm, rfl⟩ := List.getElem?_eq_some_iff.mp right
  have distinct : handles.Nodup := by
    refine named.increasing.imp fun {g h} less same => ?_
    rw [same] at less
    exact Nat.lt_irrefl _ less
  exact List.Nodup.getElem_inj_iff distinct

/-- Handles stay, and a new unit takes one that is larger than all. -/
theorem move (named : Named handles x w.engine) (moved : UnitsMove x w y v)
    (few : v.engine.issued < UInt64.size) (le : w.engine.issued ≤ v.engine.issued)
    (before : w.engine.lastHandle.toNat = w.engine.issued)
    (after : v.engine.lastHandle.toNat = v.engine.issued) :
    ∃ more, Named (handles ++ more) y v.engine := by
  have grown : w.engine.lastHandle.toNat ≤ v.engine.lastHandle.toNat := by
    rw [before, after]
    exact le
  have bounded : ∀ h ∈ handles, 0 < h.toNat ∧ h.toNat ≤ v.engine.lastHandle.toNat :=
    fun h hh => ⟨(named.bounded h hh).1, Nat.le_trans (named.bounded h hh).2 grown⟩
  cases moved with
  | keep same =>
    refine ⟨[], ?_⟩
    rw [List.append_nil]
    exact ⟨by rw [same, named.numbered], by rw [same]; exact named.held, named.increasing, bounded⟩
  | empty n gone =>
    refine ⟨[], ?_⟩
    rw [List.append_nil]
    refine ⟨by rw [gone, Array.size_setIfInBounds, named.numbered], fun m u i held => ?_,
      named.increasing, bounded⟩
    rw [gone, Array.getElem?_setIfInBounds] at held
    split at held
    · split at held <;> cases held
    · exact named.held m u i held
  | push u i added next issued =>
    have raw : u.raw.toNat = v.engine.lastHandle.toNat := by
      rw [next, toNat_next_handle before (issued ▸ few), before, after, issued]
    refine ⟨[u.raw], ?_, fun m t j held => ?_, ?_, fun h hh => ?_⟩
    · rw [added, Array.size_push, List.length_append, named.numbered]
      rfl
    · rw [added, Array.getElem?_push] at held
      split at held
      · rename_i last
        cases held
        rw [last, ← named.numbered]
        exact List.getElem?_concat_length
      · have old := named.held m t j held
        rw [List.getElem?_append_left (List.getElem?_eq_some_iff.mp old).1]
        exact old
    · refine List.pairwise_append.mpr ⟨named.increasing, List.pairwise_singleton _ _, ?_⟩
      intro g hg h hh
      rw [List.mem_singleton.mp hh, raw, after, issued, ← before]
      exact Nat.lt_succ_of_le (named.bounded g hg).2
    · rcases List.mem_append.mp hh with old | new
      · exact bounded h old
      · rw [List.mem_singleton.mp new, raw, after, issued]
        exact ⟨Nat.succ_pos _, Nat.le_refl _⟩

end Named

structure CursorQuery where
  unit : Nat
  reply : Except StepFault Session.Reply

namespace Session

open SessionM

theorem go_cursor_bind {s : Script} (present : s.nullCursor = false) {u : TranslationUnit}
    (handle : u.raw ≠ 0) (k : CursorHandle → SessionM (World υ) Reply) (hs : Session)
    (w : World υ) :
    go (host (u.cursor (World.scripted s)) >>= k) hs w =
      go (k (.root u.raw)) hs (World.scripted s (.unitCursor u.raw) w).2 := by
  rw [go_host_bind, u.cursor_run, s.cursor_eq_root present, CursorHandle.isNull_root handle]
  rfl

variable {s : Script} (threshold : Option Level) {hs : Session} {n m : Nat}
  {u v : TranslationUnit × Nat}

theorem reply_cursor (present : s.nullCursor = false) (held : hs.units[n]? = some (some u))
    (handle : u.1.raw ≠ 0) (w : World υ) :
    ((step (World.host s threshold) World.act (.cursor n)).go hs w).1.1 =
      .ok (.cursor (.root u.1.raw)) := by
  simp only [step]
  rw [go_get_bind, go_held_bind, held]
  exact congrArg (fun r => r.1.1) (go_cursor_bind present handle _ hs w)

theorem reply_sameCursor (present : s.nullCursor = false) (left : hs.units[n]? = some (some u))
    (right : hs.units[m]? = some (some v)) (left_handle : u.1.raw ≠ 0) (right_handle : v.1.raw ≠ 0)
    (w : World υ) :
    ((step (World.host s threshold) World.act (.sameCursor n m)).go hs w).1.1 =
      .ok (.verdict (CursorHandle.root u.1.raw == CursorHandle.root v.1.raw)) := by
  simp only [step]
  rw [go_get_bind, go_held_bind, left]
  refine (congrArg (fun r => r.1.1) (go_cursor_bind present left_handle _ hs w)).trans ?_
  rw [go_get_bind, go_held_bind, right]
  exact congrArg (fun r => r.1.1) (go_cursor_bind present right_handle _ hs
    (World.scripted s (.unitCursor u.1.raw) w).2)

end Session

namespace Operation

variable (s : Script) (threshold : Option Level)

def query? (a : Operation υ) (c : Holdings × World υ) : Option CursorQuery :=
  match a with
  | .step (.cursor n) =>
    if (c.1.session.units.getD n none).isSome then
      some ⟨n, ((Session.step (World.host s threshold) World.act (.cursor n)).go c.1.session
        c.2).1.1⟩
    else none
  | _ => none

def queries : List (Operation υ) → Holdings × World υ → List CursorQuery
  | [], _ => []
  | a :: ops, c => (a.query? s threshold c).toList ++ queries ops (a.perform s threshold c)

variable {s} {threshold}

theorem query?_reply (present : s.nullCursor = false) {a : Operation υ} {c : Holdings × World υ}
    {handles : List Handle} (named : Named handles c.1.session c.2.engine) {q : CursorQuery}
    (made : a.query? s threshold c = some q) :
    ∃ h, handles[q.unit]? = some h ∧ q.reply = .ok (.cursor (.root h)) := by
  unfold query? at made
  split at made
  case h_1 n =>
    split at made
    case isTrue some_unit =>
      cases made
      obtain ⟨⟨u, i⟩, here⟩ := Option.isSome_iff_exists.mp some_unit
      have held : c.1.session.units[n]? = some (some (u, i)) := by
        rw [Array.getD_eq_getD_getElem?] at here
        cases slot : c.1.session.units[n]? with
        | none => simp [slot] at here
        | some v => simpa [slot] using here
      have handle := named.held n u i held
      exact ⟨u.raw, handle, Session.reply_cursor threshold present held (named.ne_zero handle) c.2⟩
    case isFalse => cases made
  case h_2 => cases made

theorem run_named (present : s.nullCursor = false) (ops : List (Operation υ))
    {c : Holdings × World υ} {handles : List Handle} (named : Named handles c.1.session c.2.engine)
    (l : Ledger c.1.estate c.2.engine.books)
    (few : (run s threshold ops c).2.engine.issued < UInt64.size) :
    ∃ more, Named (handles ++ more) (run s threshold ops c).1.session
        (run s threshold ops c).2.engine ∧
      ∀ q ∈ queries s threshold ops c,
        ∃ h, (handles ++ more)[q.unit]? = some h ∧ q.reply = .ok (.cursor (.root h)) := by
  induction ops generalizing c handles with
  | nil =>
    refine ⟨[], ?_, fun q hq => absurd hq List.not_mem_nil⟩
    rw [List.append_nil]
    exact named
  | cons a ops ih =>
    have rest := run_issued_le s threshold ops (a.perform s threshold c)
    have few_here := Nat.lt_of_le_of_lt rest few
    have accounted := perform_accounted s threshold a c.1 c.2
    have next := accounted.ledger few_here l
    obtain ⟨fresh, named'⟩ := named.move (perform_units s threshold a c.1 c.2) few_here
      accounted.issued_le l.issued next.issued
    obtain ⟨later, named_end, replies⟩ := ih named' next few
    refine ⟨fresh ++ later, by rw [← List.append_assoc]; exact named_end, fun q hq => ?_⟩
    rcases List.mem_append.mp hq with made | made
    · obtain ⟨h, here, reply⟩ := query?_reply present named (Option.mem_toList.mp made)
      refine ⟨h, ?_, reply⟩
      rw [List.getElem?_append_left (List.getElem?_eq_some_iff.mp here).1]
      exact here
    · rw [← List.append_assoc]
      exact replies q made

variable (s) (threshold)

/-- A query counts itself and changes nothing else in the engine, also where it fails, which it does
exactly where the engine hides the root. Where the engine does not, every query of a run gives a
root, and two of them give one root exactly when they ask one unit; so does the comparison of two
units that are held. -/
theorem run_cursors (ops : List (Operation υ)) (x : υ) :
    (∀ (u : TranslationUnit) (w : World υ), let r := (u.cursor (World.scripted s)).run w
      r.2.engine = w.engine.queried ∧
      r.1 = if (s.cursor u.raw).isNull then .error (.invalidHandle .cursor)
        else .ok (s.cursor u.raw)) ∧
    (s.nullCursor = false →
      (run s threshold ops ({}, { observed := x })).2.engine.issued < UInt64.size →
      let c := run s threshold ops ({}, { observed := x })
      let asked := queries s threshold ops ({}, { observed := x })
      (∀ q ∈ asked, ∃ root : CursorHandle, q.reply = .ok (.cursor root) ∧
        root.kind = CursorHandle.translationUnitKind) ∧
      (∀ q ∈ asked, ∀ r ∈ asked, q.reply = r.reply ↔ q.unit = r.unit) ∧
      ∀ n m u v, c.1.session.units[n]? = some (some u) → c.1.session.units[m]? = some (some v) →
        ((Session.step (World.host s threshold) World.act (.sameCursor n m)).go c.1.session
          c.2).1.1 = .ok (.verdict (n == m))) := by
  constructor
  · intro u w
    rw [u.cursor_run]
    exact ⟨rfl, rfl⟩
  · intro present few c asked
    obtain ⟨handles, named, replies⟩ := run_named present ops .start ledger_start few
    refine ⟨fun q hq => ?_, fun q hq r hr => ?_, fun n m u v left right => ?_⟩
    · obtain ⟨h, _, reply⟩ := replies q hq
      exact ⟨.root h, reply, rfl⟩
    · obtain ⟨g, left, reply⟩ := replies q hq
      obtain ⟨h, right, reply'⟩ := replies r hr
      rw [reply, reply', ← named.eq_iff left right, ← CursorHandle.root_inj]
      simp
    · have left_handle := named.held n u.1 u.2 left
      have right_handle := named.held m v.1 v.2 right
      rw [Session.reply_sameCursor threshold present left right (named.ne_zero left_handle)
        (named.ne_zero right_handle)]
      have same : (CursorHandle.root u.1.raw == .root v.1.raw) = (n == m) := by
        rw [Bool.eq_iff_iff, beq_iff_eq, beq_iff_eq, CursorHandle.root_inj]
        exact named.eq_iff left_handle right_handle
      rw [same]

/-- A unit that is dropped, and another one of the same file. -/
def reparsedRun : List (Operation Unit) :=
  [.step (.newIndex false false), .step (.parseSource 0 [0x61] []), .step (.cursor 0),
    .step (.complete 0 ⟨[0x61], 1, 1, false⟩), .step (.cursor 0), .step (.dropUnit 0),
    .step (.parseSource 0 [0x61] []), .step (.cursor 1)]

theorem run_cursors_reparsedRun :
    let asked := queries {} none reparsedRun ({}, { observed := () })
    (run {} none reparsedRun ({}, { observed := () })).2.engine.issued = 3 ∧
    asked.map CursorQuery.unit = [0, 0, 1] ∧
    ∀ q ∈ asked, ∀ r ∈ asked, q.reply = r.reply ↔ q.unit = r.unit := by
  have issued : (run {} none reparsedRun ({}, { observed := () })).2.engine.issued = 3 := by
    decide +kernel
  have cursors := (run_cursors {} none reparsedRun ()).2 rfl (by rw [issued]; decide)
  exact ⟨issued, by decide +kernel, cursors.2.1⟩

end Operation
end ClangHost
