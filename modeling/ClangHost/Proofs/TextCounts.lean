import ClangHost.Proofs.Accounting
import Mathlib.Data.List.Perm.Subperm

/-!
What the counters of texts tell. A caller asks for texts, null ones among them, and gives them back
under the numbers that they came by, in any order and as often as it likes. Where as many texts were
given back as came and no disposal was invalid, each was given back once, unless a null text was
given back twice (`given_back_once_iff`): null texts are counted like the others, but nothing
notes which of them are out.
-/
namespace ClangHost

inductive TextStep where
  | comment (string : Address)
  | chunkText (string : Address) (chunk : UInt32)
  | giveBack (n : Nat)
  deriving DecidableEq, Repr

/-- The texts that came, in order, and the number of each one that was given back, as often as it
was. -/
structure TextRun where
  engine : ScriptState := {}
  texts : List EngineString := []
  back : List Nat := []

namespace TextRun

def receive (r : TextRun) (came : EngineString × ScriptState) : TextRun :=
  { r with engine := came.2, texts := r.texts ++ [came.1] }

def step (s : Script) (r : TextRun) : TextStep → TextRun
  | .comment string => r.receive (s.engine (.briefComment string) r.engine)
  | .chunkText string chunk => r.receive (s.engine (.chunkText string chunk) r.engine)
  | .giveBack n =>
    match r.texts[n]? with
    | none => r
    | some t => { r with engine := (s.engine (.disposeString t) r.engine).2, back := n :: r.back }

def run (s : Script) (steps : List TextStep) (r : TextRun) : TextRun := steps.foldl (step s) r

def liveIds (r : TextRun) : List Nat := r.engine.liveStrings.map Prod.fst

/-- The books of a run from where `base` texts had come and all of them were given back. -/
structure Kept (base : Nat) (r : TextRun) : Prop where
  created : r.engine.stats.stringsCreated = base + r.texts.length
  disposed : r.engine.stats.stringsDisposed = base + r.back.length
  known : ∀ n ∈ r.back, n < r.texts.length
  named : ∀ n t id, r.texts[n]? = some t → t.data = some id → id = base + n
  owned : ∀ id ∈ r.liveIds, ∃ n t, id = base + n ∧ r.texts[n]? = some t ∧ t.data = some id
  once : r.engine.stats.invalidDisposals = 0 → ∀ n t, r.texts[n]? = some t → t.data ≠ none →
    r.back.count n + r.liveIds.count (base + n) = 1

namespace Kept

variable {base : Nat} {r : TextRun}

theorem start {st : ScriptState} (none_live : st.liveStrings = [])
    (even : st.stats.stringsCreated = st.stats.stringsDisposed) :
    Kept st.stats.stringsCreated { engine := st } := by
  have live : ({ engine := st } : TextRun).liveIds = [] := by simp [liveIds, none_live]
  constructor
  · rfl
  · exact even.symm
  · intro n hn
    contradiction
  · intro n t id found
    contradiction
  · intro id held
    rw [live] at held
    contradiction
  · intro _ n t found
    contradiction

theorem texts_snoc {texts : List EngineString} {t u : EngineString} {n : Nat}
    (found : (texts ++ [u])[n]? = some t) :
    n < texts.length ∧ texts[n]? = some t ∨ n = texts.length ∧ t = u := by
  by_cases old : n < texts.length
  · rw [List.getElem?_append_left old] at found
    exact .inl ⟨old, found⟩
  · right
    have inside := (List.getElem?_eq_some_iff.mp found).1
    simp only [List.length_append, List.length_singleton] at inside
    have last : n = texts.length := by omega
    subst last
    simp only [List.getElem?_concat_length, Option.some.injEq] at found
    exact ⟨rfl, found.symm⟩

theorem found_snoc {texts : List EngineString} {t : EngineString} {n : Nat} (u : EngineString)
    (found : texts[n]? = some t) : (texts ++ [u])[n]? = some t :=
  (List.getElem?_append_left (List.getElem?_eq_some_iff.mp found).1).trans found

theorem known_snoc (k : Kept base r) (u : EngineString) :
    ∀ n ∈ r.back, n < (r.texts ++ [u]).length := by
  intro n given
  have inside := k.known n given
  simp only [List.length_append, List.length_singleton]
  omega

theorem receive_null (k : Kept base r) : Kept base (r.receive (r.engine.newString none)) := by
  constructor
  · have created := k.created
    simp only [receive, ScriptState.newString, List.length_append, List.length_singleton]
    omega
  · exact k.disposed
  · exact k.known_snoc _
  · intro n t id found data
    rcases texts_snoc found with ⟨_, old⟩ | ⟨_, rfl⟩
    · exact k.named n t id old data
    · contradiction
  · intro id held
    obtain ⟨n, t, place, found, data⟩ := k.owned id held
    exact ⟨n, t, place, found_snoc _ found, data⟩
  · intro valid n t found data
    rcases texts_snoc found with ⟨_, old⟩ | ⟨_, rfl⟩
    · exact k.once valid n t old data
    · exact absurd rfl data

theorem receive_some (k : Kept base r) (bs : Bytes) :
    Kept base (r.receive (r.engine.newString (some bs))) := by
  have created := k.created
  have new : r.engine.stats.stringsCreated ∉ r.liveIds := by
    intro held
    obtain ⟨n, t, place, found, _⟩ := k.owned _ held
    have inside := (List.getElem?_eq_some_iff.mp found).1
    omega
  have unasked : r.texts.length ∉ r.back := by
    intro given
    exact Nat.lt_irrefl _ (k.known _ given)
  constructor
  · simp only [receive, ScriptState.newString, List.length_append, List.length_singleton]
    omega
  · exact k.disposed
  · exact k.known_snoc _
  · intro n t id found data
    rcases texts_snoc found with ⟨_, old⟩ | ⟨last, rfl⟩
    · exact k.named n t id old data
    · rw [last, ← created]
      exact (Option.some.inj data).symm
  · intro id held
    rcases List.mem_cons.mp held with rfl | old
    · exact ⟨r.texts.length, _, created, List.getElem?_concat_length, rfl⟩
    · obtain ⟨n, t, place, found, data⟩ := k.owned id old
      exact ⟨n, t, place, found_snoc _ found, data⟩
  · intro valid n t found data
    change r.back.count n + (r.engine.stats.stringsCreated :: r.liveIds).count (base + n) = 1
    rcases texts_snoc found with ⟨inside, old⟩ | ⟨last, _⟩
    · have other : r.engine.stats.stringsCreated ≠ base + n := by omega
      rw [List.count_cons_of_ne other]
      exact k.once valid n t old data
    · rw [last, ← created, List.count_cons_self, List.count_eq_zero_of_not_mem new,
        List.count_eq_zero_of_not_mem unasked]

theorem receive (k : Kept base r) (content : Option Bytes) :
    Kept base (r.receive (r.engine.newString content)) := by
  cases content with
  | none => exact k.receive_null
  | some bs => exact k.receive_some bs

theorem known_cons (k : Kept base r) {n : Nat} {t : EngineString} (found : r.texts[n]? = some t) :
    ∀ m ∈ n :: r.back, m < r.texts.length := by
  have inside := (List.getElem?_eq_some_iff.mp found).1
  simpa using ⟨inside, k.known⟩

theorem giveBack_null (k : Kept base r) {n : Nat} {flags : UInt32}
    (found : r.texts[n]? = some ⟨none, flags⟩) :
    Kept base { r with engine := r.engine.disposeString ⟨none, flags⟩, back := n :: r.back } := by
  have disposed := k.disposed
  -- only the counter moves, and no other text has the number
  refine ⟨k.created, ?_, k.known_cons found, k.named, k.owned, ?_⟩
  · simp only [ScriptState.disposeString, List.length_cons]
    omega
  · intro valid m u here present
    have other : n ≠ m := by
      rintro rfl
      rw [found] at here
      cases here
      exact present rfl
    rw [List.count_cons_of_ne other]
    exact k.once valid m u here present

theorem giveBack_some (k : Kept base r) {n id : Nat} {flags : UInt32}
    (found : r.texts[n]? = some ⟨some id, flags⟩) :
    Kept base { r with
      engine := r.engine.disposeString ⟨some id, flags⟩, back := n :: r.back } := by
  have disposed := k.disposed
  have name := k.named n _ id found rfl
  by_cases live : (r.engine.liveStrings.any fun e => e.1 == id) = true
  · have member : id ∈ r.liveIds := by
      obtain ⟨e, he, same⟩ := List.any_eq_true.mp live
      exact List.mem_map.mpr ⟨e, he, by simpa using same⟩
    have left : (r.engine.liveStrings.eraseP fun e => e.1 == id).map Prod.fst =
        r.liveIds.erase id := map_fst_eraseP _ _
    simp only [ScriptState.disposeString, live, if_true]
    refine ⟨k.created, ?_, k.known_cons found, k.named, ?_, ?_⟩
    · simp only [List.length_cons]
      omega
    · intro other held
      have held : other ∈ r.liveIds.erase id := left ▸ held
      exact k.owned other (List.mem_of_mem_erase held)
    · intro valid m u here present
      have before := k.once valid m u here present
      change (n :: r.back).count m +
        ((r.engine.liveStrings.eraseP fun e => e.1 == id).map Prod.fst).count (base + m) = 1
      rw [left]
      by_cases same : n = m
      · subst same
        have some_live := List.count_pos_iff.mpr member
        rw [← name] at before ⊢
        rw [List.count_cons_self, List.count_erase_self]
        omega
      · have other : base + m ≠ id := by omega
        rw [List.count_cons_of_ne same, List.count_erase_of_ne other]
        exact before
  · simp only [ScriptState.disposeString, live]
    refine ⟨k.created, ?_, k.known_cons found, k.named, k.owned, ?_⟩
    · simp only [ScriptState.invalid, List.length_cons, if_false, Bool.false_eq_true]
      omega
    · intro valid
      simp [ScriptState.invalid] at valid

theorem giveBack (k : Kept base r) {n : Nat} {t : EngineString} (found : r.texts[n]? = some t) :
    Kept base { r with engine := r.engine.disposeString t, back := n :: r.back } := by
  obtain ⟨_ | id, flags⟩ := t
  · exact k.giveBack_null found
  · exact k.giveBack_some found

theorem step (k : Kept base r) (s : Script) (a : TextStep) : Kept base (r.step s a) := by
  cases a with
  | comment string => exact k.receive _
  | chunkText string chunk => exact k.receive _
  | giveBack n =>
    simp only [TextRun.step]
    split
    · exact k
    · rename_i t found
      exact k.giveBack found

theorem run (k : Kept base r) (s : Script) (steps : List TextStep) :
    Kept base (r.run s steps) := by
  induction steps generalizing r with
  | nil => exact k
  | cons a steps ih => exact ih (k.step s a)

theorem back_perm (k : Kept base r) (balanced : r.texts.length = r.back.length)
    (few : ∀ n < r.texts.length, r.back.count n ≤ 1) : r.back.Perm (List.range r.texts.length) := by
  have distinct : r.back.Nodup := by
    refine List.nodup_iff_count_le_one.mpr fun n => ?_
    by_cases came : n < r.texts.length
    · exact few n came
    · have never : n ∉ r.back := fun given => came (k.known n given)
      rw [List.count_eq_zero_of_not_mem never]
      exact Nat.zero_le 1
  have numbers : r.back ⊆ List.range r.texts.length :=
    fun n given => List.mem_range.mpr (k.known n given)
  apply (distinct.subperm numbers).perm_of_length_le
  exact Nat.le_of_eq (List.length_range.trans balanced)

theorem none_live_of_once (k : Kept base r) (valid : r.engine.stats.invalidDisposals = 0)
    (each : ∀ n < r.texts.length, r.back.count n = 1) : r.engine.liveStrings = [] := by
  suffices none_live : r.liveIds = [] from List.map_eq_nil_iff.mp none_live
  apply List.eq_nil_iff_forall_not_mem.mpr
  intro id held
  obtain ⟨n, t, rfl, found, data⟩ := k.owned id held
  have given := each n (List.getElem?_eq_some_iff.mp found).1
  have sum := k.once valid n t found (by simp [data])
  have live := List.count_pos_iff.mpr held
  change 0 < r.liveIds.count (base + n) at live
  omega

end Kept

/-- Where the counters of texts balance and no disposal was invalid, a text that is not null was
given back once or is live, and never both. Null texts are not told apart: each text was given back
once, and none is live, exactly where no null text was given back twice. -/
theorem given_back_once_iff (s : Script) (steps : List TextStep) {st : ScriptState}
    (none_live : st.liveStrings = [])
    (even : st.stats.stringsCreated = st.stats.stringsDisposed) :
    let r := run s steps { engine := st }
    r.engine.stats.stringsCreated = r.engine.stats.stringsDisposed →
    r.engine.stats.invalidDisposals = 0 →
      (∀ n t, r.texts[n]? = some t → t.data ≠ none →
        r.back.count n + r.liveIds.count (st.stats.stringsCreated + n) = 1) ∧
      ((∀ n < r.texts.length, r.back.count n = 1) ∧ r.engine.liveStrings = [] ↔
        ∀ n t, r.texts[n]? = some t → t.data = none → r.back.count n ≤ 1) := by
  intro r balance valid
  have k : Kept st.stats.stringsCreated r := (Kept.start none_live even).run s steps
  refine ⟨k.once valid, ?_⟩
  constructor
  · rintro ⟨each, _⟩ n t found _
    exact Nat.le_of_eq (each n (List.getElem?_eq_some_iff.mp found).1)
  · intro few_null
    have few : ∀ n < r.texts.length, r.back.count n ≤ 1 := by
      intro n inside
      have found := List.getElem?_eq_getElem inside
      cases data : r.texts[n].data with
      | none => exact few_null n _ found data
      | some id =>
        have sum := k.once valid n _ found (by simp [data])
        omega
    have balanced : r.texts.length = r.back.length := by
      have created := k.created
      have disposed := k.disposed
      omega
    have perm := k.back_perm balanced few
    have each : ∀ n < r.texts.length, r.back.count n = 1 := by
      intro n inside
      rw [perm.count_eq, List.count_eq_one_of_mem List.nodup_range (List.mem_range.mpr inside)]
    exact ⟨each, k.none_live_of_once valid each⟩

def crossed : List TextStep := [.comment 1, .chunkText 1 0, .giveBack 1, .giveBack 0]

theorem given_back_once_crossed :
    (run Script.textScript crossed {}).texts = [.null, ⟨some 1, 1⟩] ∧
    (∀ n < 2, (run Script.textScript crossed {}).back.count n = 1) ∧
    (run Script.textScript crossed {}).engine.liveStrings = [] := by
  have came : (run Script.textScript crossed {}).texts = [.null, ⟨some 1, 1⟩] := by decide
  have few : ∀ n < 2, (run Script.textScript crossed {}).back.count n ≤ 1 := by decide
  have start : ({} : ScriptState).liveStrings = [] := rfl
  have once := (given_back_once_iff Script.textScript crossed start rfl (by decide) (by decide)).2
  rw [came] at once
  obtain ⟨each, none_live⟩ := once.mpr fun n t found _ =>
    few n (List.getElem?_eq_some_iff.mp found).1
  exact ⟨came, each, none_live⟩

/-- The null text is given back twice, and the other one stays live behind balanced counters. -/
theorem leak_behind_null_text :
    let r := run Script.textScript [.comment 1, .chunkText 1 0, .giveBack 0, .giveBack 0] {}
    r.engine.stats.stringsCreated = 2 ∧ r.engine.stats.stringsDisposed = 2 ∧
      r.engine.stats.invalidDisposals = 0 ∧ r.back.count 0 = 2 ∧ r.back.count 1 = 0 ∧
      r.engine.liveStrings = [(1, [0x66])] := by
  decide

end TextRun
end ClangHost
