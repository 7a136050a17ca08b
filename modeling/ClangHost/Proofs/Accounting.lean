import ClangHost.Proofs.Watch
import ClangHost.Proofs.Ledger
import Mathlib.Data.List.Nodup

/-!
The books of a scripted engine under any calls whatever, also where things are given back that were
never handed out, that are of another kind, or that were given back before. What was handed out is
live or was settled, that is, given back while it was live, and each thing once (`run_balanced`);
every other disposal only counts as invalid.
-/
namespace ClangHost

inductive Thing where
  | index (h : Handle)
  | unit (h : Handle)
  | block (id : Nat)
  | text (id : Nat)
  deriving DecidableEq, Repr

namespace Thing

/-- Sessions and units are told apart by one counter, blocks and texts by one each. -/
def place : Thing → Handle ⊕ Nat ⊕ Nat
  | .index h | .unit h => .inl h
  | .block id => .inr (.inl id)
  | .text id => .inr (.inr id)

def handle? : Thing → Option Handle
  | .index h | .unit h => some h
  | _ => none

def block? : Thing → Option Nat
  | .block id => some id
  | _ => none

def Below (st : ScriptState) : Thing → Prop
  | .index h | .unit h => 0 < h.toNat ∧ h.toNat ≤ st.lastHandle.toNat
  | .block id => id < st.blocksBuilt
  | .text id => id < st.stats.stringsCreated

end Thing

def Call.givesBack? : Call → Option Thing
  | .disposeIndex h => some (.index h)
  | .disposeUnit h => some (.unit h)
  | .disposeBlock id => some (.block id)
  | .disposeString t => t.data.map .text
  | _ => none

def Script.handsOut? (s : Script) : Exchange → Option Thing
  | ⟨.createIndex _ _, h⟩ => if s.nullIndex then none else some (.index h)
  | ⟨.createUnit _ _ _ _ _ _, h⟩ => if s.failParse then none else some (.unit h)
  | ⟨.parseUnit _ _ _ _ _ _ _, h⟩ => if s.failParse then none else some (.unit h)
  | ⟨.completeAt _ _ _ _ _ _ _, block⟩ => block.map fun b => .block b.id
  | ⟨.briefComment _, t⟩ => t.data.map .text
  | ⟨.chunkText _ _, t⟩ => t.data.map .text
  | _ => none

namespace ScriptState

def live (st : ScriptState) : List Thing :=
  st.liveIndexes.map .index ++ st.liveUnits.map .unit ++ st.liveBlocks.map .block ++
    st.liveStrings.map fun t => .text t.1

@[simp]
theorem index_mem_live (st : ScriptState) (h : Handle) :
    .index h ∈ st.live ↔ h ∈ st.liveIndexes := by
  simp [live]

@[simp]
theorem unit_mem_live (st : ScriptState) (h : Handle) : .unit h ∈ st.live ↔ h ∈ st.liveUnits := by
  simp [live]

@[simp]
theorem block_mem_live (st : ScriptState) (id : Nat) :
    .block id ∈ st.live ↔ id ∈ st.liveBlocks := by
  simp [live]

@[simp]
theorem text_mem_live (st : ScriptState) (id : Nat) :
    .text id ∈ st.live ↔ (st.liveStrings.any fun t => t.1 == id) = true := by
  simp [live]

end ScriptState

/-- What a call gives back that is live. -/
def Call.settles? (st : ScriptState) (c : Call) : Option Thing :=
  c.givesBack?.filter fun x => x ∈ st.live

def Call.Stale (st : ScriptState) (c : Call) : Prop := ∃ x, c.givesBack? = some x ∧ x ∉ st.live

namespace Script

def after (s : Script) (calls : List Call) (st : ScriptState) : ScriptState :=
  calls.foldl (fun st c => (s.engine c st).2) st

def handedOut (s : Script) : List Call → ScriptState → List Thing
  | [], _ => []
  | c :: calls, st =>
    (s.handsOut? ⟨c, (s.engine c st).1⟩).toList ++ s.handedOut calls (s.engine c st).2

def settled (s : Script) : List Call → ScriptState → List Thing
  | [], _ => []
  | c :: calls, st => (c.settles? st).toList ++ s.settled calls (s.engine c st).2

end Script

def ScriptState.bare (st : ScriptState) : ScriptState :=
  { st with
    lastParse := none, lastCompletion := none
    stats := { st.stats with cursorQueries := 0, completionRequests := 0, stringsDisposed := 0 } }

def ScriptState.disposing (st : ScriptState) : Thing → ScriptState
  | .text _ =>
    { st with stats := { st.stats with stringsDisposed := st.stats.stringsDisposed + 1 } }
  | _ => st

inductive Effect (st : ScriptState) : Option Thing → Option Thing → ScriptState → Prop where
  | idle {st' : ScriptState} : st'.bare = st.bare → Effect st none none st'
  | openIndex : Effect st (some (.index (st.lastHandle + 1))) none st.createIndex.2
  | openUnit {st' : ScriptState} : st'.bare = st.bare →
      Effect st (some (.unit (st'.lastHandle + 1))) none st'.createUnit.2
  | openBlock {st' : ScriptState} : st'.bare = st.bare →
      Effect st (some (.block st'.blocksBuilt)) none st'.createBlock
  | newString (content : Option Bytes) :
      Effect st ((st.newString content).1.data.map .text) none (st.newString content).2
  | closeIndex (h : Handle) : Effect st none (some (.index h)) (st.disposeIndex h)
  | closeUnit (h : Handle) : Effect st none (some (.unit h)) (st.disposeUnit h)
  | closeBlock (id : Nat) : Effect st none (some (.block id)) (st.disposeBlock id)
  | closeText (id : Nat) (flags : UInt32) :
      Effect st none (some (.text id)) (st.disposeString ⟨some id, flags⟩)

namespace Script

theorem parse_effect (s : Script) (p : ParseRecord) (st : ScriptState) :
    Effect st (if s.failParse then none else some (.unit (s.parse p st).1)) none
      (s.parse p st).2 := by
  cases fail : s.failParse with
  | true =>
    have answer : s.parse p st = (0, { st with lastParse := some p }) := by
      simp only [parse, fail, if_true]
      rfl
    rw [answer]
    exact .idle rfl
  | false =>
    have answer : s.parse p st = ({ st with lastParse := some p } : ScriptState).createUnit := by
      simp only [parse, fail]
      rfl
    rw [answer]
    exact .openUnit rfl

theorem complete_effect (s : Script) (call : CompletionCall) (st : ScriptState) :
    Effect st ((s.complete call st).1.map fun b => .block b.id) none (s.complete call st).2 := by
  let told : ScriptState := { st with
    lastCompletion := some call
    stats := { st.stats with completionRequests := st.stats.completionRequests + 1 } }
  have same : told.bare = st.bare := rfl
  cases none : s.nullResults with
  | true =>
    have answer : s.complete call st = (Option.none, told) := by
      simp only [complete, none, if_true]
      rfl
    rw [answer]
    exact .idle rfl
  | false =>
    have answer : s.complete call st = (some (s.block st.blocksBuilt), told.createBlock) := by
      simp only [complete, none]
      rfl
    rw [answer]
    exact .openBlock same

theorem engine_effect (s : Script) (c : Call) (st : ScriptState) :
    Effect st (s.handsOut? ⟨c, (s.engine c st).1⟩) c.givesBack? (s.engine c st).2 := by
  cases c with
  | createIndex excludePch displayDiagnostics =>
    cases none : s.nullIndex with
    | true =>
      have answer : s.engine (.createIndex excludePch displayDiagnostics) st =
          ((0 : Handle), st) := by
        simp only [engine, none, if_true]
        rfl
      rw [answer, handsOut?, if_pos none]
      exact .idle rfl
    | false =>
      have answer : s.engine (.createIndex excludePch displayDiagnostics) st = st.createIndex := by
        simp only [engine, none]
        rfl
      rw [answer, handsOut?, if_neg (by simp [none])]
      exact .openIndex
  | disposeIndex h => exact .closeIndex h
  | createUnit index source count args unsaved null => exact s.parse_effect _ st
  | parseUnit index source args count null unsaved options => exact s.parse_effect _ st
  | disposeUnit h => exact .closeUnit h
  | unitCursor unit => exact .idle rfl
  | completeAt unit file line column null unsaved options => exact s.complete_effect _ st
  | disposeBlock id => exact .closeBlock id
  | briefComment string => exact .newString _
  | chunkText string i => exact .newString _
  | disposeString string =>
    obtain ⟨_ | id, flags⟩ := string
    · exact .idle rfl
    · exact .closeText id flags
  | defaultOptions => exact .idle rfl
  | recordLayout => exact .idle rfl
  | availability string => exact .idle rfl
  | priority string => exact .idle rfl
  | chunkCount string => exact .idle rfl
  | chunkKind string i => exact .idle rfl
  | cString string => exact .idle rfl

end Script

namespace Effect

variable {out back : Option Thing} {st st' : ScriptState}

theorem issued_le (effect : Effect st out back st') : st.issued ≤ st'.issued := by
  cases effect with
  | idle same => exact Nat.le_of_eq (congrArg ScriptState.issued same).symm
  | openIndex => simp
  | openUnit same =>
    exact Nat.le_trans (Nat.le_of_eq (congrArg ScriptState.issued same).symm) (Nat.le_succ _)
  | openBlock same => exact Nat.le_of_eq (congrArg ScriptState.issued same).symm
  | newString content => simp
  | closeIndex h => simp
  | closeUnit h => simp
  | closeBlock id => simp
  | closeText id flags => simp

theorem of_stale {x : Thing} (effect : Effect st out (some x) st') (gone : x ∉ st.live) :
    st' = (st.disposing x).invalid := by
  cases effect with
  | closeIndex h => exact ScriptState.disposeIndex_stale (mt (st.index_mem_live h).mpr gone)
  | closeUnit h => exact ScriptState.disposeUnit_stale (mt (st.unit_mem_live h).mpr gone)
  | closeBlock id => exact ScriptState.disposeBlock_stale (mt (st.block_mem_live id).mpr gone)
  | closeText id flags =>
    simp [ScriptState.disposeString, ScriptState.disposing, mt (st.text_mem_live id).mpr gone]

theorem invalid_of_stale {x : Thing} (effect : Effect st out (some x) st') (gone : x ∉ st.live) :
    st'.stats.invalidDisposals = st.stats.invalidDisposals + 1 := by
  rw [effect.of_stale gone]
  cases x <;> rfl

theorem invalid_eq (effect : Effect st out back st') (fine : ∀ x, back = some x → x ∈ st.live) :
    st'.stats.invalidDisposals = st.stats.invalidDisposals := by
  -- only the branch of a disposal that is taken for something live leaves the count alone
  cases effect with
  | idle same => exact congrArg (fun st => st.stats.invalidDisposals) same
  | openIndex => rfl
  | openUnit same => exact congrArg (fun st => st.stats.invalidDisposals) same
  | openBlock same => exact congrArg (fun st => st.stats.invalidDisposals) same
  | newString content => cases content <;> rfl
  | closeIndex h =>
    rw [ScriptState.disposeIndex, if_pos ((st.index_mem_live h).mp (fine _ rfl))]
  | closeUnit h =>
    rw [ScriptState.disposeUnit, if_pos ((st.unit_mem_live h).mp (fine _ rfl))]
  | closeBlock id =>
    rw [ScriptState.disposeBlock, if_pos ((st.block_mem_live id).mp (fine _ rfl))]
  | closeText id flags =>
    simp [ScriptState.disposeString, (st.text_mem_live id).mp (fine _ rfl)]

end Effect

/-- The books of an engine that has handed out some things and settled some. -/
structure Balanced (out settled : List Thing) (st : ScriptState) : Prop where
  counter : st.lastHandle.toNat = st.issued
  indexes : st.stats.indexesCreated = st.stats.indexesDisposed + st.liveIndexes.length
  units : st.stats.unitsCreated = st.stats.unitsDisposed + st.liveUnits.length
  blocks : (out.filterMap Thing.block?).length = st.stats.resultsDisposed + st.liveBlocks.length
  conserved : out.Perm (settled ++ st.live)
  below : ∀ x ∈ out, x.Below st
  distinct : (out.map Thing.place).Nodup

namespace Balanced

variable {out settled : List Thing} {st : ScriptState}

theorem start : Balanced [] [] {} :=
  { counter := rfl
    indexes := rfl
    units := rfl
    blocks := rfl
    conserved := .refl _
    below := by simp
    distinct := List.nodup_nil }

theorem distinct_snoc (b : Balanced out settled st) {x : Thing}
    (new : x.place ∉ out.map Thing.place) : ((out ++ [x]).map Thing.place).Nodup := by
  rw [List.map_append, List.nodup_append_comm]
  exact List.nodup_cons.mpr ⟨new, b.distinct⟩

theorem conserved_snoc (b : Balanced out settled st) {x : Thing} {st' : ScriptState}
    (more : st'.live.Perm (x :: st.live)) : (out ++ [x]).Perm (settled ++ st'.live) := by
  have sorted : (x :: out).Perm (settled ++ x :: st.live) :=
    (b.conserved.cons x).trans List.perm_middle.symm
  exact (List.perm_append_singleton x out).trans (sorted.trans (more.symm.append_left settled))

theorem conserved_settle (b : Balanced out settled st) {x : Thing} {st' : ScriptState}
    (fewer : st.live.Perm (x :: st'.live)) : out.Perm (settled ++ [x] ++ st'.live) := by
  rw [List.append_assoc]
  exact b.conserved.trans (fewer.append_left settled)

theorem new_handle (b : Balanced out settled st) (few : st.issued + 1 < UInt64.size) :
    .inl (st.lastHandle + 1) ∉ out.map Thing.place := by
  intro old
  obtain ⟨x, hx, same⟩ := List.mem_map.mp old
  have below := b.below x hx
  have next := toNat_next_handle b.counter few
  cases x with
  | index h | unit h =>
    cases Sum.inl.inj same
    have := below.2
    omega
  | block id | text id => contradiction

theorem new_block (b : Balanced out settled st) :
    .inr (.inl st.blocksBuilt) ∉ out.map Thing.place := by
  intro old
  obtain ⟨x, hx, same⟩ := List.mem_map.mp old
  have below := b.below x hx
  cases x with
  | block id =>
    cases Sum.inl.inj (Sum.inr.inj same)
    exact Nat.lt_irrefl _ below
  | index h | unit h | text id => simp [Thing.place] at same

theorem new_text (b : Balanced out settled st) :
    .inr (.inr st.stats.stringsCreated) ∉ out.map Thing.place := by
  intro old
  obtain ⟨x, hx, same⟩ := List.mem_map.mp old
  have below := b.below x hx
  cases x with
  | text id =>
    cases Sum.inr.inj (Sum.inr.inj same)
    exact Nat.lt_irrefl _ below
  | index h | unit h | block id => simp [Thing.place] at same

theorem below_mono (b : Balanced out settled st) {st' : ScriptState}
    (handles : st.lastHandle.toNat ≤ st'.lastHandle.toNat)
    (built : st.blocksBuilt ≤ st'.blocksBuilt)
    (texts : st.stats.stringsCreated ≤ st'.stats.stringsCreated) : ∀ x ∈ out, x.Below st' := by
  intro x hx
  have below := b.below x hx
  cases x with
  | index h | unit h => exact ⟨below.1, Nat.le_trans below.2 handles⟩
  | block id => exact Nat.lt_of_lt_of_le below built
  | text id => exact Nat.lt_of_lt_of_le below texts

theorem below_snoc {x : Thing} {st' : ScriptState} (old : ∀ y ∈ out, y.Below st')
    (new : x.Below st') : ∀ y ∈ out ++ [x], y.Below st' := by
  simpa [or_imp, forall_and] using ⟨old, new⟩

theorem length_blocks_snoc {x : Thing} (other : x.block? = none) :
    ((out ++ [x]).filterMap Thing.block?).length = (out.filterMap Thing.block?).length := by
  simp [other]

theorem openIndex (b : Balanced out settled st) (few : st.createIndex.2.issued < UInt64.size) :
    Balanced (out ++ [.index (st.lastHandle + 1)]) settled st.createIndex.2 := by
  have count := st.issued_createIndex
  rw [count] at few
  have next := toNat_next_handle b.counter few
  have last : st.createIndex.2.lastHandle = st.lastHandle + 1 := rfl
  exact
    { counter := by rw [count, ← b.counter, last, next]
      indexes := congrArg (· + 1) b.indexes
      units := b.units
      blocks := (length_blocks_snoc rfl).trans b.blocks
      conserved := b.conserved_snoc (.refl _)
      below := below_snoc
        (b.below_mono (by rw [last]; omega) (Nat.le_refl _) (Nat.le_refl _))
        ⟨by omega, Nat.le_refl _⟩
      distinct := b.distinct_snoc (b.new_handle few) }

theorem openUnit (b : Balanced out settled st) (few : st.createUnit.2.issued < UInt64.size) :
    Balanced (out ++ [.unit (st.lastHandle + 1)]) settled st.createUnit.2 := by
  have count := st.issued_createUnit
  rw [count] at few
  have next := toNat_next_handle b.counter few
  have last : st.createUnit.2.lastHandle = st.lastHandle + 1 := rfl
  exact
    { counter := by rw [count, ← b.counter, last, next]
      indexes := b.indexes
      units := congrArg (· + 1) b.units
      blocks := (length_blocks_snoc rfl).trans b.blocks
      conserved := b.conserved_snoc ((List.perm_middle.append_right _).append_right _)
      below := below_snoc
        (b.below_mono (by rw [last]; omega) (Nat.le_refl _) (Nat.le_refl _))
        ⟨by omega, Nat.le_refl _⟩
      distinct := b.distinct_snoc (b.new_handle few) }

theorem openBlock (b : Balanced out settled st) :
    Balanced (out ++ [.block st.blocksBuilt]) settled st.createBlock :=
  { counter := b.counter
    indexes := b.indexes
    units := b.units
    blocks := by
      rw [List.filterMap_append, List.length_append, b.blocks]
      rfl
    conserved := b.conserved_snoc (List.perm_middle.append_right _)
    below := below_snoc (b.below_mono (Nat.le_refl _) (Nat.le_succ _) (Nat.le_refl _))
      (Nat.lt_succ_self _)
    distinct := b.distinct_snoc b.new_block }

theorem openText (b : Balanced out settled st) (bs : Bytes) :
    Balanced (out ++ [.text st.stats.stringsCreated]) settled (st.newString (some bs)).2 :=
  { counter := b.counter
    indexes := b.indexes
    units := b.units
    blocks := (length_blocks_snoc rfl).trans b.blocks
    conserved := b.conserved_snoc List.perm_middle
    below := below_snoc (b.below_mono (Nat.le_refl _) (Nat.le_refl _) (Nat.le_succ _))
      (Nat.lt_succ_self _)
    distinct := b.distinct_snoc b.new_text }

theorem closeIndex (b : Balanced out settled st) {h : Handle} (live : h ∈ st.liveIndexes) :
    Balanced out (settled ++ [.index h]) (st.disposeIndex h) := by
  have length := List.length_erase_of_mem live
  have some_live := List.length_pos_of_mem live
  have books := b.indexes
  have taken := (List.perm_cons_erase live).map Thing.index
  rw [ScriptState.disposeIndex, if_pos live]
  exact
    { counter := b.counter
      indexes := by
        dsimp only
        omega
      units := b.units
      blocks := b.blocks
      conserved := b.conserved_settle (((taken.append_right _).append_right _).append_right _)
      below := b.below
      distinct := b.distinct }

theorem closeUnit (b : Balanced out settled st) {h : Handle} (live : h ∈ st.liveUnits) :
    Balanced out (settled ++ [.unit h]) (st.disposeUnit h) := by
  have length := List.length_erase_of_mem live
  have some_live := List.length_pos_of_mem live
  have books := b.units
  have taken := (List.perm_cons_erase live).map Thing.unit
  rw [ScriptState.disposeUnit, if_pos live]
  exact
    { counter := b.counter
      indexes := b.indexes
      units := by
        dsimp only
        omega
      blocks := b.blocks
      conserved := b.conserved_settle
        ((((taken.append_left _).trans List.perm_middle).append_right _).append_right _)
      below := b.below
      distinct := b.distinct }

theorem closeBlock (b : Balanced out settled st) {id : Nat} (live : id ∈ st.liveBlocks) :
    Balanced out (settled ++ [.block id]) (st.disposeBlock id) := by
  have length := List.length_erase_of_mem live
  have some_live := List.length_pos_of_mem live
  have books := b.blocks
  have taken := (List.perm_cons_erase live).map Thing.block
  rw [ScriptState.disposeBlock, if_pos live]
  exact
    { counter := b.counter
      indexes := b.indexes
      units := b.units
      blocks := by
        dsimp only
        omega
      conserved := b.conserved_settle
        (((taken.append_left _).trans List.perm_middle).append_right _)
      below := b.below
      distinct := b.distinct }

theorem closeText (b : Balanced out settled st) {id : Nat} (flags : UInt32)
    (live : (st.liveStrings.any fun t => t.1 == id) = true) :
    Balanced out (settled ++ [.text id]) (st.disposeString ⟨some id, flags⟩) := by
  have member : id ∈ st.liveStrings.map Prod.fst := by
    obtain ⟨t, ht, same⟩ := List.any_eq_true.mp live
    exact List.mem_map.mpr ⟨t, ht, by simpa using same⟩
  have taken : (st.liveStrings.map fun t => Thing.text t.1).Perm
      (.text id :: (st.liveStrings.eraseP fun t => t.1 == id).map fun t => .text t.1) := by
    have erased := (List.perm_cons_erase member).map Thing.text
    rw [← map_fst_eraseP] at erased
    simpa [Function.comp_def] using erased
  simp only [ScriptState.disposeString, live, if_true]
  exact
    { counter := b.counter
      indexes := b.indexes
      units := b.units
      blocks := b.blocks
      conserved := b.conserved_settle ((taken.append_left _).trans List.perm_middle)
      below := b.below
      distinct := b.distinct }

theorem of_bare (b : Balanced out settled st) {st' : ScriptState} (same : st'.bare = st.bare) :
    Balanced out settled st' := by
  -- none of the books reads what `bare` leaves out
  have bare : Balanced out settled st.bare :=
    ⟨b.counter, b.indexes, b.units, b.blocks, b.conserved, b.below, b.distinct⟩
  rw [← same] at bare
  exact ⟨bare.counter, bare.indexes, bare.units, bare.blocks, bare.conserved, bare.below,
    bare.distinct⟩

theorem invalid (b : Balanced out settled st) : Balanced out settled st.invalid :=
  ⟨b.counter, b.indexes, b.units, b.blocks, b.conserved, b.below, b.distinct⟩

theorem giveBack (b : Balanced out settled st) {x : Thing} {st' : ScriptState}
    (effect : Effect st none (some x) st')
    (closed : x ∈ st.live → Balanced out (settled ++ [x]) st') :
    Balanced out (settled ++ ((some x).filter fun x => x ∈ st.live).toList) st' := by
  by_cases live : x ∈ st.live
  · have settles : (some x).filter (fun x => x ∈ st.live) = some x := by simp [live]
    rw [settles]
    exact closed live
  · have settles : (some x).filter (fun x => x ∈ st.live) = none := by simp [live]
    rw [settles, effect.of_stale live, Option.toList_none, List.append_nil]
    cases x with
    | text id =>
      have same : (st.disposing (.text id)).bare = st.bare := rfl
      exact (b.of_bare same).invalid
    | _ => exact b.invalid

theorem handles_distinct (b : Balanced out settled st) : (out.filterMap Thing.handle?).Nodup := by
  have left : (fun x => (Thing.place x).getLeft?) = Thing.handle? := by
    funext x
    cases x <;> rfl
  have places := b.distinct.filterMap (f := Sum.getLeft?) fun x y h hx hy => by
    rw [Option.mem_def, Sum.getLeft?_eq_some_iff] at hx hy
    rw [hx, hy]
  rw [List.filterMap_map] at places
  rwa [← left]

theorem step (b : Balanced out settled st) {new back : Option Thing} {st' : ScriptState}
    (effect : Effect st new back st') (few : st'.issued < UInt64.size) :
    Balanced (out ++ new.toList) (settled ++ (back.filter fun x => x ∈ st.live).toList) st' := by
  cases effect with
  | idle same => simpa using b.of_bare same
  | openIndex => simpa using b.openIndex few
  | openUnit same => simpa using (b.of_bare same).openUnit few
  | openBlock same => simpa using (b.of_bare same).openBlock
  | newString content =>
    cases content with
    -- the counter of texts moves for a null text too, though nothing is handed out
    | none =>
      have more : ∀ x ∈ out, x.Below (st.newString none).2 :=
        b.below_mono (Nat.le_refl _) (Nat.le_refl _) (Nat.le_succ _)
      simpa [ScriptState.newString, EngineString.null] using
        (⟨b.counter, b.indexes, b.units, b.blocks, b.conserved, more, b.distinct⟩ :
          Balanced out settled (st.newString none).2)
    | some bs => simpa [ScriptState.newString] using b.openText bs
  | closeIndex h =>
    simpa using b.giveBack (.closeIndex h) fun live => b.closeIndex ((st.index_mem_live h).mp live)
  | closeUnit h =>
    simpa using b.giveBack (.closeUnit h) fun live => b.closeUnit ((st.unit_mem_live h).mp live)
  | closeBlock id =>
    simpa using
      b.giveBack (.closeBlock id) fun live => b.closeBlock ((st.block_mem_live id).mp live)
  | closeText id flags =>
    simpa using b.giveBack (.closeText id flags) fun live =>
      b.closeText flags ((st.text_mem_live id).mp live)

end Balanced

namespace Script

theorem issued_le_after (s : Script) (calls : List Call) (st : ScriptState) :
    st.issued ≤ (s.after calls st).issued := by
  induction calls generalizing st with
  | nil => exact Nat.le_refl _
  | cons c calls ih => exact Nat.le_trans (s.engine_effect c st).issued_le (ih _)

theorem after_balanced (s : Script) (calls : List Call) {out settled : List Thing}
    {st : ScriptState} (b : Balanced out settled st)
    (few : (s.after calls st).issued < UInt64.size) :
    Balanced (out ++ s.handedOut calls st) (settled ++ s.settled calls st) (s.after calls st) := by
  induction calls generalizing out settled st with
  | nil => simpa [handedOut, Script.settled, after] using b
  | cons c calls ih =>
    -- the counter only grows, so it has not come round at this call either
    have few_here := Nat.lt_of_le_of_lt (s.issued_le_after calls (s.engine c st).2) few
    have here := b.step (s.engine_effect c st) few_here
    rw [handedOut, Script.settled, ← List.append_assoc, ← List.append_assoc]
    exact ih here few

/-- The books of a scripted engine after any calls, as long as the counter of handles has not come
round. Handles are not null and never handed out twice, created things are live or were disposed of,
and what was handed out was settled once or is live. A disposal of what is not live counts as
invalid, and nothing else does; unless it is of a text, it changes nothing else. -/
theorem run_balanced (s : Script) (calls : List Call)
    (few : (s.after calls {}).issued < UInt64.size) :
    let st := s.after calls {}
    let out := s.handedOut calls {}
    (0 ∉ out.filterMap Thing.handle? ∧ (out.filterMap Thing.handle?).Nodup) ∧
    st.stats.indexesCreated = st.stats.indexesDisposed + st.liveIndexes.length ∧
    st.stats.unitsCreated = st.stats.unitsDisposed + st.liveUnits.length ∧
    (out.filterMap Thing.block?).length = st.stats.resultsDisposed + st.liveBlocks.length ∧
    (∀ c, (c.Stale st → (s.engine c st).2.stats.invalidDisposals = st.stats.invalidDisposals + 1) ∧
      (¬ c.Stale st → (s.engine c st).2.stats.invalidDisposals = st.stats.invalidDisposals)) ∧
    (∀ c x, c.givesBack? = some x → x ∉ st.live → (∀ id, x ≠ .text id) →
      (s.engine c st).2 = st.invalid) ∧
    out.Perm (s.settled calls {} ++ st.live) ∧ out.Nodup ∧ (s.settled calls {}).Nodup := by
  intro st out
  have b : Balanced out (s.settled calls {}) st := s.after_balanced calls .start few
  have distinct : out.Nodup := b.distinct.of_map
  have parts := (List.nodup_append.mp (b.conserved.nodup_iff.mp distinct)).1
  refine ⟨⟨?_, ?_⟩, b.indexes, b.units, b.blocks, fun c => ⟨?_, ?_⟩, ?_, b.conserved, distinct,
    parts⟩
  · intro null
    obtain ⟨x, hx, handle⟩ := List.mem_filterMap.mp null
    have below := b.below x hx
    cases x with
    | index h | unit h =>
      cases handle
      exact Nat.lt_irrefl _ below.1
    | block id | text id => contradiction
  · exact b.handles_distinct
  · rintro ⟨x, back, gone⟩
    have effect := s.engine_effect c st
    rw [back] at effect
    exact effect.invalid_of_stale gone
  · intro fine
    refine (s.engine_effect c st).invalid_eq fun x back => ?_
    by_contra gone
    exact fine ⟨x, back, gone⟩
  · intro c x back gone other
    have effect := s.engine_effect c st
    rw [back] at effect
    rw [effect.of_stale gone]
    cases x with
    | text id => exact absurd rfl (other id)
    | _ => rfl

/-- Disposals twice, as another kind, and of what was never there, beside proper ones. -/
def misuses : List Call :=
  [.createIndex 0 0, .createUnit 1 (some [0x61]) 0 none 0 true, .disposeIndex 1, .disposeIndex 1,
    .disposeIndex 2, .disposeUnit 9, .completeAt 2 (some [0x61]) 1 1 true 0 0, .disposeBlock 0,
    .disposeBlock 0, .chunkText 1 0, .disposeString ⟨some 0, 1⟩, .disposeString ⟨some 0, 1⟩,
    .disposeString .null, .createIndex 0 0]

def textScript : Script :=
  { candidates := #[{ availability := 0, priority := 1, chunks := #[(1, .chars "f")] }] }

theorem run_balanced_misuses :
    (textScript.after misuses {}).issued < UInt64.size ∧
    textScript.handedOut misuses {} = [.index 1, .unit 2, .block 0, .text 0, .index 3] ∧
    textScript.settled misuses {} = [.index 1, .block 0, .text 0] ∧
    (textScript.settled misuses {}).Nodup ∧
    (textScript.after misuses {}).stats.invalidDisposals = 5 := by
  have few : (textScript.after misuses {}).issued < UInt64.size := by decide +kernel
  obtain ⟨-, -, -, -, -, -, -, -, once⟩ := run_balanced textScript misuses few
  exact ⟨few, by decide +kernel, by decide +kernel, once, by decide +kernel⟩

end Script
end ClangHost
