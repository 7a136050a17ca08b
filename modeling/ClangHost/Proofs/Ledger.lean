import ClangHost.Engine.Scripted
import Mathlib.Data.List.Perm.Basic

/-!
The books of a scripted engine beside the estate of its callers, that is, beside what they hold of
the engine's. A `Move` is what one or more calls do to both, as long as the callers give back what
they hold and nothing else. The `Ledger` says that the books and the estate agree; moves keep it
(`Move.ledger`) while the counter of handles has not come round.
-/
namespace ClangHost

theorem map_fst_eraseP (texts : List (Nat × Bytes)) (id : Nat) :
    (texts.eraseP fun x => x.1 == id).map Prod.fst = (texts.map Prod.fst).erase id := by
  rw [List.erase_eq_eraseP', List.eraseP_map]
  rfl

structure Estate where
  indexes : List Handle
  units : List Handle
  blocks : List Nat
  texts : List Nat

/-- What disposals depend on. -/
structure Books where
  lastHandle : Handle
  issued : Nat
  indexes : List Handle
  units : List Handle
  built : Nat
  blocks : List Nat
  texts : List Nat
  invalid : Nat

def ScriptState.issued (st : ScriptState) : Nat := st.stats.indexesCreated + st.stats.unitsCreated

def ScriptState.books (st : ScriptState) : Books :=
  { lastHandle := st.lastHandle
    issued := st.issued
    indexes := st.liveIndexes
    units := st.liveUnits
    built := st.blocksBuilt
    blocks := st.liveBlocks
    texts := st.liveStrings.map Prod.fst
    invalid := st.stats.invalidDisposals }

def ScriptState.createBlock (st : ScriptState) : ScriptState :=
  { st with blocksBuilt := st.blocksBuilt + 1, liveBlocks := st.blocksBuilt :: st.liveBlocks }

namespace ScriptState

@[simp]
theorem issued_createIndex (st : ScriptState) : st.createIndex.2.issued = st.issued + 1 :=
  Nat.add_right_comm _ _ _

@[simp]
theorem issued_createUnit (st : ScriptState) : st.createUnit.2.issued = st.issued + 1 := rfl

@[simp]
theorem issued_newString (st : ScriptState) (content : Option Bytes) :
    (st.newString content).2.issued = st.issued := by
  cases content <;> rfl

@[simp]
theorem issued_disposeIndex (st : ScriptState) (h : Handle) :
    (st.disposeIndex h).issued = st.issued := by
  simp only [disposeIndex]
  split <;> rfl

@[simp]
theorem issued_disposeUnit (st : ScriptState) (h : Handle) :
    (st.disposeUnit h).issued = st.issued := by
  simp only [disposeUnit]
  split <;> rfl

@[simp]
theorem issued_disposeBlock (st : ScriptState) (id : Nat) :
    (st.disposeBlock id).issued = st.issued := by
  simp only [disposeBlock]
  split <;> rfl

@[simp]
theorem issued_disposeString (st : ScriptState) (id : Nat) (flags : UInt32) :
    (st.disposeString ⟨some id, flags⟩).issued = st.issued := by
  simp only [disposeString]
  split <;> rfl

end ScriptState

theorem toNat_next_handle {h : Handle} {issued : Nat} (counter : h.toNat = issued)
    (few : issued + 1 < UInt64.size) : (h + 1).toNat = h.toNat + 1 := by
  rw [UInt64.toNat_add, UInt64.toNat_one, counter]
  exact Nat.mod_eq_of_lt few

namespace Estate

def addIndex (h : Handle) (E : Estate) : Estate := { E with indexes := h :: E.indexes }
def addUnit (h : Handle) (E : Estate) : Estate := { E with units := h :: E.units }
def addBlock (id : Nat) (E : Estate) : Estate := { E with blocks := id :: E.blocks }
def addText (id : Nat) (E : Estate) : Estate := { E with texts := id :: E.texts }

structure Perm (E F : Estate) : Prop where
  indexes : E.indexes.Perm F.indexes
  units : E.units.Perm F.units
  blocks : E.blocks.Perm F.blocks
  texts : E.texts.Perm F.texts

protected theorem Perm.refl (E : Estate) : E.Perm E := ⟨.refl _, .refl _, .refl _, .refl _⟩

protected theorem Perm.trans {E F G : Estate} (h : E.Perm F) (k : F.Perm G) : E.Perm G :=
  ⟨h.indexes.trans k.indexes, h.units.trans k.units, h.blocks.trans k.blocks,
    h.texts.trans k.texts⟩

end Estate

/-- What calls do to the estate and to the engine. -/
inductive Move : Estate → ScriptState → Estate → ScriptState → Prop where
  | keep {E st st'} : st'.books = st.books → Move E st E st'
  | sort {E F st} : E.Perm F → Move E st F st
  | openIndex {E st} : Move E st (E.addIndex (st.lastHandle + 1)) st.createIndex.2
  | closeIndex {E st h} : Move (E.addIndex h) st E (st.disposeIndex h)
  | openUnit {E st} : Move E st (E.addUnit (st.lastHandle + 1)) st.createUnit.2
  | closeUnit {E st h} : Move (E.addUnit h) st E (st.disposeUnit h)
  | openBlock {E st} : Move E st (E.addBlock st.blocksBuilt) st.createBlock
  | closeBlock {E st id} : Move (E.addBlock id) st E (st.disposeBlock id)
  | openText {E st bs} : Move E st (E.addText st.stats.stringsCreated) (st.newString (some bs)).2
  | closeText {E st id} (flags : UInt32) : Move (E.addText id) st E
    (st.disposeString ⟨some id, flags⟩)
  | trans {E F G st st' st''} : Move E st F st' → Move F st' G st'' → Move E st G st''

/-- The books and the estate agree. -/
structure Ledger (E : Estate) (b : Books) : Prop where
  indexes : b.indexes.Perm E.indexes
  units : b.units.Perm E.units
  blocks : b.blocks.Perm E.blocks
  texts : b.texts.Perm E.texts
  invalid : b.invalid = 0
  issued : b.lastHandle.toNat = b.issued
  handles_bounded : ∀ h ∈ b.indexes ++ b.units, 0 < h.toNat ∧ h.toNat ≤ b.lastHandle.toNat
  handles_distinct : (b.indexes ++ b.units).Nodup
  blocks_bounded : ∀ id ∈ b.blocks, id < b.built
  blocks_distinct : b.blocks.Nodup

namespace Ledger

variable {E F : Estate} {st : ScriptState}

theorem sort {b : Books} (l : Ledger E b) (same : E.Perm F) : Ledger F b :=
  { l with
    indexes := l.indexes.trans same.indexes
    units := l.units.trans same.units
    blocks := l.blocks.trans same.blocks
    texts := l.texts.trans same.texts }

theorem next_handle {b : Books} (l : Ledger E b) (few : b.issued + 1 < UInt64.size) :
    (b.lastHandle + 1).toNat = b.lastHandle.toNat + 1 ∧
      b.lastHandle + 1 ∉ b.indexes ++ b.units := by
  have next := toNat_next_handle l.issued few
  refine ⟨next, fun held => ?_⟩
  have := (l.handles_bounded _ held).2
  omega

theorem handles_grow {b : Books} (l : Ledger E b) (few : b.issued + 1 < UInt64.size)
    {hs : List Handle} (same : hs.Perm ((b.lastHandle + 1) :: (b.indexes ++ b.units))) :
    (∀ h ∈ hs, 0 < h.toNat ∧ h.toNat ≤ (b.lastHandle + 1).toNat) ∧ hs.Nodup := by
  obtain ⟨next, new⟩ := l.next_handle few
  constructor
  · intro h hh
    rcases List.mem_cons.mp (same.mem_iff.mp hh) with rfl | old
    · omega
    · have := l.handles_bounded h old
      omega
  · rw [same.nodup_iff]
    exact List.nodup_cons.mpr ⟨new, l.handles_distinct⟩

theorem handles_shrink {b : Books} (l : Ledger E b) {hs : List Handle}
    (fewer : hs.Sublist (b.indexes ++ b.units)) :
    (∀ h ∈ hs, 0 < h.toNat ∧ h.toNat ≤ b.lastHandle.toNat) ∧ hs.Nodup :=
  ⟨fun h hh => l.handles_bounded h (fewer.subset hh), l.handles_distinct.sublist fewer⟩

theorem openIndex (l : Ledger E st.books) (few : st.createIndex.2.issued < UInt64.size) :
    Ledger (E.addIndex (st.lastHandle + 1)) st.createIndex.2.books := by
  have count := st.issued_createIndex
  rw [count] at few
  obtain ⟨bounded, distinct⟩ := l.handles_grow few (.refl _)
  exact
    { l with
      indexes := l.indexes.cons _
      issued := by
        rw [show st.createIndex.2.books.issued = _ from count]
        exact (l.next_handle few).1.trans (congrArg (· + 1) l.issued)
      handles_bounded := bounded
      handles_distinct := distinct }

theorem openUnit (l : Ledger E st.books) (few : st.createUnit.2.issued < UInt64.size) :
    Ledger (E.addUnit (st.lastHandle + 1)) st.createUnit.2.books := by
  have count := st.issued_createUnit
  rw [count] at few
  obtain ⟨bounded, distinct⟩ := l.handles_grow few List.perm_middle
  exact
    { l with
      units := l.units.cons _
      issued := by
        rw [show st.createUnit.2.books.issued = _ from count]
        exact (l.next_handle few).1.trans (congrArg (· + 1) l.issued)
      handles_bounded := bounded
      handles_distinct := distinct }

theorem closeIndex {h : Handle} (l : Ledger (E.addIndex h) st.books) :
    Ledger E (st.disposeIndex h).books := by
  have live : h ∈ st.liveIndexes := l.indexes.mem_iff.mpr List.mem_cons_self
  rw [ScriptState.disposeIndex, if_pos live]
  obtain ⟨bounded, distinct⟩ := l.handles_shrink
    ((List.erase_sublist (l := st.liveIndexes) (a := h)).append_right st.liveUnits)
  exact
    { l with
      indexes := (l.indexes.erase h).trans (by simp [Estate.addIndex])
      handles_bounded := bounded
      handles_distinct := distinct }

theorem closeUnit {h : Handle} (l : Ledger (E.addUnit h) st.books) :
    Ledger E (st.disposeUnit h).books := by
  have live : h ∈ st.liveUnits := l.units.mem_iff.mpr List.mem_cons_self
  rw [ScriptState.disposeUnit, if_pos live]
  obtain ⟨bounded, distinct⟩ := l.handles_shrink
    ((List.erase_sublist (l := st.liveUnits) (a := h)).append_left st.liveIndexes)
  exact
    { l with
      units := (l.units.erase h).trans (by simp [Estate.addUnit])
      handles_bounded := bounded
      handles_distinct := distinct }

theorem openBlock (l : Ledger E st.books) :
    Ledger (E.addBlock st.blocksBuilt) st.createBlock.books :=
  { l with
    blocks := l.blocks.cons _
    blocks_bounded := by
      intro id hid
      rcases List.mem_cons.mp hid with rfl | old
      · exact Nat.lt_succ_self _
      · exact Nat.lt_succ_of_lt (l.blocks_bounded id old)
    blocks_distinct := by
      refine List.nodup_cons.mpr ⟨fun held => ?_, l.blocks_distinct⟩
      exact Nat.lt_irrefl _ (l.blocks_bounded _ held) }

theorem closeBlock {id : Nat} (l : Ledger (E.addBlock id) st.books) :
    Ledger E (st.disposeBlock id).books := by
  have live : id ∈ st.liveBlocks := l.blocks.mem_iff.mpr List.mem_cons_self
  rw [ScriptState.disposeBlock, if_pos live]
  exact
    { l with
      blocks := (l.blocks.erase id).trans (by simp [Estate.addBlock])
      blocks_bounded := fun k hk => l.blocks_bounded k (List.mem_of_mem_erase hk)
      blocks_distinct := l.blocks_distinct.erase id }

theorem openText {bs : Bytes} (l : Ledger E st.books) :
    Ledger (E.addText st.stats.stringsCreated) (st.newString (some bs)).2.books :=
  { l with texts := l.texts.cons _ }

theorem closeText {id : Nat} {flags : UInt32} (l : Ledger (E.addText id) st.books) :
    Ledger E (st.disposeString ⟨some id, flags⟩).books := by
  have live : id ∈ st.liveStrings.map Prod.fst := l.texts.mem_iff.mpr List.mem_cons_self
  have found : (st.liveStrings.any fun x => x.1 == id) = true := by
    obtain ⟨x, hx, same⟩ := List.mem_map.mp live
    exact List.any_eq_true.mpr ⟨x, hx, by simp [same]⟩
  simp only [ScriptState.disposeString, found, if_true]
  exact
    { l with
      texts := by
        change ((st.liveStrings.eraseP fun x => x.1 == id).map Prod.fst).Perm E.texts
        rw [map_fst_eraseP]
        exact (l.texts.erase id).trans (by simp [Estate.addText]) }

end Ledger

namespace Move

variable {E F : Estate} {st st' : ScriptState}

theorem issued_le (m : Move E st F st') : st.issued ≤ st'.issued := by
  induction m with
  | keep same => exact Nat.le_of_eq (congrArg Books.issued same).symm
  | sort _ => exact Nat.le_refl _
  | openIndex => simp
  | closeIndex => simp
  | openUnit => simp
  | closeUnit => simp
  | openBlock => exact Nat.le_refl _
  | closeBlock => simp
  | openText => simp
  | closeText _ => simp
  | trans _ _ first second => exact Nat.le_trans first second

-- Handles only ever grow in number, so the bound at the end is one for every move before.
theorem ledger (m : Move E st F st') (few : st'.issued < UInt64.size) (l : Ledger E st.books) :
    Ledger F st'.books := by
  induction m with
  | keep same => rwa [same]
  | sort same => exact l.sort same
  | openIndex => exact l.openIndex few
  | closeIndex => exact l.closeIndex
  | openUnit => exact l.openUnit few
  | closeUnit => exact l.closeUnit
  | openBlock => exact l.openBlock
  | closeBlock => exact l.closeBlock
  | openText => exact l.openText
  | closeText _ => exact l.closeText
  | trans _ second first_ih second_ih =>
    exact second_ih few (first_ih (Nat.lt_of_le_of_lt second.issued_le few) l)

end Move

end ClangHost
