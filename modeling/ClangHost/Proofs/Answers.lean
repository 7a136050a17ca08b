import ClangHost.Proofs.Watch

/-!
What an engine may answer during one completion, apart from any engine: the answers are plain
data, and from them follow the exchanges that are made, what is wrong with a record, the
candidate that a sound record stands for, and all that happens on the way (`Answers.history`).
-/
namespace ClangHost

open Completion (kindTag)

variable {σ : Type}

structure TextAnswers where
  text : EngineString
  content : CString

structure ChunkAnswers where
  text : TextAnswers
  kind : Int32

structure RecordAnswers where
  availability : Int32
  priority : UInt32
  comment : TextAnswers
  chunkCount : UInt32
  chunk : Nat → ChunkAnswers

structure Answers where
  options : UInt32
  block : Option ResultBlock
  layout : RecordLayout
  record : Nat → RecordAnswers

namespace TextAnswers

def exchanges (x : TextAnswers) : List Exchange :=
  [⟨.cString x.text, x.content⟩, ⟨.disposeString x.text, ()⟩]

def GivenBy (e : Engine σ) (ask : StateM σ EngineString) (x : TextAnswers) : Prop :=
  ∃ s, x.text = (ask s).1 ∧ x.content = (e (.cString x.text) (ask s).2).1

end TextAnswers

namespace ChunkAnswers

def exchanges (string : Address) (i : Nat) (x : ChunkAnswers) : List Exchange :=
  ⟨.chunkText string (.ofNat i), x.text.text⟩ ::
    (x.text.exchanges ++ [⟨.chunkKind string (.ofNat i), x.kind⟩])

def chunk (raw : Bool) (x : ChunkAnswers) : Chunk :=
  { text := (CString.text? x.text.content).getD "", kind := kindTag raw x.kind }

def GivenBy (e : Engine σ) (string : Address) (i : Nat) (x : ChunkAnswers) : Prop :=
  x.text.GivenBy e (e (.chunkText string (.ofNat i))) ∧
    ∃ s, x.kind = (e (.chunkKind string (.ofNat i)) s).1

end ChunkAnswers

def Availability.Unknown (value : Int32) : Prop := value < 0 ∨ 3 < value

instance (value : Int32) : Decidable (Availability.Unknown value) :=
  inferInstanceAs (Decidable (value < 0 ∨ 3 < value))

namespace RecordAnswers

/-- The first check that a record fails: its string, its label where one is wanted, and the
number of its chunks. -/
def fault? (raw : Bool) (i : Nat) (r : CompletionRecord) (x : RecordAnswers) :
    Option SchemaFault :=
  if r.string = 0 then some (.nullString i)
  else if raw = false ∧ Availability.Unknown x.availability then
    some (.availability i x.availability)
  else if 0xFFFF < x.chunkCount then some (.chunkCount i x.chunkCount 0xFFFF)
  else none

def exchanges (raw : Bool) (r : CompletionRecord) (x : RecordAnswers) : List Exchange :=
  if r.string = 0 then []
  else ⟨.availability r.string, x.availability⟩ ::
    if raw = false ∧ Availability.Unknown x.availability then []
    else ⟨.priority r.string, x.priority⟩ :: ⟨.briefComment r.string, x.comment.text⟩ ::
      (x.comment.exchanges ++ ⟨.chunkCount r.string, x.chunkCount⟩ ::
        if 0xFFFF < x.chunkCount then []
        else (List.range x.chunkCount.toNat).flatMap fun i => (x.chunk i).exchanges r.string i)

def candidate (raw : Bool) (x : RecordAnswers) : Candidate :=
  { availability :=
      if raw then .raw x.availability
      else .named ((Availability.ofRaw? x.availability).getD .available)
    priority := x.priority
    comment := (CString.text? x.comment.content).filter (!·.isEmpty)
    chunks := (List.range x.chunkCount.toNat).map fun i => (x.chunk i).chunk raw }

def outcome (raw : Bool) (i : Nat) (r : CompletionRecord) (x : RecordAnswers) :
    Except Error Candidate :=
  match x.fault? raw i r with
  | some f => .error (.schemaMismatch f)
  | none => .ok (x.candidate raw)

structure GivenBy (e : Engine σ) (string : Address) (x : RecordAnswers) : Prop where
  availability : ∃ s, x.availability = (e (.availability string) s).1
  priority : ∃ s, x.priority = (e (.priority string) s).1
  comment : x.comment.GivenBy e (e (.briefComment string))
  chunkCount : ∃ s, x.chunkCount = (e (.chunkCount string) s).1
  chunk : ∀ i, (x.chunk i).GivenBy e string i

end RecordAnswers

/-- Can the records of a block be read? Their layout is the host's, and they stand at an aligned
place. -/
def ResultBlock.Readable (b : ResultBlock) (l : RecordLayout) : Prop :=
  l = .host ∧ b.base ≠ 0 ∧ b.base % 8 = 0

instance (b : ResultBlock) (l : RecordLayout) : Decidable (b.Readable l) :=
  inferInstanceAs (Decidable (l = .host ∧ b.base ≠ 0 ∧ b.base % 8 = 0))

namespace Answers

/-- The records that are looked at: all up to and including the first bad one. -/
def visited (raw : Bool) (b : ResultBlock) (a : Answers) : List Nat :=
  upToFirst (fun i => ((a.record i).fault? raw i (b.record i)).isSome) (List.range b.count.toNat)

def decoding (raw : Bool) (b : ResultBlock) (a : Answers) : List Exchange :=
  if b.count = 0 then []
  else ⟨.recordLayout, a.layout⟩ ::
    if b.Readable a.layout then
      (a.visited raw b).flatMap fun i => (a.record i).exchanges raw (b.record i)
    else []

def exchanges (unit : Handle) (q : CompletionRequest) (a : Answers) : List Exchange :=
  if 0 ∈ q.file then []
  else ⟨.defaultOptions, a.options⟩ ::
    ⟨.completeAt unit (some q.file) q.line q.column true 0 a.options, a.block⟩ ::
    match a.block with
    | none => []
    | some b => a.decoding q.raw b ++ [⟨.disposeBlock b.id, ()⟩]

def decoded (raw : Bool) (b : ResultBlock) (a : Answers) : Except Error (List Candidate) :=
  if b.count = 0 then .ok []
  else match RecordView.check b.base a.layout b.count.toUInt64 with
    | .error f => .error (.schemaMismatch f)
    | .ok () => (List.range b.count.toNat).mapM fun i => (a.record i).outcome raw i (b.record i)

def outcome (q : CompletionRequest) (a : Answers) : Except Error (List Candidate) :=
  if 0 ∈ q.file then .error (.allocation (shown q.file) .nulInPath)
  else match a.block with
    | none => .error (.invalidHandle .completionResults)
    | some b => a.decoded q.raw b

end Answers

theorem nulOffset?_eq_none_iff (bs : Bytes) : nulOffset? bs = none ↔ 0 ∉ bs := by
  simp only [nulOffset?, List.findIdx?_eq_none_iff, beq_eq_false_iff_ne, ne_eq]
  constructor
  · intro h hz
    exact h 0 hz rfl
  · intro h b hb hz
    exact h (hz ▸ hb)

namespace Availability

theorem ofRaw?_eq_none_iff (value : Int32) : ofRaw? value = none ↔ Unknown value := by
  simp only [ofRaw?, Unknown, Int32.lt_iff_toInt_lt]
  have zero : (0 : Int32).toInt = 0 := rfl
  have three : (3 : Int32).toInt = 3 := rfl
  have length : all.length = 4 := rfl
  rw [zero, three]
  split
  · simp [*]
  · rw [List.getElem?_eq_none_iff, length]
    omega

end Availability

namespace ResultBlock

/-- The checks of the view over a block's records that is not empty. So many records as a block
can report fit into the address space. -/
theorem check_eq (b : ResultBlock) (l : RecordLayout) (some_records : b.count ≠ 0) :
    RecordView.check b.base l b.count.toUInt64 =
      match l.check with
      | .error f => .error f
      | .ok _ =>
        if b.base = 0 then .error (.nullRecords b.count.toUInt64)
        else if b.base % 8 ≠ 0 then .error (.misaligned b.base 8)
        else .ok () := by
  have count : b.count.toUInt64 ≠ 0 := by
    intro h
    apply some_records
    have := congrArg UInt64.toNat h
    exact UInt32.toNat_inj.mp (by simpa using this)
  have small : ¬ RecordView.addressable < b.count.toUInt64.toNat * 16 := by
    have := b.count.toNat_lt
    simp only [RecordView.addressable, UInt32.toNat_toUInt64]
    omega
  simp only [RecordView.check, if_neg count, bind, Except.bind]
  cases layout : l.check with
  | error f => rfl
  | ok u =>
    have same : l = .host := (RecordLayout.check_eq_ok_iff l).mp layout
    subst same
    have size : RecordLayout.host.size.toNat = 16 := rfl
    have align : RecordLayout.host.align = 8 := rfl
    simp only [RecordView.checkPlace, size, align, if_neg small]

theorem check_eq_ok_iff (b : ResultBlock) (l : RecordLayout) (some_records : b.count ≠ 0) :
    RecordView.check b.base l b.count.toUInt64 = .ok () ↔ b.Readable l := by
  rw [check_eq b l some_records, Readable, ← RecordLayout.check_eq_ok_iff]
  cases l.check with
  | error f => simp
  | ok _ =>
    by_cases null : b.base = 0
    · simp [null]
    · by_cases aligned : b.base % 8 = 0 <;> simp [null, aligned]

end ResultBlock

def Call.LeavesBlocks : Call → Prop
  | .completeAt _ _ _ _ _ _ _ => False
  | .disposeBlock _ => False
  | _ => True

def Exchange.blockOut? : Exchange → Option Nat
  | ⟨.completeAt _ _ _ _ _ _ _, block⟩ => block.map ResultBlock.id
  | _ => none

def Exchange.blockBack? : Exchange → Option Nat
  | ⟨.disposeBlock id, _⟩ => some id
  | _ => none

theorem Call.LeavesBlocks.blockOut? {x : Exchange} (leaves : x.call.LeavesBlocks) :
    x.blockOut? = none := by
  obtain ⟨call, answer⟩ := x
  cases call <;> first | rfl | exact leaves.elim

theorem Call.LeavesBlocks.blockBack? {x : Exchange} (leaves : x.call.LeavesBlocks) :
    x.blockBack? = none := by
  obtain ⟨call, answer⟩ := x
  cases call <;> first | rfl | exact leaves.elim

theorem TextAnswers.leaves_blocks (x : TextAnswers) : ∀ y ∈ x.exchanges, y.call.LeavesBlocks := by
  simp [exchanges, Call.LeavesBlocks]

theorem ChunkAnswers.leaves_blocks (string : Address) (i : Nat) (x : ChunkAnswers) :
    ∀ y ∈ x.exchanges string i, y.call.LeavesBlocks := by
  simp only [exchanges, List.forall_mem_cons, List.forall_mem_append]
  exact ⟨trivial, x.text.leaves_blocks, trivial, by simp⟩

namespace RecordAnswers

theorem leaves_blocks (raw : Bool) (r : CompletionRecord) (x : RecordAnswers) :
    ∀ y ∈ x.exchanges raw r, y.call.LeavesBlocks := by
  have chunks : ∀ n, ∀ y ∈ (List.range n).flatMap fun i => (x.chunk i).exchanges r.string i,
      y.call.LeavesBlocks := by
    intro n y hy
    obtain ⟨i, _, hy⟩ := List.mem_flatMap.mp hy
    exact (x.chunk i).leaves_blocks r.string i y hy
  rw [exchanges]
  split
  · simp
  simp only [List.forall_mem_cons]
  refine ⟨trivial, ?_⟩
  split
  · simp
  simp only [List.forall_mem_cons, List.forall_mem_append]
  refine ⟨trivial, trivial, x.comment.leaves_blocks, trivial, ?_⟩
  split
  · simp
  · exact chunks _

theorem isOk_outcome (raw : Bool) (i : Nat) (r : CompletionRecord) (x : RecordAnswers) :
    (x.outcome raw i r).isOk = (x.fault? raw i r).isNone := by
  simp only [outcome]
  split
  · rename_i h; rw [h]; rfl
  · rename_i h; rw [h]; rfl

def history (raw : Bool) (i : Nat) (r : CompletionRecord) (x : RecordAnswers) : History :=
  (x.exchanges raw r).map .asked ++
    if (x.fault? raw i r).isSome then [] else [.told (.candidate i (x.candidate raw))]

end RecordAnswers

namespace Answers

def decodingHistory (raw : Bool) (b : ResultBlock) (a : Answers) : History :=
  .told (.results b.count) ::
    if b.count = 0 then []
    else .asked ⟨.recordLayout, a.layout⟩ ::
      if b.Readable a.layout then
        (a.visited raw b).flatMap fun i => (a.record i).history raw i (b.record i)
      else []

def history (unit : Handle) (q : CompletionRequest) (a : Answers) : History :=
  .told (.request q.file q.line q.column) ::
    if 0 ∈ q.file then []
    else .asked ⟨.defaultOptions, a.options⟩ ::
      .asked ⟨.completeAt unit (some q.file) q.line q.column true 0 a.options, a.block⟩ ::
      match a.block with
      | none => []
      | some b => a.decodingHistory q.raw b ++
          [.asked ⟨.disposeBlock b.id, ()⟩, .told (.disposed (a.decoded q.raw b).isOk)]

theorem exchanges_decodingHistory (raw : Bool) (b : ResultBlock) (a : Answers) :
    (a.decodingHistory raw b).exchanges = a.decoding raw b := by
  have visit : ∀ i, ((a.record i).history raw i (b.record i)).exchanges =
      (a.record i).exchanges raw (b.record i) := by
    intro i
    rw [RecordAnswers.history]
    split <;> simp
  rw [Answers.decodingHistory, Answers.decoding]
  split
  · rfl
  · split
    · simp [History.exchanges_flatMap, visit]
    · rfl

theorem exchanges_history (a : Answers) (unit : Handle) (q : CompletionRequest) :
    (a.history unit q).exchanges = a.exchanges unit q := by
  rw [Answers.history, Answers.exchanges]
  split
  · rfl
  · cases a.block with
    | none => rfl
    | some b => simp [exchanges_decodingHistory]

theorem leaves_blocks (raw : Bool) (b : ResultBlock) (a : Answers) :
    ∀ x ∈ a.decoding raw b, x.call.LeavesBlocks := by
  rw [decoding]
  split
  · simp
  · split
    · intro x hx
      rcases List.mem_cons.mp hx with rfl | hx
      · trivial
      · obtain ⟨i, _, hx⟩ := List.mem_flatMap.mp hx
        exact (a.record i).leaves_blocks raw (b.record i) x hx
    · simp [Call.LeavesBlocks]

theorem keeps_block (raw : Bool) (b : ResultBlock) (a : Answers) :
    ∀ x ∈ a.decoding raw b, ∀ id, x.call ≠ .disposeBlock id := by
  intro x hx id given_back
  have left := a.leaves_blocks raw b x hx
  rw [given_back] at left
  exact left

/-- A completion gives back the block that it is answered with, and no other. -/
theorem blocks_return (unit : Handle) (q : CompletionRequest) (a : Answers) :
    (a.exchanges unit q).filterMap Exchange.blockBack? =
      (a.exchanges unit q).filterMap Exchange.blockOut? := by
  rw [exchanges]
  split
  · rfl
  cases a.block with
  | none => rfl
  | some b =>
    have read := a.leaves_blocks q.raw b
    have out := List.filterMap_eq_nil_iff.mpr fun x hx => (read x hx).blockOut?
    have back := List.filterMap_eq_nil_iff.mpr fun x hx => (read x hx).blockBack?
    have given : Exchange.blockBack? ⟨.disposeBlock b.id, ()⟩ = some b.id := rfl
    have asked : Exchange.blockOut? ⟨.disposeBlock b.id, ()⟩ = none := rfl
    have options : Exchange.blockBack? ⟨.defaultOptions, a.options⟩ = none ∧
      Exchange.blockOut? ⟨.defaultOptions, a.options⟩ = none := ⟨rfl, rfl⟩
    have completed : Exchange.blockBack?
        ⟨.completeAt unit (some q.file) q.line q.column true 0 a.options, some b⟩ = none ∧
      Exchange.blockOut?
        ⟨.completeAt unit (some q.file) q.line q.column true 0 a.options, some b⟩ = some b.id :=
      ⟨rfl, rfl⟩
    simp [out, back, given, asked, options, completed]

end Answers
end ClangHost
