import ClangHost.Completion.Records

/-!
The guard of a result block. It holds the block from the moment that the engine hands it out and
gives it back exactly once: at the first `dispose`, or else when the guard is dropped. After that
the guard is empty, and an empty guard makes no engine call.
-/
namespace ClangHost

structure Results where
  block : Option ResultBlock

namespace Results

variable {σ : Type}

def acquire (block : Option ResultBlock) : Except Error Results :=
  if block.isSome then .ok ⟨block⟩ else .error (.invalidHandle .completionResults)

def length (r : Results) : UInt32 := (r.block.map ResultBlock.count).getD 0

def isEmpty (r : Results) : Bool := r.length == 0

/-- The checked view over the records. The engine is asked for its layout each time. -/
def records (e : Engine σ) (r : Results) : ExceptT Error (StateM σ) RecordView := do
  match r.block with
  | none => throw .resultDisposal
  | some block =>
    let layout ← e .recordLayout
    RecordView.make block.base layout block.count.toUInt64 block.record

def release (e : Engine σ) (r : Results) : StateM σ (Bool × Results) := do
  match r.block with
  | none => return (false, r)
  | some block =>
    e (.disposeBlock block.id)
    return (true, ⟨none⟩)

/-- Gives the block back now; an error if that was done before. -/
def dispose (e : Engine σ) (r : Results) : StateM σ (Except Error Unit × Results) := do
  let (held, r) ← r.release e
  return (if held then .ok () else .error .resultDisposal, r)

def drop (e : Engine σ) (r : Results) : StateM σ Unit := discard (r.release e)

end Results
end ClangHost
