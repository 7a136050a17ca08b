import ClangHost.Completion.Observer
import ClangHost.Completion.Results
import ClangHost.Engine.Text

/-!
Completions: the engine is asked once, its block is decoded record by record, and the block is
given back on every way out. The first record that cannot be decoded ends the decoding, and then
no candidate is returned.
-/
namespace ClangHost

structure CompletionRequest where
  file : Bytes
  line : UInt32
  column : UInt32
  raw : Bool
  deriving DecidableEq, Repr

namespace Completion

variable {σ : Type}

def chunkLimit : UInt32 := 0xFFFF

def availabilityTag (raw : Bool) (index : Nat) (value : Int32) : Except Error (Tag Availability) :=
  if raw then .ok (.raw value)
  else match Availability.ofRaw? value with
    | some a => .ok (.named a)
    | none => .error (.schemaMismatch (.availability index value))

def kindTag (raw : Bool) (value : Int32) : Tag ChunkKind :=
  if raw then .raw value else .named (.ofRaw value)

/-- Asks for one chunk of a completion string. A chunk without text has the empty text. -/
def decodeChunk (e : Engine σ) (raw : Bool) (s : Address) (i : Nat) : StateM σ Chunk := do
  let i := UInt32.ofNat i
  let text ← EngineString.take e (← e (.chunkText s i))
  let kind ← e (.chunkKind s i)
  return { text := text.getD "", kind := kindTag raw kind }

/-- Asks for all that a record says. An empty comment counts as none. -/
def decodeRecord (e : Engine σ) (raw : Bool) (index : Nat) (r : CompletionRecord) :
    ExceptT Error (StateM σ) Candidate := do
  if r.string = 0 then throw (.schemaMismatch (.nullString index))
  let availability ← availabilityTag raw index (← e (.availability r.string))
  let priority ← e (.priority r.string)
  let comment ← EngineString.take e (← e (.briefComment r.string))
  let count ← e (.chunkCount r.string)
  if chunkLimit < count then
    throw (.schemaMismatch (.chunkCount index count chunkLimit))
  let chunks ← (List.range count.toNat).mapM fun i =>
    (decodeChunk e raw r.string i : StateM σ Chunk)
  return { availability, priority, comment := comment.filter (!·.isEmpty), chunks }

/-- Decodes all records of a block. A block without records is not looked into. -/
def decodeAll (e : Engine σ) (o : Observer σ) (raw : Bool) (results : Results) :
    ExceptT Error (StateM σ) (List Candidate) := do
  o.onResults results.length
  if results.isEmpty then return []
  let view ← results.records e
  view.toList.zipIdx.mapM fun (r, index) => do
    let c ← decodeRecord e raw index r
    o.onCandidate index c
    return c

def run (e : Engine σ) (o : Observer σ) (unit : Handle) (q : CompletionRequest) :
    ExceptT Error (StateM σ) (List Candidate) := do
  o.onRequest q.file q.line q.column
  let (path, arena) := (Arena.path q.file).run.run .empty
  let path ← path
  let options ← e .defaultOptions
  let block ← e (.completeAt unit (arena.pointer path) q.line q.column true 0 options)
  let results ← Results.acquire block
  let decoded ← ExceptT.lift (decodeAll e o q.raw results).run
  let (disposed, _) ← results.dispose e
  disposed
  o.onDisposed decoded.isOk
  decoded

end Completion
end ClangHost
