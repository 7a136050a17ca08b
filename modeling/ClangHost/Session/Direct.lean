import ClangHost.Session.Basic

/-!
Engine entry points called directly, past the host's own guards. Blocks and texts that come out
of such calls are numbered in order and stay nameable after they were given back, so that they
can be given back once more. What a block showed stays known too: it was read when it came.
-/
namespace ClangHost

structure Direct where
  blocks : Array ResultBlock := #[]
  strings : Array EngineString := #[]

namespace Direct

abbrev DirectM (σ : Type) := ExceptT StepFault (StateT Direct (StateM σ))

variable {σ : Type}

inductive Step where
  | createIndex (a b : Int32)
  | disposeIndex (raw : Handle)
  | disposeUnit (raw : Handle)
  | createUnit (index : Handle) (source : CString) (argCount : Int32)
      (args : Option (List CString)) (unsavedCount : UInt32) (unsavedNull : Bool)
  | parseUnit (index : Handle) (source : CString) (args : Option (List CString))
      (argCount : Int32) (unsavedNull : Bool) (unsavedCount : UInt32) (options : UInt32)
  | unitCursor (unit : Handle)
  | defaultOptions
  | layout
  | complete (unit : Handle) (file : CString) (line column : UInt32) (unsavedNull : Bool)
      (unsavedCount : UInt32) (options : UInt32)
  | disposeBlock (block : Nat)
  | info (block record : Nat)
  | comment (block record : Nat)
  | chunk (block record : Nat) (chunk : UInt32)
  | disposeString (string : Nat)
  | takeComment (block record : Nat)
  | takeChunk (block record : Nat) (chunk : UInt32)
  | takeNull
  deriving DecidableEq, Repr

inductive Reply where
  | done
  | handle (h : Handle)
  | unit (h : Handle)
  | cursor (c : CursorHandle)
  | options (o : UInt32)
  | layout (l : RecordLayout)
  | block (numbered : Option (Nat × ResultBlock))
  | info (availability : Int32) (priority chunks : UInt32)
  | string (number : Nat) (flags : UInt32) (content : CString) (kind : Option Int32)
  | text (s : Option String)

def block (number : Nat) : DirectM σ ResultBlock := do
  match (← get).blocks[number]? with
  | some b => return b
  | none => throw .nothingHeld

def completionString (number i : Nat) : DirectM σ Address := do
  let b ← block number
  if b.base = 0 || b.count.toNat ≤ i then throw .nothingHeld
  if (b.record i).string = 0 then throw .nullString
  return (b.record i).string

def addString (e : Engine σ) (s : EngineString) (kind : Option Int32) : DirectM σ Reply := do
  let number := (← get).strings.size
  modify fun d => { d with strings := d.strings.push s }
  return .string number s.flags (← e (.cString s)) kind

def step (e : Engine σ) : Step → DirectM σ Reply
  | .createIndex a b => return .handle (← e (.createIndex a b))
  | .disposeIndex raw => do
    e (.disposeIndex raw)
    return .done
  | .disposeUnit raw => do
    e (.disposeUnit raw)
    return .done
  | .createUnit i s n a u z => return .unit (← e (.createUnit i s n a u z))
  | .parseUnit i s a n z u o => return .unit (← e (.parseUnit i s a n z u o))
  | .unitCursor unit => return .cursor (← e (.unitCursor unit))
  | .defaultOptions => return .options (← e .defaultOptions)
  | .layout => return .layout (← e .recordLayout)
  | .complete h f l c z u o => do
    match ← (e (.completeAt h f l c z u o) : StateM σ (Option ResultBlock)) with
    | none => return .block none
    | some b =>
      let number := (← get).blocks.size
      modify fun d => { d with blocks := d.blocks.push b }
      return .block (some (number, b))
  | .disposeBlock number => do
    let b ← block number
    e (.disposeBlock b.id)
    return .done
  | .info number i => do
    let s ← completionString number i
    let availability ← e (.availability s)
    let priority ← e (.priority s)
    let chunks ← e (.chunkCount s)
    return .info availability priority chunks
  | .comment number i => do
    let s ← completionString number i
    addString e (← e (.briefComment s)) none
  | .chunk number i place => do
    let s ← completionString number i
    let text ← e (.chunkText s place)
    let kind ← e (.chunkKind s place)
    addString e text (some kind)
  | .disposeString number => do
    match (← get).strings[number]? with
    | none => throw .nothingHeld
    | some s =>
      e (.disposeString s)
      return .done
  | .takeComment number i => do
    let s ← completionString number i
    return .text (← EngineString.take e (← e (.briefComment s)))
  | .takeChunk number i place => do
    let s ← completionString number i
    return .text (← EngineString.take e (← e (.chunkText s place)))
  | .takeNull => return .text (← EngineString.take e .null)

end Direct
end ClangHost
