import ClangHost.Host

/-!
Sessions: runs of host operations over things that are held by number. What an operation makes
takes the next free number of its kind; a number whose thing was dropped stays empty. An index
cannot be dropped while units that were parsed in it are held. At the end all that is still held
is dropped: result guards first, then units, then indexes.
-/
namespace ClangHost

/-- What is held, by number. A unit remembers the index that it was parsed in. -/
structure Session where
  indexes : Array (Option Index) := #[]
  units : Array (Option (TranslationUnit × Nat)) := #[]
  results : Array (Option Results) := #[]

inductive StepFault where
  | host (e : Error)
  | nothingHeld
  | borrowed
  | nullString
  deriving DecidableEq, Repr

abbrev SessionM (σ : Type) := ExceptT StepFault (StateT Session (StateM σ))

namespace Session

variable {σ υ : Type}

/-- Who is told about a completion: the host's sink, or an observer with states of its own. -/
inductive Watcher (υ : Type) where
  | tracing
  | own (o : Observer υ)

inductive Step (υ : Type) where
  | newIndex (excludePch displayDiagnostics : Bool)
  | configIndex (c : EngineConfig)
  | wrapIndex (raw : Handle)
  | dropIndex (index : Nat)
  | parseSource (index : Nat) (file : Bytes) (args : List String)
  | parse (index : Nat) (file : Bytes) (args : List String) (unsaved : List UnsavedFile)
      (flags : ParseFlags)
  | dropUnit (unit : Nat)
  | cursor (unit : Nat)
  | sameCursor (a b : Nat)
  | complete (unit : Nat) (q : CompletionRequest)
  | completeWith (unit : Nat) (file : Bytes) (line column : UInt32) (c : CompletionConfig)
      (watcher : Watcher υ)
  | acquire
  | resultsLength (results : Nat)
  | resultsRecords (results : Nat)
  | resultsAt (results : Nat) (i : Nat)
  | disposeResults (results : Nat)
  | dropResults (results : Nat)

inductive Reply where
  | done
  | index (number : Nat) (i : Index)
  | unit (number : Nat) (u : TranslationUnit)
  | cursor (c : CursorHandle)
  | verdict (b : Bool)
  | candidates (cs : List Candidate)
  | results (number : Nat)
  | size (length : UInt32) (isEmpty : Bool)
  | records (v : RecordView)
  | record (r : Option CompletionRecord)

def host {α : Type} (x : HostM σ α) : SessionM σ α := do
  match ← (x.run : StateM σ (Except Error α)) with
  | .ok a => return a
  | .error e => throw (.host e)

def held {α : Type} (things : Array (Option α)) (number : Nat) : SessionM σ α :=
  match things[number]? with
  | some (some a) => return a
  | _ => throw .nothingHeld

def addIndex (i : Index) : SessionM σ Reply := do
  let number := (← get).indexes.size
  modify fun s => { s with indexes := s.indexes.push (some i) }
  return .index number i

def addUnit (index : Nat) (u : TranslationUnit) : SessionM σ Reply := do
  let number := (← get).units.size
  modify fun s => { s with units := s.units.push (some (u, index)) }
  return .unit number u

def addResults (r : Results) : SessionM σ Reply := do
  let number := (← get).results.size
  modify fun s => { s with results := s.results.push (some r) }
  return .results number

def hasIndex (s : Session) (index : Nat) : Bool := (s.indexes.getD index none).isSome

def lends (s : Session) (index : Nat) : Bool :=
  s.units.any fun u => u.any fun u => u.2 == index

def looseBlock (e : Engine σ) : StateM σ (Option ResultBlock) :=
  e (.completeAt 1 (some (Utf8.encode ['a', '.', 'c'])) 0 0 true 0 0)

def observer (h : Host σ) (act : StateM υ Unit → StateM σ Unit) : Watcher υ → Observer σ
  | .tracing => .tracing h.sink
  | .own o => o.within act

def step (h : Host σ) (act : StateM υ Unit → StateM σ Unit) : Step υ → SessionM σ Reply
  | .newIndex excludePch displayDiagnostics => do
    addIndex (← host (Index.create h excludePch displayDiagnostics))
  | .configIndex c => do addIndex (← host (Index.ofConfig h c))
  | .wrapIndex raw => do addIndex (← host (σ := σ) (Index.ofRaw raw))
  | .dropIndex number => do
    let i ← held (← get).indexes number
    if lends (← get) number then throw .borrowed
    i.drop h.engine
    modify fun s => { s with indexes := s.indexes.setIfInBounds number none }
    return .done
  | .parseSource index file args => do
    let i ← held (← get).indexes index
    addUnit index (← host (TranslationUnit.ofSource h i file args))
  | .parse index file args unsaved flags => do
    let i ← held (← get).indexes index
    addUnit index (← host (TranslationUnit.parse h i file args unsaved flags))
  | .dropUnit number => do
    let (u, _) ← held (← get).units number
    u.drop h.engine
    modify fun s => { s with units := s.units.setIfInBounds number none }
    return .done
  | .cursor unit => do
    let (u, _) ← held (← get).units unit
    return .cursor (← host (u.cursor h.engine))
  | .sameCursor a b => do
    let (u, _) ← held (← get).units a
    let x ← host (u.cursor h.engine)
    let (v, _) ← held (← get).units b
    let y ← host (v.cursor h.engine)
    return .verdict (x == y)
  | .complete unit q => do
    let (u, _) ← held (← get).units unit
    return .candidates (← host (u.completeAt h q))
  | .completeWith unit file line column c watcher => do
    let (u, _) ← held (← get).units unit
    return .candidates (← host
      (u.completeWith h.engine file line column c (observer h act watcher)))
  | .acquire => do
    let block ← (looseBlock h.engine : StateM σ (Option ResultBlock))
    addResults (← host (σ := σ) (Results.acquire block))
  | .resultsLength number => do
    let r ← held (← get).results number
    return .size r.length r.isEmpty
  | .resultsRecords number => do
    let r ← held (← get).results number
    return .records (← host (r.records h.engine))
  | .resultsAt number i => do
    let r ← held (← get).results number
    return .record ((← host (r.records h.engine)).get? i)
  | .disposeResults number => do
    let r ← held (← get).results number
    let (outcome, r) ← (r.dispose h.engine : StateM σ (Except Error Unit × Results))
    modify fun s => { s with results := s.results.setIfInBounds number (some r) }
    host (σ := σ) outcome
    return .done
  | .dropResults number => do
    let r ← held (← get).results number
    r.drop h.engine
    modify fun s => { s with results := s.results.setIfInBounds number none }
    return .done

/-- Drops all that is held: guards, then units, then indexes, each in the order of their
numbers. -/
def close (e : Engine σ) (s : Session) : StateM σ Unit := do
  s.results.toList.reduceOption.forM fun r => r.drop e
  s.units.toList.reduceOption.forM fun u => u.1.drop e
  s.indexes.toList.reduceOption.forM fun i => i.drop e

end Session
end ClangHost
