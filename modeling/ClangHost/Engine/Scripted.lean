import ClangHost.Completion.Records
import ClangHost.Engine.Text

/-!
An engine that answers from a script. It keeps books of every handle, block and text that it
hands out and takes back, so that a leak or a second disposal shows in its counters. Main
statements: a disposal of something that is not live only counts as invalid
(`disposeIndex_stale`, `disposeUnit_stale`, `disposeBlock_stale`).
-/
namespace ClangHost

/-- A text of a script. One given as characters cannot hold a NUL and is null if it does; one
given as bytes ends at its first NUL. -/
inductive ScriptText where
  | chars (s : String)
  | bytes (bs : Bytes)
  deriving DecidableEq, Repr

def ScriptText.content? : ScriptText → Option Bytes
  | .chars s =>
    let bs := Utf8.encode s.toList
    if (nulOffset? bs).isSome then none else some bs
  | .bytes bs => some (untilNul bs)

structure ScriptedCandidate where
  availability : Int32
  priority : UInt32
  comment : Option ScriptText := none
  chunks : Array (Int32 × ScriptText) := #[]
  nullString : Bool := false
  /-- A count of chunks other than the true one. -/
  reportedChunks : Option UInt32 := none
  deriving Repr

structure Script where
  candidates : Array ScriptedCandidate := #[]
  layout : RecordLayout := .host
  defaultOptions : UInt32 := 1
  failParse : Bool := false
  nullCursor : Bool := false
  nullResults : Bool := false
  nullIndex : Bool := false
  /-- Blocks keep their count but show no record array. -/
  nullRecords : Bool := false

structure ParseRecord where
  source : String
  args : List String
  options : Option UInt32
  unsavedCount : UInt32
  unsavedNull : Bool
  deriving DecidableEq, Repr

structure CompletionCall where
  file : String
  line : UInt32
  column : UInt32
  options : UInt32
  unsavedCount : UInt32
  unsavedNull : Bool
  deriving DecidableEq, Repr

structure EngineStats where
  indexesCreated : Nat := 0
  indexesDisposed : Nat := 0
  unitsCreated : Nat := 0
  unitsDisposed : Nat := 0
  cursorQueries : Nat := 0
  completionRequests : Nat := 0
  resultsDisposed : Nat := 0
  invalidDisposals : Nat := 0
  stringsCreated : Nat := 0
  stringsDisposed : Nat := 0
  deriving DecidableEq, Repr

/-- The books of a scripted engine. Sessions and units share one counter of handles. -/
structure ScriptState where
  lastHandle : Handle := 0
  liveIndexes : List Handle := []
  liveUnits : List Handle := []
  blocksBuilt : Nat := 0
  liveBlocks : List Nat := []
  liveStrings : List (Nat × Bytes) := []
  stats : EngineStats := {}
  lastParse : Option ParseRecord := none
  lastCompletion : Option CompletionCall := none
  deriving DecidableEq, Repr

def CString.text (c : CString) : String := (CString.text? c).getD ""

def argumentTexts (args : Option (List CString)) (count : Int32) : List String :=
  ((args.getD []).take count.toInt.toNat).map CString.text

namespace ScriptState

def createIndex (st : ScriptState) : Handle × ScriptState :=
  let handle := st.lastHandle + 1
  (handle, { st with
    lastHandle := handle, liveIndexes := handle :: st.liveIndexes
    stats := { st.stats with indexesCreated := st.stats.indexesCreated + 1 } })

def createUnit (st : ScriptState) : Handle × ScriptState :=
  let handle := st.lastHandle + 1
  (handle, { st with
    lastHandle := handle, liveUnits := handle :: st.liveUnits
    stats := { st.stats with unitsCreated := st.stats.unitsCreated + 1 } })

def invalid (st : ScriptState) : ScriptState :=
  { st with stats := { st.stats with invalidDisposals := st.stats.invalidDisposals + 1 } }

def disposeIndex (h : Handle) (st : ScriptState) : ScriptState :=
  if h ∈ st.liveIndexes then
    { st with
      liveIndexes := st.liveIndexes.erase h
      stats := { st.stats with indexesDisposed := st.stats.indexesDisposed + 1 } }
  else st.invalid

def disposeUnit (h : Handle) (st : ScriptState) : ScriptState :=
  if h ∈ st.liveUnits then
    { st with
      liveUnits := st.liveUnits.erase h
      stats := { st.stats with unitsDisposed := st.stats.unitsDisposed + 1 } }
  else st.invalid

def disposeBlock (id : Nat) (st : ScriptState) : ScriptState :=
  if id ∈ st.liveBlocks then
    { st with
      liveBlocks := st.liveBlocks.erase id
      stats := { st.stats with resultsDisposed := st.stats.resultsDisposed + 1 } }
  else st.invalid

/-- Hands out a text. Texts are numbered in order, null ones included. -/
def newString (content : Option Bytes) (st : ScriptState) : EngineString × ScriptState :=
  let id := st.stats.stringsCreated
  let st := { st with stats := { st.stats with stringsCreated := id + 1 } }
  match content with
  | none => (.null, st)
  | some bs => ({ data := some id, flags := 1 },
      { st with liveStrings := (id, bs) :: st.liveStrings })

def string? (st : ScriptState) (s : EngineString) : CString :=
  s.data.bind fun id => (st.liveStrings.find? fun e => e.1 == id).map Prod.snd

/-- Takes a text back. Null texts count as disposed, whatever else happens to them. -/
def disposeString (s : EngineString) (st : ScriptState) : ScriptState :=
  let st := { st with stats := { st.stats with stringsDisposed := st.stats.stringsDisposed + 1 } }
  match s.data with
  | none => st
  | some id =>
    if st.liveStrings.any fun e => e.1 == id then
      { st with liveStrings := st.liveStrings.eraseP fun e => e.1 == id }
    else st.invalid

theorem disposeIndex_stale {st : ScriptState} {h : Handle} (hl : h ∉ st.liveIndexes) :
    st.disposeIndex h = st.invalid := by simp [disposeIndex, hl]

theorem disposeUnit_stale {st : ScriptState} {h : Handle} (hl : h ∉ st.liveUnits) :
    st.disposeUnit h = st.invalid := by simp [disposeUnit, hl]

theorem disposeBlock_stale {st : ScriptState} {id : Nat} (hl : id ∉ st.liveBlocks) :
    st.disposeBlock id = st.invalid := by simp [disposeBlock, hl]

end ScriptState

namespace Script

def recordKind : Int32 := 72

/-- Where every record array stands, as far as the host can tell. -/
def recordsBase : Address := 0x1000

def candidateAddress (i : Nat) : Address := UInt64.ofNat (i + 1)

def candidate? (s : Script) (a : Address) : Option ScriptedCandidate :=
  if a = 0 then none else s.candidates[a.toNat - 1]?

def record (s : Script) (i : Nat) : CompletionRecord :=
  match s.candidates[i]? with
  | none => ⟨0, 0⟩
  | some c => ⟨recordKind, if c.nullString then 0 else candidateAddress i⟩

def block (s : Script) (id : Nat) : ResultBlock :=
  { id, count := UInt32.ofNat s.candidates.size
    base := if s.candidates.isEmpty || s.nullRecords then 0 else recordsBase
    record := s.record }

def parse (s : Script) (p : ParseRecord) : StateM ScriptState Handle := do
  modify fun st => { st with lastParse := some p }
  if s.failParse then return 0 else modifyGet ScriptState.createUnit

def cursor (s : Script) (unit : Handle) : CursorHandle :=
  if s.nullCursor then .null
  else { kind := CursorHandle.translationUnitKind, xdata := 0, data := (0, 0, unit) }

def complete (s : Script) (c : CompletionCall) : StateM ScriptState (Option ResultBlock) := do
  modify fun st => { st with
    lastCompletion := some c
    stats := { st.stats with completionRequests := st.stats.completionRequests + 1 } }
  if s.nullResults then return none
  let id := (← get).blocksBuilt
  modify fun st => { st with blocksBuilt := id + 1, liveBlocks := id :: st.liveBlocks }
  return some (s.block id)

def engine (s : Script) : Engine ScriptState
  | .createIndex _ _ =>
    if s.nullIndex then return (0 : Handle) else modifyGet ScriptState.createIndex
  | .disposeIndex h => modify (ScriptState.disposeIndex h)
  | .createUnit _ source count args unsavedCount unsavedNull =>
    s.parse { source := source.text, args := argumentTexts args count, options := none
              unsavedCount, unsavedNull }
  | .parseUnit _ source args count unsavedNull unsavedCount options =>
    s.parse { source := source.text, args := argumentTexts args count, options := some options
              unsavedCount, unsavedNull }
  | .disposeUnit h => modify (ScriptState.disposeUnit h)
  | .unitCursor unit => do
    modify fun st => { st with
      stats := { st.stats with cursorQueries := st.stats.cursorQueries + 1 } }
    return s.cursor unit
  | .defaultOptions => return s.defaultOptions
  | .completeAt _ file line column unsavedNull unsavedCount options =>
    s.complete { file := file.text, line, column, options, unsavedCount, unsavedNull }
  | .disposeBlock id => modify (ScriptState.disposeBlock id)
  | .recordLayout => return s.layout
  | .availability a => return ((s.candidate? a).map ScriptedCandidate.availability).getD 0
  | .priority a => return ((s.candidate? a).map ScriptedCandidate.priority).getD 0
  | .briefComment a => modifyGet (ScriptState.newString do
      let c ← s.candidate? a
      (← c.comment).content?)
  | .chunkCount a => return ((s.candidate? a).map fun c =>
      c.reportedChunks.getD (UInt32.ofNat c.chunks.size)).getD 0
  | .chunkText a i => modifyGet (ScriptState.newString do
      let c ← s.candidate? a
      (← c.chunks[i.toNat]?).2.content?)
  | .chunkKind a i => return (do
      let c ← s.candidate? a
      some (← c.chunks[i.toNat]?).1 : Option Int32).getD (-1)
  | .cString t => return (← get).string? t
  | .disposeString t => modify (ScriptState.disposeString t)

def debug (s : Script) (st : ScriptState) : String :=
  let count (name : String) (n : Nat) : String := name ++ ": " ++ toString n
  "ScriptedEngine \x7b candidates: " ++ toString s.candidates.size ++ ", layout: "
    ++ s.layout.debug ++ ", stats: EngineStats \x7b " ++ ", ".intercalate [
      count "indexes_created" st.stats.indexesCreated,
      count "indexes_disposed" st.stats.indexesDisposed,
      count "translation_units_created" st.stats.unitsCreated,
      count "translation_units_disposed" st.stats.unitsDisposed,
      count "cursor_queries" st.stats.cursorQueries,
      count "completion_requests" st.stats.completionRequests,
      count "results_disposed" st.stats.resultsDisposed,
      count "invalid_disposals" st.stats.invalidDisposals,
      count "strings_created" st.stats.stringsCreated,
      count "strings_disposed" st.stats.stringsDisposed,
      count "live_result_blocks" st.liveBlocks.length] ++ " \x7d \x7d"

end Script
end ClangHost
