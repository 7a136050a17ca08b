import ClangHost.Engine.Scripted
import ClangHost.Files.Creation
import ClangHost.Host
import ClangHost.Logging.Filter
import ClangHost.Logging.Line

/-!
The log of a process. At most one subscriber is ever installed: the library's own, which writes
lines, or one that the program around it brings along. Setting up the library's log fails when
there is a subscriber already; then nothing is installed, but the filter was read and the log
file was opened before that came out. That it was done is noted apart from the subscriber, and
once it is noted, setting up the log again changes nothing (`initLogging_of_initialized`). Where
the log file cannot be opened the attempt does not return.
-/
namespace ClangHost

/-- Where the lines of a log go, once that is open. A file is known by its place. -/
inductive LogWriter where
  | stdout
  | stderr
  | file (place : Location)
  deriving DecidableEq, Repr

/-- The library's own subscriber. A question whose answer was no is remembered until the next
event, which it holds back. -/
structure OwnSubscriber where
  config : LogConfig
  writer : LogWriter
  filter : Filter
  scope : List Threshold := []
  holdsBack : Bool := false

/-- A subscriber of the program's. By level and target it says what it takes, whenever it is asked;
what it takes it may write down. -/
structure ProgramSubscriber where
  takes : Level → String → Bool := fun _ _ => true
  records : Bool := false

inductive Subscriber where
  | own (s : OwnSubscriber)
  | program (s : ProgramSubscriber)

/-- The log of a process: its environment, its files, its subscriber, and what was written so far.
The lines that went to files are kept apart from the tree, in their order. -/
structure Logger where
  environment : Environment := []
  files : Files := { root := .directory [] }
  subscriber : Option Subscriber := none
  isInitialized : Bool := false
  stdout : Array LogLine := #[]
  stderr : Array LogLine := #[]
  logged : Array (Location × LogLine) := #[]
  recorded : Array Event := #[]

namespace LogOutput

def dateMark : String := "<date>"

def filePath (directory name : String) : Bytes :=
  let dated := if name.isEmpty then dateMark else name ++ "." ++ dateMark
  Path.join (Utf8.encode directory.toList) (Utf8.encode dated.toList)

def path? : LogOutput → Option Bytes
  | .file directory name => some (filePath directory name)
  | _ => none

def opened (f : Files) : LogOutput → Option LogWriter × Files
  | .stdout => (some .stdout, f)
  | .stderr => (some .stderr, f)
  | .file directory name =>
    let opened := f.openLog (filePath directory name)
    (opened.1.map .file, opened.2)

end LogOutput

namespace Logger

def write (writer : LogWriter) (line : LogLine) (p : Logger) : Logger :=
  match writer with
  | .stdout => { p with stdout := p.stdout.push line }
  | .stderr => { p with stderr := p.stderr.push line }
  | .file place => { p with logged := p.logged.push (place, line) }

/-- Asks about a place. The answer is yes also where only the event itself can tell; then it is
remembered whether the event is to be held back. A mere question is always looked into. -/
def asks (s : OwnSubscriber) (site : Site) : Bool × OwnSubscriber :=
  if !site.level.within s.filter.limit then (false, s)
  else
    let looked := { s with holdsBack := !s.filter.passes s.scope site }
    match s.filter.interest site, site.kind with
    | .never, _ => (false, s)
    | .sometimes, _ => (true, looked)
    | .always, .question => (true, looked)
    | .always, _ => (true, s)

/-- Does something that was asked about get through? What was held back is let go. -/
def lets (s : OwnSubscriber) : Bool × OwnSubscriber :=
  (!s.holdsBack, { s with holdsBack := false })

def admits (s : OwnSubscriber) (site : Site) : Bool × OwnSubscriber :=
  match asks s site with
  | (true, s) => lets s
  | (false, s) => (false, s)

def isEnabled (level : Level) (target : String) : StateM Logger Bool := do
  match (← get).subscriber with
  | none => return false
  | some (.own s) =>
    let (answer, s) := asks s { level, target, kind := .question }
    modify fun p => { p with subscriber := some (.own s) }
    return answer
  | some (.program s) => return s.takes level target

def report (e : Event) (span : Option LogSpan := none) : StateM Logger Unit := do
  match (← get).subscriber with
  | none => return ()
  | some (.program s) =>
    if s.takes e.level e.target && s.records then
      modify fun p => { p with recorded := p.recorded.push e }
  | some (.own s) =>
    let (through, s) := admits s e.site
    modify fun p => { p with subscriber := some (.own s) }
    if through then
      let entry : LogEntry := { event := e, span }
      modify (write s.writer (entry.line s.config.format))

def sink (p : Logger) : Sink Logger :=
  { wants := fun level target =>
      match p.subscriber with
      | none => false
      | some (.own s) =>
        level.within s.filter.limit
          && s.filter.passes s.scope { level, target, kind := .question }
      | some (.program s) => s.takes level target
    put := report }

def mark (s : OwnSubscriber) (level : Level) (target : String) (span : LogSpan) (word : String)
    (moment : Moment) : StateM Logger Unit :=
  if s.config.spanEvents then
    let entry : LogEntry :=
      { event := { level, target, message := word }, span := some span, moment }
    modify (write s.writer (entry.line s.config.format))
  else pure ()

def enter (scope : List Threshold) (p : Logger) : Logger :=
  match p.subscriber with
  | some (.own s) => { p with subscriber := some (.own { s with scope }) }
  | _ => p

def inSpan (level : Level) (target : String) (span : LogSpan) (e : Event) : StateM Logger Unit := do
  match (← get).subscriber with
  | some (.own s) =>
    let site : Site := { level, target, kind := .span span.name span.fields }
    let (opened, s) := admits s site
    modify fun p => { p with subscriber := some (.own s) }
    if opened then
      mark s level target span "new" .opened
      modify (enter ((s.filter.spanThreshold? site).elim s.scope (· :: s.scope)))
      report e (some span)
      modify (enter s.scope)
      mark s level target span "close" .closed
    else report e
  | _ => report e

def install (s : Subscriber) : StateM Logger Bool := do
  if (← get).subscriber.isSome then return false
  modify fun p => { p with subscriber := some s }
  return true

def badDirective (piece : String) : Event :=
  { level := .warn, target := "cindex_bridge::logging"
    message := "invalid filter directive: " ++ piece }

def openOutput (output : LogOutput) : StateM Logger (Option LogWriter) :=
  modifyGet fun p => ((output.opened p.files).1, { p with files := (output.opened p.files).2 })

def readFilter (c : LogConfig) : StateM Logger Filter := do
  let reading := c.filterIn (← get).environment
  modify fun p => { p with stderr := p.stderr ++ (reading.ignored.map .complaint).toArray }
  reading.invalid.forM fun piece => report (badDirective piece)
  return reading.filter

/-- Sets up the library's log; says whether that was done. There is no answer where the log file
cannot be opened. -/
def initLogging (c : LogConfig) : StateM Logger (Option Bool) := do
  if (← get).isInitialized then return some false
  match ← openOutput c.output with
  | none => return none
  | some writer =>
    let filter ← readFilter c
    let installed ← install (.own { config := c, writer, filter })
    if installed then modify fun p => { p with isInitialized := true }
    return some installed

def init : StateM Logger (Option Bool) := do
  initLogging (LogConfig.ofEnvironment (← get).environment)

def takeRecorded : StateM Logger (Array Event) :=
  modifyGet fun p => (p.recorded, { p with recorded := #[] })

def withEngine {α : Type} (s : Script)
    (act : Host (ScriptState × Logger) → HostM (ScriptState × Logger) α) :
    StateM Logger (Except Error α) := fun p =>
  let h : Host (ScriptState × Logger) :=
    { engine := s.engine.onPart Prod.fst fun st w => (st, w.2)
      sink := p.sink.onPart Prod.snd fun q w => (w.1, q) }
  let (r, _, q) := (act h).run.run ({}, p)
  (r, q)

theorem initLogging_of_initialized {p : Logger} (h : p.isInitialized = true) (c : LogConfig) :
    (initLogging c).run p = (some false, p) := by
  rw [initLogging, StateT.run_bind, StateT.run_get, pure_bind, h]
  rfl

end Logger
end ClangHost
