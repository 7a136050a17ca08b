import ClangHost.Completion.Candidate
import ClangHost.Error
import ClangHost.Trace

/-!
Observers of a completion. They are told what happens as it happens and answer nothing, so they
cannot change what is decoded or when the block is given back.
-/
namespace ClangHost

structure Observer (σ : Type) where
  onRequest : (file : Bytes) → (line column : UInt32) → StateM σ Unit
  onResults : (count : UInt32) → StateM σ Unit
  onCandidate : (index : Nat) → Candidate → StateM σ Unit
  /-- The block was given back; were all candidates decoded? -/
  onDisposed : (decoded : Bool) → StateM σ Unit

namespace Observer

variable {σ : Type}

def silent : Observer σ :=
  { onRequest := fun _ _ _ => pure ()
    onResults := fun _ => pure ()
    onCandidate := fun _ _ => pure ()
    onDisposed := fun _ => pure () }

/-- The observer in a larger world of states, where `act` does what it does. -/
def within {τ : Type} (act : StateM σ Unit → StateM τ Unit) (o : Observer σ) : Observer τ :=
  { onRequest := fun file line column => act (o.onRequest file line column)
    onResults := fun count => act (o.onResults count)
    onCandidate := fun index c => act (o.onCandidate index c)
    onDisposed := fun decoded => act (o.onDisposed decoded) }

def target : String := "completion"

/-- Reports to a sink. The text of a candidate is made only for a sink that wants it. -/
def tracing (s : Sink σ) : Observer σ :=
  { onRequest := fun file line column => s.put
      { level := .debug, target, message := "code completion requested"
        fields := [("file", .text (shown file)), ("line", .integer line.toNat),
          ("column", .integer column.toNat)] }
    onResults := fun count => s.put
      { level := .debug, target, message := "completion result count"
        fields := [("results", .integer count.toNat)] }
    onCandidate := fun index c =>
      if s.wants .trace target then s.put
        { level := .trace, target, message := "decoded candidate"
          fields := [("index", .integer index), ("candidate", .text c.json.render)] }
      else pure ()
    onDisposed := fun decoded => s.put
      { level := .trace, target, message := "completion results disposed"
        fields := [("decoded", .bool decoded)] } }

inductive Notice where
  | request (file : Bytes) (line column : UInt32)
  | results (count : UInt32)
  | candidate (index : Nat) (c : Candidate)
  | disposed (decoded : Bool)
  deriving DecidableEq, Repr

def recording (note : Notice → StateM σ Unit) : Observer σ :=
  { onRequest := fun file line column => note (.request file line column)
    onResults := fun count => note (.results count)
    onCandidate := fun index c => note (.candidate index c)
    onDisposed := fun decoded => note (.disposed decoded) }

def keeping : Observer (Array Notice) := recording fun n => modify fun ns => ns.push n

def Notice.line : Notice → String
  | .request file line column =>
    "request " ++ shown file ++ ":" ++ toString line ++ ":" ++ toString column
  | .results count => "results " ++ toString count
  | .candidate index c => "candidate " ++ toString index ++ " " ++ c.json.render
  | .disposed decoded => "disposed " ++ (if decoded then "true" else "false")

end Observer
end ClangHost
