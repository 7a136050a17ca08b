/-!
Diagnostics: events of a level, and the sinks that take them. A sink shares a world of states
with whatever else runs there, and takes an event by changing that world.
-/
namespace ClangHost

inductive Level where
  | error
  | warn
  | info
  | debug
  | trace
  deriving DecidableEq, Repr

namespace Level

def all : List Level := [error, warn, info, debug, trace]

def rank : Level → Nat
  | error => 1
  | warn => 2
  | info => 3
  | debug => 4
  | trace => 5

def name : Level → String
  | error => "ERROR"
  | warn => "WARN"
  | info => "INFO"
  | debug => "DEBUG"
  | trace => "TRACE"

/-- Is an event of level `l` severe enough for a threshold? Without one nothing is. -/
def within (l : Level) (threshold : Option Level) : Bool :=
  threshold.elim false fun t => l.rank ≤ t.rank

end Level

inductive FieldValue where
  | text (s : String)
  | integer (n : Int)
  | bool (b : Bool)
  deriving DecidableEq, Repr

structure Event where
  level : Level
  target : String
  message : String
  fields : List (String × FieldValue) := []
  deriving DecidableEq, Repr

/-- Takes events. It can say beforehand that it wants none of a level from a target. -/
structure Sink (σ : Type) where
  wants : Level → String → Bool
  put : Event → StateM σ Unit

namespace Sink

variable {σ : Type}

def none : Sink σ := { wants := fun _ _ => false, put := fun _ => pure () }

def upTo (threshold : Option Level) : Sink (Array Event) :=
  { wants := fun l _ => l.within threshold
    put := fun e => modify fun es => if e.level.within threshold then es.push e else es }

def onPart {ω : Type} (part : ω → σ) (put : σ → ω → ω) (s : Sink σ) : Sink ω :=
  { wants := s.wants
    put := fun e w => ((), put (s.put e (part w)).2 w) }

end Sink
end ClangHost
