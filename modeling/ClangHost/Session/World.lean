import ClangHost.Engine.Scripted
import ClangHost.Session.Direct

/-!
The world of a watched run: a scripted engine with the calls that it was given, the events that
were reported, and what observers keep.
-/
namespace ClangHost

/-- A scripted engine, all that is written down about a run, and the state of its observers. -/
structure World (υ : Type) where
  engine : ScriptState := {}
  calls : Array Call := #[]
  events : Array Event := #[]
  observed : υ

namespace World

variable {υ : Type}

def scripted (s : Script) : Engine (World υ) :=
  (s.engine.onPart World.engine fun st w => { w with engine := st }).noted fun c =>
    modify fun w => { w with calls := w.calls.push c }

def sink (threshold : Option Level) : Sink (World υ) :=
  (Sink.upTo threshold).onPart World.events fun es w => { w with events := es }

def act (x : StateM υ Unit) : StateM (World υ) Unit :=
  modify fun w => { w with observed := (x w.observed).2 }

def host (s : Script) (threshold : Option Level) : Host (World υ) :=
  { engine := scripted s, sink := sink threshold }

end World
end ClangHost
