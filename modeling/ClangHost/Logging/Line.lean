import ClangHost.Json.Value
import ClangHost.Logging.Config

/-!
Log lines, without the times that they begin with and that closing lines end with. The compact and
the pretty form are text, the other form is a JSON object. A line tells the span that was entered
when its event came.
-/
namespace ClangHost

structure LogSpan where
  name : String
  fields : List (String × FieldValue)
  deriving DecidableEq, Repr

/-- How an entry relates to its span: it tells that the span was opened or closed, or it fell
into the span. -/
inductive Moment where
  | opened
  | inside
  | closed
  deriving DecidableEq, Repr

structure LogEntry where
  event : Event
  span : Option LogSpan := none
  moment : Moment := .inside
  deriving DecidableEq, Repr

/-- A line of the log, or the complaint about a piece of the environment's directives that is none;
what is wrong with the piece is left out. -/
inductive LogLine where
  | text (s : String)
  | object (j : Json.Value)
  | complaint (piece : String)
  deriving Repr

namespace FieldValue

def shown : FieldValue → String
  | .text s => s
  | .integer n => toString n
  | .bool b => if b then "true" else "false"

def json : FieldValue → Json.Value
  | .text s => .text s
  | .integer n => .integer n
  | .bool b => .bool b

end FieldValue

namespace LogEntry

def assignments (fields : List (String × FieldValue)) : String :=
  String.join (fields.map fun (k, v) => " " ++ k ++ "=" ++ v.shown)

/-- The fields of the span that an entry shows. Where a span is closed the times that it took
would come first; the line ends before them. -/
def spanFields (e : LogEntry) : List (String × FieldValue) :=
  if e.moment = .closed then [] else e.span.elim [] LogSpan.fields

def compact (e : LogEntry) : String :=
  let span := e.span.elim "" fun s => s.name ++ ": "
  e.event.level.name ++ " " ++ span ++ e.event.target ++ ": " ++ e.event.message
    ++ assignments (e.event.fields ++ e.spanFields)

def pretty (e : LogEntry) : String :=
  e.event.level.name ++ " " ++ e.event.target ++ ": " ++ e.event.message
    ++ String.join (e.event.fields.map fun (k, v) => ", " ++ k ++ ": " ++ v.shown)

def spanJson (s : LogSpan) : Json.Value :=
  .table (s.fields.map (fun (k, v) => (k, v.json)) ++ [("name", .text s.name)])

def object (e : LogEntry) : Json.Value :=
  .table ([("level", .text e.event.level.name),
    ("fields", .table (("message", .text e.event.message)
      :: e.event.fields.map fun (k, v) => (k, v.json))),
    ("target", .text e.event.target)]
    ++ e.span.elim [] fun s =>
      [("span", spanJson s), ("spans", .list (if e.moment = .inside then [spanJson s] else []))])

def line (e : LogEntry) : LogFormat → LogLine
  | .pretty => .text e.pretty
  | .compact => .text e.compact
  | .json => .object e.object

end LogEntry
end ClangHost
