import ClangHost.Logging.Directive

/-!
Filters: sets of directives, the more specific ones first. Whether an event passes is decided by the
first directive that is about it; inside a span that a directive names, that directive's threshold
counts as well.
-/
namespace ClangHost

inductive SiteKind where
  | event (fields : List String)
  | span (name : String) (fields : List (String × FieldValue))
  | question
  deriving DecidableEq, Repr

structure Site where
  level : Level
  target : String
  kind : SiteKind
  deriving DecidableEq, Repr

/-- The place that an event comes from. Its message counts as a field. -/
def Event.site (e : Event) : Site :=
  { level := e.level, target := e.target, kind := .event ("message" :: e.fields.map Prod.fst) }

structure StaticDirective where
  level : Threshold
  target : Option String
  fields : List String
  deriving DecidableEq, Repr

/-- Puts an element into a sorted list, in place of one that compares as equal. -/
def insertBy {α : Type} (compare : α → α → Ordering) (a : α) : List α → List α
  | [] => [a]
  | b :: rest =>
    match compare a b with
    | .lt => a :: b :: rest
    | .eq => a :: rest
    | .gt => b :: insertBy compare a rest

def covers (directive : Option String) (target : String) : Bool :=
  directive.all fun t => t.toList.isPrefixOf target.toList

def compareLength (a b : Option String) : Ordering :=
  compareOfLessAndEq (a.elim 0 fun s => s.utf8ByteSize + 1) (b.elim 0 fun s => s.utf8ByteSize + 1)

def compareText (a b : Option String) : Ordering :=
  match a, b with
  | none, none => .eq
  | none, some _ => .lt
  | some _, none => .gt
  | some s, some t => compareOfLessAndEq s t

namespace StaticDirective

def compare (a b : StaticDirective) : Ordering :=
  ((compareLength a.target b.target).then
    ((compareOfLessAndEq a.fields.length b.fields.length).then
      ((compareText a.target b.target).then (compareOfLessAndEq a.fields b.fields)))).swap

/-- Is the directive about a place? Only of events the fields are asked for. -/
def concerns (d : StaticDirective) (s : Site) : Bool :=
  covers d.target s.target &&
    match s.kind with
    | .event fields => d.fields.all fields.contains
    | _ => true

end StaticDirective

namespace Directive

def compare (a b : Directive) : Ordering :=
  ((compareLength a.target b.target).then
    ((compareOfLessAndEq a.span.isSome.toNat b.span.isSome.toNat).then
      ((compareOfLessAndEq a.fields.length b.fields.length).then
        ((compareText a.target b.target).then
          ((compareText a.span b.span).then
            (List.compareLex FieldMatch.compare a.fields b.fields)))))).swap

def concernsSpan (d : Directive) (target name : String)
    (fields : List (String × FieldValue)) : Bool :=
  covers d.target target && d.span.all (· == name)
    && d.fields.all fun f => (fields.lookup f.name).isSome

def matchesFields (d : Directive) (fields : List (String × FieldValue)) : Bool :=
  d.fields.all fun f =>
    match f.value, fields.lookup f.name with
    | none, _ => true
    | some v, some x => v.holds x
    | some _, none => false

def static? (d : Directive) : Option StaticDirective :=
  if d.isDynamic then none
  else some { level := d.level, target := d.target, fields := d.fields.map FieldMatch.name }

end Directive

/-- A set of directives, with the laxest threshold that was ever put into each part. -/
structure Filter where
  statics : List StaticDirective := []
  staticLimit : Threshold := none
  dynamics : List Directive := []
  dynamicLimit : Threshold := none
  deriving DecidableEq, Repr

namespace Filter

def addStatic (f : Filter) (d : StaticDirective) : Filter :=
  { f with
    statics := insertBy StaticDirective.compare d f.statics
    staticLimit := f.staticLimit.laxer d.level }

def addDynamic (f : Filter) (d : Directive) : Filter :=
  { f with
    dynamics := insertBy Directive.compare d f.dynamics
    dynamicLimit := f.dynamicLimit.laxer d.level }

def add (f : Filter) (d : Directive) : Filter :=
  match d.static? with
  | some s => f.addStatic s
  | none => f.addDynamic d

/-- A filter of the directives of the environment. Those that ask for fields without their values
count for events and for spans. Without directives a level decides. -/
def ofDirectives (level : Level) (ds : List Directive) : Filter :=
  let put (f : Filter) (d : Directive) : Filter :=
    let f := d.static?.elim f f.addStatic
    if d.span.isSome || !d.fields.isEmpty then f.addDynamic d else f
  let f := ds.foldl put {}
  if f.statics.isEmpty && f.dynamics.isEmpty then
    f.addStatic { level := some level, target := none, fields := [] }
  else f

/-- Nothing that is less severe can pass. Values of fields are known only late, so where they
count every span has to be looked at. -/
def limit (f : Filter) : Threshold :=
  if f.dynamics.any fun d => d.fields.any fun m => m.value.isSome then some .trace
  else f.staticLimit.laxer f.dynamicLimit

def passesStatic (f : Filter) (s : Site) : Bool :=
  (f.statics.find? (·.concerns s)).any fun d => s.level.within d.level

def spanDirectives (f : Filter) (s : Site) : List Directive :=
  match s.kind with
  | .span name fields => f.dynamics.filter (·.concernsSpan s.target name fields)
  | _ => []

def spanThreshold? (f : Filter) (s : Site) : Option Threshold :=
  match s.kind with
  | .span _ fields =>
    match f.spanDirectives s with
    | [] => none
    | ds => some (((ds.filter (·.matchesFields fields)).map Directive.level).foldl
        Threshold.laxer none)
  | _ => none

def passes (f : Filter) (scope : List Threshold) (s : Site) : Bool :=
  (s.level.within f.dynamicLimit && scope.any fun t => s.level.within t) ||
    (s.level.within f.staticLimit && f.passesStatic s)

inductive Interest where
  | never
  | sometimes
  | always
  deriving DecidableEq, Repr

def interest (f : Filter) (s : Site) : Interest :=
  if !(f.spanDirectives s).isEmpty || f.passesStatic s then .always
  else if f.dynamics.isEmpty then .never
  else .sometimes

end Filter

def directivePieces (s : String) : List String := s.splitOn ","

/-- The filter of a configuration, and the pieces that are no directives: of the environment, which
the error output is told of, and of the configuration itself, which are reported as events. -/
structure FilterReading where
  filter : Filter
  ignored : List String := []
  invalid : List String := []

namespace LogConfig

def directiveVariable : String := "RUST_LOG"

def filterIn (env : Environment) (c : LogConfig) : FilterReading :=
  let pieces := (directivePieces ((env.text? directiveVariable).getD "")).filter (!·.isEmpty)
  let base : FilterReading :=
    { filter := Filter.ofDirectives c.level (pieces.filterMap Directive.ofText?)
      ignored := pieces.filter fun p => (Directive.ofText? p).isNone }
  let further := (c.filter.elim [] directivePieces).filter fun p =>
    !(Text.trim p.toList).isEmpty
  further.foldl (fun r p =>
    match Directive.ofText? (String.ofList (Text.trim p.toList)) with
    | some d => { r with filter := r.filter.add d }
    | none => { r with invalid := r.invalid ++ [p] }) base

end LogConfig
end ClangHost
