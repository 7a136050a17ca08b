import ClangHost.Engine.Linking.Search

/-!
What an object needs, and what that needs in turn. The objects are gathered level by level in the
order in which they are named; one that is a filter comes after those that it filters.
-/
namespace ClangHost.Linking

/-- Objects that are being gathered. Those that are ready stay where they are; of each one in the
queue it is known whether its needs have been looked at. -/
structure Gathering where
  objects : List Object
  ready : List Nat := []
  queue : List (Nat × Bool)
  links : List (Nat × List Nat) := []
  deriving Repr

/-- The needs of one object while they are looked at: the objects that come before it, and those
that come after it. -/
structure Round where
  objects : List Object
  before : List Nat := []
  queue : List (Nat × Bool)
  needed : List Nat := []
  deriving Repr

def Round.isQueued (r : Round) (j : Nat) : Bool := r.queue.any (·.1 == j)

/-- Gives an object its place: at the end, or, if it is filtered, in front; an object that has a
place further to the front keeps it. -/
def Round.place (r : Round) (isInFront : Bool) (kind : NeedKind) (j : Nat) : Round :=
  let r := { r with needed := r.needed ++ [j] }
  if isInFront || r.before.contains j then r
  else if kind = .needed then
    if r.isQueued j then r else { r with queue := r.queue ++ [(j, false)] }
  else { r with before := r.before ++ [j], queue := r.queue.filter (·.1 != j) }

def meet (f : Files) (asker : Object) (inFront : List Nat) (r : Round) (n : Need) :
    Except LinkFault Round :=
  match obtain f r.objects (some asker) n.name with
  | .error fault => if n.kind = .auxiliary then .ok r else .error fault
  | .ok (objects, j) => .ok ({ r with objects }.place (inFront.contains j) n.kind j)

def step (f : Files) (g : Gathering) : Except LinkFault Gathering :=
  match g.queue with
  | [] => .ok g
  | (i, true) :: rest => .ok { g with ready := g.ready ++ [i], queue := rest }
  | (i, false) :: rest =>
    match g.objects[i]? with
    | none => .ok { g with queue := rest }
    | some o => do
      let r ← o.needs.foldlM (meet f o (i :: g.ready)) { objects := g.objects, queue := rest }
      return { g with
        objects := r.objects
        queue := r.before.map (·, false) ++ (i, true) :: r.queue
        links := (i, r.needed) :: g.links }

def gather (f : Files) : (fuel : Nat) → Gathering → Except LinkFault Gathering
  | 0, g => .ok g
  | fuel + 1, g => if g.queue.isEmpty then .ok g else step f g >>= gather f fuel

structure Closure where
  objects : List Object
  order : List Nat
  links : List (Nat × List Nat)
  deriving Repr

/-- What the object that a name means needs. Every object is looked at twice, and is one of those
that are there or a file. -/
def closure (f : Files) (name : Bytes) : Except LinkFault (Nat × Closure) := do
  let (objects, root) ← obtain f Object.resident none name
  let g ← gather f (2 * (objects.length + f.root.count))
    { objects, queue := [(root, false)] }
  return (root, { objects := g.objects, order := g.ready, links := g.links })

/-! ## Who comes first when places are filled in -/

/-- Goes down from an object: all that it needs is done before it, unless that leads in a circle.
Gives what has been seen and what is done. -/
def descend (links : List (Nat × List Nat)) :
    (fuel : Nat) → (List Nat × List Nat) → Nat → (List Nat × List Nat)
  | 0, s, _ => s
  | fuel + 1, (seen, done), i =>
    if seen.contains i then (seen, done)
    else
      let below := ((links.lookup i).getD []).foldl (descend links fuel) (i :: seen, done)
      (below.1, below.2 ++ [i])

/-- The order in which the places of objects are filled in. It starts from the object that was found
last; the object that was asked for is done last, and on the way it is taken to need nothing. -/
def Closure.fillOrder (c : Closure) (root : Nat) : List Nat :=
  let links := c.links.filter (·.1 != root)
  let done := (c.order.reverse.foldl (descend links (c.order.length + 1)) ([], [])).2
  done.filter (· != root) ++ [root]

end ClangHost.Linking
