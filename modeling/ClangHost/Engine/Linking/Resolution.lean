import ClangHost.Engine.Linking.Closure

/-!
Linking a library into the running program. When all that it needs is gathered, every object is
asked whether the versions that it requires are there; then the places of all objects are filled in,
those of needed objects first.
-/
namespace ClangHost

structure Linked where
  file : Bytes
  exported : String → Bool

namespace Linking

/-! ## Versions -/

def definitionFault? (o : Object) (asker : Bytes) (r : RequiredVersion) :
    List DefinedVersion → Option LinkFault
  | [] => if r.isOptional then none else some (.missingVersion o.file r.version.name asker)
  | d :: rest =>
    if d.format ≠ 1 then some (.definitionFormat o.file d.format)
    else if d.version.agrees r.version then none
    else definitionFault? o asker r rest

/-- The fault of a required version that an object does not have. An object without versions has all
of them. -/
def requirementFault? (o : Object) (asker : Bytes) (r : RequiredVersion) : Option LinkFault :=
  match o.body with
  | .image content =>
    match Image.definedVersions content with
    | [] => none
    | ds => definitionFault? o asker r ds
  | .exports e =>
    let isThere := r.version.hash == Image.hash r.version.name
      && e.versions.any fun v => Utf8.encode v.1.toList == r.version.name
    if !e.isVersioned || isThere || r.isOptional then none
    else some (.missingVersion o.file r.version.name asker)

def versionFault? (objects : List Object) (o : Object) : Option LinkFault :=
  match o.body with
  | .exports _ => none
  | .image content =>
    match Image.requirementFormat? content with
    | none => none
    | some format =>
      if format ≠ 1 then some (.requirementFormat o.file format)
      else (Image.requiredVersions content).findSome? fun r =>
        (objects.find? (·.isCalled r.library)).bind fun library =>
          requirementFault? library o.file r

/-! ## Places to be filled in -/

def symbolFault? (scope : List Object) (o : Object) (content : Bytes) (r : Relocation) :
    Option LinkFault :=
  (Image.reference? content r).bind fun wanted =>
    if scope.any (·.offers wanted) then none
    else some (.undefinedSymbol o.file wanted.name (wanted.version.map (·.name)))

def promptFault? (scope : List Object) (o : Object) (content : Bytes) (r : Relocation) :
    Option LinkFault :=
  (symbolFault? scope o content r).or
    (if Relocation.known.contains r.kind then none else some (.relocationKind o.file r.kind false))

def deferredFault? (scope : List Object) (o : Object) (content : Bytes) (r : Relocation) :
    Option LinkFault :=
  if r.isUrgent then symbolFault? scope o content r
  else if Relocation.deferrable.contains r.kind then none
  else some (.relocationKind o.file r.kind true)

def placeFault? (scope : List Object) (o : Object) : Option LinkFault :=
  match o.body with
  | .exports _ => none
  | .image content =>
    ((Image.prompt content).findSome? (promptFault? scope o content)).or
      (((Image.deferred content).findSome? (deferredFault? scope o content)).or
        (if Image.isProtectable content then none else some (.unprotectable o.file)))

/-! ## Linking -/

def fault? (c : Closure) (root : Nat) : Option LinkFault :=
  let members := c.order.filterMap (c.objects[·]?)
  let filled := (c.fillOrder root).filterMap (c.objects[·]?)
  (members.findSome? (versionFault? c.objects)).or
    (filled.findSome? (placeFault? (Object.global ++ members)))

def link (f : Files) (name : Bytes) : Except LinkFault Linked :=
  if (0 : UInt8) ∈ name then .error .nulInName
  else do
    let (root, c) ← closure f name
    match fault? c root with
    | some fault => .error fault
    | none =>
      let members := c.order.filterMap (c.objects[·]?)
      return {
        file := (c.objects[root]?).elim name (·.file)
        exported := fun s => members.any (·.offers
          { name := Utf8.encode s.toList, firstVersion := 2 }) }

end Linking
end ClangHost
