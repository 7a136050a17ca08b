/-!
What a library offers to others: names, some of them under a version.
-/
namespace ClangHost

structure Exports where
  names : List String := []
  versions : List (String × List String) := []
  deriving DecidableEq, Repr, Inhabited

namespace Exports

def has (e : Exports) (name : String) : Bool :=
  e.names.contains name || e.versions.any fun v => v.2.contains name

/-- Is a name offered to one who asks for a version of it? A name of no version will do for every
version. -/
def hasAs (e : Exports) (version name : String) : Bool :=
  e.names.contains name || e.versions.any fun v => v.1 == version && v.2.contains name

def isVersioned (e : Exports) : Bool := !e.versions.isEmpty

end Exports
end ClangHost
