import ClangHost.Arena

/-!
Texts that the engine owns, brought over to the host: each is copied out once and then given
back, whether it was null or not.
-/
namespace ClangHost

def CString.text? (c : CString) : Option String := c.map fun bs => shown (untilNul bs)

/-- Copies a text out of the engine and gives the engine's text back. -/
def EngineString.take {σ : Type} (e : Engine σ) (s : EngineString) :
    StateM σ (Option String) := do
  let c ← e (.cString s)
  e (.disposeString s)
  return CString.text? c

end ClangHost
