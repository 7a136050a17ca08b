import ClangHost.Engine.Loading
import ClangHost.Proofs.Watch

/-!
Which library is tried, and what comes of it. The steps of choosing, loading and binding are stated
here for any loader (`bindChosen_eq`), so that one can be put in their place that keeps a history.
One path is chosen (`Chooses`), no other is ever loaded, and what is exported there decides the
result (`bindChosen_tries_one`).
-/
namespace ClangHost

/-- The path of the library that is tried, by what is set. -/
inductive Chooses (f : Files) : Option String → Option Bytes → Bytes → Prop where
  | configured (s : String) (named : Option Bytes) :
      Chooses f (some s) named (Utf8.encode s.toList)
  | inDirectory {p : Bytes} : f.isDirectory p →
      Chooses f none (some p) (Path.join p (Utf8.encode LibraryChoice.defaultName.toList))
  | named {p : Bytes} : ¬ f.isDirectory p → Chooses f none (some p) p
  | system : Chooses f none none (Utf8.encode LibraryChoice.defaultName.toList)

theorem Chooses.unique {f : Files} {configured : Option String} {named : Option Bytes}
    {p q : Bytes} (one : Chooses f configured named p) (other : Chooses f configured named q) :
    q = p := by
  cases one with
  | configured => cases other; rfl
  | inDirectory directory =>
    cases other with
    | inDirectory => rfl
    | named file => exact absurd directory file
  | named file =>
    cases other with
    | inDirectory directory => exact absurd directory file
    | named => rfl
  | system => cases other; rfl

namespace Library

variable {σ τ : Type}

/-! ### Any loader -/

def loadFileBy (load : Bytes → StateM τ (Except LinkFault Linked)) (k : Sink τ) (e : Engine σ)
    (p : Bytes) : ExceptT Error (StateM τ) (Library σ) := do
  match ← load p with
  | .error fault => throw (.load (.failed p fault.message))
  | .ok l =>
    k.put (Binding.loadedEvent p)
    return .ofEngine p l.file l.exported e

def loadPathBy (load : Bytes → StateM τ (Except LinkFault Linked)) (k : Sink τ) (e : Engine σ)
    (p : Bytes) : ExceptT Error (StateM τ) (Library σ) :=
  if p.isEmpty then throw (.load .invalidName) else loadFileBy load k e p

def loadNameBy (load : Bytes → StateM τ (Except LinkFault Linked)) (k : Sink τ) (e : Engine σ)
    (name : String) : ExceptT Error (StateM τ) (Library σ) :=
  if name.isEmpty || name.toList.contains '\x00' then throw (.load .invalidName)
  else loadFileBy load k e (Utf8.encode name.toList)

def boundBy (k : Sink τ) (l : Library σ) : ExceptT Error (StateM τ) (Binding σ) := do
  let b ← Binding.bind l
  k.put (Binding.boundEvent l.origin)
  return b

def tryBy (load : Bytes → StateM τ (Except LinkFault Linked)) (k : Sink τ) (e : Engine σ)
    (p : Bytes) : ExceptT Error (StateM τ) (Binding σ) := do
  boundBy k (← loadPathBy load k e p)

def bindChosenBy (f : Files) (load : Bytes → StateM τ (Except LinkFault Linked)) (k : Sink τ)
    (e : Engine σ) (c : EngineConfig) (named : Option Bytes) :
    ExceptT Error (StateM τ) (Binding σ) := do
  match LibraryChoice.choose f c.libraryPath named with
  | .path p => tryBy load k e p
  | .system => boundBy k (← loadNameBy load k e LibraryChoice.defaultName)

theorem bindChosen_eq (f : Files) (k : Sink σ) (e : Engine σ) (c : EngineConfig)
    (named : Option Bytes) :
    bindChosen f k e c named = bindChosenBy f (fun p => pure (Linking.link f p)) k e c named := rfl

theorem exists_chooses (f : Files) (configured : Option String) (named : Option Bytes) :
    ∃ p, Chooses f configured named p := by
  cases configured with
  | some s => exact ⟨_, .configured s named⟩
  | none =>
    cases named with
    | none => exact ⟨_, .system⟩
    | some p =>
      by_cases directory : f.isDirectory p
      · exact ⟨_, .inDirectory directory⟩
      · exact ⟨p, .named directory⟩

theorem bindChosenBy_of_chooses {f : Files} {c : EngineConfig} {named : Option Bytes} {p : Bytes}
    (chosen : Chooses f c.libraryPath named p)
    (load : Bytes → StateM τ (Except LinkFault Linked)) (k : Sink τ) (e : Engine σ) :
    bindChosenBy f load k e c named = tryBy load k e p := by
  unfold bindChosenBy LibraryChoice.choose
  obtain ⟨path⟩ := c
  cases chosen with
  | configured s named => rfl
  | inDirectory directory => simp only [directory, if_true]
  | named file => simp only [if_neg file]
  | system => rfl

section

variable {load : Bytes → StateM τ (Except LinkFault Linked)} {p : Bytes} {s s' : τ}

theorem loadPathBy_eq (some : p ≠ []) (k : Sink τ) (e : Engine σ) :
    loadPathBy load k e p = loadFileBy load k e p :=
  if_neg (by rwa [List.isEmpty_iff])

theorem tryBy_unloadable {fault : LinkFault} (some : p ≠ [])
    (loaded : load p s = (.error fault, s'))
    (k : Sink τ) (e : Engine σ) :
    (tryBy load k e p).run s = (.error (.load (.failed p fault.message)), s') := by
  have failed : (loadFileBy load k e p).run s = (.error (.load (.failed p fault.message)), s') := by
    unfold loadFileBy
    rw [run_bind_ok (run_lift loaded)]
    rfl
  unfold tryBy
  rw [loadPathBy_eq some]
  exact run_bind_error failed _

theorem tryBy_loaded {l : Linked} (some : p ≠ []) (loaded : load p s = (.ok l, s')) (k : Sink τ)
    (e : Engine σ) : (tryBy load k e p).run s =
      (boundBy k (.ofEngine p l.file l.exported e)).run (k.put (Binding.loadedEvent p) s').2 := by
  have done : (loadFileBy load k e p).run s =
      (.ok (.ofEngine p l.file l.exported e), (k.put (Binding.loadedEvent p) s').2) := by
    unfold loadFileBy
    rw [run_bind_ok (run_lift loaded)]
    rfl
  unfold tryBy
  rw [loadPathBy_eq some]
  exact run_bind_ok done _

end

/-! ### What a library exports -/

theorem ofEngine_lookup_isSome (p file : Bytes) (exported : String → Bool) (e : Engine σ)
    (name : String) : ((ofEngine p file exported e).lookup name).isSome = exported name := by
  change (if exported name then some e else none).isSome = exported name
  cases exported name <;> rfl

theorem bind_of_missing {l : Library σ} {before after : List EntryPoint} {q : EntryPoint}
    (order : EntryPoint.all = before ++ q :: after)
    (there : ∀ r ∈ before, (l.lookup r.symbol).isSome) (lacks : (l.lookup q.symbol).isNone) :
    Binding.bind l = .error (l.undefined q.symbol) := by
  have first : Binding.missing? l = some q := by
    refine List.find?_eq_some_iff_append.mpr ⟨lacks, before, after, order, fun r member => ?_⟩
    rw [Option.not_isNone, there r member]
  unfold Binding.bind
  split
  case h_1 none => cases none.symm.trans first
  case h_2 r found =>
    cases found.symm.trans first
    rfl

theorem ofEngine_bind_isOk_iff (p : Bytes) (l : Linked) (e : Engine σ) :
    (Binding.bind (ofEngine p l.file l.exported e)).isOk ↔
      ∀ q : EntryPoint, l.exported q.symbol := by
  rw [Binding.bind_isOk_iff]
  simp only [ofEngine_lookup_isSome]

/-! ### One try -/

def outcome (found : Bytes → Except LinkFault Linked) (e : Engine σ) (p : Bytes) :
    Except Error (Binding σ) :=
  if p = [] then .error (.load .invalidName)
  else match found p with
    | .error fault => .error (.load (.failed p fault.message))
    | .ok l => Binding.bind (ofEngine p l.file l.exported e)

theorem boundBy_run (k : Sink τ) (l : Library σ) (s : τ) : (boundBy k l).run s =
    (Binding.bind l,
      if (Binding.bind l).isOk then (k.put (Binding.boundEvent l.origin) s).2 else s) := by
  unfold boundBy
  cases Binding.bind l <;> rfl

theorem tryBy_fst {load : Bytes → StateM τ (Except LinkFault Linked)}
    (found : Bytes → Except LinkFault Linked) (p : Bytes) {s : τ} (loaded : (load p s).1 = found p)
    (k : Sink τ) (e : Engine σ) : ((tryBy load k e p).run s).1 = outcome found e p := by
  unfold outcome
  by_cases empty : p = []
  · subst empty
    rfl
  · rw [if_neg empty, ← loaded]
    rcases answer : load p s with ⟨fault | l, s'⟩
    · exact congrArg Prod.fst (tryBy_unloadable empty answer k e)
    · rw [tryBy_loaded empty answer, boundBy_run]

inductive Stage where
  | load (p : Bytes)
  | told (event : Event)

def Stage.path? : Stage → Option Bytes
  | .load p => some p
  | .told _ => none

/-- A loader for which each path leads to what was settled beforehand. It writes down what it is
asked for. -/
def loadLogged (found : Bytes → Except LinkFault Linked) (p : Bytes) :
    StateM (List Stage) (Except LinkFault Linked) :=
  fun h => (found p, h ++ [.load p])

def logged : Sink (List Stage) :=
  { wants := fun _ _ => true, put := fun event h => ((), h ++ [.told event]) }

def attempt (f : Files) (found : Bytes → Except LinkFault Linked) (e : Engine σ) (c : EngineConfig)
    (named : Option Bytes) : Except Error (Binding σ) × List Stage :=
  (bindChosenBy f (loadLogged found) logged e c named).run []

theorem boundBy_paths (l : Library σ) (h : List Stage) :
    ((boundBy logged l).run h).2.filterMap Stage.path? = h.filterMap Stage.path? := by
  rw [boundBy_run]
  split
  · exact (List.filterMap_append ..).trans (List.append_nil _)
  · rfl

theorem tryBy_paths (found : Bytes → Except LinkFault Linked) (e : Engine σ) (p : Bytes) :
    ((tryBy (loadLogged found) logged e p).run []).2.filterMap Stage.path? =
      if p = [] then [] else [p] := by
  by_cases empty : p = []
  · subst empty
    rfl
  · rw [if_neg empty]
    cases answer : found p with
    | error fault =>
      have loaded : loadLogged found p [] = (.error fault, [.load p]) := by
        rw [← answer]
        rfl
      rw [tryBy_unloadable empty loaded]
      rfl
    | ok l =>
      have loaded : loadLogged found p [] = (.ok l, [.load p]) := by
        rw [← answer]
        rfl
      rw [tryBy_loaded empty loaded, boundBy_paths]
      rfl

/-- One path was tried, and what is found there settled the result. -/
structure OneTry (found : Bytes → Except LinkFault Linked) (p : Bytes)
    (run : Except Error (Binding σ) × List Stage) : Prop where
  loads : run.2.filterMap Stage.path? = if p = [] then [] else [p]
  invalid : p = [] → run.1 = .error (.load .invalidName)
  binds : p ≠ [] → (run.1.isOk ↔ ∃ l, found p = .ok l ∧ ∀ q : EntryPoint, l.exported q.symbol)
  unloadable : p ≠ [] → ∀ fault, found p = .error fault →
    run.1 = .error (.load (.failed p fault.message))
  missing : p ≠ [] → ∀ l, found p = .ok l → ∀ before q after,
    EntryPoint.all = before ++ q :: after → (∀ r ∈ before, l.exported r.symbol) →
    l.exported q.symbol = false →
    run.1 = .error (.symbol (.notFound q.symbol
      (shown l.file ++ ": undefined symbol: " ++ q.symbol)))

theorem oneTry (found : Bytes → Except LinkFault Linked) (e : Engine σ) (p : Bytes) :
    OneTry found p ((tryBy (loadLogged found) logged e p).run []) := by
  have result : ((tryBy (loadLogged found) logged e p).run []).1 = outcome found e p :=
    tryBy_fst found p rfl logged e
  constructor
  case loads => exact tryBy_paths found e p
  case invalid =>
    intro empty
    rw [result, outcome, if_pos empty]
  case binds =>
    intro some
    rw [result, outcome, if_neg some]
    cases found p with
    | error fault => simp [Except.isOk, Except.toBool]
    | ok l =>
      rw [ofEngine_bind_isOk_iff]
      simp
  case unloadable =>
    intro some fault failed
    rw [result, outcome, if_neg some, failed]
  case missing =>
    intro some l loaded before q after order there lacks
    rw [result, outcome, if_neg some, loaded]
    apply bind_of_missing order
    · simpa only [ofEngine_lookup_isSome] using there
    · rw [← Option.not_isSome, ofEngine_lookup_isSome, lacks]
      rfl

/-- Binding tries the one library that configuration and environment choose. -/
theorem bindChosen_tries_one (f : Files) (e : Engine σ) (c : EngineConfig)
    (named : Option Bytes) : ∃ p, (∀ q, Chooses f c.libraryPath named q ↔ q = p) ∧
      (∀ found, OneTry found p (attempt f found e c named)) ∧
      ∀ (k : Sink σ) (s : σ),
        ((bindChosen f k e c named).run s).1 = (attempt f (Linking.link f) e c named).1 := by
  obtain ⟨p, chosen⟩ := exists_chooses f c.libraryPath named
  have only : ∀ q, Chooses f c.libraryPath named q ↔ q = p :=
    fun q => ⟨chosen.unique, fun same => same ▸ chosen⟩
  refine ⟨p, only, fun found => ?_, fun k s => ?_⟩
  · unfold attempt
    rw [bindChosenBy_of_chooses chosen]
    exact oneTry found e p
  · unfold attempt
    rw [bindChosen_eq, bindChosenBy_of_chooses chosen, bindChosenBy_of_chooses chosen]
    have linked : ((tryBy (fun p => pure (Linking.link f p)) k e p).run s).1 =
        outcome (Linking.link f) e p := tryBy_fst _ p rfl k e
    exact linked.trans (tryBy_fst _ p rfl logged e).symm

end Library
end ClangHost
