import ClangHost.Config.Discovery
import ClangHost.Proofs.Components

/-!
Which configuration is found, and what is told on the way. The nearest file that can be used is
taken, and a warning stands for each nearer one that cannot (`discover_nearest`); whatever comes
after it is not looked at.
-/
namespace ClangHost.Config

variable {σ : Type} {w : Wording} {f g : Files} {p : Bytes} {c : Config}

def Loads (f : Files) (p : Bytes) (c : Config) : Prop :=
  f.isFile p = true ∧ ∃ text, f.readText p = .ok text ∧ ofToml text = .ok c

def NoneLoads (f : Files) (ps : List Bytes) : Prop := ∀ p ∈ ps, ∀ c, ¬ Loads f p c

def warning? (w : Wording) (f : Files) (p : Bytes) : Option Event :=
  if f.isFile p then
    match load f p with
    | .ok _ => none
    | .error e => some (skippedEvent w p e)
  else none

def told (k : Sink σ) (events : List Event) (s : σ) : σ :=
  events.foldl (fun s e => (k.put e s).2) s

theorem loads_iff : Loads f p c ↔ f.isFile p = true ∧ load f p = .ok c := by
  rw [Loads, load]
  cases f.readText p <;> simp

theorem search_of_loads (k : Sink σ) (loads : Loads f p c) (rest : List Bytes) (s : σ) :
    search w f k (p :: rest) s = (c, told k [loadedEvent p] s) := by
  obtain ⟨file, loaded⟩ := loads_iff.mp loads
  simp only [search, file, loaded, Bool.not_true, Bool.false_eq_true, if_false]
  rfl

theorem search_of_not_loads (k : Sink σ) (useless : ∀ c, ¬ Loads f p c) (rest : List Bytes)
    (s : σ) : search w f k (p :: rest) s =
      search w f k rest (told k (warning? w f p).toList s) := by
  cases file : f.isFile p with
  | false =>
    rw [search_of_not_isFile w f k rest file]
    simp [warning?, file, told]
  | true =>
    cases loaded : load f p with
    | ok c => exact absurd (loads_iff.mpr ⟨file, loaded⟩) (useless c)
    | error e =>
      simp only [search, warning?, file, loaded, Bool.not_true, Bool.false_eq_true, if_false]
      rfl

theorem search_append (k : Sink σ) {before : List Bytes} (useless : NoneLoads f before)
    (rest : List Bytes) (s : σ) :
    search w f k (before ++ rest) s =
      search w f k rest (told k (before.filterMap (warning? w f)) s) := by
  induction before generalizing s with
  | nil => rfl
  | cons p before ih =>
    rw [List.cons_append, search_of_not_loads k (useless p List.mem_cons_self),
      ih fun q member => useless q (List.mem_cons_of_mem p member)]
    cases warned : warning? w f p <;> simp [warned, told]

theorem noneLoads_or_first (f : Files) (ps : List Bytes) :
    NoneLoads f ps ∨ ∃ before p after c, ps = before ++ p :: after ∧ NoneLoads f before ∧
      Loads f p c := by
  induction ps with
  | nil => exact .inl (by simp [NoneLoads])
  | cons p ps ih =>
    by_cases loads : ∃ c, Loads f p c
    · obtain ⟨c, loads⟩ := loads
      exact .inr ⟨[], p, ps, c, rfl, by simp [NoneLoads], loads⟩
    · have useless : ∀ c, ¬ Loads f p c := not_exists.mp loads
      rcases ih with none | ⟨before, q, after, c, rfl, none, loads⟩
      · exact .inl (List.forall_mem_cons.mpr ⟨useless, none⟩)
      · exact .inr ⟨p :: before, q, after, c, rfl, List.forall_mem_cons.mpr ⟨useless, none⟩, loads⟩

theorem isFile_congr (same : g.resolve p = f.resolve p) : g.isFile p = f.isFile p := by
  rw [Files.isFile, same]
  rfl

theorem load_congr (same : g.resolve p = f.resolve p) : load g p = load f p := by
  rw [load, Files.readText, same]
  rfl

theorem candidates_components (start : Bytes) :
    let dirs := (Path.components start).inits.reverse
    (candidates start).map Path.components =
      (if Path.isAbsolute start then dirs.dropLast else dirs).flatMap
        (fun dir => fileNames.map fun name => dir ++ [name]) := by
  have plain : ∀ name ∈ fileNames, Path.isProper name = true ∧ Path.slash ∉ name := by decide
  have below : ∀ dir, (fileNames.map (Path.join dir)).map Path.components =
      fileNames.map fun name => Path.components dir ++ [name] := by
    intro dir
    rw [List.map_map]
    exact List.map_congr_left fun name member =>
      Path.components_join dir (plain name member).1 (plain name member).2
  have dirs := Path.components_ancestors start
  dsimp only
  rw [candidates, List.map_flatMap]
  simp only [below]
  rw [← List.flatMap_map Path.components fun dir => fileNames.map fun name => dir ++ [name], dirs,
    apply_ite List.reverse, List.dropLast_reverse]

theorem search_first (k : Sink σ) {before : List Bytes} (useless : NoneLoads f before)
    (loads : Loads f p c) (after : List Bytes) (s : σ) :
    search w f k (before ++ p :: after) s =
      (c, told k (before.filterMap (warning? w f) ++ [loadedEvent p]) s) := by
  rw [search_append k useless, search_of_loads k loads, told, told, told, List.foldl_append]

/-- For every tree and every start: the candidates are the two names below each ancestor, nearest
first. The first of them that can be used is taken, after one warning for each file before it, and
nothing after it matters; without one the configuration is the default. -/
theorem discover_nearest (w : Wording) (f : Files) (start : Bytes) :
    let dirs := (Path.components start).inits.reverse
    (candidates start).map Path.components =
      (if Path.isAbsolute start then dirs.dropLast else dirs).flatMap
        (fun dir => fileNames.map fun name => dir ++ [name]) ∧
    ((∃ before p after c, candidates start = before ++ p :: after ∧
      NoneLoads f before ∧ Loads f p c ∧
      (∀ (k : Sink σ) (s : σ), discover w f k start s =
        (c, told k (before.filterMap (warning? w f) ++ [loadedEvent p]) s)) ∧
      ∀ g : Files, (∀ q ∈ before ++ [p], g.resolve q = f.resolve q) →
        ∀ (k : Sink σ) (s : σ), discover w g k start s = discover w f k start s) ∨
    (NoneLoads f (candidates start) ∧
      ∀ (k : Sink σ) (s : σ), discover w f k start s =
        ({}, told k ((candidates start).filterMap (warning? w f)) s))) := by
  refine ⟨candidates_components start, ?_⟩
  rcases noneLoads_or_first f (candidates start) with useless | found
  · refine .inr ⟨useless, fun k s => ?_⟩
    rw [discover, ← List.append_nil (candidates start), search_append k useless]
    simp [search]
    rfl
  · obtain ⟨before, p, after, c, split, useless, loads⟩ := found
    refine .inl ⟨before, p, after, c, split, useless, loads, fun k s => ?_,
      fun g same k s => ?_⟩
    · rw [discover, split, search_first k useless loads]
    · have alike : ∀ q ∈ before ++ [p], ∀ c, Loads g q c ↔ Loads f q c := by
        intro q member c
        rw [loads_iff, loads_iff, isFile_congr (same q member), load_congr (same q member)]
      have warned : before.filterMap (warning? w g) = before.filterMap (warning? w f) := by
        refine List.filterMap_congr fun q member => ?_
        have here := same q (List.mem_append_left [p] member)
        rw [warning?, warning?, isFile_congr here, load_congr here]
      have useless_too : NoneLoads g before := fun q member c loads =>
        useless q member c ((alike q (List.mem_append_left [p] member) c).mp loads)
      have loads_too : Loads g p c := (alike p (by simp) c).mpr loads
      rw [discover, discover, split, search_first k useless loads,
        search_first k useless_too loads_too, warned]

/-- A directory with a broken configuration, and with a directory under the second name. The
directory above has a good configuration, and then a broken one. -/
def brokenNearest : Files :=
  let entry (name content : String) : Bytes × FileTree :=
    (Utf8.encode name.toList, .file (Utf8.encode content.toList))
  { root := .directory
      [([0x61], .directory
        [entry "cindex.toml" "raw", (Utf8.encode ".cindex.toml".toList, .directory [])]),
       entry "cindex.toml" "[completion]\nraw = true\n", entry ".cindex.toml" "="] }

/-- The broken file is warned of, with whatever is said of its text; the good one is taken, and the
broken one after it is not mentioned. -/
theorem discover_nearest_brokenNearest :
    let broken := Utf8.encode "/a/cindex.toml".toList
    let good := Utf8.encode "/cindex.toml".toList
    ∀ w : Wording, discover w brokenNearest (.upTo (some .debug)) (Utf8.encode "/a".toList) #[] =
      ({ completion := { raw := true } },
        #[skippedEvent w broken (.config (.malformed "raw")), loadedEvent good]) := by
  intro broken good w
  let hidden := Utf8.encode "/a/.cindex.toml".toList
  have all : candidates (Utf8.encode "/a".toList) =
      [broken, hidden, good, Utf8.encode "/.cindex.toml".toList] := by decide +kernel
  have files : brokenNearest.isFile broken = true ∧ brokenNearest.isFile hidden = false ∧
      brokenNearest.isFile good = true := by decide +kernel
  have skipped : load brokenNearest broken = .error (.config (.malformed "raw")) := by
    decide +kernel
  have taken : load brokenNearest good = .ok { completion := { raw := true } } := by
    decide +kernel
  have loads : Loads brokenNearest good { completion := { raw := true } } :=
    loads_iff.mpr ⟨files.2.2, taken⟩
  obtain ⟨_, ⟨before, p, after, c, split, useless, found, run, _⟩ | ⟨useless, _⟩⟩ :=
    discover_nearest (σ := Array Event) w brokenNearest (Utf8.encode "/a".toList)
  · rw [all] at split
    obtain ⟨file, loaded⟩ := loads_iff.mp found
    -- the paths before the one that is taken are the first two, since the third one loads
    rcases before with _ | ⟨first, _ | ⟨second, _ | ⟨third, rest⟩⟩⟩
    · obtain ⟨rfl, _⟩ := List.cons.inj split
      cases skipped.symm.trans loaded
    · obtain ⟨_, split⟩ := List.cons.inj split
      obtain ⟨rfl, _⟩ := List.cons.inj split
      cases files.2.1.symm.trans file
    · simp only [List.cons_append, List.nil_append, List.cons.injEq] at split
      obtain ⟨rfl, rfl, rfl, _⟩ := split
      cases taken.symm.trans loaded
      have warned : [broken, hidden].filterMap (warning? w brokenNearest) =
          [skippedEvent w broken (.config (.malformed "raw"))] := by
        simp [warning?, files, skipped]
      rw [run, warned]
      rfl
    · simp only [List.cons_append, List.cons.injEq] at split
      obtain ⟨_, _, rfl, _⟩ := split
      exact absurd loads (useless good (by simp) _)
  · rw [all] at useless
    exact absurd loads (useless good (by simp) _)

end ClangHost.Config
