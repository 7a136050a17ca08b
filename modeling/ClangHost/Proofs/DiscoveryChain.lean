import ClangHost.Proofs.Discovering
import ClangHost.Proofs.Following

/-!
Where a configuration may come from. The walk goes by the text of the start, so it looks where the
start passes through; a start that leads upward passes through other directories than the one it
leads to and those above (`discover_outside`), all others stay within them (`discover_within`).
-/
namespace ClangHost

namespace Config

variable {σ : Type} {f : Files} {start start' p name : Bytes} {here dir place : Location}
  {cs : List Bytes} {c : Config}

def config? : FileTree → Option Config
  | .file content =>
    (Utf8.decode? content).bind fun text => (ofToml (String.ofList text)).toOption
  | _ => none

def LoadsAt (f : Files) (place : Location) (c : Config) : Prop :=
  ∃ t, f.root.at? place = some t ∧ config? t = some c

def FromChain (f : Files) (here : Location) (c : Config) : Prop :=
  c = {} ∨ ∃ dir name, dir <+: here ∧ name ∈ fileNames ∧ LoadsAt f (dir ++ [name]) c

def Passes (f : Files) (start : Bytes) (dir : Location) : Prop :=
  ∃ cs, cs <+: Path.names start ∧ f.follow [] cs = .ok dir

def Stays (f : Files) (start : Bytes) (here : Location) : Prop :=
  ∀ dir, Passes f start dir → dir <+: here

def usable? (f : Files) (place : Location) : Option (Location × Config) :=
  ((f.root.at? place).bind config?).map fun c => (place, c)

def taken? (f : Files) (start : Bytes) : Option (Location × Config) :=
  (candidates start).findSome? fun p => (f.locate p).toOption.bind (usable? f)

def inDirectory? (f : Files) (dir : Location) : Option (Location × Config) :=
  fileNames.findSome? fun name => usable? f (dir ++ [name])

def nearest? (f : Files) (here : Location) : Option (Location × Config) :=
  here.inits.reverse.findSome? (inDirectory? f)

theorem toOption_eq_some_iff {ε α : Type} {x : Except ε α} {v : α} :
    x.toOption = some v ↔ x = .ok v := by
  cases x <;> simp [Except.toOption]

theorem usable?_eq_some_iff {found : Location × Config} :
    usable? f place = some found ↔ found.1 = place ∧ LoadsAt f place found.2 := by
  rw [usable?, Option.map_eq_some_iff]
  simp only [Option.bind_eq_some_iff, LoadsAt]
  constructor
  · rintro ⟨c, loads, rfl⟩
    exact ⟨rfl, loads⟩
  · rintro ⟨rfl, loads⟩
    exact ⟨found.2, loads, rfl⟩

theorem loads_iff_config? : Loads f p c ↔ ∃ t, f.resolve p = .ok t ∧ config? t = some c := by
  unfold Loads Files.isFile Files.readText
  cases f.resolve p with
  | error e => simp
  | ok t =>
    cases t with
    | file content =>
      cases decoded : Utf8.decode? content <;>
        simp [bind, Except.bind, FileTree.isDirectory, config?, decoded, toOption_eq_some_iff]
    | _ => simp [bind, Except.bind, config?]

theorem loads_iff_loadsAt :
    Loads f p c ↔ ∃ place, f.locate p = .ok place ∧ LoadsAt f place c := by
  rw [loads_iff_config?]
  unfold Files.resolve
  cases f.locate p with
  | error e => simp [bind, Except.bind]
  | ok place => cases found : f.root.at? place <;> simp [bind, Except.bind, LoadsAt, found]

theorem usable_locate_iff {found : Location × Config} :
    (f.locate p).toOption.bind (usable? f) = some found ↔
      f.locate p = .ok found.1 ∧ LoadsAt f found.1 found.2 := by
  simp only [Option.bind_eq_some_iff, toOption_eq_some_iff, usable?_eq_some_iff]
  constructor
  · rintro ⟨place, located, rfl, loads⟩
    exact ⟨located, loads⟩
  · rintro ⟨located, loads⟩
    exact ⟨found.1, located, rfl, loads⟩

theorem search_eq (w : Wording) (k : Sink σ) (ps : List Bytes) (s : σ) :
    (search w f k ps s).1 =
      ((ps.findSome? fun p => (f.locate p).toOption.bind (usable? f)).map Prod.snd).getD {} := by
  induction ps generalizing s with
  | nil => rfl
  | cons p ps ih =>
    by_cases loads : ∃ c, Loads f p c
    · obtain ⟨c, loads⟩ := loads
      obtain ⟨place, at_place⟩ := loads_iff_loadsAt.mp loads
      have here : (f.locate p).toOption.bind (usable? f) = some (place, c) :=
        usable_locate_iff.mpr at_place
      rw [search_of_loads k loads, List.findSome?_cons, here]
      rfl
    · have here : (f.locate p).toOption.bind (usable? f) = none := by
        refine Option.eq_none_iff_forall_ne_some.mpr fun found here => loads ⟨found.2, ?_⟩
        exact loads_iff_loadsAt.mpr ⟨found.1, usable_locate_iff.mp here⟩
      rw [search_of_not_loads k (not_exists.mp loads), List.findSome?_cons, here, ih]

/-- A candidate, with the names on its way. -/
structure CandidateOf (start p : Bytes) (cs : List Bytes) (name : Bytes) : Prop where
  begins : cs <+: Path.names start
  listed : name ∈ fileNames
  absolute : Path.isAbsolute p = true
  parts : ∃ ss, Path.split p = ss ++ [name] ∧ ss.filter Path.isProper = cs
  bytes : 0 ∉ start → 0 ∉ p
  length : p.length ≤ start.length + 13

theorem fileNames_plain : ∀ name ∈ fileNames, Path.isProper name = true ∧ Path.slash ∉ name ∧
    name ≠ Path.up ∧ 0 ∉ name ∧ name.length ≤ 12 := by
  decide

theorem join_bounds (dir name : Bytes) :
    (Path.join dir name).length ≤ dir.length + 1 + name.length ∧
      ∀ b ∈ Path.join dir name, b ∈ dir ∨ b = Path.slash ∨ b ∈ name := by
  unfold Path.join
  split_ifs
  · exact ⟨by omega, fun b member => .inr (.inr member)⟩
  · exact ⟨by rw [List.length_append]; omega, fun b member => by simp at member; tauto⟩
  · exact ⟨by simp; omega, fun b member => by simp at member; tauto⟩

theorem candidateOf_join {dir : Bytes} (absolute : Path.isAbsolute start = true)
    (above : dir ∈ Path.ancestors start) (listed : name ∈ fileNames) :
    CandidateOf start (Path.join dir name) (Path.names dir) name := by
  obtain ⟨proper, plain, _, clean, short⟩ := fileNames_plain name listed
  obtain ⟨ss, parts, same, led⟩ := Path.split_join dir proper plain
  obtain ⟨dir_absolute, begins⟩ := Path.ancestors_of_isAbsolute absolute above
  obtain ⟨length, bytes⟩ := join_bounds dir name
  have text := Path.ancestors_prefix above
  refine ⟨begins, listed, ?_, ⟨ss, parts, same⟩, fun unclean nul => ?_, ?_⟩
  · rw [Path.isAbsolute_iff, led, ← Path.isAbsolute_iff]
    exact dir_absolute
  · rcases bytes 0 nul with inside | is | inside
    · exact unclean (text.subset inside)
    · cases is
    · exact clean inside
  · have := text.length_le
    omega

namespace CandidateOf

variable (of : CandidateOf start p cs name)
include of

theorem follow_iff :
    f.follow [] (Path.split p) = .ok place ↔
      ∃ dir, f.follow [] cs = .ok dir ∧ f.follow dir [name] = .ok place := by
  obtain ⟨ss, parts, same⟩ := of.parts
  rw [parts, Files.follow_snoc_iff, same, Files.follow_append_iff]

theorem follow_name (followed : f.follow dir [name] = .ok place) : place = dir ++ [name] := by
  obtain ⟨proper, _, other, _⟩ := fileNames_plain name of.listed
  exact Files.follow_down (by simpa using proper) (by simpa using Ne.symm other) followed

theorem passes (located : f.locate p = .ok place) :
    ∃ dir, f.follow [] cs = .ok dir ∧ place = dir ++ [name] := by
  obtain ⟨_, _, followed⟩ := (Files.locate_eq_ok_iff of.absolute).mp located
  obtain ⟨dir, above, followed⟩ := of.follow_iff.mp followed
  exact ⟨dir, above, of.follow_name followed⟩

theorem locate (clean : 0 ∉ start) (short : start.length + 13 < FileTree.pathLimit)
    (above : f.follow [] cs = .ok dir) {t : FileTree}
    (found : f.root.at? (dir ++ [name]) = some t) :
    f.locate p = .ok (dir ++ [name]) := by
  obtain ⟨proper, _, other, _, length⟩ := fileNames_plain name of.listed
  have fits := of.length
  have limit : FileTree.nameLimit = 255 := rfl
  rw [Files.at?_append] at found
  -- What stands below `dir` shows that `dir` is a directory with an entry of this name.
  obtain ⟨u, stands, below⟩ := Option.bind_eq_some_iff.mp found
  obtain ⟨v, child, _⟩ := Option.bind_eq_some_iff.mp below
  have directory : u.isDirectory = true := by
    cases u with
    | directory => rfl
    | _ => cases child
  have steps : f.Leads dir name (dir ++ [name]) :=
    .down u proper other (by omega) stands (by rw [child]; rfl)
  refine (Files.locate_eq_ok_iff of.absolute).mpr ⟨of.bytes clean, by omega, ?_⟩
  exact of.follow_iff.mpr
    ⟨dir, above, Files.follow_cons_iff.mpr ⟨⟨u, stands, directory⟩, _, steps, rfl⟩⟩

theorem usable_eq (clean : 0 ∉ start) (short : start.length + 13 < FileTree.pathLimit)
    (above : f.follow [] cs = .ok dir) :
    (f.locate p).toOption.bind (usable? f) = usable? f (dir ++ [name]) := by
  cases located : f.locate p with
  | ok place =>
    obtain ⟨other, above', rfl⟩ := of.passes located
    cases above.symm.trans above'
    rfl
  | error e =>
    refine (Option.eq_none_iff_forall_ne_some.mpr fun found here => ?_).symm
    obtain ⟨_, t, stands, _⟩ := usable?_eq_some_iff.mp here
    cases located.symm.trans (of.locate clean short above stands)

end CandidateOf

theorem findSome?_flatMap {α β γ : Type} (l : List α) (g : α → List β) (h : β → Option γ) :
    (l.flatMap g).findSome? h = l.findSome? fun a => (g a).findSome? h := by
  induction l with
  | nil => rfl
  | cons a l ih =>
    rw [List.flatMap_cons, List.findSome?_append, ih, List.findSome?_cons]
    cases (g a).findSome? h <;> rfl

theorem findSome?_congr {α β : Type} {l : List α} {g h : α → Option β}
    (same : ∀ a ∈ l, g a = h a) : l.findSome? g = l.findSome? h := by
  induction l with
  | nil => rfl
  | cons a l ih =>
    rw [List.findSome?_cons, List.findSome?_cons, same a List.mem_cons_self,
      ih fun b member => same b (List.mem_cons_of_mem a member)]

theorem findSome?_inits_concat {α β : Type} (h : List α → Option β) (l : List α) (a : α) :
    (l ++ [a]).inits.reverse.findSome? h =
      (h (l ++ [a])).or (l.inits.reverse.findSome? h) := by
  rw [List.inits_append]
  cases found : h (l ++ [a]) <;> simp [found]

/-- The way back along a path that stays above a directory. Each step goes up by one level at most,
so no level is missed: whatever is looked for is found where the way straight up finds it. -/
theorem findSome?_trail {α : Type} (g : Location → Option α) {ss : List Bytes} {level : Nat}
    (followed : f.follow [] ss = .ok dir)
    (inside : ∀ cs d, cs <+: ss → f.follow [] cs = .ok d → d <+: here)
    (deep : level ≤ dir.length)
    (below : ∀ d, d <+: here → level < d.length → g d = none) :
    ss.inits.reverse.findSome? (fun cs => (f.follow [] cs).toOption.bind g) =
      (here.take level).inits.reverse.findSome? g := by
  -- The induction is on the path from its end, as the walk goes; at and above `level` the way
  -- straight up has still to look.
  induction ss using List.reverseRecOn generalizing dir level with
  | nil =>
    cases followed
    cases Nat.le_zero.mp deep
    rfl
  | append_singleton ss s ih =>
    obtain ⟨last, before, step⟩ := Files.follow_append_iff.mp followed
    obtain ⟨_, _, leads, same⟩ := Files.follow_cons_iff.mp step
    cases same
    have rises := leads.length_le
    have inside_before : ∀ cs d, cs <+: ss → f.follow [] cs = .ok d → d <+: here :=
      fun cs d begins => inside cs d (begins.trans (List.prefix_append ss [s]))
    have within : dir <+: here := inside _ dir List.prefix_rfl followed
    have at_end : (f.follow [] (ss ++ [s])).toOption.bind g = g dir := by
      rw [followed]
      rfl
    rw [findSome?_inits_concat, at_end]
    rcases Nat.lt_or_ge level dir.length with deeper | shallow
    · rw [below dir within deeper, Option.none_or]
      exact ih before inside_before (by omega) below
    · have level_eq : dir.length = level := Nat.le_antisymm shallow deep
      have here_eq : here.take level = dir := by
        rw [List.prefix_iff_eq_take.mp within, level_eq]
      rw [here_eq]
      cases level with
      | zero =>
        cases List.length_eq_zero_iff.mp level_eq
        have rest := ih before inside_before (Nat.zero_le _) below
        rw [List.take_zero] at rest
        rw [rest]
        cases found : g [] <;> simp [found]
      | succ level =>
        have long : level < here.length := by
          have := within.length_le
          omega
        have last_eq : dir = here.take level ++ [here[level]] := by
          rw [← here_eq, List.take_append_getElem]
        rw [last_eq, findSome?_inits_concat, ← last_eq]
        cases found : g dir with
        | some v => rfl
        | none =>
          rw [Option.none_or, Option.none_or]
          refine ih before inside_before (by omega) fun d begins deeper => ?_
          by_cases at_level : d.length = level + 1
          · rw [List.prefix_iff_eq_take.mp begins, at_level, here_eq]
            exact found
          · exact below d begins (by omega)

section Starts

variable (absolute : Path.isAbsolute start = true) (located : f.locate start = .ok here)
include absolute located

theorem exists_follow (begins : cs <+: Path.names start) : ∃ dir, f.follow [] cs = .ok dir := by
  obtain ⟨_, _, followed⟩ := (Files.locate_eq_ok_iff absolute).mp located
  have whole := Files.follow_filter followed
  obtain ⟨rest, split⟩ := begins
  rw [← Path.names, ← split] at whole
  obtain ⟨dir, above, _⟩ := Files.follow_append_iff.mp whole
  exact ⟨dir, above⟩

theorem stays_of_down (down : Path.up ∉ Path.names start) : Stays f start here := by
  obtain ⟨_, _, followed⟩ := (Files.locate_eq_ok_iff absolute).mp located
  have proper : ∀ s ∈ Path.names start, Path.isProper s = true := fun s member =>
    (List.mem_filter.mp member).2
  rintro dir ⟨cs, begins, above⟩
  have whole := Files.follow_down proper down (Files.follow_filter followed)
  have part := Files.follow_down (fun s member => proper s (begins.subset member))
    (fun member => down (begins.subset member)) above
  rw [whole, part]
  exact begins

theorem taken?_eq (stays : Stays f start here)
    (short : start.length + 13 < FileTree.pathLimit) : taken? f start = nearest? f here := by
  obtain ⟨clean, _, followed⟩ := (Files.locate_eq_ok_iff absolute).mp located
  have at_ancestor : ∀ dir ∈ Path.ancestors start,
      (fileNames.map (Path.join dir)).findSome?
          (fun p => (f.locate p).toOption.bind (usable? f)) =
        (f.follow [] (Path.names dir)).toOption.bind (inDirectory? f) := by
    intro dir above
    obtain ⟨d, led⟩ := exists_follow absolute located
      (Path.ancestors_of_isAbsolute absolute above).2
    rw [List.findSome?_map, led]
    exact findSome?_congr fun name listed =>
      (candidateOf_join absolute above listed).usable_eq clean short led
  -- The walk looks where the names of the start lead, from all of them to none.
  have trail := findSome?_trail (inDirectory? f) (Files.follow_filter followed)
    (fun cs d begins led => stays d ⟨cs, begins, led⟩) (le_refl here.length)
    (fun d begins deeper => absurd begins.length_le (Nat.not_le_of_lt deeper))
  rw [List.take_length, ← nearest?, ← Path.names, ← Path.names_ancestors absolute,
    List.findSome?_map] at trail
  rw [taken?, candidates, findSome?_flatMap, findSome?_congr at_ancestor]
  exact trail

end Starts

theorem passes_of_taken (absolute : Path.isAbsolute start = true)
    {found : Location × Config} (taken : taken? f start = some found) :
    ∃ dir name, Passes f start dir ∧ name ∈ fileNames ∧ LoadsAt f (dir ++ [name]) found.2 := by
  obtain ⟨p, member, here⟩ := List.exists_of_findSome?_eq_some taken
  obtain ⟨dir, above, member⟩ := List.mem_flatMap.mp member
  obtain ⟨name, listed, rfl⟩ := List.mem_map.mp member
  obtain ⟨located, loads⟩ := usable_locate_iff.mp here
  have of := candidateOf_join absolute above listed
  obtain ⟨d, led, same⟩ := of.passes located
  exact ⟨d, name, ⟨_, of.begins, led⟩, listed, same ▸ loads⟩

/-- A configuration is the default or comes from a directory that the start passes through. Where
the start stays in its directory and those above, as it does unless it leads upward, that directory
decides which file is taken, as long as no path grows too long. -/
theorem discover_within (w : Wording) (f : Files) (k : Sink σ) (start : Bytes) (s : σ)
    (here : Location) (absolute : Path.isAbsolute start = true)
    (located : f.locate start = .ok here) :
    let c := (discover w f k start s).1
    c = ((taken? f start).map Prod.snd).getD {} ∧
    (c = {} ∨ ∃ dir name, Passes f start dir ∧ name ∈ fileNames ∧ LoadsAt f (dir ++ [name]) c) ∧
    (Path.up ∉ Path.names start → Stays f start here) ∧
    (Stays f start here → FromChain f here c ∧
      ∀ (start' : Bytes) (s' : σ), Path.isAbsolute start' = true → f.locate start' = .ok here →
        Stays f start' here → (∀ p ∈ [start, start'], p.length + 13 < FileTree.pathLimit) →
        taken? f start' = taken? f start ∧ (discover w f k start' s').1 = c) := by
  intro c
  have outcome : c = ((taken? f start).map Prod.snd).getD {} := search_eq w k _ s
  have passed : c = {} ∨ ∃ dir name, Passes f start dir ∧ name ∈ fileNames ∧
      LoadsAt f (dir ++ [name]) c := by
    rw [outcome]
    cases taken : taken? f start with
    | none => exact .inl rfl
    | some found => exact .inr (passes_of_taken absolute taken)
  refine ⟨outcome, passed, stays_of_down absolute located, fun stays => ⟨?_, ?_⟩⟩
  · exact passed.imp_right fun ⟨dir, name, passes, listed, loads⟩ =>
      ⟨dir, name, stays dir passes, listed, loads⟩
  · intro start' s' absolute' located' stays' short
    have same : taken? f start' = taken? f start := by
      rw [taken?_eq absolute located stays (short start (by simp)),
        taken?_eq absolute' located' stays' (short start' (by simp))]
    exact ⟨same, by rw [outcome, ← same]; exact search_eq w k _ s'⟩

def siblings : Files :=
  { root := .directory
      [([0x61], .directory
        [(Utf8.encode "cindex.toml".toList,
          .file (Utf8.encode "[completion]\nraw = true\n".toList))]),
       ([0x62], .directory [])] }

/-- Written with a step upward, a start takes the configuration of the directory beside. -/
theorem discover_outside :
    let start := Utf8.encode "/a/../b".toList
    let direct := Utf8.encode "/b".toList
    let found := fun p => (discover (fun _ => "") siblings (.none : Sink Unit) p ()).1
    Path.isAbsolute start = true ∧ siblings.DirectoryAt [[0x62]] ∧
    siblings.locate start = .ok [[0x62]] ∧ siblings.locate direct = .ok [[0x62]] ∧
    ¬ FromChain siblings [[0x62]] (found start) ∧ found direct ≠ found start := by
  intro start direct found
  have raw : found start = { completion := { raw := true } } := by decide +kernel
  have default : found direct = {} := by decide +kernel
  have nothing : ∀ dir ∈ [[0x62]].inits, ∀ name ∈ fileNames,
      (siblings.root.at? (dir ++ [name])).isNone = true := by
    decide +kernel
  refine ⟨by decide, ⟨.directory [], rfl, rfl⟩, rfl, rfl, ?_, ?_⟩
  · rw [raw]
    rintro (same | ⟨dir, name, begins, listed, _, here, _⟩)
    · cases same
    · have missing := nothing dir ((List.mem_inits _ _).mpr begins) name listed
      rw [here] at missing
      cases missing
  · rw [raw, default]
    decide

/-- Starts that lead to the first of the two directories take the configuration in it. -/
theorem discover_within_siblings :
    let start := Utf8.encode "/a//.".toList
    let direct := Utf8.encode "/a".toList
    let found := fun p => (discover (fun _ => "") siblings (.none : Sink Unit) p ()).1
    Path.isAbsolute start = true ∧ siblings.locate start = .ok [[0x61]] ∧
    found start = { completion := { raw := true } } ∧
    FromChain siblings [[0x61]] (found start) ∧ found direct = found start := by
  intro start direct found
  have raw : found start = { completion := { raw := true } } := by decide +kernel
  have located : siblings.locate start = .ok [[0x61]] := rfl
  obtain ⟨_, _, stays, within⟩ :=
    discover_within (fun _ => "") siblings (.none : Sink Unit) start () [[0x61]] (by decide) located
  obtain ⟨chain, same⟩ := within (stays (by decide +kernel))
  have stays' : Stays siblings direct [[0x61]] :=
    stays_of_down (by decide) rfl (by decide +kernel)
  have short : ∀ p ∈ [start, direct], p.length + 13 < FileTree.pathLimit := by decide +kernel
  exact ⟨by decide, located, raw, chain, (same direct () (by decide) rfl stays' short).2⟩

end Config
end ClangHost
