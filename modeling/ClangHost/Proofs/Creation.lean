import ClangHost.Files.Creation
import ClangHost.Proofs.Following

/-!
What is there after files and directories were made. All that was there stays, and what is new is
a directory or a file that is empty (`Grows`). So a path leads where it led before, a log file that
was opened is there at its path (`isFile_openLog`), and one that was there before is opened without
any change (`openLog_of_isFile`).
-/
namespace ClangHost

namespace FileTree

variable {t : FileTree} {change : Option FileTree → FileTree} {name : Bytes} {rest : Location}

theorem isDirectory_of_child? {c : FileTree} (child : t.child? name = some c) :
    t.isDirectory = true := by
  cases t with
  | directory entries => rfl
  | file content => cases child
  | library exports => cases child

theorem isDirectory_alter (directory : t.isDirectory = true) :
    (alter change (name :: rest) (some t)).isDirectory = true := by
  cases t with
  | directory entries =>
    rw [alter]
    split <;> rfl
  | file content => cases directory
  | library exports => cases directory

theorem child?_alter (directory : t.isDirectory = true) (other : Bytes) :
    (alter change (name :: rest) (some t)).child? other =
      if other = name then some (alter change rest (t.child? name)) else t.child? other := by
  cases t with
  | file content => cases directory
  | library exports => cases directory
  | directory entries =>
    rw [alter]
    split
    case h_1 missing =>
      have vacant : (FileTree.directory entries).child? name = none := by simp [child?, missing]
      rw [vacant]
      by_cases same : other = name
      · subst same
        simp [child?, List.find?_append, missing]
      · simp [child?, List.find?_append, same, Ne.symm same]
    case h_2 _ old found =>
      have held : (FileTree.directory entries).child? name = some old := by simp [child?, found]
      let exchange (e : Bytes × FileTree) : Bytes × FileTree :=
        if e.1 == name then (name, alter change rest (some old)) else e
      have keys : (fun e : Bytes × FileTree => e.1 == other) ∘ exchange =
          fun e => e.1 == other := by
        funext e
        by_cases here : e.1 = name <;> simp [exchange, here]
      rw [held]
      change ((entries.map exchange).find? _).map _ = _
      rw [List.find?_map, keys, Option.map_map]
      by_cases same : other = name
      · subst same
        have key := List.find?_some found
        simp_all [exchange]
      · rw [if_neg same, child?]
        cases hit : entries.find? fun e => e.1 == other with
        | none => rfl
        | some e =>
          have key : e.1 = other := by simpa using List.find?_some hit
          simp [exchange, key, same]

theorem at?_put {item d : FileTree} (bare : ∀ n, item.child? n = none) {dir : Location}
    (stands : t.at? dir = some d) (directory : d.isDirectory = true)
    (vacant : d.child? name = none) (q : Location) :
    q = dir ++ [name] ∧ (t.put item (dir ++ [name])).at? q = some item ∨
    q ≠ dir ++ [name] ∧ (t.put item (dir ++ [name])).at? q = t.at? q ∨
    ∃ u v, t.at? q = some u ∧ u.isDirectory = true ∧
      (t.put item (dir ++ [name])).at? q = some v ∧ v.isDirectory = true := by
  induction dir generalizing t q with
  | nil =>
    obtain rfl : t = d := Option.some.inj stands
    cases q with
    | nil => exact .inr (.inr ⟨t, _, rfl, directory, rfl, isDirectory_alter directory⟩)
    | cons n q =>
      change _ ∧ ((alter _ [name] (some t)).child? n).bind _ = _ ∨
        _ ∧ ((alter _ [name] (some t)).child? n).bind _ = _ ∨ _
      rw [child?_alter directory]
      by_cases same : n = name
      · subst same
        cases q with
        | nil => exact .inl ⟨rfl, by simp [alter, at?]⟩
        | cons m q => exact .inr (.inl ⟨by simp, by simp [alter, at?, bare, vacant]⟩)
      · exact .inr (.inl ⟨by simp [same], by simp [same, at?]⟩)
  | cons m dir ih =>
    obtain ⟨c, child, inside⟩ := Option.bind_eq_some_iff.mp stands
    have above := isDirectory_of_child? child
    cases q with
    | nil => exact .inr (.inr ⟨t, _, rfl, above, rfl, isDirectory_alter above⟩)
    | cons n q =>
      by_cases same : n = m
      · subst same
        have below : ∀ r, (t.put item (n :: dir ++ [name])).at? (n :: r) =
            (c.put item (dir ++ [name])).at? r := by
          intro r
          simp [put, at?, child?_alter above, child]
        have before : t.at? (n :: q) = c.at? q := by simp [at?, child]
        rw [below, before]
        simpa using ih inside q
      · refine .inr (.inl ⟨by simp [same], ?_⟩)
        simp [put, at?, child?_alter above, same]

end FileTree

namespace Files

/-- `g` has all that `f` has. What is new in it is a directory, or an empty file at a place where
one was to be made. -/
structure Grows (made : Location → Prop) (f g : Files) : Prop where
  current : g.current = f.current
  searched : g.searched = f.searched
  directory : ∀ {q}, f.DirectoryAt q → g.DirectoryAt q
  file : ∀ {q t}, f.root.at? q = some t → t.isDirectory = false → g.root.at? q = some t
  fresh : ∀ {q t}, f.root.at? q = none → g.root.at? q = some t →
    t.isDirectory = true ∨ made q ∧ t = .file []

variable {made : Location → Prop} {f g h : Files} {p : Bytes} {place here there : Location}

namespace Grows

theorem refl (f : Files) : Grows made f f :=
  ⟨rfl, rfl, id, fun found _ => found, fun missing found => by simp [missing] at found⟩

theorem trans (first : Grows made f g) (next : Grows made g h) : Grows made f h where
  current := next.current.trans first.current
  searched := next.searched.trans first.searched
  directory := next.directory ∘ first.directory
  file found isFile := next.file (first.file found isFile) isFile
  fresh {q t} missing found := by
    cases between : g.root.at? q with
    | none => exact next.fresh between found
    | some u =>
      rcases first.fresh missing between with directory | ⟨asked, rfl⟩
      · obtain ⟨v, there, still⟩ := next.directory ⟨u, between, directory⟩
        cases found.symm.trans there
        exact .inl still
      · cases found.symm.trans (next.file between rfl)
        exact .inr ⟨asked, rfl⟩

theorem mono {wider : Location → Prop} (grows : Grows made f g) (wide : ∀ q, made q → wider q) :
    Grows wider f g :=
  ⟨grows.current, grows.searched, grows.directory, grows.file, fun missing found =>
    (grows.fresh missing found).imp_right (And.imp_left (wide _))⟩

theorem isSome (grows : Grows made f g) (found : (f.root.at? here).isSome) :
    (g.root.at? here).isSome := by
  obtain ⟨t, found⟩ := Option.isSome_iff_exists.mp found
  cases directory : t.isDirectory with
  | false => simp [grows.file found directory]
  | true =>
    obtain ⟨u, there, _⟩ := grows.directory ⟨t, found, directory⟩
    simp [there]

end Grows

theorem follow_singleton_iff {s : Bytes} :
    f.follow here [s] = .ok there ↔ f.DirectoryAt here ∧ f.Leads here s there := by
  rw [follow_cons_iff]
  simp [follow]

theorem below_eq_ok_iff {name : Bytes} : f.below here name = .ok place ↔
    f.DirectoryAt here ∧ (Path.isProper name = true ∧ name ≠ Path.up ∧
      name.length ≤ FileTree.nameLimit) ∧ place = here ++ [name] := by
  rw [below]
  cases found : f.root.at? here with
  | none => simp [DirectoryAt, found]
  | some t =>
    cases directory : t.isDirectory with
    | false => simp [DirectoryAt, found, directory]
    | true =>
      have stands : f.DirectoryAt here := ⟨t, found, directory⟩
      simp only [stands, directory, Bool.not_true, Bool.false_eq_true, if_false, true_and]
      split_ifs with unnamed long
      · refine iff_of_false (by simp) ?_
        rintro ⟨⟨proper, other, _⟩, _⟩
        simp [Path.isProper] at proper
        simp [proper, other] at unnamed
      · simp [Nat.not_le.mpr long]
      · have named : Path.isProper name = true ∧ name ≠ Path.up := by
          simpa [Path.isProper] using unnamed
        simp [named, Nat.not_lt.mp long, eq_comm]

theorem newPlace_eq_ok_iff : f.newPlace p = .ok place ↔
    Admitted p ∧ ∃ here,
      f.follow (if Path.isAbsolute p then [] else f.current) (Path.split p).dropLast = .ok here ∧
      f.below here ((Path.split p).getLast (Path.split_ne_nil p)) = .ok place := by
  rw [newPlace]
  generalize (if Path.isAbsolute p then [] else f.current) = start
  split_ifs with nul blank long
  · simp [Admitted, nul]
  · simp [Admitted, blank]
  · simp [Admitted, Nat.not_lt.mpr long]
  · simp only [Admitted, nul, blank, Nat.lt_of_not_ge long, not_false_eq_true, true_and]
    cases f.follow start (Path.split p).dropLast with
    | error cause => simp [bind, Except.bind]
    | ok here => simp [bind, Except.bind]

theorem isSome_concat {t : FileTree} {name : Bytes} (found : f.root.at? here = some t) :
    (f.root.at? (here ++ [name])).isSome = (t.child? name).isSome := by
  rw [at?_append, found]
  cases child : t.child? name <;> simp [FileTree.at?, child]

theorem Leads.concat {name : Bytes} (stands : f.DirectoryAt here)
    (proper : Path.isProper name = true) (other : name ≠ Path.up)
    (short : name.length ≤ FileTree.nameLimit)
    (there : (f.root.at? (here ++ [name])).isSome) : f.Leads here name (here ++ [name]) := by
  obtain ⟨t, found, _⟩ := stands
  exact .down t proper other short found (by rwa [← isSome_concat found])

namespace Grows

theorem leads {s : Bytes} (grows : Grows made f g) (stands : f.DirectoryAt here)
    (leads : f.Leads here s there) : g.Leads here s there := by
  cases leads with
  | stay trivial => exact .stay trivial
  | up upward => exact .up upward
  | down t proper other short found child =>
    rw [← isSome_concat found] at child
    exact .concat (grows.directory stands) proper other short (grows.isSome child)

theorem follow {ss : List Bytes} (grows : Grows made f g)
    (followed : f.follow here ss = .ok there) : g.follow here ss = .ok there := by
  induction ss generalizing here with
  | nil => exact followed
  | cons s ss ih =>
    obtain ⟨stands, next, leads, followed⟩ := follow_cons_iff.mp followed
    exact follow_cons_iff.mpr ⟨grows.directory stands, next, grows.leads stands leads, ih followed⟩

theorem newPlace (grows : Grows made f g) (new : f.newPlace p = .ok place) :
    g.newPlace p = .ok place := by
  obtain ⟨admitted, here, followed, below⟩ := newPlace_eq_ok_iff.mp new
  obtain ⟨stands, named, is⟩ := below_eq_ok_iff.mp below
  rw [newPlace_eq_ok_iff, grows.current]
  exact ⟨admitted, here, grows.follow followed,
    below_eq_ok_iff.mpr ⟨grows.directory stands, named, is⟩⟩

end Grows

theorem locate_of_newPlace (new : f.newPlace p = .ok place) (found : (f.root.at? place).isSome) :
    f.locate p = .ok place := by
  obtain ⟨admitted, here, followed, below⟩ := newPlace_eq_ok_iff.mp new
  obtain ⟨stands, ⟨proper, other, short⟩, rfl⟩ := below_eq_ok_iff.mp below
  have all := follow_append_iff.mpr ⟨here, followed,
    follow_singleton_iff.mpr ⟨stands, .concat stands proper other short found⟩⟩
  rw [List.dropLast_append_getLast] at all
  exact locate_eq_ok_iff_follow.mpr ⟨admitted, all⟩

theorem directoryAt_dropLast {t : FileTree} (found : f.root.at? here = some t)
    (directory : t.isDirectory = true) : f.DirectoryAt here.dropLast := by
  rcases List.eq_nil_or_concat here with rfl | ⟨above, name, rfl⟩
  · exact ⟨t, found, directory⟩
  · rw [List.concat_eq_append, at?_append] at found
    obtain ⟨u, there, child⟩ := Option.bind_eq_some_iff.mp found
    obtain ⟨c, child, _⟩ := Option.bind_eq_some_iff.mp child
    rw [List.concat_eq_append, List.dropLast_concat]
    exact ⟨u, there, FileTree.isDirectory_of_child? child⟩

theorem newPlace_of_locate {t : FileTree} (located : f.locate p = .ok place)
    (found : f.root.at? place = some t) (isFile : t.isDirectory = false) :
    f.newPlace p = .ok place := by
  obtain ⟨admitted, followed⟩ := locate_eq_ok_iff_follow.mp located
  rw [← List.dropLast_append_getLast (Path.split_ne_nil p), follow_append_iff] at followed
  obtain ⟨here, followed, last⟩ := followed
  obtain ⟨stands, leads⟩ := follow_singleton_iff.mp last
  refine newPlace_eq_ok_iff.mpr ⟨admitted, here, followed, below_eq_ok_iff.mpr ?_⟩
  have notDirectory : ¬ f.DirectoryAt place := by
    rintro ⟨u, there, directory⟩
    cases found.symm.trans there
    cases isFile.symm.trans directory
  cases leads with
  | stay => exact absurd stands notDirectory
  | up =>
    obtain ⟨u, there, directory⟩ := stands
    exact absurd (directoryAt_dropLast there directory) notDirectory
  | down u proper other short => exact ⟨stands, ⟨proper, other, short⟩, rfl⟩

theorem isFile_eq_true_iff : f.isFile p = true ↔
    ∃ place t, f.locate p = .ok place ∧ f.root.at? place = some t ∧ t.isDirectory = false := by
  rw [isFile, resolve]
  cases located : f.locate p with
  | error cause => simp [bind, Except.bind]
  | ok place => cases found : f.root.at? place <;> simp [bind, Except.bind, found]

theorem add_spec {item : FileTree} (bare : ∀ n, item.child? n = none)
    (kind : item.isDirectory = true ∨ made place ∧ item = .file [])
    (new : f.newPlace p = .ok place) (vacant : f.root.at? place = none) :
    Grows made f (f.add item place) ∧ (f.add item place).root.at? place = some item := by
  obtain ⟨_, here, _, below⟩ := newPlace_eq_ok_iff.mp new
  obtain ⟨⟨d, found, directory⟩, _, rfl⟩ := below_eq_ok_iff.mp below
  generalize (Path.split p).getLast (Path.split_ne_nil p) = name at kind vacant
  have missing : d.child? name = none := by
    rw [← Option.not_isSome_iff_eq_none, ← isSome_concat found, vacant]
    exact Bool.false_ne_true
  have after := FileTree.at?_put bare found directory missing
  refine ⟨⟨rfl, rfl, ?directory, ?file, ?fresh⟩, ?there⟩
  case directory =>
    rintro q ⟨u, found, isDirectory⟩
    rcases after q with ⟨rfl, _⟩ | ⟨_, same⟩ | ⟨_, v, _, _, there, still⟩
    · cases vacant.symm.trans found
    · exact ⟨u, same.trans found, isDirectory⟩
    · exact ⟨v, there, still⟩
  case file =>
    intro q u found isFile
    rcases after q with ⟨rfl, _⟩ | ⟨_, same⟩ | ⟨v, _, there, isDirectory, _⟩
    · cases vacant.symm.trans found
    · exact same.trans found
    · cases found.symm.trans there
      cases isFile.symm.trans isDirectory
  case fresh =>
    intro q u unseen found
    rcases after q with ⟨rfl, there⟩ | ⟨_, same⟩ | ⟨v, _, there, _⟩
    · cases found.symm.trans there
      exact kind
    · cases (same.trans unseen).symm.trans found
    · cases unseen.symm.trans there
  case there =>
    rcases after (here ++ [name]) with ⟨_, there⟩ | ⟨other, _⟩ | ⟨v, _, there, _⟩
    · exact there
    · exact absurd rfl other
    · cases vacant.symm.trans there

theorem makeDirectory_grows (done : f.makeDirectory p = .ok g) : Grows made f g := by
  rw [makeDirectory] at done
  cases new : f.newPlace p with
  | error cause => simp [new] at done
  | ok place =>
    simp only [new] at done
    split_ifs at done with taken
    cases done
    exact (add_spec (fun _ => rfl) (.inl rfl) new (by simpa using taken)).1

theorem makeDirectories_grows (f : Files) (ps : List Bytes) :
    Grows made f (f.makeDirectories ps).2 := by
  induction ps generalizing f with
  | nil => exact .refl f
  | cons p above ih =>
    rw [makeDirectories]
    split
    · exact .refl f
    · split
      · exact makeDirectory_grows ‹_›
      · have first := ih f
        split
        · rename_i g failed
          rwa [failed] at first
        · rename_i g done
          rw [done] at first
          split
          · exact first.trans (makeDirectory_grows ‹_›)
          · exact first
      · exact .refl f

theorem openFile_spec (opened : f.openFile p = .ok (place, g)) :
    Grows (· = place) f g ∧ g.locate p = .ok place ∧
      ∃ t, g.root.at? place = some t ∧ t.isDirectory = false := by
  rw [openFile] at opened
  cases new : f.newPlace p with
  | error cause => simp [new] at opened
  | ok there =>
    simp only [new] at opened
    cases found : f.root.at? there with
    | none =>
      simp only [found, Except.ok.injEq, Prod.mk.injEq] at opened
      obtain ⟨rfl, rfl⟩ := opened
      have added : Grows (· = there) f (f.add (.file []) there) ∧
          (f.add (.file []) there).root.at? there = some (.file []) :=
        add_spec (fun _ => rfl) (.inr ⟨rfl, rfl⟩) new found
      obtain ⟨grows, empty⟩ := added
      exact ⟨grows, locate_of_newPlace (grows.newPlace new) (by simp [empty]), _, empty, rfl⟩
    | some t =>
      simp only [found] at opened
      split_ifs at opened with directory
      cases opened
      have isFile : t.isDirectory = false := by simpa using directory
      exact ⟨.refl f, locate_of_newPlace new (by simp [found]), t, found, isFile⟩

theorem openFile_of_isFile (there : f.isFile p = true) :
    ∃ place, f.openFile p = .ok (place, f) := by
  obtain ⟨place, t, located, found, isFile⟩ := isFile_eq_true_iff.mp there
  have new := newPlace_of_locate located found isFile
  exact ⟨place, by simp [openFile, new, found, isFile]⟩

theorem openLog_cases (f : Files) (p : Bytes) :
    ∃ g, (∀ made, Grows made f g) ∧ (f.openLog p = (none, g) ∨
      ∃ place h, g.openFile p = .ok (place, h) ∧ f.openLog p = (some place, h)) := by
  rw [openLog]
  split
  · exact ⟨f, fun _ => .refl f, .inr ⟨_, _, ‹_›, rfl⟩⟩
  · have above : ∀ made, Grows made f (f.makeDirectories (Path.ancestors p).tail).2 :=
      fun _ => makeDirectories_grows f _
    split
    · rename_i g failed
      rw [failed] at above
      exact ⟨g, above, .inl rfl⟩
    · rename_i g done
      rw [done] at above
      split
      · exact ⟨g, above, .inr ⟨_, _, ‹_›, rfl⟩⟩
      · exact ⟨g, above, .inl rfl⟩

/-- Nothing is new but directories and the log file that was opened. -/
theorem openLog_grows (f : Files) (p : Bytes) :
    Grows (fun q => (f.openLog p).1 = some q) f (f.openLog p).2 := by
  obtain ⟨g, above, failed | ⟨place, h, opened, is⟩⟩ := openLog_cases f p
  · rw [failed]
    exact above _
  · rw [is]
    exact (above _).trans ((openFile_spec opened).1.mono fun q here => by rw [here])

theorem locate_openLog (opened : (f.openLog p).1 = some place) :
    (f.openLog p).2.locate p = .ok place ∧ (f.openLog p).2.isFile p = true := by
  obtain ⟨g, _, failed | ⟨there, h, done, is⟩⟩ := openLog_cases f p
  · rw [failed] at opened
    cases opened
  · rw [is] at opened ⊢
    cases opened
    obtain ⟨_, located, t, found, isFile⟩ := openFile_spec done
    exact ⟨located, isFile_eq_true_iff.mpr ⟨place, t, located, found, isFile⟩⟩

/-- A log file that is there is opened without any change. -/
theorem openLog_of_isFile (there : f.isFile p = true) :
    ∃ place, f.openLog p = (some place, f) := by
  obtain ⟨place, opened⟩ := openFile_of_isFile there
  exact ⟨place, by rw [openLog, opened]⟩

end Files
end ClangHost
