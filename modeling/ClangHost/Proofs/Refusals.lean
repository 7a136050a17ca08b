import ClangHost.Proofs.Creation
import ClangHost.Proofs.Installation
import Mathlib

/-!
What is left of an attempt to set up the log that was refused. Where the library's log was set up
before, nothing is (`initLogging_of_initialized`). Where the program's subscriber was there first,
that one stays and answers as before; but the log file of the configuration was opened by then,
and what is no directive was told of (`readFilter_of_program`). So a refused attempt changes no file
and no directory exactly where there is no log file to be opened or where its path leads to a file
already (`refused_leaves`).
-/
namespace ClangHost

namespace LogOutput

variable {f : Files} {output : LogOutput}

theorem opened_grows (f : Files) (output : LogOutput) :
    f.Grows (fun place => ∃ path, output.path? = some path ∧
      (output.opened f).2.locate path = .ok place) (output.opened f).2 := by
  cases output with
  | stdout => exact .refl f
  | stderr => exact .refl f
  | file directory name =>
    simp only [opened]
    exact (f.openLog_grows (filePath directory name)).mono fun place new =>
      ⟨_, rfl, (Files.locate_openLog new).1⟩

theorem isFile_opened {writer : LogWriter} (done : (output.opened f).1 = some writer) {path : Bytes}
    (at_path : output.path? = some path) : (output.opened f).2.isFile path = true := by
  cases output with
  | file directory name =>
    cases at_path
    simp only [opened] at done ⊢
    obtain ⟨place, found, rfl⟩ := Option.map_eq_some_iff.mp done
    exact (Files.locate_openLog found).2
  | _ => cases at_path

/-- Nothing changes exactly where there is no log file to be opened, or where it is there. -/
theorem opened_eq_self_iff {writer : LogWriter} (done : (output.opened f).1 = some writer) :
    (output.opened f).2 = f ↔ ∀ path, output.path? = some path → f.isFile path = true := by
  constructor
  · intro same path at_path
    have there := isFile_opened done at_path
    rwa [same] at there
  · intro there
    cases output with
    | file directory name =>
      obtain ⟨place, opened_as⟩ := Files.openLog_of_isFile (there _ rfl)
      rw [opened, opened_as]
    | _ => rfl

end LogOutput

namespace Logger

def told (events : List Event) (p : Logger) : Logger :=
  match p.subscriber with
  | some (.program s) =>
    let kept := events.filter fun e => s.takes e.level e.target && s.records
    { p with recorded := p.recorded ++ kept.toArray }
  | _ => p

def complained (pieces : List String) (p : Logger) : Logger :=
  { p with stderr := p.stderr ++ (pieces.map .complaint).toArray }

theorem told_nil (p : Logger) : told [] p = p := by
  unfold told
  split
  · simp
  · rfl

theorem told_told (xs ys : List Event) (p : Logger) : told ys (told xs p) = told (xs ++ ys) p := by
  unfold told
  cases taker : p.subscriber with
  | none => simp [taker]
  | some s => cases s <;> simp [taker]

theorem told_eq (events : List Event) (p : Logger) :
    told events p = { p with recorded := (told events p).recorded } := by
  unfold told
  split <;> rfl

variable {p : Logger}

theorem report_of_program (foreign : p.holder? = some .program) (e : Event) :
    report e none p = ((), told [e] p) := by
  obtain ⟨env, files, taker, noted, out, err, logged, recorded⟩ := p
  cases taker with
  | none => cases foreign
  | some s =>
    cases s with
    | own s => cases foreign
    | program s =>
      change (if s.takes e.level e.target && s.records then _ else pure () :
        StateM Logger Unit) _ = _
      cases kept : s.takes e.level e.target && s.records with
      | true =>
        change ((), (⟨env, files, some (.program s), noted, out, err, logged, recorded.push e⟩ :
          Logger)) = _
        simp [told, kept]
      | false =>
        change ((), (⟨env, files, some (.program s), noted, out, err, logged, recorded⟩ :
          Logger)) = _
        simp [told, kept]

theorem forM_report_of_program (foreign : p.holder? = some .program) (pieces : List String) :
    (pieces.forM fun piece => report (badDirective piece)) p =
      ((), told (pieces.map badDirective) p) := by
  induction pieces generalizing p with
  | nil => exact congrArg _ (told_nil p).symm
  | cons piece pieces ih =>
    have next : (told [badDirective piece] p).holder? = some .program := by
      rw [told_eq]
      exact foreign
    change (report (badDirective piece) none >>= fun _ => _) p = _
    rw [bind_apply, report_of_program foreign, ih next, told_told]
    rfl

theorem readFilter_of_program (foreign : p.holder? = some .program) (c : LogConfig) :
    (readFilter c p).2 = told ((c.filterIn p.environment).invalid.map badDirective)
      (complained (c.filterIn p.environment).ignored p) := by
  have reported := forM_report_of_program
    (p := complained (c.filterIn p.environment).ignored p) foreign
    (c.filterIn p.environment).invalid
  rw [readFilter, bind_apply, bind_apply]
  exact congrArg Prod.snd reported

theorem isEnabled_congr {q : Logger} (same : q.subscriber = p.subscriber) (level : Level)
    (target : String) : (isEnabled level target q).1 = (isEnabled level target p).1 := by
  obtain ⟨_, _, taker, _, _, _, _, _⟩ := p
  obtain ⟨_, _, _, _, _, _, _, _⟩ := q
  cases same
  cases taker with
  | none => rfl
  | some s => cases s <;> rfl

def refusedWith (c : LogConfig) (p : Logger) : Logger :=
  told ((c.filterIn p.environment).invalid.map badDirective)
    (complained (c.filterIn p.environment).ignored (afterOpening c.output p))

theorem refusedWith_eq (c : LogConfig) (p : Logger) :
    refusedWith c p = { p with
      files := (c.output.opened p.files).2
      stderr := p.stderr ++ ((c.filterIn p.environment).ignored.map .complaint).toArray
      recorded := (refusedWith c p).recorded } := by
  rw [refusedWith, told_eq]
  rfl

/-- An attempt is refused where the log was set up before, or where the program's subscriber was
there first and the log file could be opened. -/
theorem initLogging_refused {h : Option Party} (held : HeldBy h p) {c : LogConfig}
    (refused : (initLogging c p).1 = some false) :
    p.isInitialized = true ∧ (initLogging c p).2 = p ∨
    p.isInitialized = false ∧ (∃ writer, (c.output.opened p.files).1 = some writer) ∧
      (initLogging c p).2 = refusedWith c p := by
  cases noted : p.isInitialized with
  | true => exact .inl ⟨rfl, congrArg Prod.snd (initLogging_of_initialized noted c)⟩
  | false =>
    have foreign : h = some .program := by
      have other := held.noted.symm.trans noted
      rcases initLogging_held held c with ⟨answer, _⟩ | ⟨_, answer, _⟩
      · cases h with
        | none => simp [answer] at refused
        | some party => cases party <;> simp_all
      · simp [answer] at refused
    subst foreign
    have opened : HeldBy (some .program) (afterOpening c.output p) := ⟨held.holder, held.noted⟩
    have read := readFilter_held c _ opened
    rw [initLogging_eq noted] at refused ⊢
    cases output : (c.output.opened p.files).1 with
    | none => simp [output] at refused
    | some writer =>
      refine .inr ⟨rfl, ⟨writer, rfl⟩, ?_⟩
      dsimp only
      rw [read.isSome]
      exact readFilter_of_program opened.holder c

theorem exists_held_after {h : Option Party} (held : HeldBy h p) (steps : List Step) :
    ∃ h, HeldBy h (p.after steps) := by
  induction steps generalizing h p with
  | nil => exact ⟨h, held⟩
  | cons a steps ih =>
    cases claims : a.claimant? with
    | none => exact ih (Step.go_unclaimed claims p held)
    | some party =>
      rcases Step.go_claimed held claims with ⟨_, next⟩ | ⟨_, _, next⟩
      · exact ih next
      · exact ih next

/-- In every state that a run of a process reaches, a refused attempt to set up the log leaves the
subscriber, the note that the log was set up, the answers to what would be looked at, and the lines
of the log. Where the log was set up before, it leaves everything. Else its log file is there
afterwards, and it tells of what is no directive. No file is lost or changed, and what is new is
that log file, which is empty, and directories; so the files and directories are the same as before
exactly where the log was set up or the path of the log file led to a file. -/
theorem refused_leaves (env : Environment) (files : Files) (steps : List Step) {a : Step}
    {c : LogConfig}
    (asked : a.config? (after { environment := env, files } steps).environment = some c)
    (refused : (a.go (after { environment := env, files } steps)).1 = some false) :
    let p := after { environment := env, files } steps
    let q := (a.go p).2
    q.subscriber = p.subscriber ∧ q.isInitialized = p.isInitialized ∧
    (∀ level target, (isEnabled level target q).1 = (isEnabled level target p).1) ∧
    q.stdout = p.stdout ∧ q.logged = p.logged ∧
    (p.isInitialized = true → q = p) ∧
    (p.isInitialized = false → q = refusedWith c p ∧
      ∀ path, c.output.path? = some path → q.files.isFile path = true) ∧
    p.files.Grows (fun place => ∃ path, c.output.path? = some path ∧
      q.files.locate path = .ok place) q.files ∧
    (q.files = p.files ↔ p.isInitialized = true ∨
      ∀ path, c.output.path? = some path → p.files.isFile path = true) := by
  intro p q
  obtain ⟨h, held⟩ := exists_held_after (HeldBy.fresh env files) steps
  have step := Step.go_config asked
  have left := initLogging_refused held (c := c) (by rwa [← step])
  rw [← step] at left
  change p.isInitialized = true ∧ q = p ∨ p.isInitialized = false ∧ _ ∧ q = refusedWith c p at left
  clear_value q
  rcases left with ⟨noted, rfl⟩ | ⟨noted, ⟨writer, opened⟩, left⟩
  · exact ⟨rfl, rfl, fun _ _ => rfl, rfl, rfl, fun _ => rfl, by simp [noted], .refl _,
      iff_of_true rfl (.inl noted)⟩
  · have frame := left.trans (refusedWith_eq c p)
    have subscriber : q.subscriber = p.subscriber := by rw [frame]
    have made : q.files = (c.output.opened p.files).2 := by rw [frame]
    refine ⟨subscriber, by rw [frame], isEnabled_congr subscriber, by rw [frame], by rw [frame],
      by simp [noted], fun _ => ⟨left, ?there⟩, ?grows, ?same⟩
    case there =>
      intro path at_path
      rw [made]
      exact LogOutput.isFile_opened opened at_path
    case grows =>
      rw [made]
      exact LogOutput.opened_grows p.files c.output
    case same =>
      rw [made, noted, or_iff_right Bool.false_ne_true]
      exact LogOutput.opened_eq_self_iff opened

/-- The program's subscriber was there first, so both attempts to set up the log are refused. The
second one makes a directory and a log file all the same. -/
theorem refused_opens_file :
    let p := after {} [.install {}, .initLogging {}]
    let q := ((Step.initLogging { output := .file "logs" "x.log" }).go p).2
    let path := Utf8.encode "logs/x.log.<date>".toList
    ((Step.initLogging { output := .file "logs" "x.log" }).go p).1 = some false ∧
      p.files.isFile path = false ∧ q.files.isFile path = true ∧ q.files ≠ p.files := by
  intro p q path
  have before : p.files.isFile path = false := by decide +kernel
  have now : q.files.isFile path = true := by decide +kernel
  refine ⟨by decide +kernel, before, now, fun same => ?_⟩
  rw [same, before] at now
  cases now

def informed : ProgramSubscriber :=
  { takes := fun level _ => level.within (some .info), records := true }

/-- That subscriber is there first, and the environment holds a piece that is no directive. The
first attempt makes its log file; the second one, whose path is spelled in another way, finds it and
changes no file, but complains about the piece once more. -/
theorem refused_leaves_respelled :
    let env : Environment := [("RUST_LOG", Utf8.encode "a=b=c".toList)]
    let steps : List Step := [.install informed, .initLogging { output := .file "logs" "x.log" }]
    let files : Files := { root := .directory [] }
    let p := after { environment := env, files } steps
    let c : LogConfig := { output := .file "./logs/../logs" "x.log" }
    let q := ((Step.initLogging c).go p).2
    (Step.initLogging c).config? p.environment = some c ∧
    ((Step.initLogging c).go p).1 = some false ∧ p.isInitialized = false ∧
    q.subscriber = p.subscriber ∧ q.files = p.files ∧ q.logged = p.logged ∧
    (isEnabled .info "a" q).1 = true ∧ (isEnabled .debug "a" q).1 = false ∧
    q.stderr = p.stderr.push (.complaint "a=b=c") := by
  intro env steps files
  have environment : (after { environment := env, files } steps).environment = env := by
    decide +kernel
  have refused : ((Step.initLogging { output := .file "./logs/../logs" "x.log" }).go
      (after { environment := env, files } steps)).1 = some false := by decide +kernel
  have unset : (after { environment := env, files } steps).isInitialized = false := by
    decide +kernel
  have there : ∀ path, LogOutput.path? (.file "./logs/../logs" "x.log") = some path →
      (after { environment := env, files } steps).files.isFile path = true := by
    intro path at_path
    cases at_path
    decide +kernel
  have informs : (isEnabled .info "a" (after { environment := env, files } steps)).1 = true := by
    decide +kernel
  have spares : (isEnabled .debug "a" (after { environment := env, files } steps)).1 = false := by
    decide +kernel
  have left := refused_leaves env files steps rfl refused
  -- From here on it does not matter how the process came about.
  generalize after { environment := env, files } steps = p at *
  intro p c q
  have ignored : (c.filterIn env).ignored = ["a=b=c"] := by cbv
  obtain ⟨subscriber, _, enabled, _, logged, _, all, _, same⟩ := left
  refine ⟨rfl, refused, unset, subscriber, same.mpr (.inr there), logged, ?_, ?_, ?_⟩
  · exact (enabled _ _).trans informs
  · exact (enabled _ _).trans spares
  · have complained := (all unset).1
    rw [refusedWith_eq, environment, ignored] at complained
    exact (congrArg Logger.stderr complained).trans Array.push_eq_append.symm

end Logger
end ClangHost
