import ClangHost.Logging.Logger
import ClangHost.Proofs.Persistence

/-!
Who sets up the log of a process, over whole runs of it. The library and the program around it
claim the events of the process in any order and as often as they like. What is reported does not
change who holds them (`Step.go_unclaimed`), and a claim is granted exactly where nobody does
(`Step.go_claimed`), so the first claim of a run decides (`after_held`): it alone is granted, and
the library's note that its log was set up is true from then on or never (`replies_granted`). An
attempt of the library's whose log file cannot be opened does not return and changes nothing there.
-/
namespace ClangHost

inductive Party where
  | library
  | program
  deriving DecidableEq, Repr

def Subscriber.party : Subscriber → Party
  | .own _ => .library
  | .program _ => .program

namespace Logger

def holder? (p : Logger) : Option Party := p.subscriber.map Subscriber.party

/-- The events are held by `h`, and the library has noted that its log was set up exactly where
they are its own. -/
structure HeldBy (h : Option Party) (p : Logger) : Prop where
  holder : p.holder? = h
  noted : p.isInitialized = decide (h = some .library)

namespace HeldBy

variable {h : Option Party} {p : Logger}

theorem isSome (held : HeldBy h p) : p.subscriber.isSome = h.isSome := by
  rw [← held.holder, holder?, Option.isSome_map]

theorem of_own (held : HeldBy h p) {s : OwnSubscriber} (taker : p.subscriber = some (.own s)) :
    h = some .library := by
  rw [← held.holder, holder?, taker]
  rfl

theorem own (held : HeldBy (some .library) p) (s : OwnSubscriber) :
    HeldBy (some .library) { p with subscriber := some (.own s) } :=
  ⟨rfl, held.noted⟩

theorem write (held : HeldBy h p) (writer : LogWriter) (line : LogLine) :
    HeldBy h (write writer line p) := by
  cases writer <;> exact ⟨held.holder, held.noted⟩

theorem enter (held : HeldBy h p) (scope : List Threshold) : HeldBy h (enter scope p) := by
  rw [Logger.enter]
  split
  · rename_i taker
    cases held.of_own taker
    exact held.own _
  · exact held

end HeldBy

variable {h : Option Party}

theorem report_held (e : Event) (span : Option LogSpan) :
    Maintains (HeldBy h) (report e span) := by
  refine .get_bind fun p held => ?_
  cases taker : p.subscriber with
  | none => exact held
  | some s =>
    cases s with
    | program s =>
      dsimp only
      split
      · exact ⟨held.holder, held.noted⟩
      · exact held
    | own s =>
      cases held.of_own taker
      dsimp only
      -- what was asked and remembered makes another subscriber, but again the library's own
      generalize admits s e.site = answer
      refine (Maintains.modify fun q held => held.own answer.2).bind (fun _ => ?_) p held
      split
      · exact .modify fun q held => held.write _ _
      · exact .pure ()

theorem mark_held (s : OwnSubscriber) (level : Level) (target : String) (span : LogSpan)
    (word : String) (moment : Moment) :
    Maintains (HeldBy h) (mark s level target span word moment) := by
  rw [mark]
  split
  · exact .modify fun q held => held.write _ _
  · exact .pure ()

theorem inSpan_held (level : Level) (target : String) (span : LogSpan) (e : Event) :
    Maintains (HeldBy h) (inSpan level target span e) := by
  refine .get_bind fun p held => ?_
  cases taker : p.subscriber with
  | none => exact report_held e none p held
  | some s =>
    cases s with
    | program s => exact report_held e none p held
    | own s =>
      cases held.of_own taker
      dsimp only
      generalize admits s _ = answer
      refine (Maintains.modify fun q held => held.own answer.2).bind (fun _ => ?_) p held
      split
      · have enter (scope) : Maintains (HeldBy (some .library)) (modify (Logger.enter scope)) :=
          .modify fun q held => held.enter scope
        exact (mark_held _ _ _ _ _ _).bind fun _ => (enter _).bind fun _ =>
          (report_held e _).bind fun _ => (enter _).bind fun _ => mark_held _ _ _ _ _ _
      · exact report_held e none

theorem isEnabled_held (level : Level) (target : String) :
    Maintains (HeldBy h) (isEnabled level target) := by
  refine .get_bind fun p held => ?_
  cases taker : p.subscriber with
  | none => exact held
  | some s =>
    cases s with
    | program s => exact held
    | own s =>
      cases held.of_own taker
      exact held.own _

theorem readFilter_held (c : LogConfig) : Maintains (HeldBy h) (readFilter c) := by
  refine .get_bind fun p held => ?_
  refine (Maintains.modify fun q held => ⟨held.holder, held.noted⟩).bind (fun _ => ?_) p held
  exact (Maintains.forM (fun piece => report_held (badDirective piece) none) _).bind
    fun _ => .pure _

theorem install_eq (s : Subscriber) (p : Logger) :
    install s p =
      if p.subscriber.isSome then (false, p) else (true, { p with subscriber := some s }) := by
  rw [install]
  change (if p.subscriber.isSome then pure false else _ : StateM Logger Bool) p = _
  split <;> rfl

def afterOpening (output : LogOutput) (p : Logger) : Logger :=
  { p with files := (output.opened p.files).2 }

/-- The log is set up where its output can be opened and nobody takes the events by then, and only
there. -/
theorem initLogging_eq {p : Logger} (idle : p.isInitialized = false) (c : LogConfig) :
    initLogging c p =
      match (c.output.opened p.files).1 with
      | none => (none, afterOpening c.output p)
      | some writer =>
        let read := readFilter c (afterOpening c.output p)
        if read.2.subscriber.isSome then (some false, read.2)
        else (some true, { read.2 with
          subscriber := some (.own { config := c, writer, filter := read.1 })
          isInitialized := true }) := by
  rw [initLogging, bind_apply]
  change (if p.isInitialized then pure (some false) else _ : StateM Logger (Option Bool)) p = _
  rw [idle, if_neg Bool.false_ne_true, bind_apply]
  change (match (c.output.opened p.files).1 with
    | none => pure none
    | some writer => _ : StateM Logger (Option Bool)) (afterOpening c.output p) = _
  cases (c.output.opened p.files).1 with
  | none => rfl
  | some writer =>
    dsimp only
    rw [bind_apply, bind_apply, install_eq]
    split <;> rfl

inductive Step where
  | setEnvironment (env : Environment)
  | initLogging (c : LogConfig)
  | init
  | install (s : ProgramSubscriber)
  | isInitialized
  | isEnabled (level : Level) (target : String)
  | report (e : Event) (span : Option LogSpan)
  | inSpan (level : Level) (target : String) (span : LogSpan) (e : Event)
  | takeRecorded

namespace Step

/-- A step, and its answer where it has one. An attempt to set up the log has none where it does not
return. -/
def go : Step → StateM Logger (Option Bool)
  | .setEnvironment env => do
    modify fun p => { p with environment := env }
    return none
  | .initLogging c => Logger.initLogging c
  | .init => Logger.init
  | .install s => do return some (← Logger.install (.program s))
  | .isInitialized => do return some (← get).isInitialized
  | .isEnabled level target => do return some (← Logger.isEnabled level target)
  | .report e span => do
    Logger.report e span
    return none
  | .inSpan level target span e => do
    Logger.inSpan level target span e
    return none
  | .takeRecorded => do
    let _ ← Logger.takeRecorded
    return none

def claimant? : Step → Option Party
  | .initLogging _ | .init => some .library
  | .install _ => some .program
  | _ => none

def config? (env : Environment) : Step → Option LogConfig
  | .initLogging c => some c
  | .init => some (.ofEnvironment env)
  | _ => none

/-- Can the log file that a step asks for be opened, if it asks for one? Where the log was set up
before, none is opened. -/
def opens (p : Logger) (a : Step) : Bool :=
  (a.config? p.environment).all fun c =>
    p.isInitialized || (c.output.opened p.files).1.isSome

theorem go_config {p : Logger} {a : Step} {c : LogConfig}
    (asked : a.config? p.environment = some c) : a.go p = Logger.initLogging c p := by
  cases a with
  | initLogging d =>
    cases asked
    rfl
  | init =>
    cases asked
    rfl
  | _ => cases asked

theorem claimant?_eq_library_iff {a : Step} (env : Environment) :
    a.claimant? = some .library ↔ ∃ c, a.config? env = some c := by
  cases a <;> simp [claimant?, config?]

end Step

theorem initLogging_held {p : Logger} (held : HeldBy h p) (c : LogConfig) :
    (initLogging c p).1 = some h.isNone ∧ HeldBy (h.or (some .library)) (initLogging c p).2 ∨
    (p.isInitialized || (c.output.opened p.files).1.isSome) = false ∧
      (initLogging c p).1 = none ∧ HeldBy h (initLogging c p).2 := by
  cases noted : p.isInitialized with
  | true =>
    have mine : h = some .library := by simpa [held.noted] using noted
    subst mine
    rw [show initLogging c p = (some false, p) from initLogging_of_initialized noted c]
    exact .inl ⟨rfl, held⟩
  | false =>
    rw [initLogging_eq noted]
    have opened : HeldBy h (afterOpening c.output p) := ⟨held.holder, held.noted⟩
    cases output : (c.output.opened p.files).1 with
    | none => exact .inr ⟨rfl, rfl, opened⟩
    | some writer =>
      have read := readFilter_held c _ opened
      dsimp only
      rw [read.isSome]
      cases h with
      | none => exact .inl ⟨rfl, rfl, rfl⟩
      | some party =>
        cases party with
        | library => simp [held.noted] at noted
        | program => exact .inl ⟨rfl, read⟩

theorem install_held {p : Logger} (held : HeldBy h p) {s : Subscriber}
    (foreign : s.party = .program) :
    (install s p).1 = h.isNone ∧ HeldBy (h.or (some .program)) (install s p).2 := by
  rw [install_eq, held.isSome]
  cases h with
  | none => exact ⟨rfl, congrArg some foreign, held.noted⟩
  | some party => exact ⟨rfl, held⟩

theorem Step.go_claimed {p : Logger} (held : HeldBy h p) {a : Step} {party : Party}
    (claims : a.claimant? = some party) :
    (a.go p).1 = some h.isNone ∧ HeldBy (h.or (some party)) (a.go p).2 ∨
    a.opens p = false ∧ (a.go p).1 = none ∧ HeldBy h (a.go p).2 := by
  cases party with
  | library =>
    obtain ⟨c, asked⟩ := (claimant?_eq_library_iff p.environment).mp claims
    rw [go_config asked, opens, asked, Option.all_some]
    exact initLogging_held held c
  | program =>
    cases a with
    | install s =>
      have ⟨granted, next⟩ := install_held held (s := .program s) rfl
      exact .inl ⟨congrArg some granted, next⟩
    | _ => cases claims

theorem Step.go_unclaimed {a : Step} (unclaimed : a.claimant? = none) :
    Maintains (HeldBy h) a.go := by
  cases a with
  | setEnvironment env => exact fun p held => ⟨held.holder, held.noted⟩
  | isInitialized => exact fun p held => held
  | isEnabled level target => exact (isEnabled_held level target).bind fun _ => .pure _
  | report e span => exact (report_held e span).bind fun _ => .pure _
  | inSpan level target span e => exact (inSpan_held level target span e).bind fun _ => .pure _
  | takeRecorded => exact fun p held => ⟨held.holder, held.noted⟩
  | _ => cases unclaimed

def after (p : Logger) (steps : List Step) : Logger := steps.foldl (fun p a => (a.go p).2) p

def replies (p : Logger) : List Step → List (Option Bool)
  | [] => []
  | a :: steps => (a.go p).1 :: replies (a.go p).2 steps

theorem replies_getElem? (p : Logger) (steps : List Step) (n : Nat) :
    (p.replies steps)[n]? = steps[n]?.map fun a => (a.go (p.after (steps.take n))).1 := by
  induction steps generalizing p n with
  | nil => rfl
  | cons a steps ih =>
    cases n with
    | zero => rfl
    | succ n => exact ih (a.go p).2 n

def opensAll (p : Logger) : List Step → Bool
  | [] => true
  | a :: steps => a.opens p && (a.go p).2.opensAll steps

theorem opensAll_take {p : Logger} {steps : List Step} (openable : p.opensAll steps = true)
    (n : Nat) : p.opensAll (steps.take n) = true := by
  induction steps generalizing p n with
  | nil => simpa using openable
  | cons a steps ih =>
    cases n with
    | zero => rfl
    | succ n =>
      obtain ⟨first, rest⟩ := Bool.and_eq_true_iff.mp openable
      exact Bool.and_eq_true_iff.mpr ⟨first, ih rest n⟩

theorem opens_of_getElem? {p : Logger} {steps : List Step} (openable : p.opensAll steps = true)
    {n : Nat} {a : Step} (here : steps[n]? = some a) : a.opens (p.after (steps.take n)) = true := by
  induction steps generalizing p n with
  | nil => cases here
  | cons b steps ih =>
    obtain ⟨first, rest⟩ := Bool.and_eq_true_iff.mp openable
    cases n with
    | zero =>
      cases here
      exact first
    | succ n => exact ih rest here

/-- The first claim of a run decides who holds the events after it. -/
theorem after_held {p : Logger} (held : HeldBy h p) {steps : List Step}
    (openable : p.opensAll steps = true) :
    HeldBy (h.or (steps.findSome? Step.claimant?)) (p.after steps) := by
  induction steps generalizing h p with
  | nil => simpa [after] using held
  | cons a steps ih =>
    obtain ⟨opens, rest⟩ := Bool.and_eq_true_iff.mp openable
    rw [List.findSome?_cons]
    cases claims : a.claimant? with
    | none => exact ih (Step.go_unclaimed claims p held) rest
    | some party =>
      rcases Step.go_claimed held claims with ⟨_, next⟩ | ⟨shut, _⟩
      · -- whoever holds the events after this claim, no later one changes that
        have next := ih next rest
        rwa [Option.or_assoc, Option.some_or] at next
      · cases opens.symm.trans shut

def Claims (steps : List Step) (n : Nat) (party : Party) : Prop :=
  ∃ a, steps[n]? = some a ∧ a.claimant? = some party

def Unclaimed (steps : List Step) (n : Nat) : Prop := ∀ a ∈ steps.take n, a.claimant? = none

def Granted (p : Logger) (steps : List Step) (n : Nat) : Prop :=
  Claims steps n .library ∧ (p.replies steps)[n]? = some (some true)

theorem findSome?_claimant?_eq_none_iff {steps : List Step} {n : Nat} :
    (steps.take n).findSome? Step.claimant? = none ↔ Unclaimed steps n :=
  List.findSome?_eq_none_iff

theorem findSome?_claimant?_eq_some_iff {steps : List Step} {n : Nat} {party : Party} :
    (steps.take n).findSome? Step.claimant? = some party ↔
      ∃ i < n, Claims steps i party ∧ Unclaimed steps i := by
  induction n with
  | zero => simp
  | succ n ih =>
    have here : steps[n]?.toList.findSome? Step.claimant? = some party ↔ Claims steps n party := by
      cases at_n : steps[n]? <;> simp [Claims, at_n]
    rw [List.take_add_one, List.findSome?_append, Option.or_eq_some_iff, ih, here,
      findSome?_claimant?_eq_none_iff, Nat.exists_lt_succ_right, and_comm (a := Unclaimed steps n)]

theorem Claims.not_unclaimed {steps : List Step} {i n : Nat} {party : Party}
    (claims : Claims steps i party) (early : i < n) : ¬ Unclaimed steps n := by
  obtain ⟨a, here, claims⟩ := claims
  intro unclaimed
  have member : a ∈ steps.take n :=
    List.mem_of_getElem? (by rwa [List.getElem?_take_of_lt early])
  cases claims.symm.trans (unclaimed a member)

section Fresh

variable {p : Logger} {steps : List Step} {n : Nat}

theorem HeldBy.fresh (env : Environment) (files : Files) :
    HeldBy none { environment := env, files } := ⟨rfl, rfl⟩

theorem reply_of_claims (fresh : HeldBy none p) (openable : p.opensAll steps = true) {party : Party}
    (claims : Claims steps n party) :
    (p.replies steps)[n]? = some (some ((steps.take n).findSome? Step.claimant?).isNone) := by
  obtain ⟨a, here, claims⟩ := claims
  have held := after_held fresh (opensAll_take openable n)
  rw [Option.none_or] at held
  rw [replies_getElem?, here, Option.map_some]
  rcases Step.go_claimed held claims with ⟨granted, _⟩ | ⟨shut, _⟩
  · rw [granted]
  · cases (opens_of_getElem? openable here).symm.trans shut

theorem granted_iff (fresh : HeldBy none p) (openable : p.opensAll steps = true) :
    Granted p steps n ↔ Claims steps n .library ∧ Unclaimed steps n := by
  refine and_congr_right fun claims => ?_
  rw [reply_of_claims fresh openable claims, Option.some_inj, Option.some_inj,
    Option.isNone_iff_eq_none, findSome?_claimant?_eq_none_iff]

theorem isInitialized_after_iff (fresh : HeldBy none p) (openable : p.opensAll steps = true) :
    (p.after (steps.take n)).isInitialized = true ↔ ∃ i < n, Granted p steps i := by
  have held := after_held fresh (opensAll_take openable n)
  simp only [granted_iff fresh openable]
  rw [held.noted, decide_eq_true_iff, Option.none_or, findSome?_claimant?_eq_some_iff]

end Fresh

/-- In any run of a process the first claim of its events decides. Where it is the library's, it
alone is granted of all the claims of the library; the note that the log was set up is true from
then on, and every later claim of anybody is refused. Where it is the program's, no claim of the
library is ever granted, and the note stays false. -/
theorem replies_granted (env : Environment) (files : Files) (steps : List Step)
    (openable : opensAll { environment := env, files } steps = true) :
    let p : Logger := { environment := env, files }
    (∀ i j, Granted p steps i → Granted p steps j → i = j) ∧
    (∀ n, Granted p steps n ↔ Claims steps n .library ∧ Unclaimed steps n) ∧
    (∀ n, (p.after (steps.take n)).isInitialized = true ↔ ∃ i < n, Granted p steps i) ∧
    (∀ n, steps[n]? = some .isInitialized →
      (p.replies steps)[n]? = some (some (p.after (steps.take n)).isInitialized)) ∧
    (∀ i n party, Granted p steps i → i < n → Claims steps n party →
      (p.replies steps)[n]? = some (some false)) ∧
    ∀ i, Claims steps i .program → (∀ j < i, ¬ Claims steps j .library) →
      (∀ n, Claims steps n .library → (p.replies steps)[n]? = some (some false)) ∧
      ∀ n, (p.after (steps.take n)).isInitialized = false := by
  intro p
  have fresh : HeldBy none p := .fresh env files
  refine ⟨?unique, fun n => granted_iff fresh openable,
    fun n => isInitialized_after_iff fresh openable, ?asked, ?later, ?other⟩
  case unique =>
    intro i j first second
    rw [granted_iff fresh openable] at first second
    rcases Nat.lt_trichotomy i j with early | same | late
    · exact absurd second.2 (first.1.not_unclaimed early)
    · exact same
    · exact absurd first.2 (second.1.not_unclaimed late)
  case asked =>
    intro n asked
    rw [replies_getElem?, asked]
    rfl
  case later =>
    intro i n party first early claims
    have held := findSome?_claimant?_eq_some_iff.mpr
      ⟨i, early, (granted_iff fresh openable).mp first⟩
    rw [reply_of_claims fresh openable claims, held]
    rfl
  case other =>
    intro i program before
    -- what is granted is the first claim, and that is the program's or came before the library's
    have never : ∀ n, ¬ Granted p steps n := by
      intro n granted
      obtain ⟨claims, unclaimed⟩ := (granted_iff fresh openable).mp granted
      rcases Nat.lt_trichotomy n i with early | same | late
      · exact before n early claims
      · obtain ⟨a, here, library⟩ := claims
        obtain ⟨b, there, program⟩ := program
        cases (same ▸ here).symm.trans there
        cases library.symm.trans program
      · exact program.not_unclaimed late unclaimed
    constructor
    · intro n claims
      have refused : ¬ Unclaimed steps n := fun unclaimed =>
        never n ((granted_iff fresh openable).mpr ⟨claims, unclaimed⟩)
      rw [← findSome?_claimant?_eq_none_iff] at refused
      have taken := Option.isNone_eq_false_iff.mpr (Option.isSome_iff_ne_none.mpr refused)
      rw [reply_of_claims fresh openable claims, taken]
    · intro n
      rw [← Bool.not_eq_true, isInitialized_after_iff fresh openable]
      rintro ⟨m, _, granted⟩
      exact never m granted

/-- The second step sets up the log, in a file of a directory that is made for it; what the program
and the library try later is refused. -/
theorem replies_granted_retries :
    let p : Logger := {}
    let steps : List Step := [.isInitialized, .initLogging { output := .file "logs" "x.log" },
      .install { records := true }, .init]
    p.opensAll steps = true ∧ Granted p steps 1 ∧ (p.replies steps)[2]? = some (some false) ∧
      (p.replies steps)[3]? = some (some false) ∧
      (p.after (steps.take 4)).isInitialized = true := by
  intro p steps
  have openable : p.opensAll steps = true := by decide +kernel
  obtain ⟨_, granted, noted, _, refused, _⟩ :=
    replies_granted [] { root := .directory [] } steps openable
  have unclaimed : Unclaimed steps 1 := by
    intro a member
    cases List.mem_singleton.mp member
    rfl
  have first : Granted p steps 1 := (granted 1).mpr ⟨⟨_, rfl, rfl⟩, unclaimed⟩
  exact ⟨openable, first, refused 1 2 .program first (by decide) ⟨_, rfl, rfl⟩,
    refused 1 3 .library first (by decide) ⟨.init, rfl, rfl⟩,
    (noted 4).mpr ⟨1, by decide, first⟩⟩

end Logger
end ClangHost
