import ClangHost.Proofs.Ledger
import ClangHost.Session.World

/-!
What the host's operations do to the estate, over a scripted engine. A completion gives back all
that it takes, on every way out (`run_returns`); a session or a unit that is opened is held by
the one that asked for it, and by nobody where that fails.
-/
namespace ClangHost

variable {υ : Type}

/-- From the estate `p E`, `x` leads to the one that goes with its result. -/
def Carries {α : Type} (x : StateM (World υ) α) (p : Estate → Estate)
    (q : α → Estate → Estate) : Prop :=
  ∀ E w, Move (p E) w.engine (q (x w).1 E) (x w).2.engine

/-- Whatever is taken is given back. -/
abbrev Returns {α : Type} (x : StateM (World υ) α) : Prop := Carries x id fun _ => id

namespace Carries

variable {α β : Type} {p : Estate → Estate} {q : α → Estate → Estate} {r : β → Estate → Estate}

protected theorem pure (v : α) : Carries (pure v : StateM (World υ) α) (q v) q :=
  fun _ _ => .keep rfl

protected theorem bind {x : StateM (World υ) α} {k : α → StateM (World υ) β} (first : Carries x p q)
    (rest : ∀ v, Carries (k v) (q v) r) : Carries (x >>= k) p r :=
  fun E w => .trans (first E w) (rest (x w).1 E (x w).2)

theorem beside {x : StateM (World υ) α} (back : Returns x) (p : Estate → Estate) :
    Carries x p fun _ => p :=
  fun E w => back (p E) w

theorem lift_bind {x : StateM (World υ) α} {k : α → ExceptT Error (StateM (World υ)) β}
    {r : Except Error β → Estate → Estate} (first : Carries x p q)
    (rest : ∀ v, Carries (k v).run (q v) r) :
    Carries (liftM x >>= k : ExceptT Error (StateM (World υ)) β).run p r :=
  Carries.bind first rest

theorem ok_bind {x : Except Error α} {v : α} (known : x = .ok v)
    {k : α → ExceptT Error (StateM (World υ)) β} {r : Except Error β → Estate → Estate}
    (rest : Carries (k v).run p r) :
    Carries (liftM x >>= k : ExceptT Error (StateM (World υ)) β).run p r := by
  subst known
  exact rest

theorem run_bind {x : ExceptT Error (StateM (World υ)) α}
    {k : α → ExceptT Error (StateM (World υ)) β}
    {q : Except Error α → Estate → Estate} {r : Except Error β → Estate → Estate}
    (first : Carries x.run p q) (rest : ∀ v, Carries (k v).run (q (.ok v)) r)
    (failed : ∀ e, q (.error e) = r (.error e)) : Carries (x >>= k).run p r := by
  refine Carries.bind (k := ExceptT.bindCont k) first fun v => ?_
  cases v with
  | ok v => exact rest v
  | error e =>
    rw [failed e]
    exact .pure (Except.error e)

end Carries

namespace Returns

variable {α β : Type}

protected theorem pure (v : α) : Returns (pure v : StateM (World υ) α) := fun _ _ => .keep rfl

protected theorem bind {x : StateM (World υ) α} {k : α → StateM (World υ) β} (first : Returns x)
    (rest : ∀ v, Returns (k v)) : Returns (x >>= k) :=
  Carries.bind first rest

theorem throw_bind (e : Error) (k : α → ExceptT Error (StateM (World υ)) β) :
    Returns (throw e >>= k).run :=
  .pure (Except.error e)

theorem except (r : Except Error α) : Returns (liftM r : ExceptT Error (StateM (World υ)) α).run :=
  .pure r

theorem lift {x : StateM (World υ) α} (back : Returns x) :
    Returns (liftM x : ExceptT Error (StateM (World υ)) α).run :=
  back

theorem run_bind {x : ExceptT Error (StateM (World υ)) α}
    {k : α → ExceptT Error (StateM (World υ)) β}
    (first : Returns x.run) (rest : ∀ v, Returns (k v).run) : Returns (x >>= k).run :=
  Carries.run_bind first rest fun _ => rfl

theorem ite {c : Prop} [Decidable c] {x y : ExceptT Error (StateM (World υ)) α}
    (pos : Returns x.run) (neg : Returns y.run) : Returns (if c then x else y).run := by
  split
  · exact pos
  · exact neg

theorem mapM {ι : Type} {f : ι → ExceptT Error (StateM (World υ)) α} (turn : ∀ i, Returns (f i).run)
    (l : List ι) : Returns (l.mapM f).run := by
  induction l with
  | nil => exact .pure (Except.ok [])
  | cons i l ih =>
    rw [List.mapM_cons]
    exact run_bind (turn i) fun v => run_bind ih fun vs => .pure (Except.ok (v :: vs))

theorem call (s : Script) {c : Call} (neutral : ∀ st, (s.engine c st).2.books = st.books) :
    Returns (World.scripted s c : StateM (World υ) _) :=
  fun _ w => .keep (neutral w.engine)

end Returns

def Estate.addString (t : EngineString) : Estate → Estate :=
  match t.data with
  | none => id
  | some id => Estate.addText id

namespace Custody

variable (s : Script)

theorem newString_moves (f : Option Bytes) (E : Estate) (st : ScriptState) :
    Move E st (E.addString (st.newString f).1) (st.newString f).2 := by
  cases f with
  | none => exact .keep rfl
  | some bs => exact .openText

theorem take_carries (t : EngineString) :
    Carries (t.take (World.scripted s) : StateM (World υ) _) (Estate.addString t) fun _ => id := by
  intro E w
  obtain ⟨_ | id, flags⟩ := t
  · exact .keep rfl
  · exact .closeText flags

theorem text_bind {α : Type} {ask : StateM (World υ) EngineString}
    (asked : Carries ask id Estate.addString)
    {k : Option String → ExceptT Error (StateM (World υ)) α} (rest : ∀ c, Returns (k c).run) :
    Returns (liftM ask >>= fun t => liftM (t.take (World.scripted s) : StateM (World υ) _) >>= k :
      ExceptT Error (StateM (World υ)) α).run :=
  Carries.lift_bind asked fun t => Carries.lift_bind (take_carries s t) rest

theorem decodeChunk_returns (raw : Bool) (string : Address) (i : Nat) :
    Returns (Completion.decodeChunk (World.scripted s) raw string i : StateM (World υ) _) := by
  have asked : Carries (World.scripted s (.chunkText string (.ofNat i)) : StateM (World υ) _) id
    Estate.addString := fun E w => newString_moves _ E w.engine
  have named : Returns (World.scripted s (.chunkKind string (.ofNat i)) : StateM (World υ) _) :=
    .call s fun _ => rfl
  exact asked.bind fun t => (take_carries s t).bind fun _ => named.bind fun _ => .pure _

theorem decodeRecord_returns (raw : Bool) (i : Nat) (r : CompletionRecord) :
    Returns (Completion.decodeRecord (World.scripted s) raw i r : HostM (World υ) _).run := by
  have call : ∀ c, (∀ st, (s.engine c st).2.books = st.books) →
      Returns (World.scripted s c : StateM (World υ) _) := fun _ => .call s
  have availability := call (.availability r.string) fun _ => rfl
  have priority := call (.priority r.string) fun _ => rfl
  have commented : Carries (World.scripted s (.briefComment r.string) : StateM (World υ) _) id
    Estate.addString := fun E w => newString_moves _ E w.engine
  have counted := call (.chunkCount r.string) fun _ => rfl
  have chunks : ∀ n : UInt32, Returns ((List.range n.toNat).mapM fun i =>
      (liftM (Completion.decodeChunk (World.scripted s) raw r.string i) :
        ExceptT Error (StateM (World υ)) Chunk)).run :=
    fun n => .mapM (fun i => (decodeChunk_returns s raw r.string i).lift) _
  unfold Completion.decodeRecord
  refine .ite (.throw_bind _ _) (.run_bind availability.lift fun value => .run_bind (.except _)
    fun tag => .run_bind priority.lift fun priority => text_bind s commented fun comment =>
    .run_bind counted.lift fun n =>
    .ite (.throw_bind _ _) (.run_bind (chunks n) fun chunks => .pure _))

structure Quiet (o : Observer (World υ)) : Prop where
  onRequest : ∀ file line column, Returns (o.onRequest file line column)
  onResults : ∀ count, Returns (o.onResults count)
  onCandidate : ∀ i c, Returns (o.onCandidate i c)
  onDisposed : ∀ decoded, Returns (o.onDisposed decoded)

theorem tracing_quiet (threshold : Option Level) :
    Quiet (.tracing (World.sink threshold) : Observer (World υ)) :=
  { onRequest := fun _ _ _ _ _ => .keep rfl
    onResults := fun _ _ _ => .keep rfl
    onCandidate := by
      intro i c
      simp only [Observer.tracing]
      split
      · exact fun _ _ => .keep rfl
      · exact .pure ()
    onDisposed := fun _ _ _ => .keep rfl }

theorem within_quiet (o : Observer υ) : Quiet (o.within World.act) :=
  { onRequest := fun _ _ _ _ _ => .keep rfl
    onResults := fun _ _ _ => .keep rfl
    onCandidate := fun _ _ _ _ => .keep rfl
    onDisposed := fun _ _ _ => .keep rfl }

theorem records_returns (r : Results) :
    Returns (r.records (World.scripted s) : HostM (World υ) _).run := by
  have layout : Returns (World.scripted s .recordLayout : StateM (World υ) _) :=
    .call s fun _ => rfl
  cases held : r.block with
  | none =>
    simp only [Results.records, held]
    exact .pure (Except.error _)
  | some b =>
    simp only [Results.records, held]
    exact .run_bind layout.lift fun l => .except _

theorem decodeAll_returns {o : Observer (World υ)} (quiet : Quiet o) (raw : Bool) (r : Results) :
    Returns (Completion.decodeAll (World.scripted s) o raw r).run := by
  unfold Completion.decodeAll
  refine .run_bind (quiet.onResults _).lift fun _ => .ite (.pure (Except.ok [])) ?_
  refine .run_bind (records_returns s r) fun view => .mapM (fun turn => ?_) _
  exact .run_bind (decodeRecord_returns s raw _ _) fun c =>
    .run_bind (quiet.onCandidate _ _).lift fun _ => .pure _

def addBlock? : Option ResultBlock → Estate → Estate
  | none => id
  | some b => Estate.addBlock b.id

theorem complete_moves (call : CompletionCall) (E : Estate) (st : ScriptState) :
    Move E st (addBlock? (s.complete call st).1 E) (s.complete call st).2 := by
  let noted : ScriptState := { st with
    lastCompletion := some call
    stats := { st.stats with completionRequests := st.stats.completionRequests + 1 } }
  have kept : Move E st E noted := .keep rfl
  cases none : s.nullResults with
  | true =>
    have answer : s.complete call st = (Option.none, noted) := by
      simp only [Script.complete, none, if_true]
      rfl
    rw [answer]
    exact kept
  | false =>
    have answer : s.complete call st = (some (s.block st.blocksBuilt), noted.createBlock) := by
      simp only [Script.complete, none]
      rfl
    rw [answer]
    exact .trans kept .openBlock

theorem dispose_carries (r : Results) :
    Carries (r.dispose (World.scripted s) : StateM (World υ) _)
      (addBlock? r.block) fun _ => id := by
  obtain ⟨_ | b⟩ := r
  · exact fun _ _ => .keep rfl
  · exact fun _ _ => .closeBlock

theorem release_carries (r : Results) :
    Carries (r.drop (World.scripted s) : StateM (World υ) _) (addBlock? r.block) fun _ => id := by
  obtain ⟨_ | b⟩ := r
  · exact fun _ _ => .keep rfl
  · exact fun _ _ => .closeBlock

/-- A completion gives back its block and all texts, whatever it comes to. -/
theorem run_returns {o : Observer (World υ)} (quiet : Quiet o) (unit : Handle)
    (q : CompletionRequest) :
    Returns (Completion.run (World.scripted s) o unit q).run := by
  have options : Returns (World.scripted s .defaultOptions : StateM (World υ) _) :=
    .call s fun _ => rfl
  have completed : ∀ file options, Carries (World.scripted s
      (.completeAt unit file q.line q.column true 0 options) : StateM (World υ) _) id addBlock? :=
    fun _ _ E w => complete_moves s _ E w.engine
  unfold Completion.run
  refine .run_bind (quiet.onRequest _ _ _).lift fun _ => ?_
  obtain ⟨path, arena⟩ := (Arena.path q.file).run.run .empty
  refine .run_bind (.except path) fun slot => .run_bind options.lift fun options => ?_
  refine Carries.lift_bind (completed _ _) fun block => ?_
  cases block with
  | none => exact fun _ _ => .keep rfl
  | some b =>
    -- the block is held from here on, while the records are decoded, and until it is disposed of
    refine Carries.ok_bind (v := Results.mk (some b)) rfl ?_
    have decoded := (decodeAll_returns s quiet q.raw ⟨some b⟩).beside (Estate.addBlock b.id)
    refine Carries.lift_bind decoded fun decoded => ?_
    refine Carries.lift_bind (dispose_carries s ⟨some b⟩) fun outcome => ?_
    exact Returns.run_bind (.except _) fun _ =>
      .run_bind (quiet.onDisposed decoded.isOk).lift fun _ => .except decoded

theorem completeAt_returns (threshold : Option Level) (u : TranslationUnit)
    (q : CompletionRequest) :
    Returns (u.completeAt (World.host s threshold) q : HostM (World υ) _).run :=
  run_returns s (tracing_quiet threshold) u.raw q

theorem cursor_returns (u : TranslationUnit) :
    Returns (u.cursor (World.scripted s) : HostM (World υ) _).run := by
  have asked : Returns (World.scripted s (.unitCursor u.raw) : StateM (World υ) _) :=
    .call s fun _ => rfl
  exact .run_bind asked.lift fun c => .ite (.throw_bind _ _) (.pure (Except.ok c))

def addIndex? (i : Index) : Estate → Estate :=
  if i.owned then Estate.addIndex i.raw else id

theorem drop_carries (i : Index) :
    Carries (i.drop (World.scripted s) : StateM (World υ) _) (addIndex? i) fun _ => id := by
  cases owned : i.owned <;> simp only [Index.drop, addIndex?, owned] <;> intro E w
  · exact .keep rfl
  · exact .closeIndex

/-- Something is opened and then held, or nothing is. A null handle was perhaps handed out where
the counter came round; nobody holds it. -/
def Opens {α : Type} (x : HostM (World υ) α) (add : Handle → Estate → Estate)
    (hold : α → Estate → Estate) : Prop :=
  ∀ E w, ∃ F, Move E w.engine F (x.run w).2.engine ∧
    match (x.run w).1 with
    | .ok v => F = hold v E
    | .error _ => F = E ∨ F = add 0 E

namespace Opens

variable {α β : Type} {add : Handle → Estate → Estate} {hold : α → Estate → Estate}

theorem after {x : HostM (World υ) β} {k : β → HostM (World υ) α} (first : Returns x.run)
    (rest : ∀ v, Opens (k v) add hold) : Opens (x >>= k) add hold := by
  intro E w
  have start := first E w
  change ∃ F, Move E w.engine F (ExceptT.bindCont k (x.run w).1 (x.run w).2).2.engine ∧
    match (ExceptT.bindCont k (x.run w).1 (x.run w).2).1 with
    | .ok v => F = hold v E
    | .error _ => F = E ∨ F = add 0 E
  cases result : (x.run w).1 with
  | error e => exact ⟨E, start, .inl rfl⟩
  | ok v =>
    obtain ⟨F, move, held⟩ := rest v E (x.run w).2
    exact ⟨F, start.trans move, held⟩

theorem of_handle {ask : StateM (World υ) Handle} {k : Handle → HostM (World υ) α}
    (asked : ∀ E w, (ask w).1 = 0 ∧ Move E w.engine E (ask w).2.engine ∨
      Move E w.engine (add (ask w).1 E) (ask w).2.engine)
    (null : ∀ w, ∃ e, ((k 0).run w).1 = .error e ∧ ((k 0).run w).2.engine = w.engine)
    (used : ∀ raw w, raw ≠ 0 → ∃ v, ((k raw).run w).1 = .ok v ∧ hold v = add raw ∧
      ((k raw).run w).2.engine = w.engine) :
    Opens (liftM ask >>= k) add hold := by
  intro E w
  change ∃ F, Move E w.engine F ((k (ask w).1).run (ask w).2).2.engine ∧
    match ((k (ask w).1).run (ask w).2).1 with
    | .ok v => F = hold v E
    | .error _ => F = E ∨ F = add 0 E
  have opened := asked E w
  generalize (ask w).1 = raw at opened
  by_cases zero : raw = 0
  · subst zero
    obtain ⟨e, result, same⟩ := null (ask w).2
    rw [result, same]
    rcases opened with ⟨_, move⟩ | move
    · exact ⟨E, move, .inl rfl⟩
    · exact ⟨add 0 E, move, .inr rfl⟩
  · obtain ⟨v, result, held, same⟩ := used raw (ask w).2 zero
    rw [result, same]
    rcases opened with ⟨bad, _⟩ | move
    · exact absurd bad zero
    · exact ⟨add raw E, move, (congrFun held E).symm⟩

end Opens

theorem createIndex_moves (excludePch displayDiagnostics : Int32) (E : Estate) (st : ScriptState) :
    let answer := s.engine (.createIndex excludePch displayDiagnostics) st
    answer.1 = 0 ∧ Move E st E answer.2 ∨ Move E st (E.addIndex answer.1) answer.2 := by
  cases none : s.nullIndex with
  | true =>
    have answer : s.engine (.createIndex excludePch displayDiagnostics) st =
        ((0 : Handle), st) := by
      simp only [Script.engine, none, if_true]
      rfl
    rw [answer]
    exact .inl ⟨rfl, .keep rfl⟩
  | false =>
    have answer : s.engine (.createIndex excludePch displayDiagnostics) st = st.createIndex := by
      simp only [Script.engine, none]
      rfl
    rw [answer]
    exact .inr .openIndex

theorem create_opens (threshold : Option Level) (excludePch displayDiagnostics : Bool) :
    Opens (Index.create (World.host s threshold) excludePch displayDiagnostics :
      HostM (World υ) _) Estate.addIndex addIndex? := by
  refine .of_handle (fun E w => createIndex_moves s _ _ E w.engine) ?_ ?_
  · intro w
    exact ⟨_, rfl, rfl⟩
  · intro raw w present
    rw [if_neg present]
    exact ⟨_, rfl, rfl, rfl⟩

theorem wrap_opens (raw : Handle) :
    Opens (liftM (Index.ofRaw raw) : HostM (World υ) _) Estate.addIndex addIndex? := by
  intro E w
  refine ⟨E, .keep rfl, ?_⟩
  by_cases null : raw = 0
  · rw [Index.ofRaw, if_pos null]
    exact .inl rfl
  · rw [Index.ofRaw, if_neg null]
    rfl

theorem parse_moves (p : ParseRecord) (E : Estate) (st : ScriptState) :
    (s.parse p st).1 = 0 ∧ Move E st E (s.parse p st).2 ∨
      Move E st (E.addUnit (s.parse p st).1) (s.parse p st).2 := by
  let noted : ScriptState := { st with lastParse := some p }
  have kept : Move E st E noted := .keep rfl
  cases fail : s.failParse with
  | true =>
    have answer : s.parse p st = (0, noted) := by
      simp only [Script.parse, fail, if_true]
      rfl
    rw [answer]
    exact .inl ⟨rfl, kept⟩
  | false =>
    have answer : s.parse p st = noted.createUnit := by
      simp only [Script.parse, fail]
      rfl
    rw [answer]
    exact .inr (kept.trans .openUnit)

theorem put_returns (threshold : Option Level) (ev : Event) :
    Returns ((World.host s threshold).sink.put ev : StateM (World υ) Unit) :=
  fun _ _ => .keep rfl

theorem marshal_returns (threshold : Option Level) (file : Bytes) (args : List String) :
    Returns (TranslationUnit.marshal (World.host s threshold) file args :
      HostM (World υ) _).run := by
  have told : ∀ ev, Returns ((World.host s threshold).sink.put ev : StateM (World υ) Unit) :=
    put_returns s threshold
  unfold TranslationUnit.marshal
  split
  refine .run_bind (.except _) fun copies => .run_bind (told _).lift fun _ => ?_
  exact .run_bind (.except _) fun n => .pure _

theorem ofRaw_opens {ask : StateM (World υ) Handle}
    (asked : ∀ E w, (ask w).1 = 0 ∧ Move E w.engine E (ask w).2.engine ∨
      Move E w.engine (E.addUnit (ask w).1) (ask w).2.engine) :
    Opens (liftM ask >>= fun raw => liftM (TranslationUnit.ofRaw raw) : HostM (World υ) _)
      Estate.addUnit fun u => Estate.addUnit u.raw := by
  refine .of_handle asked ?_ ?_
  · intro w
    exact ⟨_, rfl, rfl⟩
  · intro raw w present
    rw [TranslationUnit.ofRaw, if_neg present]
    exact ⟨_, rfl, rfl, rfl⟩

theorem ofSource_opens (threshold : Option Level) (i : Index) (file : Bytes) (args : List String) :
    Opens (TranslationUnit.ofSource (World.host s threshold) i file args : HostM (World υ) _)
      Estate.addUnit fun u => Estate.addUnit u.raw := by
  have told : ∀ ev, Returns ((World.host s threshold).sink.put ev : StateM (World υ) Unit) :=
    put_returns s threshold
  refine .after (marshal_returns s threshold file args) fun input =>
    .after (told _).lift fun _ => ?_
  exact ofRaw_opens fun E w => parse_moves s _ E w.engine

theorem parse_opens (threshold : Option Level) (i : Index) (file : Bytes) (args : List String)
    (unsaved : List UnsavedFile) (flags : ParseFlags) :
    Opens (TranslationUnit.parse (World.host s threshold) i file args unsaved flags :
      HostM (World υ) _) Estate.addUnit fun u => Estate.addUnit u.raw := by
  have told : ∀ ev, Returns ((World.host s threshold).sink.put ev : StateM (World υ) Unit) :=
    put_returns s threshold
  refine .after (marshal_returns s threshold file args) fun input => ?_
  have parsed := fun E (w : World υ) => parse_moves s
    { source := input.source.text, args := argumentTexts input.args input.count
      options := some flags.encode, unsavedCount := 0, unsavedNull := true } E w.engine
  split
  · exact .after (told _).lift fun _ => .after (told _).lift fun _ => ofRaw_opens parsed
  · exact .after (told _).lift fun _ => ofRaw_opens parsed

end Custody

end ClangHost
