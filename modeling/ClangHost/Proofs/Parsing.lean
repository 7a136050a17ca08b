import ClangHost.Proofs.Copies
import ClangHost.Proofs.NullUnits
import ClangHost.Session.World

/-!
Parsing through either entry point. What holds a NUL is refused before anything is done, the path
before the arguments and these in their order (`Refusal`); all else is handed over unchanged in one
call. What comes back is a unit exactly where its handle is not null, and a null handle is never
given back, whatever a session does (`parses`).
-/
namespace ClangHost

open Arena (bytesOf)

variable {σ : Type}

inductive ParseKind where
  | source
  | options (unsaved : List UnsavedFile) (flags : ParseFlags)

def ParseKind.run (h : Host σ) (index : Index) (file : Bytes) (args : List String) :
    ParseKind → HostM σ TranslationUnit
  | .source => TranslationUnit.ofSource h index file args
  | .options unsaved flags => TranslationUnit.parse h index file args unsaved flags

def ParseFlags.bits (f : ParseFlags) : List UInt32 :=
  (if f.incomplete then [0x02] else []) ++ (if f.precompiledPreamble then [0x04] else [])

def argumentVector (args : List String) : Option (List CString) :=
  if args.isEmpty then none else some (args.map fun arg => some (bytesOf arg))

def ParseKind.exchange (index : Index) (file : Bytes) (args : List String) (count : Int32)
    (raw : Handle) : ParseKind → Exchange
  | .source => ⟨.createUnit index.raw (some file) count (argumentVector args) 0 true, raw⟩
  | .options _ flags =>
    ⟨.parseUnit index.raw (some file) (argumentVector args) count true 0
      (flags.bits.foldl (· ||| ·) 0), raw⟩

def FirstNul (bs : Bytes) (offset : Nat) : Prop :=
  bs[offset]? = some 0 ∧ ∀ k < offset, bs[k]? ≠ some 0

inductive Refusal (file : Bytes) (args : List String) : Error → Prop where
  | path : 0 ∈ file → Refusal file args (.allocation (shown file) .nulInPath)
  | argument (i : Nat) (arg : String) (offset : Nat) : 0 ∉ file → args[i]? = some arg →
      (∀ j < i, ∀ earlier, args[j]? = some earlier → 0 ∉ bytesOf earlier) →
      FirstNul (bytesOf arg) offset →
      Refusal file args (.allocation ("argument " ++ toString i) (.nulAt offset))

def Marshallable (file : Bytes) (args : List String) : Prop :=
  0 ∉ file ∧ ∀ arg ∈ args, 0 ∉ bytesOf arg

theorem firstNul_iff (bs : Bytes) (offset : Nat) :
    FirstNul bs offset ↔ nulOffset? bs = some offset := by
  rw [nulOffset?, List.findIdx?_eq_some_iff_getElem]
  constructor
  · rintro ⟨here, before⟩
    obtain ⟨inside, zero⟩ := List.getElem?_eq_some_iff.mp here
    refine ⟨inside, by simpa using zero, fun k early => ?_⟩
    have other := before k early
    rw [List.getElem?_eq_getElem (Nat.lt_trans early inside)] at other
    simpa using other
  · rintro ⟨inside, zero, before⟩
    refine ⟨List.getElem?_eq_some_iff.mpr ⟨inside, by simpa using zero⟩, fun k early => ?_⟩
    have other := before k early
    rw [List.getElem?_eq_getElem (Nat.lt_trans early inside)]
    simpa using other

theorem ParseFlags.foldl_bits (f : ParseFlags) : f.bits.foldl (· ||| ·) 0 = f.encode := by
  rcases f with ⟨_ | _, _ | _⟩ <;> decide

namespace Arena

theorem pointer_of_read {a : Arena} {s : Slot} {bs : Bytes} (clean : 0 ∉ bs)
    (held : a.read? s = some (bs ++ [0])) : a.pointer s = some bs := by
  have kept : ∀ b ∈ bs, (b != 0) = true := by
    intro b member
    simp only [bne_iff_ne, ne_eq]
    rintro rfl
    exact clean member
  rw [pointer, held, Option.map_some, untilNul, List.takeWhile_append_of_pos kept]
  simp

theorem pointers_extend (a : Arena) {args : List String} (clean : ∀ arg ∈ args, 0 ∉ bytesOf arg) :
    ArgumentBuffer.pointers (a.extend (args.map bytesOf)) ⟨List.range' a.length args.length⟩ =
      argumentVector args := by
  have slots : (List.range' a.length args.length).map (a.extend (args.map bytesOf)).pointer =
      args.map fun arg => some (bytesOf arg) := by
    refine List.ext_getElem (by simp) fun i inside _ => ?_
    have inside : i < args.length := by simpa using inside
    have found : (args.map bytesOf)[i]? = some (bytesOf args[i]) := by simp [inside]
    have held := Arena.read_extend_add a found
    have clean_here := clean args[i] (List.getElem_mem inside)
    simpa using Arena.pointer_of_read clean_here held
  rw [ArgumentBuffer.pointers, slots, argumentVector]
  cases args <;> rfl

end Arena

namespace TranslationUnit

variable {file : Bytes} {args : List String}

def marshalled (file : Bytes) (args : List String) : ParseInput :=
  { source := some file, args := argumentVector args, count := Int32.ofNat args.length }

def copies (file : Bytes) (args : List String) :
    ExceptT Error (StateM Arena) (Slot × ArgumentBuffer) := do
  let source ← Arena.path file
  let buffer ← Arena.marshal args
  return (source, buffer)

def filled (file : Bytes) (args : List String) : Arena :=
  (Arena.empty.push file).extend (args.map bytesOf)

theorem copies_clean (clean : Marshallable file args) :
    (copies file args).run.run .empty =
      (.ok (0, ⟨List.range' 1 args.length⟩), filled file args) := by
  have path : (Arena.path file).run Arena.empty = (.ok 0, Arena.empty.push file) :=
    Arena.copy_clean clean.1 _
  have vector : (Arena.marshal args).run (Arena.empty.push file) =
      (.ok ⟨List.range' 1 args.length⟩, filled file args) := Arena.marshal_clean clean.2
  change (copies file args).run Arena.empty = _
  rw [copies, run_bind_ok path, run_bind_ok vector]
  rfl

theorem copies_refused {error : Error} (refused : Refusal file args error) :
    ((copies file args).run.run .empty).1 = .error error := by
  change ((copies file args).run Arena.empty).1 = _
  cases refused with
  | path nul =>
    obtain ⟨offset, found⟩ := Arena.exists_nulOffset nul
    have path : (Arena.path file).run Arena.empty =
        (.error (.allocation (shown file) .nulInPath), Arena.empty) := Arena.copy_unclean found _
    rw [copies, run_bind_error path]
  | argument i arg offset clean here before nul =>
    obtain ⟨inside, rfl⟩ := List.getElem?_eq_some_iff.mp here
    have split : args = args.take i ++ args[i] :: args.drop (i + 1) := by
      rw [List.getElem_cons_drop, List.take_append_drop]
    have earlier : ∀ x ∈ args.take i, 0 ∉ bytesOf x := by
      intro x member
      obtain ⟨j, early, rfl⟩ := List.mem_take_iff_getElem.mp member
      exact before j (by omega) _ (List.getElem?_eq_getElem _)
    have path : (Arena.path file).run Arena.empty = (.ok 0, Arena.empty.push file) :=
      Arena.copy_clean clean _
    have vector := Arena.marshal_unclean (a := Arena.empty.push file) (args.drop (i + 1)) earlier
      ((firstNul_iff _ _).mp nul)
    rw [← split, List.length_take_of_le (Nat.le_of_lt inside)] at vector
    rw [copies, run_bind_ok path, run_bind_error vector]

theorem marshal_eq (h : Host σ) (file : Bytes) (args : List String) :
    let made := (copies file args).run.run .empty
    marshal h file args = (do
      let (source, buffer) ← made.1
      h.sink.put buffer.event
      let count ← argumentCount buffer.length
      return { source := made.2.pointer source, args := buffer.pointers made.2, count }) := rfl

theorem marshal_refused (h : Host σ) {error : Error} (refused : Refusal file args error) :
    marshal h file args = throw error := by
  rw [marshal_eq, copies_refused refused]
  rfl

theorem argumentCount_of_lt {n : Nat} (few : n < 0x80000000) :
    argumentCount n = .ok (Int32.ofNat n) := by
  have limit : Int32.maxValue.toInt = 0x7FFFFFFF := rfl
  rw [argumentCount, if_pos (by rw [limit]; omega)]

theorem pointers_filled (clean : Marshallable file args) :
    ArgumentBuffer.pointers (filled file args) ⟨List.range' 1 args.length⟩ =
      argumentVector args :=
  Arena.pointers_extend (Arena.empty.push file) clean.2

theorem marshal_clean (h : Host σ) (clean : Marshallable file args)
    (few : args.length < 0x80000000) :
    marshal h file args = (do
      h.sink.put (ArgumentBuffer.event ⟨List.range' 1 args.length⟩)
      return marshalled file args) := by
  have source : (filled file args).pointer 0 = some file :=
    Arena.pointer_of_read clean.1 (Arena.read_extend _ (Arena.read_push_length .empty file))
  have length : ArgumentBuffer.length ⟨List.range' 1 args.length⟩ = args.length :=
    List.length_range'
  rw [marshal_eq, copies_clean clean]
  change (do
    h.sink.put (ArgumentBuffer.event ⟨List.range' 1 args.length⟩)
    let count ← argumentCount (ArgumentBuffer.length ⟨List.range' 1 args.length⟩)
    return ParseInput.mk ((filled file args).pointer 0)
      (ArgumentBuffer.pointers (filled file args) ⟨List.range' 1 args.length⟩) count :
      HostM σ ParseInput) = _
  rw [source, pointers_filled clean, length, argumentCount_of_lt few]
  rfl

end TranslationUnit

theorem TranslationUnit.marshal_unfolds (h : Host σ) {file : Bytes} {args : List String}
    (clean : Marshallable file args) (few : args.length < 0x80000000) (s : σ) :
    ∃ t, Unfolds (marshal h.watched file args).run (marshal h file args).run s
      (.ok (marshalled file args)) t [] := by
  rw [marshal_clean h.watched clean few, marshal_clean h clean few]
  exact ⟨_, (Unfolds.put h _ s).bind_ok (.pure _ _)⟩

namespace ParseKind

variable {file : Bytes} {args : List String}

theorem run_refused (h : Host σ) (index : Index) (kind : ParseKind) {error : Error}
    (refused : Refusal file args error) : kind.run h index file args = throw error := by
  cases kind with
  | source =>
    rw [run, TranslationUnit.ofSource, TranslationUnit.marshal_refused h refused]
    rfl
  | options unsaved flags =>
    rw [run, TranslationUnit.parse, TranslationUnit.marshal_refused h refused]
    rfl

theorem exchange_options (index : Index) (file : Bytes) (args : List String) (count : Int32)
    (raw : Handle) (unsaved : List UnsavedFile) (flags : ParseFlags) :
    exchange index file args count raw (.options unsaved flags) =
      ⟨.parseUnit index.raw (some file) (argumentVector args) count true 0 flags.encode, raw⟩ := by
  rw [exchange, flags.foldl_bits]

/-- Once all is copied the engine is asked, and asked no more. -/
theorem run_unfolds (h : Host σ) (index : Index) (kind : ParseKind) (clean : Marshallable file args)
    (few : args.length < 0x80000000) (s : σ) :
    ∃ (raw : Handle) (t : σ),
      Unfolds (kind.run h.watched index file args).run (kind.run h index file args).run s
        (TranslationUnit.ofRaw raw) t
        [.asked (kind.exchange index file args (.ofNat args.length) raw)] := by
  obtain ⟨s₁, copied⟩ := TranslationUnit.marshal_unfolds h clean few s
  cases kind with
  | source =>
    have asked := Unfolds.call h.engine
      (.createUnit index.raw (some file) (.ofNat args.length) (argumentVector args) 0 true)
    obtain ⟨raw, t, _, asked⟩ := asked _
    exact ⟨raw, t, copied.bind_ok ((Unfolds.put h _ s₁).bind_ok
      (asked.lift.bind_ok (Unfolds.outcome rfl t)))⟩
  | options unsaved flags =>
    simp only [exchange_options]
    have asked := Unfolds.call h.engine (.parseUnit index.raw (some file)
      (argumentVector args) (.ofNat args.length) true 0 flags.encode)
    by_cases some_unsaved : (!unsaved.isEmpty) = true
    · obtain ⟨raw, t, _, asked⟩ := asked _
      exact ⟨raw, t, copied.bind_ok (.ite_pos some_unsaved ((Unfolds.put h _ s₁).bind_ok
        ((Unfolds.put h _ _).bind_ok (asked.lift.bind_ok (Unfolds.outcome rfl t)))))⟩
    · obtain ⟨raw, t, _, asked⟩ := asked _
      exact ⟨raw, t, copied.bind_ok (.ite_neg some_unsaved ((Unfolds.put h _ s₁).bind_ok
        (asked.lift.bind_ok (Unfolds.outcome rfl t))))⟩

end ParseKind

theorem marshallable_iff (file : Bytes) (args : List String) :
    Marshallable file args ↔ ¬ ∃ error, Refusal file args error := by
  constructor
  · rintro ⟨path, clean⟩ ⟨error, refused⟩
    cases refused with
    | path nul => exact path nul
    | argument i arg offset _ here _ nul =>
      exact clean arg (List.mem_of_getElem? here) (List.mem_of_getElem? nul.1)
  · intro unrefused
    have path : 0 ∉ file := fun nul => unrefused ⟨_, .path nul⟩
    by_contra unclean
    have some_nul : ¬ ∀ arg ∈ args, 0 ∉ bytesOf arg := fun clean => unclean ⟨path, clean⟩
    obtain ⟨before, arg, after, rfl, clean, nul, -⟩ := Arena.split_unclean some_nul
    obtain ⟨offset, found⟩ := Arena.exists_nulOffset nul
    refine unrefused ⟨_, .argument before.length arg offset path (by simp) ?_
      ((firstNul_iff _ _).mpr found)⟩
    intro j early earlier here
    rw [List.getElem?_append_left early] at here
    exact clean earlier (List.mem_of_getElem? here)

namespace ParseKind

variable {file : Bytes} {args : List String}

theorem run_asks (h : Host σ) (index : Index) (kind : ParseKind) (clean : Marshallable file args)
    (few : args.length < 0x80000000) (s : σ) :
    ∃ (count : Int32) (raw : Handle) (t : σ), count.toInt = args.length ∧
      let outcome := if raw = 0 then .error (.invalidHandle .translationUnit) else .ok ⟨raw⟩
      (kind.run h index file args).run s = (outcome, t) ∧
      (kind.run h.watched index file args).run (s, []) =
        (outcome, t, [.asked (kind.exchange index file args count raw)]) := by
  obtain ⟨raw, t, answered, asked⟩ := run_unfolds h index kind clean few s
  exact ⟨.ofNat args.length, raw, t, Int32.toInt_ofNat_of_lt few, answered, asked []⟩

theorem run_eq_error_iff (h : Host σ) (index : Index) (kind : ParseKind)
    (few : args.length < 0x80000000) (s : σ) {error : Error}
    (other : error ≠ .invalidHandle .translationUnit) :
    ((kind.run h index file args).run s).1 = .error error ↔ Refusal file args error := by
  constructor
  · intro failed
    by_cases clean : Marshallable file args
    · obtain ⟨_, raw, _, _, answered, _⟩ := run_asks h index kind clean few s
      rw [answered] at failed
      dsimp only at failed
      split_ifs at failed with null
      exact absurd (Except.error.inj failed).symm other
    · obtain ⟨found, refused⟩ := not_not.mp (mt (marshallable_iff file args).mpr clean)
      rw [run_refused h index kind refused] at failed
      cases failed
      exact refused
  · intro refused
    rw [run_refused h index kind refused]
    rfl

end ParseKind

/-- A parse through either entry point, of whatever path and arguments, over any engine. -/
theorem parses (h : Host σ) (index : Index) (file : Bytes) (args : List String)
    (few : args.length < 0x80000000) (kind : ParseKind) (s : σ) :
    (∀ error, Refusal file args error →
      (kind.run h index file args).run s = (.error error, s) ∧
      (kind.run h.watched index file args).run (s, []) = (.error error, s, [])) ∧
    ((∃ error, Refusal file args error) ∨ ∃ (count : Int32) (raw : Handle) (t : σ),
      count.toInt = args.length ∧
      let outcome := if raw = 0 then .error (.invalidHandle .translationUnit) else .ok ⟨raw⟩
      (kind.run h index file args).run s = (outcome, t) ∧
      (kind.run h.watched index file args).run (s, []) =
        (outcome, t, [.asked (kind.exchange index file args count raw)])) ∧
    ((∃ error, Refusal file args error) ↔ 0 ∈ file ∨ ∃ arg ∈ args, 0 ∈ bytesOf arg) ∧
    (∀ (other : ParseKind) (u : σ) (error : Error), error ≠ .invalidHandle .translationUnit →
      (((kind.run h index file args).run s).1 = .error error ↔
        ((other.run h index file args).run u).1 = .error error)) ∧
    ∀ (υ : Type) (act : StateM υ Unit → StateM σ Unit) (steps : List (Session.Step υ)),
      let session := Session.course h.watched (Session.actBeside act) steps {} (s, [])
      ∀ x ∈ session.final.2.exchanges, x.call ≠ .disposeUnit 0 := by
  refine ⟨fun error refused => ⟨?_, ?_⟩, ?_, ?_, fun other u error notNull => ?_,
    fun υ act steps => ?_⟩
  · rw [kind.run_refused h index refused]
    rfl
  · rw [kind.run_refused h.watched index refused]
    rfl
  · by_cases clean : Marshallable file args
    · exact .inr (kind.run_asks h index clean few s)
    · exact .inl (not_not.mp (mt (marshallable_iff file args).mpr clean))
  · rw [← not_iff_not, ← marshallable_iff, Marshallable]
    simp
  · rw [kind.run_eq_error_iff h index few s notNull, other.run_eq_error_iff h index few u notNull]
  · exact Session.course_nullKept h act steps (by simp [Session.UnitsPresent])
      (by simp [NullKept])

/-- The first NUL of the second argument is named, though the third argument is one as well. -/
theorem parses_secondArgument :
    let args := ["-w", "-D\x00=\x00", "\x00"]
    args.length < 0x80000000 ∧
    (ParseKind.source.run (World.host {} none) ⟨7, true⟩ [0x61] args).run ({ observed := () }) =
      (.error (.allocation "argument 1" (.nulAt 2)), { observed := () }) := by
  have refused : Refusal [0x61] ["-w", "-D\x00=\x00", "\x00"]
      (.allocation ("argument " ++ toString 1) (.nulAt 2)) :=
    .argument 1 "-D\x00=\x00" 2 (by decide) rfl (by decide) ⟨by decide, by decide⟩
  have few : ["-w", "-D\x00=\x00", "\x00"].length < 0x80000000 := by decide
  have result := ((parses (World.host {} none) ⟨7, true⟩ [0x61] _ few .source
    { observed := () }).1 _ refused).1
  exact ⟨few, result⟩

end ClangHost
