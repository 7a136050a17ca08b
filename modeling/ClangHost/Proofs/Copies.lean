import ClangHost.Proofs.Answers
import Mathlib.Data.List.Range
import Mathlib.Data.List.Nodup

/-!
Copies over a whole run of requests to one arena. What a request hands out is one new copy after
the other, unless something that it is to copy holds a NUL (`perform_clean`); then the copies made
before that stay, and nothing is handed out (`perform_unclean`). Whatever was handed out reads back
for as long as the arena lives, and no two of its slots are one (`run_copies`).
-/
namespace ClangHost
namespace Arena

inductive Request where
  | text (what value : String)
  | path (p : Bytes)
  | arguments (args : List String)
  deriving DecidableEq, Repr

inductive Reply where
  | slot (s : Slot)
  | buffer (b : ArgumentBuffer)
  deriving DecidableEq, Repr

def perform : Request → ExceptT Error (StateM Arena) Reply
  | .text what value => .slot <$> text what value
  | .path p => .slot <$> path p
  | .arguments args => .buffer <$> marshal args

def bytesOf (value : String) : Bytes := Utf8.encode value.toList

namespace Request

def contents : Request → List Bytes
  | .text _ value => [bytesOf value]
  | .path p => [p]
  | .arguments args => args.map bytesOf

def Clean (q : Request) : Prop := ∀ bs ∈ q.contents, 0 ∉ bs

def granted (start : Slot) : Request → Reply
  | .text _ _ => .slot start
  | .path _ => .slot start
  | .arguments args => .buffer ⟨List.range' start args.length⟩

/-- The number of copies that a request makes, by how it ends: one for a text or a path, and one
for each argument, or for each one before the first that holds a NUL. -/
def copies : Request → Except Error Reply → Nat
  | .arguments args, .ok _ => args.length
  | .arguments args, .error _ => args.findIdx fun arg => 0 ∈ bytesOf arg
  | _, .ok _ => 1
  | _, .error _ => 0

/-- What was handed out for a request reads back as it was asked for. -/
def Reads (a : Arena) : Request → Reply → Prop
  | .text _ value, .slot s => a.read? s = some (bytesOf value ++ [0])
  | .path p, .slot s => a.read? s = some (p ++ [0])
  | .arguments args, .buffer b =>
    b.length = args.length ∧ (b.pointers a = none ↔ b.length = 0) ∧
      (∀ i, b.get? a i = none ↔ b.length ≤ i) ∧
      ∀ i arg, args[i]? = some arg → 0 ∉ bytesOf arg ∧ b.get? a i = some (bytesOf arg ++ [0])
  | _, _ => False

end Request

def Reply.slots : Except Error Reply → List Slot
  | .ok (.slot s) => [s]
  | .ok (.buffer b) => b.slots
  | .error _ => []

structure Run where
  arena : Arena := .empty
  log : List (Request × Except Error Reply) := []

def Run.next (r : Run) (q : Request) : Run :=
  let (outcome, arena) := (perform q).run r.arena
  { arena, log := r.log ++ [(q, outcome)] }

def Run.copied (r : Run) : Nat := r.log.foldl (fun n x => n + x.1.copies x.2) 0

theorem Run.copied_snoc (r : Run) (a : Arena) (x : Request × Except Error Reply) :
    (⟨a, r.log ++ [x]⟩ : Run).copied = r.copied + x.1.copies x.2 := by
  simp only [copied, List.foldl_append, List.foldl_cons, List.foldl_nil]

def run (qs : List Request) (r : Run) : Run := qs.foldl Run.next r

def extend (a : Arena) (bss : List Bytes) : Arena := bss.foldl push a

theorem length_extend (a : Arena) (bss : List Bytes) :
    (a.extend bss).length = a.length + bss.length := by
  induction bss generalizing a with
  | nil => rfl
  | cons bs bss ih =>
    rw [extend, List.foldl_cons, ← extend, ih, length_push, List.length_cons]
    omega

theorem read_extend_of_lt (a : Arena) (bss : List Bytes) {s : Slot} (h : s < a.length) :
    (a.extend bss).read? s = a.read? s := by
  induction bss generalizing a with
  | nil => rfl
  | cons bs bss ih =>
    have inside : s < (a.push bs).length := by
      rw [length_push]
      exact Nat.lt_succ_of_lt h
    rw [extend, List.foldl_cons, ← extend, ih _ inside, read_push_of_lt a bs h]

theorem read_extend_add (a : Arena) {bss : List Bytes} {i : Nat} {bs : Bytes}
    (found : bss[i]? = some bs) : (a.extend bss).read? (a.length + i) = some (bs ++ [0]) := by
  induction bss generalizing a i with
  | nil => contradiction
  | cons first bss ih =>
    rw [extend, List.foldl_cons, ← extend]
    cases i with
    | zero =>
      cases found
      have inside : a.length < (a.push bs).length := by
        rw [length_push]
        omega
      rw [Nat.add_zero, read_extend_of_lt _ _ inside, read_push_length]
    | succ i =>
      have place : a.length + (i + 1) = (a.push first).length + i := by
        rw [length_push]
        omega
      rw [place]
      exact ih _ found

theorem lt_length_of_read {a : Arena} {s : Slot} {bs : Bytes} (h : a.read? s = some bs) :
    s < a.length :=
  (Array.getElem?_eq_some_iff.mp h).1

theorem read_extend {a : Arena} {s : Slot} {bs : Bytes} (bss : List Bytes)
    (h : a.read? s = some bs) : (a.extend bss).read? s = some bs := by
  rw [read_extend_of_lt a bss (lt_length_of_read h)]
  exact h

section Performing

variable {a b : Arena} {α β : Type}

theorem run_map {x : ExceptT Error (StateM Arena) α} {r : Except Error α}
    (done : x.run a = (r, b)) (f : α → β) : (f <$> x).run a = (r.map f, b) := by
  rw [map_eq_pure_bind]
  cases r with
  | ok v => exact run_bind_ok done _
  | error e => exact run_bind_error done _

theorem copy_clean {bs : Bytes} (clean : 0 ∉ bs) (fault : Nat → Error) :
    (copy bs fault).run a = (.ok a.length, a.push bs) := by
  simp only [copy, (nulOffset?_eq_none_iff bs).mpr clean]
  rfl

theorem copy_unclean {bs : Bytes} {offset : Nat} (nul : nulOffset? bs = some offset)
    (fault : Nat → Error) : (copy bs fault).run a = (.error (fault offset), a) := by
  simp only [copy, nul]
  rfl

theorem exists_nulOffset {bs : Bytes} (nul : 0 ∈ bs) : ∃ offset, nulOffset? bs = some offset := by
  rw [← Option.ne_none_iff_exists']
  exact fun none => (nulOffset?_eq_none_iff bs).mp none nul

def textsFrom (k : Nat) (args : List String) : ExceptT Error (StateM Arena) (List Slot) :=
  (args.zipIdx k).mapM fun (arg, i) => text ("argument " ++ toString i) arg

theorem textsFrom_cons (k : Nat) (arg : String) (args : List String) :
    textsFrom k (arg :: args) = do
      let s ← text ("argument " ++ toString k) arg
      let rest ← textsFrom (k + 1) args
      return s :: rest := by
  simp only [textsFrom, List.zipIdx_cons, List.mapM_cons]

theorem textsFrom_clean (k : Nat) {args : List String} (clean : ∀ arg ∈ args, 0 ∉ bytesOf arg) :
    (textsFrom k args).run a =
      (.ok (List.range' a.length args.length), a.extend (args.map bytesOf)) := by
  induction args generalizing k a with
  | nil => rfl
  | cons arg args ih =>
    have here : (text ("argument " ++ toString k) arg).run a =
        (.ok a.length, a.push (bytesOf arg)) := copy_clean (clean arg List.mem_cons_self) _
    have rest := ih (a := a.push (bytesOf arg)) (k + 1) fun x hx =>
      clean x (List.mem_cons_of_mem _ hx)
    rw [length_push] at rest
    rw [textsFrom_cons, run_bind_ok here, run_bind_ok rest]
    rfl

theorem textsFrom_unclean (k : Nat) {before : List String} {arg : String} (after : List String)
    (clean : ∀ x ∈ before, 0 ∉ bytesOf x) {offset : Nat}
    (nul : nulOffset? (bytesOf arg) = some offset) :
    (textsFrom k (before ++ arg :: after)).run a =
      (.error (.allocation ("argument " ++ toString (k + before.length)) (.nulAt offset)),
        a.extend (before.map bytesOf)) := by
  induction before generalizing k a with
  | nil =>
    have here : (text ("argument " ++ toString k) arg).run a =
        (.error (.allocation ("argument " ++ toString k) (.nulAt offset)), a) :=
      copy_unclean nul _
    rw [List.nil_append, textsFrom_cons, run_bind_error here]
    rfl
  | cons x before ih =>
    have here : (text ("argument " ++ toString k) x).run a =
        (.ok a.length, a.push (bytesOf x)) := copy_clean (clean x List.mem_cons_self) _
    have rest := ih (a := a.push (bytesOf x)) (k + 1) fun y hy =>
      clean y (List.mem_cons_of_mem _ hy)
    rw [Nat.add_right_comm, Nat.add_assoc] at rest
    rw [List.cons_append, textsFrom_cons, run_bind_ok here, run_bind_error rest]
    rfl

theorem marshal_clean {args : List String} (clean : ∀ arg ∈ args, 0 ∉ bytesOf arg) :
    (marshal args).run a =
      (.ok ⟨List.range' a.length args.length⟩, a.extend (args.map bytesOf)) :=
  run_bind_ok (textsFrom_clean 0 clean) _

theorem marshal_unclean {before : List String} {arg : String} (after : List String)
    (clean : ∀ x ∈ before, 0 ∉ bytesOf x) {offset : Nat}
    (nul : nulOffset? (bytesOf arg) = some offset) :
    (marshal (before ++ arg :: after)).run a =
      (.error (.allocation ("argument " ++ toString before.length) (.nulAt offset)),
        a.extend (before.map bytesOf)) := by
  have failed := textsFrom_unclean (a := a) 0 after clean nul
  rw [Nat.zero_add] at failed
  exact run_bind_error failed _

theorem perform_clean {q : Request} (clean : q.Clean) :
    (perform q).run a = (.ok (q.granted a.length), a.extend q.contents) := by
  cases q with
  | text what value => exact run_map (copy_clean (clean _ List.mem_cons_self) _) _
  | path p => exact run_map (copy_clean (clean _ List.mem_cons_self) _) _
  | arguments args =>
    exact run_map (marshal_clean fun arg h => clean _ (List.mem_map_of_mem h)) _

theorem split_unclean {args : List String} (unclean : ¬ ∀ arg ∈ args, 0 ∉ bytesOf arg) :
    ∃ before arg after, args = before ++ arg :: after ∧ (∀ x ∈ before, 0 ∉ bytesOf x) ∧
      0 ∈ bytesOf arg ∧ args.findIdx (fun x => 0 ∈ bytesOf x) = before.length := by
  induction args with
  | nil => exact absurd (fun arg h => by contradiction) unclean
  | cons arg args ih =>
    by_cases nul : 0 ∈ bytesOf arg
    · exact ⟨[], arg, args, rfl, fun x h => by contradiction, nul, by simp [List.findIdx_cons, nul]⟩
    · have later : ¬ ∀ x ∈ args, 0 ∉ bytesOf x := fun clean => unclean fun x h => by
        rcases List.mem_cons.mp h with rfl | h
        · exact nul
        · exact clean x h
      obtain ⟨before, x, after, rfl, clean, found, place⟩ := ih later
      refine ⟨arg :: before, x, after, rfl, fun y h => ?_, found, ?_⟩
      · rcases List.mem_cons.mp h with rfl | h
        · exact nul
        · exact clean y h
      · simp [List.findIdx_cons, nul, place]

theorem perform_unclean {q : Request} (unclean : ¬ q.Clean) :
    ∃ (e : Error) (bss : List Bytes), (perform q).run a = (.error e, a.extend bss) ∧
      bss.length = q.copies (.error e) := by
  cases q with
  | text what value =>
    have nul : 0 ∈ bytesOf value := by simpa [Request.Clean, Request.contents] using unclean
    obtain ⟨offset, found⟩ := exists_nulOffset nul
    exact ⟨_, [], run_map (copy_unclean found _) _, rfl⟩
  | path p =>
    have nul : 0 ∈ p := by simpa [Request.Clean, Request.contents] using unclean
    obtain ⟨offset, found⟩ := exists_nulOffset nul
    exact ⟨_, [], run_map (copy_unclean found _) _, rfl⟩
  | arguments args =>
    have some_unclean : ¬ ∀ arg ∈ args, 0 ∉ bytesOf arg := by
      intro clean
      refine unclean fun bs h => ?_
      obtain ⟨arg, member, rfl⟩ := List.mem_map.mp h
      exact clean arg member
    obtain ⟨before, arg, after, rfl, clean, nul, place⟩ := split_unclean some_unclean
    obtain ⟨offset, found⟩ := exists_nulOffset nul
    refine ⟨_, before.map bytesOf, run_map (marshal_unclean after clean found) _, ?_⟩
    rw [List.length_map, Request.copies, place]

end Performing

theorem pointers_eq_none_iff (a : Arena) (b : ArgumentBuffer) :
    b.pointers a = none ↔ b.length = 0 := by
  simp [ArgumentBuffer.pointers, ArgumentBuffer.isNull, ArgumentBuffer.length]

theorem get?_eq_none_iff {a : Arena} {b : ArgumentBuffer} (held : ∀ s ∈ b.slots, s < a.length)
    (i : Nat) : b.get? a i = none ↔ b.length ≤ i := by
  rw [ArgumentBuffer.length, ← List.getElem?_eq_none_iff]
  cases slot : b.slots[i]? with
  | none => simp [ArgumentBuffer.get?, slot]
  | some s =>
    have inside : s < a.copies.size := held s (List.mem_of_getElem? slot)
    simp [ArgumentBuffer.get?, slot, read?, inside]

namespace Request

variable {a : Arena} {q : Request}

theorem slots_granted (q : Request) (start : Slot) :
    Reply.slots (.ok (q.granted start)) = List.range' start q.contents.length := by
  cases q with
  | text what value => rfl
  | path p => rfl
  | arguments args => simp [granted, Reply.slots, contents]

theorem copies_granted (q : Request) (start : Slot) :
    q.copies (.ok (q.granted start)) = q.contents.length := by
  cases q with
  | text what value => rfl
  | path p => rfl
  | arguments args => simp [copies, contents]

theorem reads_granted (clean : q.Clean) : q.Reads (a.extend q.contents) (q.granted a.length) := by
  cases q with
  | text what value => exact read_extend_add a (i := 0) rfl
  | path p => exact read_extend_add a (i := 0) rfl
  | arguments args =>
    have held : ∀ s ∈ List.range' a.length args.length,
        s < (a.extend (args.map bytesOf)).length := by
      intro s member
      rw [length_extend, List.length_map]
      exact (List.mem_range'_1.mp member).2
    refine ⟨List.length_range', pointers_eq_none_iff _ _, get?_eq_none_iff held, ?_⟩
    intro i arg found
    have inside := (List.getElem?_eq_some_iff.mp found).1
    have slot : (List.range' a.length args.length)[i]? = some (a.length + i) := by simp [inside]
    have content : (args.map bytesOf)[i]? = some (bytesOf arg) := by simp [found]
    refine ⟨clean _ (List.mem_map_of_mem (List.mem_of_getElem? found)), ?_⟩
    simp only [ArgumentBuffer.get?, slot, Option.bind_some]
    exact read_extend_add a content

theorem Reads.slots_lt {reply : Reply} (reads : q.Reads a reply) :
    ∀ s ∈ Reply.slots (.ok reply), s < a.length := by
  cases q with
  | text what value =>
    cases reply with
    | slot s => simpa [Reply.slots] using lt_length_of_read reads
    | buffer b => exact False.elim reads
  | path p =>
    cases reply with
    | slot s => simpa [Reply.slots] using lt_length_of_read reads
    | buffer b => exact False.elim reads
  | arguments args =>
    cases reply with
    | slot s => exact False.elim reads
    | buffer b =>
      obtain ⟨length, _, _, read⟩ := reads
      intro s member
      have member : s ∈ b.slots := member
      obtain ⟨i, inside, rfl⟩ := List.getElem_of_mem member
      have in_args : i < args.length := length ▸ inside
      have found := (read i _ (List.getElem?_eq_getElem in_args)).2
      rw [ArgumentBuffer.get?, List.getElem?_eq_getElem inside, Option.bind_some] at found
      exact lt_length_of_read found

theorem Reads.extend {reply : Reply} (reads : q.Reads a reply) (bss : List Bytes) :
    q.Reads (a.extend bss) reply := by
  have held := reads.slots_lt
  cases q with
  | text what value =>
    cases reply with
    | slot s => exact read_extend bss reads
    | buffer b => exact reads
  | path p =>
    cases reply with
    | slot s => exact read_extend bss reads
    | buffer b => exact reads
  | arguments args =>
    cases reply with
    | slot s => exact reads
    | buffer b =>
      obtain ⟨length, _, _, read⟩ := reads
      have still_held : ∀ s ∈ b.slots, s < (a.extend bss).length := by
        intro s member
        rw [length_extend]
        exact Nat.lt_add_right _ (held s member)
      refine ⟨length, pointers_eq_none_iff _ _, get?_eq_none_iff still_held, ?_⟩
      intro i arg found
      obtain ⟨clean, here⟩ := read i arg found
      refine ⟨clean, ?_⟩
      obtain ⟨s, slot, content⟩ := Option.bind_eq_some_iff.mp here
      simp only [ArgumentBuffer.get?, slot, Option.bind_some]
      exact read_extend bss content

end Request

structure Run.Sound (r : Run) : Prop where
  length : r.arena.length = r.copied
  distinct : (r.log.flatMap fun x => Reply.slots x.2).Nodup
  clean : ∀ x ∈ r.log, x.2.isOk ↔ x.1.Clean
  reads : ∀ q reply, (q, .ok reply) ∈ r.log → q.Reads r.arena reply

namespace Run.Sound

variable {r : Run}

theorem slots_lt (sound : r.Sound) :
    ∀ s ∈ r.log.flatMap fun x => Reply.slots x.2, s < r.arena.length := by
  intro s member
  obtain ⟨⟨q, outcome⟩, logged, held⟩ := List.mem_flatMap.mp member
  cases outcome with
  | error e => contradiction
  | ok reply => exact (sound.reads q reply logged).slots_lt s held

theorem next (sound : r.Sound) (q : Request) : (r.next q).Sound := by
  have length := sound.length
  by_cases clean : q.Clean
  · have done := perform_clean (a := r.arena) clean
    have after : r.next q =
        ⟨r.arena.extend q.contents, r.log ++ [(q, .ok (q.granted r.arena.length))]⟩ := by
      simp only [Run.next, done]
    rw [after]
    constructor
    · rw [length_extend, length, r.copied_snoc, q.copies_granted]
    · simp only [List.flatMap_append, List.flatMap_singleton, q.slots_granted]
      refine List.nodup_append.mpr ⟨sound.distinct, List.nodup_range', ?_⟩
      intro s old t new
      have below := sound.slots_lt s old
      have above := (List.mem_range'_1.mp new).1
      exact Nat.ne_of_lt (Nat.lt_of_lt_of_le below above)
    · intro x logged
      rcases List.mem_append.mp logged with old | new
      · exact sound.clean x old
      · cases List.mem_singleton.mp new
        exact ⟨fun _ => clean, fun _ => rfl⟩
    · intro p reply logged
      rcases List.mem_append.mp logged with old | new
      · exact (sound.reads p reply old).extend _
      · cases List.mem_singleton.mp new
        exact Request.reads_granted clean
  · obtain ⟨e, bss, done, count⟩ := perform_unclean (a := r.arena) clean
    have after : r.next q = ⟨r.arena.extend bss, r.log ++ [(q, .error e)]⟩ := by
      simp only [Run.next, done]
    rw [after]
    constructor
    · rw [length_extend, length, r.copied_snoc, count]
    · simpa [Reply.slots] using sound.distinct
    · intro x logged
      rcases List.mem_append.mp logged with old | new
      · exact sound.clean x old
      · cases List.mem_singleton.mp new
        exact ⟨fun ok => by contradiction, fun fine => absurd fine clean⟩
    · intro p reply logged
      rcases List.mem_append.mp logged with old | new
      · exact (sound.reads p reply old).extend bss
      · cases List.mem_singleton.mp new

theorem run (sound : r.Sound) (qs : List Request) : (Arena.run qs r).Sound := by
  induction qs generalizing r with
  | nil => exact sound
  | cons q qs ih => exact ih (sound.next q)

end Run.Sound

theorem log_run (qs : List Request) (r : Run) :
    ∃ later, (run qs r).log = r.log ++ later ∧ later.map Prod.fst = qs := by
  induction qs generalizing r with
  | nil => exact ⟨[], (List.append_nil _).symm, rfl⟩
  | cons q qs ih =>
    obtain ⟨later, log, asked⟩ := ih (r.next q)
    have here : (r.next q).log = r.log ++ [(q, ((perform q).run r.arena).1)] := rfl
    refine ⟨(q, ((perform q).run r.arena).1) :: later, ?_, ?_⟩
    · rw [run, List.foldl_cons, ← run, log, here, List.append_assoc]
      rfl
    · rw [List.map_cons, asked]

/-- Requests to an arena, whatever they are of and however they end. A request succeeds where
nothing that it is to copy holds a NUL. The arena has as many copies as were made, no two of the
slots that were handed out are one, and whatever was handed out reads back, at once and after any
requests that follow. -/
theorem run_copies (qs : List Request) :
    let r := run qs {}
    r.log.map Prod.fst = qs ∧ (∀ x ∈ r.log, x.2.isOk ↔ x.1.Clean) ∧
    r.arena.length = r.copied ∧
    (r.log.flatMap fun x => Reply.slots x.2).Nodup ∧
    ∀ more, r.log <+: (run more r).log ∧
      ∀ q reply, (q, .ok reply) ∈ r.log → q.Reads (run more r).arena reply := by
  intro r
  have start : ({} : Run).Sound :=
    { length := rfl
      distinct := List.nodup_nil
      clean := fun x none => by contradiction
      reads := fun q reply none => by contradiction }
  have sound : r.Sound := start.run qs
  refine ⟨?_, sound.clean, sound.length, sound.distinct, fun more => ?_⟩
  · obtain ⟨later, log, asked⟩ := log_run qs {}
    rw [show r.log = later from log, asked]
  · obtain ⟨later, log, _⟩ := log_run more r
    refine ⟨⟨later, log.symm⟩, fun q reply logged => ?_⟩
    refine (sound.run more).reads q reply ?_
    rw [log]
    exact List.mem_append_left _ logged

/-- Copies left by a failed request stand between those of the others. -/
example : (run [.arguments ["-w", "a\x00"], .path [0x61], .arguments ["", "-w"]] {}).log.map
    (fun x => Reply.slots x.2) = [[], [1], [2, 3]] := by decide

end Arena
end ClangHost
