import ClangHost.Proofs.Protocol

/-!
Completions that are answered alike. Two runs may go over different engines, in different worlds
and before different observers; where the same question after the same past gets the same answer,
the answers of one run decide what the other comes to. That holds between two runs of one mode, and
also of a labelled run beside a raw one, since a raw run asks at least as much (`outcome_alike`).
-/
namespace ClangHost

/-- The same question after the same past has the same answer. Where one of the two ends, or the
questions differ, nothing is said of the rest. -/
inductive AnsweredAlike : List Exchange → List Exchange → Prop where
  | done (k : List Exchange) : AnsweredAlike [] k
  | ended (h : List Exchange) : AnsweredAlike h []
  | parted {x y : Exchange} (h k : List Exchange) : x.call ≠ y.call →
      AnsweredAlike (x :: h) (y :: k)
  | agreed (x : Exchange) {h k : List Exchange} : AnsweredAlike h k →
      AnsweredAlike (x :: h) (x :: k)

def Completion.course {σ : Type} (e : Engine σ) (o : Observer σ) (unit : Handle)
    (q : CompletionRequest) (s : σ) : Except Error (List Candidate) × History :=
  (((run e o unit q).run s).1, ((run e.watched o.watched unit q).run (s, [])).2.2)

theorem Completion.course_eq {σ : Type} (e : Engine σ) (o : Observer σ) (unit : Handle)
    (q : CompletionRequest) (s : σ) :
    ∃ a, Given e o unit q s a ∧ course e o unit q s = (a.outcome q, a.history unit q) := by
  obtain ⟨a, t, given, result, watched⟩ := run_unfolds e o unit q s
  refine ⟨a, given, ?_⟩
  rw [course, result, watched]
  rfl

section Loops

variable {ι : Type} {p q : ι → Bool} {l : List ι}

theorem upToFirst_eq_of_reached (same : ∀ i ∈ upToFirst p l, p i = q i) :
    upToFirst p l = upToFirst q l := by
  induction l with
  | nil => rfl
  | cons i l ih =>
    have here : p i = q i := same i (by simp [upToFirst])
    rw [upToFirst, upToFirst, ← here]
    split
    · rfl
    · rename_i goes
      rw [ih fun j hj => same j (by simp [upToFirst, goes, hj])]

theorem mapM_eq_of_reached {ε α : Type} {f g : ι → Except ε α}
    (same : ∀ i ∈ upToFirst (fun i => !(f i).isOk) l, f i = g i) : l.mapM f = l.mapM g := by
  induction l with
  | nil => rfl
  | cons i l ih =>
    rw [List.mapM_cons, List.mapM_cons, ← same i (by simp [upToFirst])]
    cases value : f i with
    | error e => rfl
    | ok v =>
      have goes : (!(f i).isOk) = false := by rw [value]; rfl
      rw [ih fun j hj => same j (by simp [upToFirst, goes, hj])]

end Loops

namespace AnsweredAlike

variable {h k h' k' : List Exchange}

theorem cons_iff {x y : Exchange} : AnsweredAlike (x :: h) (y :: k) ↔
    (x.call = y.call → x = y ∧ AnsweredAlike h k) := by
  constructor
  · intro alike same
    cases alike with
    | parted _ _ differ => exact absurd same differ
    | agreed _ rest => exact ⟨rfl, rest⟩
  · intro step
    by_cases same : x.call = y.call
    · obtain ⟨rfl, rest⟩ := step same
      exact .agreed x rest
    · exact .parted h k same

theorem next {c : Call} {a b : c.Answer} (alike : AnsweredAlike (⟨c, a⟩ :: h) (⟨c, b⟩ :: k)) :
    a = b ∧ AnsweredAlike h k := by
  obtain ⟨same, rest⟩ := cons_iff.mp alike rfl
  cases same
  exact ⟨rfl, rest⟩

theorem of_append (alike : AnsweredAlike (h ++ h') (k ++ k')) : AnsweredAlike h k := by
  induction h generalizing k with
  | nil => exact .done k
  | cons x h ih =>
    cases k with
    | nil => exact .ended (x :: h)
    | cons y k =>
      refine cons_iff.mpr fun same => ?_
      obtain ⟨here, rest⟩ := cons_iff.mp alike same
      exact ⟨here, ih rest⟩

theorem after (alike : AnsweredAlike (h ++ h') (h ++ k')) : AnsweredAlike h' k' := by
  induction h with
  | nil => exact alike
  | cons x h ih => exact ih (cons_iff.mp alike rfl).2

/-- Two loops side by side, up to the first turn where the first one stops. The second one goes on
at least as long, and until then their turns are the same. -/
theorem loop {ι : Type} {p q : ι → Bool} {f g : ι → List Exchange} {same : ι → Prop} {l : List ι}
    (turn : ∀ i, AnsweredAlike (f i) (g i) → same i ∧ (p i = false → q i = false ∧ f i = g i))
    (alike : AnsweredAlike ((upToFirst p l).flatMap f) ((upToFirst q l).flatMap g)) :
    ∀ i ∈ upToFirst p l, same i := by
  induction l with
  | nil => intro i hi; contradiction
  | cons i l ih =>
    simp only [upToFirst, List.flatMap_cons] at alike
    obtain ⟨here, goes_on⟩ := turn i alike.of_append
    intro j hj
    rcases List.mem_cons.mp hj with rfl | later
    · exact here
    · cases stops : p i with
      | true => simp [stops] at later
      | false =>
        obtain ⟨goes, agree⟩ := goes_on stops
        simp only [stops, goes, agree] at alike later
        exact ih alike.after j later

end AnsweredAlike

theorem TextAnswers.alike {x y : TextAnswers} {h k : List Exchange} (text : x.text = y.text)
    (alike : AnsweredAlike (x.exchanges ++ h) (y.exchanges ++ k)) :
    x = y ∧ AnsweredAlike h k := by
  obtain ⟨text, content⟩ := x
  obtain ⟨_, content'⟩ := y
  subst text
  obtain ⟨rfl, back⟩ := AnsweredAlike.next alike
  exact ⟨rfl, back.next.2⟩

theorem ChunkAnswers.alike {string : Address} {i : Nat} {x y : ChunkAnswers}
    (alike : AnsweredAlike (x.exchanges string i) (y.exchanges string i)) : x = y := by
  obtain ⟨text, kind⟩ := x
  obtain ⟨text', kind'⟩ := y
  obtain ⟨same, rest⟩ := AnsweredAlike.next alike
  obtain ⟨rfl, last⟩ := TextAnswers.alike same rest
  obtain ⟨rfl, _⟩ := last.next
  rfl

namespace RecordAnswers

theorem alike {raw more : Bool} (reach : raw = true → more = true) (i : Nat)
    (r : CompletionRecord) {x y : RecordAnswers}
    (alike : AnsweredAlike (x.exchanges raw r) (y.exchanges more r)) :
    (x.outcome raw i r = y.outcome raw i r ∧ x.exchanges raw r = y.exchanges raw r) ∧
      (x.fault? raw i r = none →
        y.fault? more i r = none ∧ x.exchanges raw r = y.exchanges more r) := by
  simp only [outcome, fault?, candidate]
  -- one check after the other: where it stops `x` both sides agree, and otherwise the next
  -- answer is to the same call
  by_cases null : r.string = 0
  · simp [exchanges, null]
  simp only [exchanges, if_neg null] at alike ⊢
  obtain ⟨availability, alike⟩ := alike.next
  simp only [availability] at alike ⊢
  by_cases unknown : raw = false ∧ Availability.Unknown y.availability
  · simp [unknown.1, unknown.2]
  have known : ¬ (more = false ∧ Availability.Unknown y.availability) := by
    rintro ⟨labels, bad⟩
    cases raw with
    | true => rw [reach rfl] at labels; contradiction
    | false => exact unknown ⟨rfl, bad⟩
  simp only [if_neg unknown, if_neg known] at alike ⊢
  obtain ⟨priority, alike⟩ := alike.next
  obtain ⟨text, alike⟩ := alike.next
  obtain ⟨comment, alike⟩ := TextAnswers.alike text alike
  obtain ⟨count, alike⟩ := alike.next
  simp only [priority, comment, count] at alike ⊢
  by_cases many : 0xFFFF < y.chunkCount
  · simp [many]
  simp only [if_neg many] at alike ⊢
  -- no chunk stops the loop, so it is one of those that `loop` compares
  have whole : ∀ n, upToFirst (fun _ => false) (List.range n) = List.range n :=
    fun n => upToFirst_eq_self fun _ _ => rfl
  rw [← whole] at alike
  have chunk : ∀ j ∈ List.range y.chunkCount.toNat, x.chunk j = y.chunk j := by
    have turn : ∀ j, AnsweredAlike ((x.chunk j).exchanges r.string j)
        ((y.chunk j).exchanges r.string j) → x.chunk j = y.chunk j ∧ ((false = false) →
          false = false ∧ (x.chunk j).exchanges r.string j = (y.chunk j).exchanges r.string j) :=
      fun j here => ⟨ChunkAnswers.alike here, fun _ => ⟨rfl, by rw [ChunkAnswers.alike here]⟩⟩
    rw [← whole]
    exact alike.loop turn
  have texts : (List.range y.chunkCount.toNat).map (fun j => (x.chunk j).chunk raw) =
      (List.range y.chunkCount.toNat).map fun j => (y.chunk j).chunk raw :=
    List.map_congr_left fun j hj => by rw [chunk j hj]
  have asked : (List.range y.chunkCount.toNat).flatMap
        (fun j => (x.chunk j).exchanges r.string j) =
      (List.range y.chunkCount.toNat).flatMap fun j => (y.chunk j).exchanges r.string j :=
    List.flatMap_congr fun j hj => by rw [chunk j hj]
  simp [texts, asked]

end RecordAnswers

namespace Answers

variable {raw more : Bool} {a a' : Answers}

theorem decoded_alike (reach : raw = true → more = true) (b : ResultBlock)
    (alike : AnsweredAlike (a.decoding raw b) (a'.decoding more b)) :
    a.decoded raw b = a'.decoded raw b ∧ a.decoding raw b = a'.decoding raw b := by
  by_cases zero : b.count = 0
  · simp [decoded, decoding, zero]
  simp only [decoded, decoding, if_neg zero] at alike ⊢
  obtain ⟨layout, alike⟩ := alike.next
  simp only [layout] at alike ⊢
  by_cases readable : b.Readable a'.layout
  · simp only [if_pos readable, visited] at alike
    -- past the records that `a` visits, the answers of `a'` need not agree
    have reached := alike.loop fun i here => by
      obtain ⟨same, goes_on⟩ :=
        RecordAnswers.alike reach i (b.record i) (x := a.record i) (y := a'.record i) here
      refine ⟨same, fun sound => ?_⟩
      simp only [Option.isSome_eq_false_iff, Option.isNone_iff_eq_none] at sound ⊢
      exact goes_on sound
    have visits : a.visited raw b = a'.visited raw b := upToFirst_eq_of_reached fun i hi => by
      have same := congrArg Except.isOk (reached i hi).1
      simpa only [RecordAnswers.isOk_outcome, Option.not_isNone] using congrArg not same
    have check := (b.check_eq_ok_iff a'.layout zero).mpr readable
    constructor
    · rw [check]
      refine mapM_eq_of_reached fun i hi => (reached i ?_).1
      simpa only [RecordAnswers.isOk_outcome, Option.not_isNone] using hi
    · rw [if_pos readable, if_pos readable, visits]
      refine congrArg _ (List.flatMap_congr fun i hi => (reached i ?_).2)
      rwa [← visits] at hi
  · have refused := mt (b.check_eq_ok_iff a'.layout zero).mp readable
    simp only [if_neg readable, and_true]
    cases check : RecordView.check b.base a'.layout b.count.toUInt64 with
    | error f => rfl
    | ok _ => exact absurd check refused

theorem outcome_alike {unit : Handle} {q q' : CompletionRequest}
    (alike : AnsweredAlike (a.exchanges unit q) (a'.exchanges unit q'))
    (place : q'.file = q.file ∧ q'.line = q.line ∧ q'.column = q.column)
    (reach : q.raw = true → q'.raw = true) :
    a.outcome q = a'.outcome q ∧ a.exchanges unit q = a'.exchanges unit q := by
  obtain ⟨_, _, _, raw⟩ := q
  obtain ⟨file, line, column, more⟩ := q'
  obtain ⟨rfl, rfl, rfl⟩ := place
  obtain ⟨options, block, layout, record⟩ := a
  obtain ⟨_, _, layout', record'⟩ := a'
  simp only [exchanges, outcome] at alike ⊢
  by_cases nul : 0 ∈ file
  · simp [nul]
  simp only [if_neg nul] at alike ⊢
  obtain ⟨rfl, alike⟩ := alike.next
  obtain ⟨rfl, alike⟩ := alike.next
  cases block with
  | none => simp
  | some b =>
    obtain ⟨decoded, decoding⟩ := decoded_alike reach b alike.of_append
    dsimp only at decoding ⊢
    exact ⟨decoded, by rw [decoding]⟩

end Answers
end ClangHost
