import ClangHost.Proofs.Failures
import ClangHost.Proofs.Utf8
import ClangHost.Session.World
import Mathlib.Data.List.TakeWhile

/-!
Completions over a scripted engine give what the script says (`completeAt_eq_ok_iff`): when they
succeed, and with which candidates. Nothing else has an influence, not the state of the engine,
not the unit and not the place that is asked about.
-/
namespace ClangHost

variable {σ : Type}

def ScriptText.seen? : ScriptText → Option String
  | .chars s => if '\x00' ∈ s.toList then none else some s
  | .bytes bs => some (shown (untilNul bs))

namespace ScriptedCandidate

def chunkTotal (c : ScriptedCandidate) : Nat :=
  (c.reportedChunks.map UInt32.toNat).getD c.chunks.size

/-- The chunk with a given number; past the last one there is no text, and no kind. -/
def chunk (raw : Bool) (c : ScriptedCandidate) (i : Nat) : Chunk :=
  match c.chunks[i]? with
  | some (kind, text) =>
    { text := text.seen?.getD "", kind := if raw then .raw kind else .named (.ofRaw kind) }
  | none => { text := "", kind := if raw then .raw (-1) else .named .unknown }

def decoded (raw : Bool) (c : ScriptedCandidate) : Candidate :=
  { availability :=
      if raw then .raw c.availability
      else .named (Availability.all[c.availability.toInt.toNat]?.getD .available)
    priority := c.priority
    comment := (c.comment.bind ScriptText.seen?).filter (!·.isEmpty)
    chunks := (List.range c.chunkTotal).map (c.chunk raw) }

def Sound (raw : Bool) (c : ScriptedCandidate) : Prop :=
  c.nullString = false ∧ (raw = false → 0 ≤ c.availability ∧ c.availability ≤ 3) ∧
    c.chunkTotal ≤ 0xFFFF

end ScriptedCandidate

def Script.Completes (s : Script) (q : CompletionRequest) : Prop :=
  0 ∉ q.file ∧ s.nullResults = false ∧
    (s.candidates.size = 0 ∨
      s.layout = .host ∧ s.nullRecords = false ∧ ∀ c ∈ s.candidates, c.Sound q.raw)

def Script.Small (s : Script) : Prop :=
  s.candidates.size < 2 ^ 32 ∧ ∀ c ∈ s.candidates, c.chunks.size < 2 ^ 32

structure Engine.Follows (e : Engine σ) (s : Script) (part : σ → ScriptState) : Prop where
  answer : ∀ c w, (e c w).1 = (s.engine c (part w)).1
  state : ∀ c w, part (e c w).2 = (s.engine c (part w)).2

theorem World.follows {υ : Type} (s : Script) :
    (World.scripted s).Follows s (World.engine : World υ → ScriptState) :=
  { answer := fun _ _ => rfl
    state := fun _ _ => rfl }

theorem untilNul_eq_self {bs : Bytes} (clean : 0 ∉ bs) : untilNul bs = bs := by
  rw [untilNul, List.takeWhile_eq_self_iff]
  intro b hb
  simp only [bne_iff_ne, ne_eq]
  intro zero
  exact clean (zero ▸ hb)

theorem untilNul_idem (bs : Bytes) : untilNul (untilNul bs) = untilNul bs := by
  apply untilNul_eq_self
  intro zero
  have := List.mem_takeWhile_imp zero
  contradiction

theorem ScriptText.text?_content (t : ScriptText) : CString.text? t.content? = t.seen? := by
  cases t with
  | bytes bs => simp only [content?, CString.text?, Option.map_some, untilNul_idem, seen?]
  | chars s =>
    have nul := Utf8.zero_mem_encode_iff s.toList
    simp only [content?, seen?, ← Option.ne_none_iff_isSome, ne_eq, nulOffset?_eq_none_iff, nul,
      not_not]
    by_cases held : '\x00' ∈ s.toList
    · rw [if_pos held, if_pos held]
      rfl
    · rw [if_neg held, if_neg held]
      have clean : 0 ∉ Utf8.encode s.toList := fun zero => held (nul.mp zero)
      simp only [CString.text?, Option.map_some, untilNul_eq_self clean, shown,
        Utf8.decodeLossy_encode, String.ofList_toList]

theorem ScriptState.string?_newString (content : Option Bytes) (st : ScriptState) :
    (st.newString content).2.string? (st.newString content).1 = content := by
  cases content with
  | none => rfl
  | some bs => simp [newString, string?]

theorem Availability.not_unknown_iff (value : Int32) : ¬ Unknown value ↔ 0 ≤ value ∧ value ≤ 3 := by
  simp only [Unknown, Int32.lt_iff_toInt_lt, Int32.le_iff_toInt_le]
  omega

namespace Script

theorem toNat_candidateAddress {i : Nat} (small : i < 2 ^ 32) :
    (candidateAddress i).toNat = i + 1 := by
  simp only [candidateAddress, UInt64.toNat_ofNat']
  omega

theorem candidateAddress_ne_zero {i : Nat} (small : i < 2 ^ 32) : candidateAddress i ≠ 0 := by
  intro zero
  have address := toNat_candidateAddress small
  rw [zero] at address
  simp at address

theorem candidate?_candidateAddress (s : Script) {i : Nat} (small : i < 2 ^ 32) :
    s.candidate? (candidateAddress i) = s.candidates[i]? := by
  rw [candidate?, if_neg (candidateAddress_ne_zero small), toNat_candidateAddress small,
    Nat.add_sub_cancel]

theorem string_record (s : Script) {i : Nat} {c : ScriptedCandidate}
    (found : s.candidates[i]? = some c) :
    (s.record i).string = if c.nullString then 0 else candidateAddress i := by
  simp only [record, found]

theorem complete_fst (s : Script) (call : CompletionCall) (st : ScriptState) :
    (s.complete call st).1 = if s.nullResults then none else some (s.block st.blocksBuilt) := by
  cases none : s.nullResults <;>
    simp only [complete, none, if_true, if_false, Bool.false_eq_true] <;> rfl

theorem readable_block_iff (s : Script) (id : Nat) (some_candidates : s.candidates.size ≠ 0) :
    (s.block id).Readable s.layout ↔ s.layout = .host ∧ s.nullRecords = false := by
  have full : s.candidates.isEmpty = false := by
    simpa [Array.isEmpty] using some_candidates
  cases hidden : s.nullRecords with
  | true => simp [ResultBlock.Readable, block, hidden]
  | false =>
    have base : recordsBase ≠ 0 ∧ recordsBase % 8 = 0 := by decide
    simp [ResultBlock.Readable, block, hidden, full, base]

theorem toNat_count_block (s : Script) (id : Nat) (small : s.candidates.size < 2 ^ 32) :
    (s.block id).count.toNat = s.candidates.size := by
  simpa [block] using small

end Script

namespace Engine.Follows

variable {e : Engine σ} {s : Script} {part : σ → ScriptState}

/-- A text is seen as it was scripted, since nothing comes between handing it out and looking at
it. -/
theorem text?_of_givenBy (follows : e.Follows s part) {ask : StateM σ EngineString}
    {f : Option Bytes} (hands_out : ∀ w, ((ask w).1, part (ask w).2) = (part w).newString f)
    {x : TextAnswers} (given : x.GivenBy e ask) :
    CString.text? x.content = CString.text? f := by
  obtain ⟨w, text, looked⟩ := given
  have handed := hands_out w
  rw [looked, follows.answer, text]
  have first := congrArg Prod.fst handed
  have second := congrArg Prod.snd handed
  dsimp only at first second
  change CString.text? ((part (ask w).2).string? (ask w).1) = _
  rw [first, second, ScriptState.string?_newString]

theorem availability_eq (follows : e.Follows s part) {a : Address} {x : RecordAnswers}
    (given : x.GivenBy e a) {c : ScriptedCandidate} (found : s.candidate? a = some c) :
    x.availability = c.availability := by
  obtain ⟨w, answer⟩ := given.availability
  rw [answer, follows.answer]
  change ((s.candidate? a).map ScriptedCandidate.availability).getD 0 = _
  rw [found]
  rfl

theorem priority_eq (follows : e.Follows s part) {a : Address} {x : RecordAnswers}
    (given : x.GivenBy e a) {c : ScriptedCandidate} (found : s.candidate? a = some c) :
    x.priority = c.priority := by
  obtain ⟨w, answer⟩ := given.priority
  rw [answer, follows.answer]
  change ((s.candidate? a).map ScriptedCandidate.priority).getD 0 = _
  rw [found]
  rfl

theorem comment_eq (follows : e.Follows s part) {a : Address} {x : RecordAnswers}
    (given : x.GivenBy e a) {c : ScriptedCandidate} (found : s.candidate? a = some c) :
    CString.text? x.comment.content = c.comment.bind ScriptText.seen? := by
  have seen := follows.text?_of_givenBy
    (f := (s.candidate? a).bind fun c => c.comment.bind ScriptText.content?)
    (fun w => Prod.ext (follows.answer _ w) (follows.state _ w)) given.comment
  rw [seen, found, Option.bind_some]
  cases c.comment with
  | none => rfl
  | some t => exact t.text?_content

theorem toNat_chunkCount (follows : e.Follows s part) {a : Address} {x : RecordAnswers}
    (given : x.GivenBy e a) {c : ScriptedCandidate} (found : s.candidate? a = some c)
    (small : c.chunks.size < 2 ^ 32) : x.chunkCount.toNat = c.chunkTotal := by
  obtain ⟨w, answer⟩ := given.chunkCount
  rw [answer, follows.answer]
  change (((s.candidate? a).map fun c : ScriptedCandidate =>
    c.reportedChunks.getD (UInt32.ofNat c.chunks.size)).getD 0).toNat = _
  rw [found, ScriptedCandidate.chunkTotal]
  cases reported : c.reportedChunks with
  | some n => simp [reported]
  | none => simpa [reported] using small

theorem chunk_eq (follows : e.Follows s part) {a : Address} {i : Nat} {x : ChunkAnswers}
    (given : x.GivenBy e a i) {c : ScriptedCandidate} (found : s.candidate? a = some c)
    (small : i < 2 ^ 32) (raw : Bool) : x.chunk raw = c.chunk raw i := by
  obtain ⟨given_text, w, answer⟩ := given
  have index : (UInt32.ofNat i).toNat = i := by
    rw [UInt32.toNat_ofNat', Nat.mod_eq_of_lt small]
  have seen := follows.text?_of_givenBy
    (f := (s.candidate? a).bind fun c => (c.chunks[(UInt32.ofNat i).toNat]?).bind fun p =>
      p.2.content?)
    (fun w => Prod.ext (follows.answer _ w) (follows.state _ w)) given_text
  have kind : x.kind = ((s.candidate? a).bind fun c =>
      (c.chunks[(UInt32.ofNat i).toNat]?).bind fun p => some p.1).getD (-1) := by
    rw [answer, follows.answer]
    rfl
  rw [found, index, Option.bind_some] at seen kind
  rw [ChunkAnswers.chunk, seen, kind, ScriptedCandidate.chunk]
  cases c.chunks[i]? with
  | none => cases raw <;> rfl
  | some p =>
    obtain ⟨k, t⟩ := p
    simp only [Option.bind_some, t.text?_content, Option.getD_some, Completion.kindTag]

theorem fault?_eq_none_iff (follows : e.Follows s part) (raw : Bool) {i : Nat}
    {c : ScriptedCandidate} (found : s.candidates[i]? = some c) (small : c.chunks.size < 2 ^ 32)
    (place : i < 2 ^ 32) {x : RecordAnswers} (given : x.GivenBy e (s.record i).string) :
    x.fault? raw i (s.record i) = none ↔ c.Sound raw := by
  have string := s.string_record found
  by_cases null : c.nullString = true
  · rw [if_pos null] at string
    simp [RecordAnswers.fault?, string, ScriptedCandidate.Sound, null]
  rw [if_neg null] at string
  rw [string] at given
  have at_i : s.candidate? (Script.candidateAddress i) = some c := by
    rw [s.candidate?_candidateAddress place, found]
  have many : 0xFFFF < x.chunkCount ↔ ¬ c.chunkTotal ≤ 0xFFFF := by
    rw [← follows.toNat_chunkCount given at_i small, UInt32.lt_iff_toNat_lt, Nat.not_le]
    rfl
  rw [RecordAnswers.fault?, string, if_neg (Script.candidateAddress_ne_zero place),
    follows.availability_eq given at_i, ScriptedCandidate.Sound, ← Availability.not_unknown_iff]
  simp only [many]
  by_cases unknown : raw = false ∧ Availability.Unknown c.availability
  · simp [unknown.1, unknown.2]
  rw [if_neg unknown]
  have known : raw = false → ¬ Availability.Unknown c.availability :=
    fun labels bad => unknown ⟨labels, bad⟩
  by_cases few : c.chunkTotal ≤ 0xFFFF
  · simpa [few, null] using known
  · simp [few]

theorem candidate_eq_decoded (follows : e.Follows s part) {raw : Bool} {i : Nat}
    {c : ScriptedCandidate} (found : s.candidates[i]? = some c) (small : c.chunks.size < 2 ^ 32)
    (place : i < 2 ^ 32) {x : RecordAnswers} (given : x.GivenBy e (s.record i).string)
    (sound : c.Sound raw) : x.candidate raw = c.decoded raw := by
  obtain ⟨present, known, few⟩ := sound
  have string := s.string_record found
  rw [present, if_neg (by simp)] at string
  rw [string] at given
  have at_i : s.candidate? (Script.candidateAddress i) = some c := by
    rw [s.candidate?_candidateAddress place, found]
  have chunks : (List.range c.chunkTotal).map (fun j => (x.chunk j).chunk raw) =
      (List.range c.chunkTotal).map (c.chunk raw) := by
    refine List.map_congr_left fun j hj => ?_
    have : j < c.chunkTotal := List.mem_range.mp hj
    exact follows.chunk_eq (given.chunk j) at_i (by omega) raw
  rw [RecordAnswers.candidate, follows.availability_eq given at_i, follows.priority_eq given at_i,
    follows.comment_eq given at_i, follows.toNat_chunkCount given at_i small, chunks,
    ScriptedCandidate.decoded]
  cases raw with
  | true => rfl
  | false =>
    have inside : ¬ c.availability < 0 := Int32.not_lt.mpr (known rfl).1
    simp only [Availability.ofRaw?, if_neg inside]

end Engine.Follows

namespace Completion

theorem answeredBlock_scripted {e : Engine σ} {s : Script} {part : σ → ScriptState}
    (follows : e.Follows s part) (o : Observer σ) (unit : Handle) (q : CompletionRequest) (w : σ) :
    ∃ id, answeredBlock e o unit q w = if s.nullResults then none else some (s.block id) := by
  let asked := (e .defaultOptions (o.onRequest q.file q.line q.column w).2).2
  refine ⟨(part asked).blocksBuilt, ?_⟩
  rw [answeredBlock, follows.answer]
  exact s.complete_fst _ _

theorem run_scripted_eq_ok_iff {e : Engine σ} {s : Script} {part : σ → ScriptState}
    (follows : e.Follows s part) (small : s.Small) (o : Observer σ) (unit : Handle)
    (q : CompletionRequest) (w : σ) (cs : List Candidate) :
    ((run e o unit q).run w).1 = .ok cs ↔
      s.Completes q ∧ cs = s.candidates.toList.map (ScriptedCandidate.decoded q.raw) := by
  obtain ⟨a, t, given, result, _⟩ := run_unfolds e o unit q w
  obtain ⟨id, answered⟩ := answeredBlock_scripted follows o unit q w
  obtain ⟨few, each_small⟩ := small
  rw [← given.block] at answered
  rw [result, Script.Completes, Answers.outcome]
  by_cases nul : 0 ∈ q.file
  · simp [nul]
  cases none : s.nullResults with
  | true =>
    rw [none, if_pos rfl] at answered
    simp [nul, answered]
  | false =>
    rw [none, if_neg (by simp)] at answered
    have count := s.toNat_count_block id few
    have layout : a.layout = s.layout := by
      obtain ⟨u, h⟩ := given.layout
      rw [h, follows.answer]
      rfl
    have record : ∀ i, ∀ h : i < s.candidates.size,
        ((a.record i).fault? q.raw i ((s.block id).record i) = Option.none ↔
          s.candidates[i].Sound q.raw) ∧
        (s.candidates[i].Sound q.raw →
          (a.record i).candidate q.raw = s.candidates[i].decoded q.raw) := by
      intro i h
      have found : s.candidates[i]? = some s.candidates[i] := Array.getElem?_eq_getElem h
      have each := each_small s.candidates[i] (Array.getElem_mem h)
      have given_i := given.record _ answered i
      have place : i < 2 ^ 32 := by omega
      exact ⟨follows.fault?_eq_none_iff q.raw found each place given_i,
        follows.candidate_eq_decoded found each place given_i⟩
    have zero : (s.block id).count = 0 ↔ s.candidates.size = 0 := by
      rw [← count, ← UInt32.toNat_inj]
      rfl
    have sound : (∀ i < s.candidates.size,
        (a.record i).fault? q.raw i ((s.block id).record i) = Option.none) ↔
        ∀ c ∈ s.candidates, c.Sound q.raw := by
      constructor
      · intro passes c hc
        obtain ⟨i, hi, rfl⟩ := Array.getElem_of_mem hc
        exact (record i hi).1.mp (passes i hi)
      · intro all_sound i hi
        exact (record i hi).1.mpr (all_sound _ (Array.getElem_mem hi))
    simp only [if_neg nul, answered, Answers.decoded_eq_ok_iff, zero, count, layout, sound]
    by_cases empty : s.candidates.size = 0
    · simp [nul, empty, Array.toList_eq_nil_iff.mpr (Array.size_eq_zero_iff.mp empty)]
    rw [s.readable_block_iff id empty]
    have same (all_sound : ∀ c ∈ s.candidates, c.Sound q.raw) :
        (List.range s.candidates.size).map (fun i => (a.record i).candidate q.raw) =
          s.candidates.toList.map (ScriptedCandidate.decoded q.raw) := by
      refine List.ext_getElem (by simp) fun i h₁ _ => ?_
      have hi : i < s.candidates.size := by simpa using h₁
      simp [(record i hi).2 (all_sound _ (Array.getElem_mem hi))]
    constructor
    · rintro ⟨bad | ⟨⟨host, shown⟩, all_sound⟩, rfl⟩
      · exact absurd bad empty
      · exact ⟨⟨nul, trivial, .inr ⟨host, shown, all_sound⟩⟩, same all_sound⟩
    · rintro ⟨⟨_, _, bad | ⟨host, shown, all_sound⟩⟩, rfl⟩
      · exact absurd bad empty
      · exact ⟨.inr ⟨⟨host, shown⟩, all_sound⟩, (same all_sound).symm⟩

end Completion

namespace TranslationUnit

/-- A completion gives the scripted candidates, all of them and in their order, or fails. Whether
it fails depends on the script, the path and the mode alone. -/
theorem completeAt_eq_ok_iff {υ : Type} (s : Script) (small : s.Small) (threshold : Option Level)
    (w : World υ) (u : TranslationUnit) (q : CompletionRequest) (cs : List Candidate) :
    ((u.completeAt (World.host s threshold) q).run w).1 = .ok cs ↔
      s.Completes q ∧ cs = s.candidates.toList.map (ScriptedCandidate.decoded q.raw) :=
  Completion.run_scripted_eq_ok_iff (World.follows s) small _ u.raw q w cs

def unevenScript : Script :=
  { candidates := #[{ availability := 1, priority := 7, comment := some (.chars "hi")
                      chunks := #[(1, .chars "f"), (3, .chars "a\x00b")]
                      reportedChunks := some 3 }] }

theorem completeAt_uneven : unevenScript.Small ∧
    ((completeAt (World.host unevenScript none) ⟨1⟩ ⟨[0x61], 1, 1, false⟩).run
      { observed := () }).1 =
      .ok [{ availability := .named .deprecated, priority := 7, comment := some "hi"
             chunks := [⟨"f", .named .typedText⟩, ⟨"", .named .placeholder⟩,
               ⟨"", .named .unknown⟩] }] := by
  have small : unevenScript.Small := by
    simp [Script.Small, unevenScript]
  refine ⟨small, (completeAt_eq_ok_iff unevenScript small none { observed := () } ⟨1⟩
    ⟨[0x61], 1, 1, false⟩ _).mpr ⟨?_, ?_⟩⟩
  · simp [Script.Completes, ScriptedCandidate.Sound, ScriptedCandidate.chunkTotal, unevenScript]
  · decide

end TranslationUnit

end ClangHost
