import ClangHost.Proofs.Parsing
import ClangHost.Proofs.ScriptDecoding
import ClangHost.Proofs.Subparts

/-!
Texts on their way between the engine and the host. A text taken from the engine ends before the
first NUL and is read lossily; it can then be sent back, and arrives as it was taken. What the host
sends arrives as it was sent, unless it holds a NUL: then nothing is sent, and no part of it arrives
(`texts_transfer`).
-/
namespace ClangHost

open Arena (bytesOf)

variable {σ : Type}

def Arrives (value : String) : Prop :=
  ∀ (what : String) (a : Arena), ∃ slot b,
    (Arena.text what value).run a = (.ok slot, b) ∧ CString.text? (b.pointer slot) = some value

structure Hears (bs : Bytes) (t : String) : Prop where
  lossy : Utf8.Lossy (untilNul bs) t.toList
  unchanged : (∃ s, Utf8.encode s = untilNul bs) → bytesOf t = untilNul bs
  clean : '\x00' ∉ t.toList
  sentBack : Arrives t

/-- What becomes of a text that is to be sent: it arrives, or it is refused where its first NUL
stands. -/
inductive Sends (what value : String) (a : Arena) : Except Error Slot × Arena → Prop where
  | arrives {slot : Slot} {b : Arena} : '\x00' ∉ value.toList →
      CString.text (b.pointer slot) = value → Sends what value a (.ok slot, b)
  | refused {offset : Nat} : FirstNul (bytesOf value) offset →
      Sends what value a (.error (.allocation what (.nulAt offset)), a)

/-- What becomes of arguments that are to be sent: all arrive in their order, whether the engine is
told their number or looks at each, or they are refused where the first NUL in them stands. -/
inductive SendsAll (args : List String) : Except Error ArgumentBuffer × Arena → Prop where
  | arrive {buffer : ArgumentBuffer} {b : Arena} : (∀ arg ∈ args, '\x00' ∉ arg.toList) →
      ((buffer.pointers b).getD []).map CString.text = args →
      (∀ count : Int32, count.toInt = args.length →
        argumentTexts (buffer.pointers b) count = args) →
      SendsAll args (.ok buffer, b)
  | refused {b : Arena} (i : Nat) (arg : String) (offset : Nat) : args[i]? = some arg →
      (∀ j < i, ∀ earlier, args[j]? = some earlier → '\x00' ∉ earlier.toList) →
      FirstNul (bytesOf arg) offset →
      SendsAll args (.error (.allocation ("argument " ++ toString i) (.nulAt offset)), b)

theorem zero_mem_bytesOf_iff (value : String) : 0 ∈ bytesOf value ↔ '\x00' ∈ value.toList :=
  Utf8.zero_mem_encode_iff _

theorem zero_notMem_untilNul (bs : Bytes) : 0 ∉ untilNul bs := by
  intro zero
  have kept := List.mem_takeWhile_imp zero
  contradiction

theorem text?_bytesOf {value : String} (clean : 0 ∉ bytesOf value) :
    CString.text? (some (bytesOf value)) = some value := by
  rw [CString.text?, Option.map_some, untilNul_eq_self clean, shown, bytesOf,
    Utf8.decodeLossy_encode, String.ofList_toList]

theorem pointer_copy (a : Arena) {bs : Bytes} (clean : 0 ∉ bs) :
    (a.push bs).pointer a.length = some bs :=
  Arena.pointer_push a ((nulOffset?_eq_none_iff bs).mpr clean)

theorem arrives_of_clean {value : String} (clean : 0 ∉ bytesOf value) : Arrives value := by
  intro what a
  refine ⟨_, _, Arena.copy_clean clean _, ?_⟩
  rw [pointer_copy a clean, text?_bytesOf clean]

theorem hears_shown (bs : Bytes) : Hears bs (shown (untilNul bs)) := by
  have lossy : Utf8.Lossy (untilNul bs) (shown (untilNul bs)).toList := by
    rw [shown, String.toList_ofList]
    exact (Utf8.decodeLossy_eq_iff _ _).mp rfl
  have clean := lossy.nul_notMem (zero_notMem_untilNul bs)
  constructor
  · exact lossy
  · rintro ⟨s, whole⟩
    rw [shown, bytesOf, String.toList_ofList, ← whole, Utf8.decodeLossy_encode]
  · exact clean
  · apply arrives_of_clean
    rwa [zero_mem_bytesOf_iff]

theorem sends (what value : String) (a : Arena) :
    Sends what value a ((Arena.text what value).run a) := by
  by_cases nul : 0 ∈ bytesOf value
  · obtain ⟨offset, found⟩ := Arena.exists_nulOffset nul
    have refused : (Arena.text what value).run a =
        (.error (.allocation what (.nulAt offset)), a) := Arena.copy_unclean found _
    rw [refused]
    exact .refused ((firstNul_iff _ _).mpr found)
  · have done : (Arena.text what value).run a = (.ok a.length, a.push (bytesOf value)) :=
      Arena.copy_clean nul _
    rw [done]
    apply Sends.arrives
    · rwa [← zero_mem_bytesOf_iff]
    · rw [CString.text, pointer_copy a nul, text?_bytesOf nul]
      rfl

theorem map_text_argumentVector {args : List String} (clean : ∀ arg ∈ args, 0 ∉ bytesOf arg) :
    ((argumentVector args).getD []).map CString.text = args := by
  have texts : (args.map fun arg => some (bytesOf arg)).map CString.text = args := by
    rw [List.map_map]
    conv_rhs => rw [← List.map_id args]
    apply List.map_congr_left
    intro arg member
    simp only [Function.comp_apply, CString.text, text?_bytesOf (clean arg member),
      Option.getD_some,
      id_eq]
  unfold argumentVector
  split
  · rename_i none
    rw [List.isEmpty_iff.mp none]
    rfl
  · exact texts

theorem sendsAll (args : List String) (a : Arena) : SendsAll args ((Arena.marshal args).run a) := by
  by_cases clean : ∀ arg ∈ args, 0 ∉ bytesOf arg
  · have texts := map_text_argumentVector clean
    rw [Arena.marshal_clean clean]
    constructor
    · intro arg member
      rw [← zero_mem_bytesOf_iff]
      exact clean arg member
    · rwa [Arena.pointers_extend a clean]
    · intro count whole
      rw [Arena.pointers_extend a clean, argumentTexts, whole, Int.toNat_natCast, List.map_take,
        texts, List.take_length]
  · obtain ⟨before, arg, after, rfl, earlier, nul, _⟩ := Arena.split_unclean clean
    obtain ⟨offset, found⟩ := Arena.exists_nulOffset nul
    rw [Arena.marshal_unclean after earlier found]
    apply SendsAll.refused before.length arg offset
    · rw [List.getElem?_append_right (Nat.le_refl _), Nat.sub_self]
      rfl
    · intro j early other here
      rw [List.getElem?_append_left early] at here
      rw [← zero_mem_bytesOf_iff]
      exact earlier other (List.mem_of_getElem? here)
    · exact (firstNul_iff _ _).mpr found

theorem take_newString (s : Script) (value : String) (st : ScriptState) :
    let handed := st.newString (ScriptText.chars value).content?
    (EngineString.take s.engine handed.1 handed.2).1 =
      if '\x00' ∈ value.toList then none else some value := by
  intro handed
  have held : handed.2.string? handed.1 = (ScriptText.chars value).content? :=
    ScriptState.string?_newString _ st
  change CString.text? (handed.2.string? handed.1) = _
  rw [held, ScriptText.text?_content]
  rfl

/-- Texts pass between the engine and the host in both directions. Whatever an engine holds is
taken as the lossy reading of the bytes before the first NUL, as it is where these bytes are UTF-8,
and can be sent back; texts and arguments of the host arrive as they are, or are refused for a NUL;
and the scripted engine holds a text as it is, or null in place of one with a NUL. -/
theorem texts_transfer :
    (∀ {σ : Type} (e : Engine σ) (held : EngineString) (w : σ),
      Option.Rel Hears (e (.cString held) w).1 (EngineString.take e held w).1) ∧
    (∀ (what value : String) (a : Arena), Sends what value a ((Arena.text what value).run a)) ∧
    (∀ (args : List String) (a : Arena), SendsAll args ((Arena.marshal args).run a)) ∧
    ∀ (s : Script) (value : String) (st : ScriptState),
      let handed := st.newString (ScriptText.chars value).content?
      (EngineString.take s.engine handed.1 handed.2).1 =
        if '\x00' ∈ value.toList then none else some value := by
  refine ⟨?_, sends, sendsAll, take_newString⟩
  intro σ e held w
  change Option.Rel Hears (e (.cString held) w).1 (CString.text? (e (.cString held) w).1)
  cases (e (.cString held) w).1 with
  | none => exact .none
  | some bs => exact .some (hears_shown bs)

end ClangHost
