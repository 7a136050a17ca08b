import ClangHost.Completion.Candidate
import ClangHost.Proofs.JsonReading

/-!
The JSON text of a candidate determines the candidate. The text reads back as a tree
(`Json.read_chars`), in which a label is a text and an engine's integer a number, and where a text
stands tells whether it is the text of a chunk or the label of its kind. So a candidate can be read
off its text (`ofText?_render`).
-/
namespace ClangHost

open Document (Node Span)

theorem Labelled.ofLabel?_label {T : Type} [Labelled T] (members : ∀ t : T, t ∈ all)
    (injective : ∀ t u : T, label t = label u → t = u) (t : T) :
    ofLabel? (label t) = some t := by
  rw [ofLabel?]
  cases found : (all (T := T)).find? fun u => label u == label t with
  | none => cases List.find?_eq_none.mp found t (members t) (beq_self_eq_true (label t))
  | some u =>
    have same := List.find?_some found
    rw [injective u t (eq_of_beq same)]

theorem Availability.ofLabel?_label (a : Availability) :
    Labelled.ofLabel? (Labelled.label a) = some a :=
  Labelled.ofLabel?_label mem_all (fun _ _ => label_injective) a

theorem ChunkKind.ofLabel?_label (k : ChunkKind) :
    Labelled.ofLabel? (Labelled.label k) = some k :=
  Labelled.ofLabel?_label mem_all (fun _ _ => label_injective) k

namespace Tag

variable {T : Type} [Labelled T]

theorem ofNode?_node (labels : ∀ t : T, Labelled.ofLabel? (Labelled.label t) = some t)
    (tag : Tag T) : ofNode? tag.json.node = some tag := by
  cases tag with
  | named t => simp [json, Json.Value.node, ofNode?, Labelled.ofNode?, labels]
  | raw n => simp [json, Json.Value.node, ofNode?, Labelled.ofNode?, word?_toInt]

theorem fits_json (tag : Tag T) : tag.json.Fits := by
  cases tag with
  | named t => exact .text _
  | raw n =>
    have low := n.minValue_le_toInt
    have high := n.toInt_le
    have bounds : Int64.minValue.toInt ≤ Int32.minValue.toInt ∧
        Int32.maxValue.toInt < UInt64.size := by decide
    exact .integer ⟨by omega, by omega⟩

end Tag

/-- The chunks that a list of a tree alternately gives the texts and the kinds of. -/
def Chunk.ofItems? : List (Option Span × Node) → Option (List Chunk)
  | [] => some []
  | (_, .text s) :: (_, kind) :: rest => do
    let kind ← Tag.ofNode? kind
    let chunks ← ofItems? rest
    return ⟨s, kind⟩ :: chunks
  | _ => none

namespace Candidate

def commentOfNode? : Node → Option (Option String)
  | .null => some none
  | .text s => some (some s)
  | _ => none

def ofNode? : Node → Option Candidate
  | .table [(⟨"availability", _⟩, _, availability), (⟨"priority", _⟩, _, .integer priority),
      (⟨"comment", _⟩, _, comment), (⟨"chunks", _⟩, _, .list chunks false)] false => do
    let availability ← Tag.ofNode? availability
    let comment ← commentOfNode? comment
    let chunks ← Chunk.ofItems? chunks
    return { availability, priority := UInt32.ofNat priority.toNat, comment, chunks }
  | _ => none

def ofText? (s : String) : Option Candidate :=
  let reading := Json.read s.toList
  if reading.complete then ofNode? reading.root else none

theorem ofItems?_jsonPair (chunks : List Chunk) :
    Chunk.ofItems? (Json.Value.nodeItems (chunks.flatMap Chunk.jsonPair)) = some chunks := by
  induction chunks with
  | nil => rfl
  | cons c chunks ih =>
    simp only [List.flatMap_cons, Chunk.jsonPair, List.cons_append, List.nil_append,
      Json.Value.nodeItems, Json.Value.node, Chunk.ofItems?,
      Tag.ofNode?_node ChunkKind.ofLabel?_label, ih]
    rfl

theorem fits_json (c : Candidate) : c.json.Fits := by
  have priority : Json.Fits c.priority.toNat := by
    have high := c.priority.toNat_lt
    have least : Int64.minValue.toInt ≤ 0 := by decide
    have size : (2 : Nat) ^ 32 < UInt64.size := by decide
    exact ⟨by omega, by omega⟩
  have chunks : ∀ x ∈ c.chunks.flatMap Chunk.jsonPair, x.Fits := by
    intro x member
    obtain ⟨chunk, _, pair⟩ := List.mem_flatMap.mp member
    simp only [Chunk.jsonPair, List.mem_cons, List.not_mem_nil, or_false] at pair
    rcases pair with rfl | rfl
    · exact .text _
    · exact chunk.kind.fits_json
  refine .table fun e member => ?_
  simp only [List.mem_cons, List.not_mem_nil, or_false] at member
  rcases member with rfl | rfl | rfl | rfl
  · exact c.availability.fits_json
  · exact .integer priority
  · cases c.comment with
    | none => exact .null
    | some s => exact .text s
  · exact .list chunks

theorem commentOfNode?_node (comment : Option String) :
    commentOfNode? (comment.elim .null .text : Json.Value).node = some comment := by
  cases comment <;> rfl

theorem ofNode?_node (c : Candidate) : ofNode? c.json.node = some c := by
  simp only [json, Json.Value.node, Json.Value.nodeEntries, ofNode?,
    Tag.ofNode?_node Availability.ofLabel?_label, commentOfNode?_node, ofItems?_jsonPair,
    Int.toNat_natCast, UInt32.ofNat_toNat]
  rfl

/-- A candidate is read off its JSON text as it was, and so no two candidates share a text. -/
theorem ofText?_render :
    (∀ c : Candidate, ofText? c.json.render = some c) ∧
      Function.Injective fun c : Candidate => c.json.render := by
  have reads : ∀ c : Candidate, ofText? c.json.render = some c := by
    intro c
    rw [ofText?, Json.Value.render, String.toList_ofList, Json.read_chars c.fits_json]
    exact c.ofNode?_node
  refine ⟨reads, fun c d (same : c.json.render = d.json.render) => ?_⟩
  have both := reads c
  rw [same, reads d] at both
  exact (Option.some_inj.mp both).symm

end Candidate
end ClangHost
