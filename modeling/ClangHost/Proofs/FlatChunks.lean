import ClangHost.Proofs.CandidateText
import ClangHost.Proofs.KeyLookup

/-!
The flat sequence of a candidate's chunks, in memory and in JSON. In both, the texts stand at the
even places and the kinds at the odd ones (`alternates_flatMap`), and the sequence is cut into the
chunks again (`Chunk.ofValues?_values`). The list in the JSON text is that of the flat sequence, as
it is written (`Candidate.exists_render_eq`) and as it is read (`Candidate.flattenings_agree`).
-/
namespace ClangHost

open Document (Node value?)

/-- A list that has two elements for each element of another one, at an even place and after it. -/
structure Alternates {α β : Type} (first second : α → β) (xs : List α) (ys : List β) : Prop where
  even : ∀ i, ys[2 * i]? = xs[i]?.map first
  odd : ∀ i, ys[2 * i + 1]? = xs[i]?.map second

theorem alternates_flatMap {α β : Type} (first second : α → β) (xs : List α) :
    Alternates first second xs (xs.flatMap fun x => [first x, second x]) := by
  induction xs with
  | nil => exact ⟨fun _ => rfl, fun _ => rfl⟩
  | cons x xs ih =>
    constructor
    · intro i
      cases i with
      | zero => rfl
      | succ i => exact ih.even i
    · intro i
      cases i with
      | zero => rfl
      | succ i => exact ih.odd i

/-- The chunks of a sequence in which a kind follows each text. -/
def Chunk.ofValues? : List ChunkValue → Option (List Chunk)
  | [] => some []
  | .text s :: .kind k :: rest => (ofValues? rest).map (⟨s, k⟩ :: ·)
  | _ => none

theorem Chunk.ofValues?_values (chunks : List Chunk) :
    ofValues? (chunks.flatMap values) = some chunks := by
  induction chunks with
  | nil => rfl
  | cons c chunks ih =>
    change (ofValues? (chunks.flatMap values)).map (c :: ·) = some (c :: chunks)
    rw [ih]
    rfl

def ChunkKind.spelled : Tag ChunkKind → Node
  | .named k => .text (Labelled.label k)
  | .raw n => .integer n.toInt

theorem Json.Value.map_nodeItems (items : List Json.Value) :
    (nodeItems items).map Prod.snd = items.map node := by
  induction items with
  | nil => rfl
  | cons x items ih => exact congrArg (node x :: ·) ih

theorem Json.Value.exists_chars_concat (entries : List (String × Json.Value)) (key : String)
    (x : Json.Value) :
    ∃ before, (table (entries ++ [(key, x)])).chars =
      before ++ (quote key.toList ++ ':' :: x.chars) ++ ['\x7d'] := by
  have later : ∀ es : List (String × Json.Value), ∃ before,
      charsEntries (es ++ [(key, x)]) =
        before ++ (quote key.toList ++ ':' :: x.chars) ++ ['\x7d'] := by
    intro es
    induction es with
    | nil => exact ⟨[','], by simp [charsEntries]⟩
    | cons e es ih =>
      obtain ⟨name, y⟩ := e
      obtain ⟨before, same⟩ := ih
      refine ⟨',' :: quote name.toList ++ ':' :: y.chars ++ before, ?_⟩
      rw [List.cons_append, charsEntries, same]
      simp
  cases entries with
  | nil => exact ⟨['\x7b'], by simp [chars, charsEntries]⟩
  | cons e es =>
    obtain ⟨name, y⟩ := e
    obtain ⟨before, same⟩ := later es
    refine ⟨'\x7b' :: quote name.toList ++ ':' :: y.chars ++ before, ?_⟩
    rw [List.cons_append, chars, same]
    simp

namespace Candidate

theorem exists_render_eq (c : Candidate) :
    ∃ before, c.json.render = before ++ "\"chunks\":" ++
      (Json.Value.list (c.flatChunks.map ChunkValue.json)).render ++ "\x7d" := by
  rw [json_flatChunks]
  obtain ⟨before, same⟩ := Json.Value.exists_chars_concat
    [("availability", c.availability.json), ("priority", .integer c.priority.toNat),
      ("comment", c.comment.elim .null .text)] "chunks" (.list (c.chunks.flatMap Chunk.jsonPair))
  refine ⟨String.ofList before, String.toList_inj.mp ?_⟩
  have key : Json.quote "chunks".toList ++ [':'] = "\"chunks\":".toList := by decide
  simp only [Json.Value.render, String.toList_append, String.toList_ofList, ← key]
  refine same.trans ?_
  simp

theorem read_render (c : Candidate) : Json.read c.json.render.toList = ⟨c.json.node, true⟩ := by
  rw [Json.Value.render, String.toList_ofList, Json.read_chars c.fits_json]

theorem map_node_jsonPair (chunks : List Chunk) :
    (chunks.flatMap Chunk.jsonPair).map Json.Value.node =
      chunks.flatMap fun chunk => [.text chunk.text, ChunkKind.spelled chunk.kind] := by
  rw [List.map_flatMap]
  apply List.flatMap_congr
  rintro ⟨text, kind⟩ _
  cases kind <;> rfl

/-- The flat sequence holds the text and the kind of each chunk in turn, and so does the list in the
JSON text: it is the flat sequence, element by element. The sequence can be cut into the chunks
again, and that of all chunks is that of some followed by that of the others. -/
theorem flattenings_agree (c : Candidate) :
    (c.flatChunks.length = 2 * c.chunks.length ∧
      Alternates (fun chunk => .text chunk.text) (fun chunk => .kind chunk.kind) c.chunks
        c.flatChunks) ∧
    (∃ es items, Json.read c.json.render.toList = ⟨.table es false, true⟩ ∧
      value? es "chunks" = some (.list items false) ∧ items.length = 2 * c.chunks.length ∧
      items.map Prod.snd = c.flatChunks.map (fun v => v.json.node) ∧
      Alternates (fun chunk => .text chunk.text) (fun chunk => ChunkKind.spelled chunk.kind)
        c.chunks (items.map Prod.snd)) ∧
    (∃ before, c.json.render = before ++ "\"chunks\":" ++
      (Json.Value.list (c.flatChunks.map ChunkValue.json)).render ++ "\x7d") ∧
    Chunk.ofValues? c.flatChunks = some c.chunks ∧
    ∀ d : Candidate, { c with chunks := c.chunks ++ d.chunks }.flatChunks =
      c.flatChunks ++ d.flatChunks := by
  have flat := alternates_flatMap (fun chunk => ChunkValue.text chunk.text)
    (fun chunk => .kind chunk.kind) c.chunks
  have listed : (Json.Value.nodeItems (c.chunks.flatMap Chunk.jsonPair)).map Prod.snd =
      c.flatChunks.map fun v => v.json.node := by
    rw [Json.Value.map_nodeItems, ← json_flatChunks, List.map_map]
    rfl
  have spelled := alternates_flatMap (fun chunk => Node.text chunk.text)
    (fun chunk => ChunkKind.spelled chunk.kind) c.chunks
  rw [← map_node_jsonPair, ← Json.Value.map_nodeItems] at spelled
  refine ⟨⟨c.length_flatChunks, flat⟩, ⟨_, _, c.read_render, rfl, ?_, listed, spelled⟩,
    c.exists_render_eq, Chunk.ofValues?_values c.chunks, fun d => List.flatMap_append⟩
  have long := congrArg List.length listed
  rwa [List.length_map, List.length_map, length_flatChunks] at long

end Candidate
end ClangHost
