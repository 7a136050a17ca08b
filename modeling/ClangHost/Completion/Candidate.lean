import ClangHost.Completion.Tag

/-!
Completion candidates as the host keeps them, their flat sequence of chunks, and their JSON form.
Main statements: the flat sequence has two elements for each chunk (`length_flatChunks`), and the
`chunks` list of the JSON form is the flat sequence, element by element (`json_flatChunks`).
-/
namespace ClangHost

structure Chunk where
  text : String
  kind : Tag ChunkKind
  deriving DecidableEq, Repr

inductive ChunkValue where
  | text (s : String)
  | kind (k : Tag ChunkKind)
  deriving DecidableEq, Repr

structure Candidate where
  availability : Tag Availability
  priority : UInt32
  comment : Option String
  chunks : List Chunk
  deriving DecidableEq, Repr

def ChunkValue.json : ChunkValue → Json.Value
  | .text s => .text s
  | .kind k => k.json

def Chunk.values (c : Chunk) : List ChunkValue := [.text c.text, .kind c.kind]

def Chunk.jsonPair (c : Chunk) : List Json.Value := [.text c.text, c.kind.json]

namespace Candidate

def flatChunks (c : Candidate) : List ChunkValue := c.chunks.flatMap Chunk.values

def isTyped : Tag ChunkKind → Bool
  | .named .typedText => true
  | .raw 1 => true
  | _ => false

def typedText? (c : Candidate) : Option String :=
  (c.chunks.find? fun chunk => isTyped chunk.kind).map Chunk.text

def json (c : Candidate) : Json.Value :=
  .table [("availability", c.availability.json),
    ("priority", .integer c.priority.toNat),
    ("comment", c.comment.elim .null .text),
    ("chunks", .list (c.chunks.flatMap Chunk.jsonPair))]

theorem length_flatChunks (c : Candidate) : c.flatChunks.length = 2 * c.chunks.length := by
  simp only [flatChunks]
  induction c.chunks with
  | nil => rfl
  | cons x xs ih => simp [Chunk.values, ih]; omega

theorem json_flatChunks (c : Candidate) :
    c.flatChunks.map ChunkValue.json = c.chunks.flatMap Chunk.jsonPair := by
  simp only [flatChunks]
  induction c.chunks with
  | nil => rfl
  | cons x xs ih => simp [Chunk.values, Chunk.jsonPair, ChunkValue.json, ih]

end Candidate
end ClangHost
