import ClangHost.Proofs.ConfigLookup
import ClangHost.Proofs.JsonReading

/-!
A configuration is read back from its JSON text. Every section writes its fields under the names
that its record reads them by (`EngineConfig.read_written` and its siblings), so nothing falls back
to a default, and whatever a document holds survives being written as JSON (`Config.json_returns`).
-/
namespace ClangHost

open Document (Node Leftover)
open Document.Record (SetInTurn written)

namespace EngineConfig

def nodes (c : EngineConfig) : List Node :=
  [(c.libraryPath.elim .null .text : Json.Value).node, .bool c.excludePch,
    .bool c.displayDiagnostics]

theorem read_written (l : Leftover) (c : EngineConfig) :
    record.read l (.table (written record.fields c.nodes) false) = .ok c := by
  apply Document.Record.read_written distinct_record
  obtain ⟨path, pch, diagnostics⟩ := c
  cases path <;> exact .cons rfl (.cons rfl (.cons rfl (.nil _)))

end EngineConfig
namespace ParseFlags

def nodes (f : ParseFlags) : List Node := [.bool f.incomplete, .bool f.precompiledPreamble]

theorem read_node (l : Leftover) (f : ParseFlags) : record.read l f.json.node = .ok f := by
  have keys : f.json.node = .table (written record.fields f.nodes) false := rfl
  rw [keys]
  apply Document.Record.read_written distinct_record
  exact .cons rfl (.cons rfl (.nil _))

theorem fits_json (f : ParseFlags) : f.json.Fits := by
  refine .table ?_
  simp only [List.forall_mem_cons]
  exact ⟨.bool _, .bool _, nofun⟩

theorem ofJson_render (f : ParseFlags) : ofJson f.json.render = .ok f := by
  rw [ofJson, Json.Value.render, String.toList_ofList, Json.decode_chars f.fits_json, read_node]

end ParseFlags
namespace CompletionConfig

theorem read_written (l : Leftover) (c : CompletionConfig) :
    record.read l (.table (written record.fields [.bool c.raw]) false) = .ok c := by
  apply Document.Record.read_written distinct_record
  exact .cons rfl (.nil _)

end CompletionConfig
namespace Config

def nodes (c : Config) : List Node :=
  [.table (written EngineConfig.record.fields c.engine.nodes) false, c.parse.json.node,
    .table (written CompletionConfig.record.fields [.bool c.completion.raw]) false]

theorem set_section {S T : Type} {name : String} {r : Document.Record T} {put : T → S → S}
    {l : Leftover} {x : Node} {t : T} (read : r.read l x = .ok t) (s : S) :
    (Document.Field.record name r put).set l x s = .ok (put t s) := by
  change (r.read l x).map (put · s) = _
  rw [read]
  rfl

theorem read_node (l : Leftover) (c : Config) : record.read l c.json.node = .ok c := by
  -- the keys that are written are the names that the fields are read by
  have keys : c.json.node = .table (written record.fields c.nodes) false := rfl
  rw [keys]
  apply Document.Record.read_written distinct_record
  apply SetInTurn.cons
  · exact set_section (EngineConfig.read_written l c.engine) _
  apply SetInTurn.cons
  · exact set_section (ParseFlags.read_node l c.parse) _
  apply SetInTurn.cons
  · exact set_section (CompletionConfig.read_written l c.completion) _
  exact .nil _

theorem fits_json (c : Config) : c.json.Fits := by
  have path : (c.engine.libraryPath.elim .null .text : Json.Value).Fits := by
    cases c.engine.libraryPath with
    | none => exact .null
    | some p => exact .text p
  refine .table ?_
  simp only [List.forall_mem_cons]
  refine ⟨.table ?_, c.parse.fits_json, .table ?_, nofun⟩
  · simp only [List.forall_mem_cons]
    exact ⟨path, .bool _, .bool _, nofun⟩
  · simp only [List.forall_mem_cons]
    exact ⟨.bool _, nofun⟩

theorem ofJson_render (c : Config) : ofJson c.json.render = .ok c := by
  rw [ofJson, Json.Value.render, String.toList_ofList, Json.decode_chars c.fits_json, read_node]

/-- A configuration is read back from its JSON text, with the bits of its options, and so are the
options alone. What a document of either format holds is therefore the same after it was written as
JSON and read again. -/
theorem json_returns :
    (∀ c : Config, ofJson c.json.render = .ok c ∧
      (ofJson c.json.render).map (fun d => d.parse.encode) = .ok c.parse.encode) ∧
    (∀ f : ParseFlags, ParseFlags.ofJson f.json.render = .ok f) ∧
    ∀ d : Written, (d.config?.bind fun c => (Written.json c.json.render).config?) = d.config? := by
  refine ⟨fun c => ⟨c.ofJson_render, ?_⟩, ParseFlags.ofJson_render, fun d => ?_⟩
  · rw [ofJson_render]
    rfl
  · have again : ∀ c : Config, (Written.json c.json.render).config? = some c := by
      intro c
      rw [Written.config?, ofJson_render]
      rfl
    simp only [again]
    exact Option.bind_fun_some _

end Config
end ClangHost
