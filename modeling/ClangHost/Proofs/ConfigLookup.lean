import ClangHost.Config.Toml
import ClangHost.Proofs.JsonFront
import ClangHost.Proofs.KeyLookup
import Mathlib

/-!
The configuration that a document holds, by key. A section is read from what stands under the names
of its fields (`EngineConfig.read_table` and its siblings), so where no key stands twice it is what
the keys give, with a default for each that is absent (`Config.ofEntries_eq_some_iff`). Order,
spelling, unknown keys and the format of the document therefore do not matter
(`Written.looked_up_by_key`).
-/
namespace ClangHost

open Document

/-! ### Fields and sections -/

def bool? : Node → Option Bool
  | .bool b => some b
  | _ => none

def textOrNull? : Node → Option (Option String)
  | .text s => some (some s)
  | .null => some none
  | _ => none

theorem puts_bool {S : Type} (name : String) (aliases : List String) (put : Bool → S → S)
    (l : Leftover) : (Field.bool name aliases put).Puts l bool? put where
  set_eq x _ := by cases x <;> rfl

namespace EngineConfig

def ofEntries (es : Entries) : Option EngineConfig := do
  let libraryPath ← single? textOrNull? none (values ["library_path"] es)
  let excludePch ← single? bool? false (values ["exclude_pch"] es)
  let displayDiagnostics ← single? bool? false (values ["display_diagnostics"] es)
  return { libraryPath, excludePch, displayDiagnostics }

theorem distinct_record : record.Distinct := by
  unfold Record.Distinct
  decide

theorem puts_path (l : Leftover) : Field.Puts
    { name := "library_path"
      set := fun _ x c => x.readTextOrNull.map fun p => { c with libraryPath := p } } l
    textOrNull? fun p (c : EngineConfig) => { c with libraryPath := p } where
  set_eq x _ := by cases x <;> rfl

theorem commute_record (l : Leftover) : record.fields.Pairwise (Record.Commute l) := by
  refine .cons ?_ (.cons ?_ (.cons ?_ .nil))
  · intro f member
    simp only [List.mem_cons, List.not_mem_nil, or_false] at member
    rcases member with rfl | rfl
    · exact (puts_path l).commute (puts_bool ..) fun _ _ _ => rfl
    · exact (puts_path l).commute (puts_bool ..) fun _ _ _ => rfl
  · intro f member
    cases List.mem_singleton.mp member
    exact (puts_bool ..).commute (puts_bool ..) fun _ _ _ => rfl
  · nofun

theorem read_table (l : Leftover) (es : Entries) :
    (record.read l (.table es false)).toOption = ofEntries es := by
  refine (Record.readEntries_eq_lookup distinct_record (commute_record l) _ es).trans ?_
  refine ((puts_path l).take_bind rfl _ _).trans (bind_congr fun p => ?_)
  refine ((puts_bool ..).take_bind rfl _ _).trans (bind_congr fun e => ?_)
  exact ((puts_bool ..).take_bind rfl _ _).trans (bind_congr fun d => rfl)

end EngineConfig
namespace ParseFlags

def ofEntries (es : Entries) : Option ParseFlags := do
  let incomplete ← single? bool? false (values ["incomplete"] es)
  let precompiledPreamble ←
    single? bool? false (values ["precompiledPreamble", "precompiled_preamble"] es)
  return { incomplete, precompiledPreamble }

theorem distinct_record : record.Distinct := by
  unfold Record.Distinct
  decide

theorem commute_record (l : Leftover) : record.fields.Pairwise (Record.Commute l) := by
  refine .cons ?_ (.cons nofun .nil)
  intro f member
  cases List.mem_singleton.mp member
  exact (puts_bool ..).commute (puts_bool ..) fun _ _ _ => rfl

theorem read_table (l : Leftover) (es : Entries) :
    (record.read l (.table es false)).toOption = ofEntries es := by
  refine (Record.readEntries_eq_lookup distinct_record (commute_record l) _ es).trans ?_
  refine ((puts_bool ..).take_bind rfl _ _).trans (bind_congr fun i => ?_)
  exact ((puts_bool ..).take_bind rfl _ _).trans (bind_congr fun p => rfl)

end ParseFlags

namespace CompletionConfig

def ofEntries (es : Entries) : Option CompletionConfig := do
  let raw ← single? bool? false (values ["raw"] es)
  return { raw }

theorem distinct_record : record.Distinct := by
  unfold Record.Distinct
  decide

theorem read_table (l : Leftover) (es : Entries) :
    (record.read l (.table es false)).toOption = ofEntries es := by
  refine (Record.readEntries_eq_lookup distinct_record (.cons nofun .nil) _ es).trans ?_
  exact ((puts_bool ..).take_bind rfl _ _).trans (bind_congr fun r => rfl)

end CompletionConfig

/-- A section that is a table is read by key; nothing else but a list is a section. -/
def section? {T : Type} (ofEntries : Entries → Option T) : Node → Option T
  | .table es false => ofEntries es
  | _ => none

def IsList : Node → Prop
  | .list _ _ => True
  | _ => False

theorem read_section {T : Type} {r : Record T} {l : Leftover} {ofEntries : Entries → Option T}
    (table : ∀ es, (r.read l (.table es false)).toOption = ofEntries es) {x : Node}
    (single : ¬ IsList x) : (r.read l x).toOption = section? ofEntries x := by
  cases x with
  | table es cut =>
    cases cut with
    | false => exact table es
    | true => exact Record.readEntries_cut [] r.default es
  | list items cut => cases single trivial
  | _ => rfl

namespace Config

def ofEntries (es : Entries) : Option Config := do
  let engine ← single? (section? EngineConfig.ofEntries) {} (values ["engine"] es)
  let parse ← single? (section? ParseFlags.ofEntries) {} (values ["parse"] es)
  let completion ← single? (section? CompletionConfig.ofEntries) {} (values ["completion"] es)
  return { engine, parse, completion }

theorem puts_section {T : Type} (name : String) (r : Record T) (put : T → Config → Config)
    (l : Leftover) : (Field.record name r put).Puts l (fun x => (r.read l x).toOption) put where
  set_eq x s := by
    change ((r.read l x).map (put · s)).toOption = _
    cases r.read l x <;> rfl

theorem distinct_record : record.Distinct := by
  unfold Record.Distinct
  decide

theorem commute_record (l : Leftover) : record.fields.Pairwise (Record.Commute l) := by
  refine .cons ?_ (.cons ?_ (.cons nofun .nil))
  · intro f member
    simp only [List.mem_cons, List.not_mem_nil, or_false] at member
    rcases member with rfl | rfl
    · exact (puts_section ..).commute (puts_section ..) fun _ _ _ => rfl
    · exact (puts_section ..).commute (puts_section ..) fun _ _ _ => rfl
  · intro f member
    cases List.mem_singleton.mp member
    exact (puts_section ..).commute (puts_section ..) fun _ _ _ => rfl

theorem read_table (l : Leftover) {es : Entries}
    (single : ∀ name ∈ ["engine", "parse", "completion"], ∀ x ∈ values [name] es, ¬ IsList x) :
    (record.read l (.table es false)).toOption = ofEntries es := by
  simp only [List.forall_mem_cons] at single
  obtain ⟨engine, parse, completion, -⟩ := single
  refine (Record.readEntries_eq_lookup distinct_record (commute_record l) _ es).trans ?_
  unfold ofEntries
  rw [← single?_congr fun x member => read_section (EngineConfig.read_table l) (engine x member),
    ← single?_congr fun x member => read_section (ParseFlags.read_table l) (parse x member),
    ← single?_congr fun x member => read_section (CompletionConfig.read_table l)
      (completion x member)]
  refine ((puts_section ..).take_bind rfl _ _).trans (bind_congr fun e => ?_)
  refine ((puts_section ..).take_bind rfl _ _).trans (bind_congr fun p => ?_)
  exact ((puts_section ..).take_bind rfl _ _).trans (bind_congr fun c => rfl)

end Config

/-! ### By the keys of a table -/

def isOn : Option Node → Bool
  | some (.bool b) => b
  | _ => false

def pathOf : Option Node → Option String
  | some (.text s) => some s
  | _ => none

def entriesOf : Option Node → Entries
  | some (.table es _) => es
  | _ => []

def IsSwitch (o : Option Node) : Prop := ∀ x ∈ o, ∃ b, x = .bool b

def IsPath (o : Option Node) : Prop := ∀ x ∈ o, x = .null ∨ ∃ s, x = .text s

/-- A table, or nothing. The tree of a TOML date is a table too. -/
def IsSection (o : Option Node) : Prop := ∀ x ∈ o, ∃ es, x = .table es false

theorem single?_switch (o : Option Node) (b : Bool) :
    single? bool? false o.toList = some b ↔ IsSwitch o ∧ b = isOn o := by
  match o with
  | none => simp [single?, IsSwitch, isOn, eq_comm]
  | some x => cases x <;> simp [single?, IsSwitch, isOn, bool?, eq_comm]

theorem single?_path (o : Option Node) (p : Option String) :
    single? textOrNull? none o.toList = some p ↔ IsPath o ∧ p = pathOf o := by
  match o with
  | none => simp [single?, IsPath, pathOf, eq_comm]
  | some x => cases x <;> simp [single?, IsPath, pathOf, textOrNull?, eq_comm]

theorem single?_section {T : Type} (ofEntries : Entries → Option T) {default : T}
    (empty : ofEntries [] = some default) (o : Option Node) (t : T) :
    single? (section? ofEntries) default o.toList = some t ↔
      IsSection o ∧ ofEntries (entriesOf o) = some t := by
  match o with
  | none => simp [single?, IsSection, entriesOf, empty]
  | some x =>
    cases x with
    | table es cut => cases cut <;> simp [single?, IsSection, entriesOf, section?]
    | _ => simp [single?, IsSection, section?]

theorem single?_table {T : Type} (ofEntries : Entries → Option T) {default : T}
    (empty : ofEntries [] = some default) {o : Option Node} (table : IsSection o) :
    single? (section? ofEntries) default o.toList = ofEntries (entriesOf o) := by
  refine Option.ext fun t => ?_
  rw [single?_section ofEntries empty o t]
  exact and_iff_right table

theorem single?_switch_pair {a b : String} (apart : a ≠ b) {es : Entries}
    (distinct : (es.map (·.1.name)).Nodup) (v : Bool) :
    single? bool? false (values [a, b] es) = some v ↔
      IsSwitch (value? es a) ∧ IsSwitch (value? es b) ∧
        ¬ ((value? es a).isSome ∧ (value? es b).isSome) ∧
        v = isOn ((value? es a).or (value? es b)) := by
  rw [single?_perm (values_cons_perm (by simpa using apart) es), values_eq_toList distinct,
    values_eq_toList distinct]
  have absent : IsSwitch none := nofun
  -- two values are one too many for a switch, whatever they are
  cases value? es a with
  | none => simpa [absent] using single?_switch (value? es b) v
  | some x =>
    cases value? es b with
    | none => simpa [absent] using single?_switch (some x) v
    | some y => simp [single?]

theorem EngineConfig.ofEntries_eq_some_iff {es : Entries}
    (distinct : (es.map (·.1.name)).Nodup) (c : EngineConfig) :
    ofEntries es = some c ↔ IsPath (value? es "library_path") ∧
      IsSwitch (value? es "exclude_pch") ∧ IsSwitch (value? es "display_diagnostics") ∧
      c = { libraryPath := pathOf (value? es "library_path")
            excludePch := isOn (value? es "exclude_pch")
            displayDiagnostics := isOn (value? es "display_diagnostics") } := by
  simp only [ofEntries, values_eq_toList distinct, Option.bind_eq_bind, Option.bind_eq_some_iff,
    single?_path, single?_switch, Option.pure_def, Option.some_inj]
  constructor
  · rintro ⟨_, ⟨path, rfl⟩, _, ⟨exclude, rfl⟩, _, ⟨display, rfl⟩, rfl⟩
    exact ⟨path, exclude, display, rfl⟩
  · rintro ⟨path, exclude, display, rfl⟩
    exact ⟨_, ⟨path, rfl⟩, _, ⟨exclude, rfl⟩, _, ⟨display, rfl⟩, rfl⟩

theorem ParseFlags.ofEntries_eq_some_iff {es : Entries}
    (distinct : (es.map (·.1.name)).Nodup) (f : ParseFlags) :
    ofEntries es = some f ↔ IsSwitch (value? es "incomplete") ∧
      IsSwitch (value? es "precompiledPreamble") ∧ IsSwitch (value? es "precompiled_preamble") ∧
      ¬ ((value? es "precompiledPreamble").isSome ∧ (value? es "precompiled_preamble").isSome) ∧
      f = { incomplete := isOn (value? es "incomplete")
            precompiledPreamble := isOn
              ((value? es "precompiledPreamble").or (value? es "precompiled_preamble")) } := by
  have apart : "precompiledPreamble" ≠ "precompiled_preamble" := by decide
  simp only [ofEntries, values_eq_toList distinct, Option.bind_eq_bind, Option.bind_eq_some_iff,
    single?_switch, single?_switch_pair apart distinct, Option.pure_def, Option.some_inj]
  constructor
  · rintro ⟨_, ⟨incomplete, rfl⟩, _, ⟨first, second, one, rfl⟩, rfl⟩
    exact ⟨incomplete, first, second, one, rfl⟩
  · rintro ⟨incomplete, first, second, one, rfl⟩
    exact ⟨_, ⟨incomplete, rfl⟩, _, ⟨first, second, one, rfl⟩, rfl⟩

theorem CompletionConfig.ofEntries_eq_some_iff {es : Entries}
    (distinct : (es.map (·.1.name)).Nodup) (c : CompletionConfig) :
    ofEntries es = some c ↔ IsSwitch (value? es "raw") ∧ c = { raw := isOn (value? es "raw") } := by
  simp only [ofEntries, values_eq_toList distinct, Option.bind_eq_bind, Option.bind_eq_some_iff,
    single?_switch, Option.pure_def, Option.some_inj]
  constructor
  · rintro ⟨_, ⟨raw, rfl⟩, rfl⟩
    exact ⟨raw, rfl⟩
  · rintro ⟨raw, rfl⟩
    exact ⟨_, ⟨raw, rfl⟩, rfl⟩

/-! ### Whole documents -/

namespace Config

def sections : List String := ["engine", "parse", "completion"]

def switches : List (String × String) :=
  [("engine", "exclude_pch"), ("engine", "display_diagnostics"), ("parse", "incomplete"),
    ("parse", "precompiledPreamble"), ("parse", "precompiled_preamble"), ("completion", "raw")]

def setting? (es : Entries) (name key : String) : Option Node :=
  value? (entriesOf (value? es name)) key

/-- No key stands twice at the top or in a section, and no section is a list. -/
structure Plain (es : Entries) : Prop where
  distinct : (es.map (·.1.name)).Nodup
  inside : ∀ name ∈ sections, ((entriesOf (value? es name)).map (·.1.name)).Nodup
  single : ∀ name ∈ sections, ∀ x ∈ value? es name, ¬ IsList x

/-- Sections are tables, and what is known in them has its type. -/
structure WellTyped (es : Entries) : Prop where
  tables : ∀ name ∈ sections, IsSection (value? es name)
  path : IsPath (setting? es "engine" "library_path")
  switches : ∀ k ∈ switches, IsSwitch (setting? es k.1 k.2)
  spelling : ¬ ((setting? es "parse" "precompiledPreamble").isSome ∧
    (setting? es "parse" "precompiled_preamble").isSome)

def configured (es : Entries) : Config where
  engine := {
    libraryPath := pathOf (setting? es "engine" "library_path")
    excludePch := isOn (setting? es "engine" "exclude_pch")
    displayDiagnostics := isOn (setting? es "engine" "display_diagnostics") }
  parse := {
    incomplete := isOn (setting? es "parse" "incomplete")
    precompiledPreamble := isOn ((setting? es "parse" "precompiledPreamble").or
      (setting? es "parse" "precompiled_preamble")) }
  completion := { raw := isOn (setting? es "completion" "raw") }

theorem wellTyped_iff (es : Entries) : WellTyped es ↔
    (IsSection (value? es "engine") ∧ IsPath (setting? es "engine" "library_path") ∧
      IsSwitch (setting? es "engine" "exclude_pch") ∧
      IsSwitch (setting? es "engine" "display_diagnostics")) ∧
    (IsSection (value? es "parse") ∧ IsSwitch (setting? es "parse" "incomplete") ∧
      IsSwitch (setting? es "parse" "precompiledPreamble") ∧
      IsSwitch (setting? es "parse" "precompiled_preamble") ∧
      ¬ ((setting? es "parse" "precompiledPreamble").isSome ∧
        (setting? es "parse" "precompiled_preamble").isSome)) ∧
    IsSection (value? es "completion") ∧ IsSwitch (setting? es "completion" "raw") := by
  constructor
  · rintro ⟨tables, path, switched, spelling⟩
    simp only [sections, switches, List.forall_mem_cons] at tables switched
    obtain ⟨engine, parse, completion, -⟩ := tables
    obtain ⟨exclude, display, incomplete, first, second, raw, -⟩ := switched
    exact ⟨⟨engine, path, exclude, display⟩, ⟨parse, incomplete, first, second, spelling⟩,
      completion, raw⟩
  · rintro ⟨⟨engine, path, exclude, display⟩, ⟨parse, incomplete, first, second, spelling⟩,
      completion, raw⟩
    refine ⟨?_, path, ?_, spelling⟩
    · simp only [sections, List.forall_mem_cons]
      exact ⟨engine, parse, completion, nofun⟩
    · simp only [switches, List.forall_mem_cons]
      exact ⟨exclude, display, incomplete, first, second, raw, nofun⟩

theorem ofEntries_eq_some_iff {es : Entries} (plain : Plain es) (c : Config) :
    ofEntries es = some c ↔ WellTyped es ∧ c = configured es := by
  obtain ⟨distinct, inside, -⟩ := plain
  simp only [sections, List.forall_mem_cons] at inside
  obtain ⟨engine, parse, completion, -⟩ := inside
  simp only [ofEntries, values_eq_toList distinct, Option.bind_eq_bind, Option.bind_eq_some_iff,
    single?_section EngineConfig.ofEntries rfl,
    single?_section ParseFlags.ofEntries rfl,
    single?_section CompletionConfig.ofEntries rfl,
    EngineConfig.ofEntries_eq_some_iff engine, ParseFlags.ofEntries_eq_some_iff parse,
    CompletionConfig.ofEntries_eq_some_iff completion, Option.pure_def, Option.some_inj]
  rw [wellTyped_iff]
  constructor
  · rintro ⟨_, ⟨table, path, exclude, display, rfl⟩, _,
      ⟨table', incomplete, first, second, one, rfl⟩, _, ⟨table'', raw, rfl⟩, rfl⟩
    exact ⟨⟨⟨table, path, exclude, display⟩, ⟨table', incomplete, first, second, one⟩,
      table'', raw⟩, rfl⟩
  · rintro ⟨⟨⟨table, path, exclude, display⟩, ⟨table', incomplete, first, second, one⟩,
      table'', raw⟩, rfl⟩
    exact ⟨_, ⟨table, path, exclude, display, rfl⟩, _,
      ⟨table', incomplete, first, second, one, rfl⟩, _, ⟨table'', raw, rfl⟩, rfl⟩

/-! ### What a document sets -/

def known : List (String × String × List String) :=
  [("engine", "library_path", ["library_path"]), ("engine", "exclude_pch", ["exclude_pch"]),
    ("engine", "display_diagnostics", ["display_diagnostics"]),
    ("parse", "incomplete", ["incomplete"]),
    ("parse", "precompiledPreamble", ["precompiledPreamble", "precompiled_preamble"]),
    ("completion", "raw", ["raw"])]

def canonical? (name key : String) : Option String :=
  (known.find? fun k => k.1 == name && k.2.2.contains key).map fun k => k.2.1

/-- All that the sections set, in their order, without the keys that nothing is known of. -/
def settings (es : Entries) : List (String × String × Node) :=
  sections.flatMap fun name => (entriesOf (value? es name)).filterMap fun e =>
    (canonical? name e.1.name).map fun key => (name, key, e.2.2)

theorem known_unique : ∀ j ∈ known, ∀ k ∈ known, j.1 = k.1 →
    j.2.1 = k.2.1 ∨ (∃ key ∈ j.2.2, key ∈ k.2.2) → j = k := by decide

theorem canonical?_eq_some_iff {k : String × String × List String} (member : k ∈ known)
    (key : String) : canonical? k.1 key = some k.2.1 ↔ key ∈ k.2.2 := by
  constructor
  · intro canonical
    obtain ⟨j, found, same⟩ := Option.map_eq_some_iff.mp canonical
    have suits := List.find?_some found
    simp only [Bool.and_eq_true, beq_iff_eq, List.contains_iff_mem] at suits
    obtain ⟨name, spelled⟩ := suits
    cases known_unique j (List.mem_of_find?_eq_some found) k member name (.inl same)
    exact spelled
  · intro spelled
    unfold canonical?
    cases found : known.find? fun j => j.1 == k.1 && j.2.2.contains key with
    | none =>
      have never := List.find?_eq_none.mp found k member
      simp [spelled] at never
    | some j =>
      have suits := List.find?_some found
      simp only [Bool.and_eq_true, beq_iff_eq, List.contains_iff_mem] at suits
      obtain ⟨name, other⟩ := suits
      cases known_unique j (List.mem_of_find?_eq_some found) k member name
        (.inr ⟨key, other, spelled⟩)
      rfl

def pick (name key : String) (set : List (String × String × Node)) : List Node :=
  set.filterMap fun s => if s.1 = name ∧ s.2.1 = key then some s.2.2 else none

theorem pick_section {k : String × String × List String} (member : k ∈ known) (name : String)
    (es : Entries) :
    pick k.1 k.2.1
      (es.filterMap fun e => (canonical? name e.1.name).map fun key => (name, key, e.2.2)) =
      if name = k.1 then values k.2.2 es else [] := by
  unfold pick values
  rw [List.filterMap_filterMap]
  by_cases same : name = k.1
  · subst same
    rw [if_pos rfl]
    refine List.filterMap_congr fun e _ => ?_
    simp only [← canonical?_eq_some_iff member e.1.name]
    cases canonical? k.1 e.1.name with
    | none => rfl
    | some key => simp
  · rw [if_neg same, List.filterMap_eq_nil_iff]
    intro e _
    cases canonical? name e.1.name with
    | none => rfl
    | some key => simp [same]

theorem known_section : ∀ k ∈ known, k.1 ∈ sections := by decide

theorem pick_settings {k : String × String × List String} (member : k ∈ known) (es : Entries) :
    pick k.1 k.2.1 (settings es) = values k.2.2 (entriesOf (value? es k.1)) := by
  have each : pick k.1 k.2.1 (settings es) = sections.flatMap fun name =>
      if name = k.1 then values k.2.2 (entriesOf (value? es name)) else [] := by
    unfold pick settings
    rw [List.filterMap_flatMap]
    exact List.flatMap_congr fun name _ => pick_section member name _
  have place := known_section k member
  rw [each]
  simp only [sections, List.mem_cons, List.not_mem_nil, or_false] at place
  rcases place with name | name | name <;> simp [sections, name]

theorem ofEntries_of_tables {es : Entries} (distinct : (es.map (·.1.name)).Nodup)
    (tables : ∀ name ∈ sections, IsSection (value? es name)) : ofEntries es = (do
      let engine ← EngineConfig.ofEntries (entriesOf (value? es "engine"))
      let parse ← ParseFlags.ofEntries (entriesOf (value? es "parse"))
      let completion ← CompletionConfig.ofEntries (entriesOf (value? es "completion"))
      return { engine, parse, completion }) := by
  simp only [sections, List.forall_mem_cons] at tables
  obtain ⟨engine, parse, completion, -⟩ := tables
  unfold ofEntries
  rw [values_eq_toList distinct, values_eq_toList distinct, values_eq_toList distinct,
    single?_table EngineConfig.ofEntries rfl engine, single?_table ParseFlags.ofEntries rfl parse,
    single?_table CompletionConfig.ofEntries rfl completion]

/-- Documents whose sections are tables hold the same configuration, or none, if they set the same,
whatever their order, their spelling and what else is in them. -/
theorem ofEntries_eq_of_perm {es es' : Entries} (distinct : (es.map (·.1.name)).Nodup)
    (distinct' : (es'.map (·.1.name)).Nodup)
    (tables : ∀ name ∈ sections, IsSection (value? es name))
    (tables' : ∀ name ∈ sections, IsSection (value? es' name))
    (same : (settings es).Perm (settings es')) : ofEntries es = ofEntries es' := by
  -- a configuration is made of what stands under the known keys alone
  have given : ∀ k ∈ known, (values k.2.2 (entriesOf (value? es k.1))).Perm
      (values k.2.2 (entriesOf (value? es' k.1))) := by
    intro k member
    rw [← pick_settings member, ← pick_settings member]
    exact same.filterMap _
  simp only [known, List.forall_mem_cons] at given
  obtain ⟨path, exclude, display, incomplete, preamble, raw, -⟩ := given
  rw [ofEntries_of_tables distinct tables, ofEntries_of_tables distinct' tables']
  unfold EngineConfig.ofEntries ParseFlags.ofEntries CompletionConfig.ofEntries
  rw [single?_perm path, single?_perm exclude, single?_perm display, single?_perm incomplete,
    single?_perm preamble, single?_perm raw]

end Config

inductive Written where
  | toml (s : String)
  | json (s : String)

namespace Written

def root? : Written → Option Node
  | .toml s => Toml.read? s
  | .json s =>
    let reading := Json.read s.toList
    if reading.complete then some reading.root else none

def config? : Written → Option Config
  | .toml s => (Config.ofToml s).toOption
  | .json s => (Config.ofJson s).toOption

theorem config?_eq {d : Written} {x : Node} (tree : d.root? = some x) :
    ∃ l, d.config? = (Config.record.read l x).toOption := by
  cases d with
  | toml s =>
    refine ⟨.ignored, ?_⟩
    have tree : Toml.read? s = some x := tree
    change (Config.ofToml s).toOption = _
    unfold Config.ofToml Toml.decode
    rw [tree]
    dsimp only
    cases Config.record.read .ignored x with
    | ok c => rfl
    | error fault => cases fault <;> rfl
  | json s =>
    refine ⟨.malformed, ?_⟩
    have tree : (if (Json.read s.toList).complete then some (Json.read s.toList).root else none) =
        some x := tree
    change (Json.decode (Config.record.read .malformed) s.toList).toOption = _
    unfold Json.decode
    generalize Json.read s.toList = reading at tree ⊢
    obtain ⟨root, complete⟩ := reading
    cases complete with
    | false => cases tree
    | true =>
      cases tree
      dsimp only
      cases Config.record.read .malformed root <;> rfl

theorem not_isList_of_isSection {o : Option Node} (table : IsSection o) : ∀ x ∈ o, ¬ IsList x := by
  intro x member
  obtain ⟨es, rfl⟩ := table x member
  exact id

theorem config?_eq_ofEntries {d : Written} {es : Entries} (tree : d.root? = some (.table es false))
    (distinct : (es.map (·.1.name)).Nodup)
    (single : ∀ name ∈ Config.sections, ∀ x ∈ value? es name, ¬ IsList x) :
    d.config? = Config.ofEntries es := by
  obtain ⟨l, read⟩ := config?_eq tree
  rw [read]
  apply Config.read_table
  intro name member x given
  rw [values_eq_toList distinct, Option.mem_toList] at given
  exact single name member x given

/-- The configuration of a document is looked up by key. Documents that set the same hold the same
configuration, or none, in either format. -/
theorem looked_up_by_key :
    (∀ (d : Written) (es : Entries), d.root? = some (.table es false) → Config.Plain es →
      ∀ c, d.config? = some c ↔ Config.WellTyped es ∧ c = Config.configured es) ∧
    ∀ (d d' : Written) (es es' : Entries), d.root? = some (.table es false) →
      d'.root? = some (.table es' false) → Config.Plain es → Config.Plain es' →
      (∀ name ∈ Config.sections, IsSection (value? es name)) →
      (∀ name ∈ Config.sections, IsSection (value? es' name)) →
      (Config.settings es).Perm (Config.settings es') → d.config? = d'.config? := by
  constructor
  · intro d es tree plain c
    rw [config?_eq_ofEntries tree plain.distinct plain.single]
    exact Config.ofEntries_eq_some_iff plain c
  · intro d d' es es' tree tree' plain plain' tables tables' same
    rw [config?_eq_ofEntries tree plain.distinct plain.single,
      config?_eq_ofEntries tree' plain'.distinct plain'.single]
    exact Config.ofEntries_eq_of_perm plain.distinct plain'.distinct tables tables' same

def switchedToml : Written := .toml "x=1\n[parse]\nprecompiled_preamble=true\n"

def switchedTomlEntries : Entries :=
  [(⟨"x", some ⟨0, 1⟩⟩, some ⟨2, 3⟩, .integer 1),
    (⟨"parse", some ⟨5, 10⟩⟩, some ⟨4, 37⟩, .table
      [(⟨"precompiled_preamble", some ⟨12, 32⟩⟩, some ⟨33, 37⟩, .bool true)] false)]

/-- The same option by its first spelling, before a key that nobody knows. -/
def switchedJson : Written :=
  .json "\x7b\"parse\":\x7b\"precompiledPreamble\":true\x7d,\"y\":null\x7d"

def switchedJsonEntries : Entries :=
  [(⟨"parse", none⟩, none, .table [(⟨"precompiledPreamble", none⟩, none, .bool true)] false),
    (⟨"y", none⟩, none, .null)]

theorem looked_up_by_key_switched :
    switchedToml.config? = some { parse := { precompiledPreamble := true } } ∧
      switchedToml.config? = switchedJson.config? := by
  have tree : switchedToml.root? = some (.table switchedTomlEntries false) := by cbv
  have tree' : switchedJson.root? = some (.table switchedJsonEntries false) := by cbv
  have tables : ∀ name ∈ Config.sections, IsSection (value? switchedTomlEntries name) := by
    simp [Config.sections, IsSection, value?, switchedTomlEntries]
  have tables' : ∀ name ∈ Config.sections, IsSection (value? switchedJsonEntries name) := by
    simp [Config.sections, IsSection, value?, switchedJsonEntries]
  have plain : Config.Plain switchedTomlEntries :=
    ⟨by decide, by decide, fun name member => not_isList_of_isSection (tables name member)⟩
  have plain' : Config.Plain switchedJsonEntries :=
    ⟨by decide, by decide, fun name member => not_isList_of_isSection (tables' name member)⟩
  have typed : Config.WellTyped switchedTomlEntries := by
    refine ⟨tables, ?_, ?_, by decide⟩
    · simp [IsPath, Config.setting?, value?, entriesOf, switchedTomlEntries]
    · simp [Config.switches, IsSwitch, Config.setting?, value?, entriesOf, switchedTomlEntries]
  constructor
  · exact (looked_up_by_key.1 switchedToml switchedTomlEntries tree plain _).mpr ⟨typed, rfl⟩
  · exact looked_up_by_key.2 switchedToml switchedJson switchedTomlEntries switchedJsonEntries tree
      tree' plain plain' tables tables' (.of_eq rfl)

end Written
end ClangHost
