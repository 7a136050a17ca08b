import ClangHost.Proofs.CandidateText
import ClangHost.Proofs.JsonFront

/-!
Which JSON texts are read as a tag. A label may be spelled as a text or as the only key of a
table, an integer by its numeral only, and nothing else is a tag (`decode_eq_ok_iff`). Among the
texts of one tag is the one that it is written as, so reading and writing again leads to that one
and stays there (`decode_normal`).
-/
namespace ClangHost

open Document (Node)

theorem Labelled.ofLabel?_eq_some_iff {T : Type} [Labelled T]
    (labels : ∀ t : T, ofLabel? (label t) = some t) (s : String) (t : T) :
    ofLabel? s = some t ↔ s = label t := by
  constructor
  · intro found
    have same := List.find?_some found
    exact (eq_of_beq same).symm
  · rintro rfl
    exact labels t

namespace Tag

theorem word?_eq_some_iff (n : Int) (w : Int32) : word? n = some w ↔ n = w.toInt := by
  constructor
  · intro fits
    unfold word? at fits
    split at fits
    case isTrue range =>
      cases fits
      have last : Int32.maxValue.toInt < 2 ^ 31 := by decide
      exact (Int32.toInt_ofInt_of_le range.1 (by omega)).symm
    case isFalse => cases fits
  · rintro rfl
    exact word?_toInt w

variable {T : Type} [Labelled T]

inductive Stands : Node → Tag T → Prop where
  | text (t : T) : Stands (.text (Labelled.label t)) (.named t)
  | table (t : T) {key : Document.Key} (span : Option Document.Span) :
      key.name = Labelled.label t → Stands (.table [(key, span, .null)] false) (.named t)
  | integer (n : Int32) : Stands (.integer n.toInt) (.raw n)

theorem stands_of_member (labels : ∀ t : T, Labelled.ofLabel? (Labelled.label t) = some t)
    {x : Node} {t : T} (member : Labelled.ofNode? x = some t) : Stands x (.named t) := by
  unfold Labelled.ofNode? at member
  split at member
  case h_1 s =>
    rw [(Labelled.ofLabel?_eq_some_iff labels s t).mp member]
    exact .text t
  case h_2 key span => exact .table t span ((Labelled.ofLabel?_eq_some_iff labels _ t).mp member)
  case h_3 => cases member

theorem stands_of_ofNode? (labels : ∀ t : T, Labelled.ofLabel? (Labelled.label t) = some t)
    {x : Node} {tag : Tag T} (found : ofNode? x = some tag) : Stands x tag := by
  unfold ofNode? at found
  split at found
  case h_1 t member =>
    cases found
    exact stands_of_member labels member
  case h_2 =>
    split at found
    case h_1 n _ =>
      obtain ⟨w, fits, rfl⟩ := Option.map_eq_some_iff.mp found
      rw [(word?_eq_some_iff n w).mp fits]
      exact .integer w
    case h_2 => cases found

theorem read_eq_ok_iff (labels : ∀ t : T, Labelled.ofLabel? (Labelled.label t) = some t) (x : Node)
    (tag : Tag T) : read x = .ok tag ↔ Stands x tag := by
  constructor
  · intro found
    unfold read at found
    split at found
    case isTrue =>
      split at found
      case h_1 t this =>
        cases found
        exact stands_of_ofNode? labels this
      case h_2 => cases found
    case isFalse => cases found
  · intro stands
    cases stands with
    | text t => simp [read, Node.whole, Node.depth, ofNode?, Labelled.ofNode?, labels]
    | table t span same =>
      simp [read, Node.whole, Node.wholeEntries, Node.depth, Node.depthEntries, depthLimit, ofNode?,
        Labelled.ofNode?, same, labels]
    | integer n => simp [read, Node.whole, Node.depth, ofNode?, Labelled.ofNode?, word?_toInt]

inductive Spelled : List Char → Tag T → Prop where
  | text {q : List Char} {t : T} : Json.Quotes q (Labelled.label t).toList → Spelled q (.named t)
  | table {raw : List Char} {t : T} : Json.NullTable raw (Labelled.label t).toList →
      Spelled raw (.named t)
  | numeral {raw : List Char} {n : Int32} : Json.Numeral raw n.toInt → Spelled raw (.raw n)

/-- A label between quotes, without escapes, or the numeral of an integer. -/
def canonical : Tag T → List Char
  | .named t => '"' :: (Labelled.label t).toList ++ ['"']
  | .raw n => (toString n.toInt).toList

theorem fits_word (n : Int32) : Json.Fits n.toInt := by
  cases (raw n : Tag Availability).fits_json with
  | integer fits => exact fits

theorem spelled_of_stands {fuel : Nat} {s rest : List Char} {x : Node} {tag : Tag T}
    (front : Json.value fuel s = (x, some rest)) (stands : Stands x tag) :
    ∃ b raw, Json.Blank b ∧ Spelled raw tag ∧ s = b ++ raw ++ rest := by
  cases stands with
  | text t =>
    obtain ⟨b, q, blank, quotes, split⟩ := Json.quotes_of_value front
    exact ⟨b, q, blank, .text quotes, split⟩
  | table t span same =>
    obtain ⟨b, raw, blank, table, split⟩ := Json.nullTable_of_value front
    exact ⟨b, raw, blank, .table (same ▸ table), split⟩
  | integer n =>
    obtain ⟨b, raw, blank, numeral, split⟩ := Json.numeral_of_value front
    exact ⟨b, raw, blank, .numeral numeral, split⟩

theorem stands_of_spelled {b raw rest : List Char} {tag : Tag T} (blank : Json.Blank b)
    (spelled : Spelled raw tag) (ends : Json.Ends rest) (fuel : Nat) :
    ∃ x, Json.value (fuel + 3) (b ++ raw ++ rest) = (x, some rest) ∧ Stands x tag := by
  cases spelled with
  | text quotes =>
    refine ⟨_, Json.value_of_quotes blank quotes _ rest, ?_⟩
    rw [String.ofList_toList]
    exact .text _
  | table table =>
    exact ⟨_, Json.value_of_nullTable blank table fuel rest, .table _ none String.ofList_toList⟩
  | numeral numeral =>
    exact ⟨_, Json.value_of_numeral blank numeral (fits_word _) ends _, .integer _⟩

theorem Spelled.ne_nil {raw : List Char} {tag : Tag T} (spelled : Spelled raw tag) : raw ≠ [] := by
  cases spelled with
  | text quotes =>
    cases quotes
    exact List.cons_ne_nil _ _
  | table table =>
    cases table
    exact List.cons_ne_nil _ _
  | numeral numeral => exact numeral.ne_nil

theorem decode_eq_ok_iff (labels : ∀ t : T, Labelled.ofLabel? (Labelled.label t) = some t)
    (s : List Char) (tag : Tag T) : Json.decode read s = .ok tag ↔
      ∃ before raw behind, Json.Blank before ∧ Spelled raw tag ∧ Json.Blank behind ∧
        s = before ++ raw ++ behind := by
  rw [Json.decode_eq_ok_iff, read_eq_ok_iff labels, Json.complete_iff]
  constructor
  · rintro ⟨stands, behind, front, blank⟩
    obtain ⟨before, raw, clear, spelled, split⟩ := spelled_of_stands front stands
    exact ⟨before, raw, behind, clear, spelled, blank, split⟩
  · rintro ⟨before, raw, behind, clear, spelled, blank, split⟩
    have long : 0 < s.length := by
      have := List.length_pos_of_ne_nil spelled.ne_nil
      rw [split, List.length_append, List.length_append]
      omega
    -- the deepest spelling is a table, with a key and a null inside
    obtain ⟨fuel, enough⟩ : ∃ k, 2 * s.length + 2 = k + 3 := ⟨2 * s.length - 1, by omega⟩
    obtain ⟨x, front, stands⟩ := stands_of_spelled clear spelled (Json.ends_of_blank blank) fuel
    rw [← split, ← enough] at front
    have whole := Json.read_of_value front blank
    rw [whole]
    exact ⟨stands, behind, front, blank⟩

/-- What a tag of some labels is written as is read, and every text that is read as a tag leads to
the one that the tag is written as. -/
structure Normal (T : Type) [Labelled T] : Prop where
  returns : ∀ tag : Tag T, Json.decode read tag.json.render.toList = .ok tag
  accepts : ∀ (s : String) (tag : Tag T), Json.decode read s.toList = .ok tag ↔
    ∃ before raw behind, Json.Blank before ∧ Spelled raw tag ∧ Json.Blank behind ∧
      s.toList = before ++ raw ++ behind
  settles : ∀ (s : String) (tag : Tag T), Json.decode read s.toList = .ok tag →
    tag.json.render.toList = tag.canonical ∧ Json.decode read tag.json.render.toList = .ok tag

theorem json_render (plain : ∀ t : T, (Labelled.label t).toList.flatMap Json.escape =
    (Labelled.label t).toList) (tag : Tag T) : tag.json.render.toList = tag.canonical := by
  rw [Json.Value.render, String.toList_ofList]
  cases tag with
  | named t => rw [json, Json.Value.chars, Json.quote, plain, canonical]
  | raw n => rfl

theorem decode_render (labels : ∀ t : T, Labelled.ofLabel? (Labelled.label t) = some t)
    (tag : Tag T) : Json.decode read tag.json.render.toList = .ok tag := by
  rw [Json.Value.render, String.toList_ofList, Json.decode_eq_ok_iff, Json.read_chars tag.fits_json]
  exact ⟨read_node labels tag, rfl⟩

theorem Normal.of_labels (labels : ∀ t : T, Labelled.ofLabel? (Labelled.label t) = some t)
    (plain : ∀ t : T, (Labelled.label t).toList.flatMap Json.escape =
      (Labelled.label t).toList) : Normal T where
  returns := decode_render labels
  accepts s tag := decode_eq_ok_iff labels s.toList tag
  settles _ tag _ := ⟨json_render plain tag, decode_render labels tag⟩

theorem decode_normal : Normal Availability ∧ Normal ChunkKind := by
  constructor
  · refine .of_labels Availability.ofLabel?_label fun a => ?_
    cases a <;> decide
  · refine .of_labels ChunkKind.ofLabel?_label fun k => ?_
    cases k <;> decide

end Tag
end ClangHost
