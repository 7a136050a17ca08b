import ClangHost.Document.Record
import Mathlib.Data.List.Nodup

/-!
Records are read by key. Each field takes what stands under one of its names, wherever it stands
among the entries of a table, and nothing else in the table matters to it. Where no two fields share
a name and fields may be set in any order, the entries of a table make of a record what its fields
make of it one after the other (`readEntries_eq_lookup`). In particular a table that has a value for
each field, under the field's name, is read as these values (`read_written`).
-/
namespace ClangHost.Document

abbrev Entries := List (Key × Option Span × Node)

def values (names : List String) (es : Entries) : List Node :=
  es.filterMap fun e => if e.1.name ∈ names then some e.2.2 else none

theorem values_cons_of_mem {names : List String} {key : Key} (member : key.name ∈ names)
    (span : Option Span) (x : Node) (es : Entries) :
    values names ((key, span, x) :: es) = x :: values names es := by
  simp [values, member]

theorem values_cons_of_notMem {names : List String} {key : Key} (other : key.name ∉ names)
    (span : Option Span) (x : Node) (es : Entries) :
    values names ((key, span, x) :: es) = values names es := by
  simp [values, other]

def value? (es : Entries) (name : String) : Option Node :=
  (es.find? fun e => e.1.name == name).map fun e => e.2.2

theorem values_eq_nil {name : String} {es : Entries} (absent : name ∉ es.map (·.1.name)) :
    values [name] es = [] := by
  simp only [values, List.filterMap_eq_nil_iff, List.mem_singleton, ite_eq_right_iff]
  intro e member same
  cases absent (List.mem_map.mpr ⟨e, member, same⟩)

theorem values_eq_toList {es : Entries} (distinct : (es.map (·.1.name)).Nodup) (name : String) :
    values [name] es = (value? es name).toList := by
  induction es with
  | nil => rfl
  | cons e es ih =>
    obtain ⟨key, span, x⟩ := e
    obtain ⟨new, distinct⟩ := List.nodup_cons.mp distinct
    by_cases same : key.name = name
    · subst same
      rw [values_cons_of_mem (List.mem_singleton.mpr rfl), values_eq_nil new]
      simp [value?]
    · rw [values_cons_of_notMem (fun member => same (List.mem_singleton.mp member)), ih distinct]
      simp [value?, same]

theorem values_cons_perm {name : String} {names : List String} (other : name ∉ names)
    (es : Entries) : (values (name :: names) es).Perm (values [name] es ++ values names es) := by
  induction es with
  | nil => exact .refl _
  | cons e es ih =>
    obtain ⟨key, span, x⟩ := e
    by_cases first : key.name = name
    · have apart : key.name ∉ names := first ▸ other
      rw [values_cons_of_mem (first ▸ List.mem_cons_self),
        values_cons_of_mem (List.mem_singleton.mpr first), values_cons_of_notMem apart]
      exact ih.cons x
    · have apart : key.name ∉ [name] := fun member => first (List.mem_singleton.mp member)
      rw [values_cons_of_notMem apart]
      by_cases second : key.name ∈ names
      · rw [values_cons_of_mem (List.mem_cons_of_mem name second), values_cons_of_mem second]
        exact (ih.cons x).trans List.perm_middle.symm
      · rw [values_cons_of_notMem (by simp [first, second]), values_cons_of_notMem second]
        exact ih

def single? {α : Type} (read : Node → Option α) (default : α) : List Node → Option α
  | [] => some default
  | [x] => read x
  | _ => none

variable {S α : Type}

theorem single?_congr {read other : Node → Option α} {xs : List Node}
    (same : ∀ x ∈ xs, read x = other x) (default : α) :
    single? read default xs = single? other default xs := by
  match xs with
  | [] => rfl
  | [x] => exact same x List.mem_cons_self
  | _ :: _ :: _ => rfl

theorem single?_perm {xs ys : List Node} (perm : xs.Perm ys) (read : Node → Option α)
    (default : α) : single? read default xs = single? read default ys := by
  match xs with
  | [] => rw [List.nil_perm.mp perm]
  | [x] => rw [List.singleton_perm.mp perm]
  | _ :: _ :: _ =>
    match ys with
    | [] => cases List.perm_nil.mp perm
    | [y] => cases List.perm_singleton.mp perm
    | _ :: _ :: _ => rfl

def Field.names (f : Field S) : List String := f.name :: f.aliases

/-- What a field makes of a record when it is given some values. -/
def Field.take (l : Leftover) (f : Field S) (s : S) : List Node → Option S
  | [] => some s
  | [x] => (f.set l x s).toOption
  | _ => none

namespace Record

variable {r : Record S} {l : Leftover}

def Distinct (r : Record S) : Prop := (r.fields.flatMap Field.names).Nodup

theorem Distinct.place_unique (distinct : r.Distinct) {f g : Field S} {p q : Nat} {name : String}
    (one : r.fields[p]? = some f) (other : r.fields[q]? = some g) (first : name ∈ f.names)
    (second : name ∈ g.names) : p = q := by
  obtain ⟨_, apart⟩ := List.nodup_flatMap.mp distinct
  obtain ⟨below, rfl⟩ := List.getElem?_eq_some_iff.mp one
  obtain ⟨below', rfl⟩ := List.getElem?_eq_some_iff.mp other
  rcases Nat.lt_trichotomy p q with less | same | more
  · cases List.pairwise_iff_getElem.mp apart p q below below' less first second
  · exact same
  · cases List.pairwise_iff_getElem.mp apart q p below' below more second first

theorem bears_iff (f : Field S) (name : String) :
    (f.name == name || f.aliases.contains name) = true ↔ name ∈ f.names := by
  rw [Bool.or_eq_true, beq_iff_eq, List.contains_iff_mem, Field.names, List.mem_cons]
  exact or_congr_left eq_comm

theorem field_of_find? {name : String} {f : Field S} {p : Nat}
    (found : r.find? name = some (f, p)) :
    r.fields[p]? = some f ∧ name ∈ f.names := by
  unfold find? at found
  have suits := List.find?_some found
  exact ⟨List.mem_zipIdx_iff_getElem?.mp (List.mem_of_find?_eq_some found),
    (bears_iff f name).mp suits⟩

theorem notMem_names_of_find? {name : String} (unknown : r.find? name = none) {p : Nat}
    {f : Field S} (field : r.fields[p]? = some f) : name ∉ f.names := by
  intro member
  have never := List.find?_eq_none.mp unknown (f, p) (List.mem_zipIdx_iff_getElem?.mpr field)
  exact never ((bears_iff f name).mpr member)

section

variable {key : Key} {f : Field S} {p : Nat} {seen : List Nat} {s t : S} {x : Node} {es : Entries}

theorem readEntries_set (found : r.find? key.name = some (f, p)) (fresh : p ∉ seen)
    (set : f.set l x s = .ok t) (span : Option Span) :
    r.readEntries l false seen s ((key, span, x) :: es) =
      r.readEntries l false (p :: seen) t es := by
  simp [readEntries, found, fresh, set]

theorem readEntries_refused (found : r.find? key.name = some (f, p)) (fresh : p ∉ seen)
    {fault : Fault} (refused : f.set l x s = .error fault) (span : Option Span) :
    r.readEntries l false seen s ((key, span, x) :: es) =
      .error (fault.locate (span <|> key.span)) := by
  simp [readEntries, found, fresh, refused]

end

/-! ### Field by field -/

def Commute (l : Leftover) (f g : Field S) : Prop := ∀ (x y : Node) (s : S),
  (f.set l x s).toOption.bind (fun t => (g.set l y t).toOption) =
    (g.set l y s).toOption.bind fun t => (f.set l x t).toOption

def step (l : Leftover) (seen : List Nat) (es : Entries) (s : S) (f : Field S × Nat) : Option S :=
  if f.2 ∈ seen then if values f.1.names es = [] then some s else none
  else f.1.take l s (values f.1.names es)

theorem foldlM_eq_none {L : List (Field S × Nat)} {seen : List Nat} {es : Entries}
    {f : Field S × Nat} (member : f ∈ L) (never : ∀ s, step l seen es s f = none) (s : S) :
    L.foldlM (step l seen es) s = none := by
  induction L generalizing s with
  | nil => cases member
  | cons g L ih =>
    rw [List.foldlM_cons]
    rcases List.mem_cons.mp member with rfl | later
    · rw [never s]
      rfl
    · cases step l seen es s g with
      | none => rfl
      | some t => exact ih later t

section

variable {seen : List Nat} {es : Entries} {key : Key} {span : Option Span} {x : Node} {g : Field S}
  {q : Nat}

theorem step_other {f : Field S × Nat} (other : key.name ∉ f.1.names) (apart : f.2 ≠ q) (s : S) :
    step l seen ((key, span, x) :: es) s f = step l (q :: seen) es s f := by
  simp only [step, values_cons_of_notMem other, List.mem_cons, apart, false_or]

theorem step_commute {f : Field S × Nat} (commute : Commute l f.1 g) (s : S) :
    (step l seen es s f).bind (fun t => (g.set l x t).toOption) =
      (g.set l x s).toOption.bind fun t => step l seen es t f := by
  unfold step
  split
  · split
    · exact (Option.bind_some ..).trans (Option.bind_fun_some _).symm
    · exact (Option.bind_fun_none _).symm
  · match values f.1.names es with
    | [] => exact (Option.bind_fun_some _).symm
    | [y] => exact commute y x s
    | _ :: _ :: _ => exact (Option.bind_fun_none _).symm

theorem foldlM_congr {β : Type} {L : List β} {f h : S → β → Option S}
    (same : ∀ i ∈ L, ∀ s, f s i = h s i) (s : S) : L.foldlM f s = L.foldlM h s := by
  induction L generalizing s with
  | nil => rfl
  | cons i L ih =>
    rw [List.foldlM_cons, List.foldlM_cons, same i List.mem_cons_self]
    exact bind_congr fun t => ih (fun j later => same j (List.mem_cons_of_mem i later)) t

/-- The entry that sets a field may be taken first, since the other fields do not mind. -/
theorem foldlM_step_cons (named : key.name ∈ g.names) (fresh : q ∉ seen)
    {L : List (Field S × Nat)} (member : (g, q) ∈ L) (places : (L.map Prod.snd).Nodup)
    (others : ∀ f ∈ L, f.2 ≠ q → key.name ∉ f.1.names ∧ Commute l f.1 g) (s : S) :
    L.foldlM (step l seen ((key, span, x) :: es)) s =
      (g.set l x s).toOption.bind (L.foldlM (step l (q :: seen) es)) := by
  induction L generalizing s with
  | nil => cases member
  | cons f L ih =>
    obtain ⟨new, places⟩ := List.nodup_cons.mp places
    rw [List.foldlM_cons]
    simp only [List.foldlM_cons, Option.bind_eq_bind]
    have further : ∀ h ∈ L, h.2 ≠ q → key.name ∉ h.1.names ∧ Commute l h.1 g := fun h later =>
      others h (List.mem_cons_of_mem f later)
    by_cases here : f.2 = q
    · have same : f = (g, q) := by
        rcases List.mem_cons.mp member with same | later
        · exact same.symm
        · cases new (here ▸ List.mem_map_of_mem later)
      subst same
      have rest : ∀ t, L.foldlM (step l seen ((key, span, x) :: es)) t =
          L.foldlM (step l (q :: seen) es) t := by
        refine foldlM_congr fun h later u => ?_
        have apart : h.2 ≠ q := fun same => new (List.mem_map.mpr ⟨h, later, same⟩)
        exact step_other (further h later apart).1 apart u
      simp only [rest, step, if_neg fresh, values_cons_of_mem named, List.mem_cons_self, if_true]
      -- a second value for the field is refused on both sides
      cases values g.names es with
      | nil => rfl
      | cons y ys => exact (Option.bind_fun_none _).symm
    · obtain ⟨other, commute⟩ := others f List.mem_cons_self here
      have later : (g, q) ∈ L := by
        rcases List.mem_cons.mp member with rfl | later
        · cases here rfl
        · exact later
      simp only [ih later places further]
      rw [step_other other here, ← Option.bind_assoc, step_commute commute, Option.bind_assoc]

end

theorem foldlM_step_nil (seen : List Nat) (L : List (Field S × Nat)) (s : S) :
    L.foldlM (step l seen []) s = some s := by
  induction L with
  | nil => rfl
  | cons f L ih =>
    have idle : step l seen [] s f = some s := by
      unfold step
      split <;> rfl
    rw [List.foldlM_cons, idle]
    exact ih

theorem Commute.symm {f g : Field S} (commute : Commute l f g) : Commute l g f :=
  fun x y s => (commute y x s).symm

theorem commute_of_ne (commute : r.fields.Pairwise (Commute l)) {f g : Field S} {p q : Nat}
    (one : r.fields[p]? = some f) (other : r.fields[q]? = some g) (apart : p ≠ q) :
    Commute l f g := by
  obtain ⟨below, rfl⟩ := List.getElem?_eq_some_iff.mp one
  obtain ⟨below', rfl⟩ := List.getElem?_eq_some_iff.mp other
  rcases Nat.lt_or_gt_of_ne apart with less | more
  · exact List.pairwise_iff_getElem.mp commute p q below below' less
  · exact (List.pairwise_iff_getElem.mp commute q p below' below more).symm

theorem readEntries_eq_foldlM (distinct : r.Distinct) (commute : r.fields.Pairwise (Commute l))
    (seen : List Nat) (s : S) (es : Entries) :
    (r.readEntries l false seen s es).toOption = r.fields.zipIdx.foldlM (step l seen es) s := by
  -- on the entries; `seen` carries the places of the fields that earlier ones have set
  induction es generalizing seen s with
  | nil => exact (foldlM_step_nil seen _ s).symm
  | cons e es ih =>
    obtain ⟨key, span, x⟩ := e
    cases found : r.find? key.name with
    | none =>
      rw [readEntries_skip found, ih]
      refine (foldlM_congr fun f member t => ?_) s
      have other := notMem_names_of_find? found (List.mem_zipIdx_iff_getElem?.mp member)
      simp only [step, values_cons_of_notMem other]
    | some g =>
      obtain ⟨g, q⟩ := g
      obtain ⟨field, named⟩ := field_of_find? found
      have member : (g, q) ∈ r.fields.zipIdx := List.mem_zipIdx_iff_getElem?.mpr field
      by_cases late : q ∈ seen
      · rw [readEntries_twice found l false late]
        refine (foldlM_eq_none member (fun t => ?_) s).symm
        simp [step, late, values_cons_of_mem named]
      · have places : (r.fields.zipIdx.map Prod.snd).Nodup := by
          rw [List.zipIdx_map_snd]
          exact List.nodup_range' _
        have others : ∀ f ∈ r.fields.zipIdx, f.2 ≠ q →
            key.name ∉ f.1.names ∧ Commute l f.1 g := by
          intro f there apart
          have place := List.mem_zipIdx_iff_getElem?.mp there
          exact ⟨fun bears => apart (distinct.place_unique place field bears named),
            commute_of_ne commute place field apart⟩
        rw [foldlM_step_cons named late member places others]
        cases answer : g.set l x s with
        | error fault =>
          rw [readEntries_refused found late answer]
          rfl
        | ok t =>
          rw [readEntries_set found late answer, ih]
          rfl

/-- Reading a table is looking up each field: the entries in their order make of a record what the
fields make of it in theirs. -/
theorem readEntries_eq_lookup (distinct : r.Distinct) (commute : r.fields.Pairwise (Commute l))
    (s : S) (es : Entries) : (r.readEntries l false [] s es).toOption =
      r.fields.foldlM (fun s f => f.take l s (values f.names es)) s := by
  have forgotten := List.zipIdx_map_fst 0 r.fields
  rw [readEntries_eq_foldlM distinct commute, ← forgotten, List.foldlM_map, forgotten]
  rfl

theorem readEntries_cut (seen : List Nat) (s : S) (es : Entries) :
    (r.readEntries l true seen s es).toOption = none := by
  induction es generalizing seen s with
  | nil => rfl
  | cons e es ih =>
    obtain ⟨key, span, x⟩ := e
    unfold readEntries
    split
    · exact ih seen s
    · split
      · rfl
      · split
        · rfl
        · exact ih _ _

/-! ### A value for each field -/

theorem find?_name (distinct : r.Distinct) {f : Field S} {p : Nat} (field : r.fields[p]? = some f) :
    r.find? f.name = some (f, p) := by
  cases found : r.find? f.name with
  | none => exact absurd List.mem_cons_self (notMem_names_of_find? found field)
  | some g =>
    obtain ⟨g, q⟩ := g
    obtain ⟨other, bears⟩ := field_of_find? found
    cases distinct.place_unique field other List.mem_cons_self bears
    cases field.symm.trans other
    rfl

/-- Fields that are set one after the other, each from a value of its own. -/
inductive SetInTurn (l : Leftover) : List (Field S) → List Node → S → S → Prop where
  | nil (s : S) : SetInTurn l [] [] s s
  | cons {f : Field S} {fs : List (Field S)} {x : Node} {xs : List Node} {s t u : S} :
      f.set l x s = .ok t → SetInTurn l fs xs t u → SetInTurn l (f :: fs) (x :: xs) s u

def written (fs : List (Field S)) (xs : List Node) : Entries :=
  fs.zipWith (fun f x => (⟨f.name, none⟩, none, x)) xs

theorem readEntries_written (distinct : r.Distinct) {before fs : List (Field S)}
    (whole : r.fields = before ++ fs) {seen : List Nat} (earlier : ∀ p ∈ seen, p < before.length)
    {xs : List Node} {s t : S} (set : SetInTurn l fs xs s t) :
    r.readEntries l false seen s (written fs xs) = .ok t := by
  induction set generalizing before seen with
  | nil => rfl
  | @cons f fs x xs s t u first _ ih =>
    have field : r.fields[before.length]? = some f := by
      rw [whole, List.getElem?_append_right (Nat.le_refl _), Nat.sub_self]
      rfl
    have fresh : before.length ∉ seen := fun member => Nat.lt_irrefl _ (earlier _ member)
    change r.readEntries l false seen s ((⟨f.name, none⟩, none, x) :: written fs xs) = .ok u
    rw [readEntries_set (find?_name distinct field) fresh first]
    have later : r.fields = (before ++ [f]) ++ fs := by
      rw [whole, List.append_assoc]
      rfl
    apply ih later
    intro p member
    rw [List.length_append, List.length_singleton]
    rcases List.mem_cons.mp member with rfl | member
    · exact Nat.lt_succ_self _
    · exact Nat.lt_succ_of_lt (earlier p member)

theorem read_written (distinct : r.Distinct) {xs : List Node} {s : S}
    (set : SetInTurn l r.fields xs r.default s) :
    r.read l (.table (written r.fields xs) false) = .ok s :=
  readEntries_written distinct (List.nil_append _).symm
    (fun _ none => absurd none List.not_mem_nil) set

end Record

/-! ### Fields of one shape -/

structure Field.Puts (f : Field S) (l : Leftover) (read : Node → Option α) (put : α → S → S) :
    Prop where
  set_eq : ∀ (x : Node) (s : S), (f.set l x s).toOption = (read x).map (put · s)

namespace Field.Puts

variable {β γ : Type} {f g : Field S} {l : Leftover} {read : Node → Option α} {put : α → S → S}
  {other : Node → Option β} {putOther : β → S → S}

theorem commute (puts : f.Puts l read put) (others : g.Puts l other putOther)
    (same : ∀ a b s, putOther b (put a s) = put a (putOther b s)) : Record.Commute l f g := by
  intro x y s
  simp only [puts.set_eq x, others.set_eq y]
  cases read x with
  | none => cases other y <;> rfl
  | some a =>
    cases other y with
    | none => rfl
    | some b => exact congrArg some (same a b s)

/-- Where no value is given, the record is as if it were given the default that it holds. -/
theorem take_bind (puts : f.Puts l read put) {default : α} {s : S} (held : put default s = s)
    (xs : List Node) (k : S → Option γ) :
    (f.take l s xs >>= k) = single? read default xs >>= fun a => k (put a s) := by
  match xs with
  | [] =>
    change k s = k (put default s)
    rw [held]
  | [x] =>
    change (f.set l x s).toOption >>= k = read x >>= fun a => k (put a s)
    rw [puts.set_eq]
    cases read x <;> rfl
  | _ :: _ :: _ => rfl

end Field.Puts
end ClangHost.Document
