import ClangHost.Logging.Config
import ClangHost.Proofs.Components
import ClangHost.Proofs.Utf8

/-!
Where the path of a log file is cut in two. Above a path that ends in a name stands the path of all
its components but the last (`components_parent?`), and every part of a path that is text is text
(`isText_of_mem_ancestors`). So directory and name of a log file, joined again, are the path that
the environment gives (`LogConfig.output_splits`).
-/
namespace ClangHost
namespace Path

/-! ### The last component -/

/-- A component that stands for something in a directory. -/
structure IsOrdinary (name : Bytes) : Prop where
  not_root : name ≠ [slash]
  not_here : name ≠ [dot]
  not_up : name ≠ up

theorem front_cases (p : Bytes) : front p = [] ∨ front p = [[slash]] ∨ front p = [[dot]] := by
  rcases head_cases p with ⟨r, rfl⟩ | rfl | ⟨r, rfl⟩ | bare
  · exact .inr (.inl (by rw [front, head_slash]; rfl))
  · exact .inr (.inr rfl)
  · exact .inr (.inr (by rw [front, head_dotSlash]; rfl))
  · exact .inl (by rw [front, if_pos bare])

theorem names_eq_concat {p name : Bytes} (last : (components p).getLast? = some name)
    (ordinary : IsOrdinary name) : ∃ ns, names p = ns ++ [name] := by
  rcases List.eq_nil_or_concat' (names p) with none | ⟨ns, other, named⟩
  · rw [components, none, List.append_nil] at last
    rcases front_cases p with front | front | front
    · rw [front] at last
      cases last
    · rw [front] at last
      exact absurd (Option.some.inj last).symm ordinary.not_root
    · rw [front] at last
      exact absurd (Option.some.inj last).symm ordinary.not_here
  · refine ⟨ns, ?_⟩
    rw [components, named, ← List.append_assoc, List.getLast?_concat] at last
    rw [named, Option.some.inj last]

theorem find?_bodyReversed (p : Bytes) :
    (bodyReversed p).find? (fun s => !isTrivial s) = (names p).getLast? := by
  rw [names_eq, ← List.head?_reverse, ← List.filter_reverse, List.head?_filter]
  rfl

theorem fileName?_of_concat {p name : Bytes} {ns : List Bytes} (named : names p = ns ++ [name])
    (not_up : name ≠ up) : fileName? p = some name := by
  have found : (bodyReversed p).find? (fun s => !isTrivial s) = some name := by
    rw [find?_bodyReversed, named, List.getLast?_concat]
  rw [fileName?, found, Option.filter_some, if_pos (by simpa using not_up)]

theorem inits_concat {α : Type} (xs : List α) (x : α) :
    (xs ++ [x]).inits = xs.inits ++ [xs ++ [x]] := by
  rw [List.inits_append]
  rfl

theorem head?_reverse_inits {α : Type} (xs : List α) : xs.inits.reverse.head? = some xs := by
  rcases List.eq_nil_or_concat' xs with rfl | ⟨ys, x, rfl⟩
  · rfl
  · rw [inits_concat, List.reverse_concat]
    rfl

theorem components_parent? {p name : Bytes} {cs : List Bytes}
    (ends : components p = cs ++ [name]) (below : name ≠ [slash]) :
    (parent? p).map components = some cs := by
  have listed : (parent? p).map components = ((ancestors p).map components)[1]? := by
    rw [parent?, List.getElem?_map]
  rw [listed, components_ancestors, ends, inits_concat]
  by_cases absolute : isAbsolute p = true
  · have rooted := components_of_isAbsolute absolute
    rw [ends] at rooted
    cases cs with
    | nil => exact absurd (List.cons.inj rooted).1 below
    | cons c cs =>
      rw [if_pos absolute, List.inits_cons, List.cons_append, List.tail_cons, List.reverse_concat,
        List.getElem?_cons_succ, ← List.head?_eq_getElem?, ← List.map_reverse, List.head?_map,
        head?_reverse_inits]
      rfl
  · rw [if_neg absolute, List.reverse_concat, List.getElem?_cons_succ, ← List.head?_eq_getElem?]
    exact head?_reverse_inits cs

theorem eq_nil_of_components {p : Bytes} (nothing : components p = []) : p = [] := by
  obtain ⟨front, names⟩ := List.append_eq_nil_iff.mp nothing
  have bare : head p = [] := by
    by_contra led
    rw [Path.front, if_neg led] at front
    cases front
  rcases (head_eq_nil_iff p).mp bare with rfl | ⟨s, more, parts, proper⟩
  · rfl
  · rw [Path.names, parts, List.filter_cons_of_pos proper] at names
    cases names

structure CutInto (p dir name : Bytes) : Prop where
  above : parent? p = some dir
  named : fileName? p = some name
  ends : components p = components dir ++ [name]
  listed : name ∈ names p

theorem cutInto_of_last {p name : Bytes} (last : (components p).getLast? = some name)
    (ordinary : IsOrdinary name) : ∃ dir, CutInto p dir name := by
  obtain ⟨ns, named⟩ := names_eq_concat last ordinary
  have ends : components p = (front p ++ ns) ++ [name] := by
    rw [components, named, List.append_assoc]
  obtain ⟨dir, above, before⟩ :=
    Option.map_eq_some_iff.mp (components_parent? ends ordinary.not_root)
  rw [← before] at ends
  have listed : name ∈ names p := named ▸ List.mem_concat_self
  exact ⟨dir, above, fileName?_of_concat named ordinary.not_up, ends, listed⟩

namespace CutInto

variable {p dir name : Bytes} (cut : CutInto p dir name)
include cut

theorem mem_split : name ∈ split p := (List.mem_filter.mp cut.listed).1

theorem mem_ancestors : dir ∈ ancestors p := List.mem_of_getElem? cut.above

theorem components_join (base : Bytes) :
    components (join base name) = components base ++ [name] :=
  Path.components_join base (List.mem_filter.mp cut.listed).2 (slash_notMem_split cut.mem_split)

theorem isAbsolute (absolute : isAbsolute p = true) : Path.isAbsolute dir = true :=
  (ancestors_of_isAbsolute absolute cut.mem_ancestors).1

theorem eq_nil_iff : dir = [] ↔ (components p).length = 1 := by
  rw [cut.ends, List.length_append, List.length_singleton, Nat.add_eq_right,
    List.length_eq_zero_iff]
  constructor
  · rintro rfl
    rfl
  · exact eq_nil_of_components

end CutInto

/-! ### Paths that are text -/

def ofText (s : String) : Bytes := Utf8.encode s.toList

def IsText (p : Bytes) : Prop := ∃ s : String, ofText s = p

theorem isText_encode (s : List Char) : IsText (Utf8.encode s) :=
  ⟨String.ofList s, by rw [ofText, String.toList_ofList]⟩

theorem IsText.append {p q : Bytes} (first : IsText p) (second : IsText q) : IsText (p ++ q) := by
  obtain ⟨s, rfl⟩ := first
  obtain ⟨t, rfl⟩ := second
  exact ⟨s ++ t, by rw [ofText, String.toList_append, Utf8.encode_append]; rfl⟩

theorem isText_nil : IsText [] := isText_encode []

theorem isText_slash : IsText [slash] := isText_encode ['/']

theorem isText_dot : IsText [dot] := isText_encode ['.']

theorem ofText_shown {p : Bytes} (text : IsText p) : ofText (shown p) = p := by
  obtain ⟨s, rfl⟩ := text
  rw [shown, ofText, ofText, Utf8.decodeLossy_encode, String.toList_ofList]

theorem split_append_of_notMem {a : Bytes} (plain : slash ∉ a) {b s : Bytes} {more : List Bytes}
    (parts : split b = s :: more) : split (a ++ b) = (a ++ s) :: more := by
  induction a with
  | nil => exact parts
  | cons x a ih =>
    obtain ⟨other, plain⟩ := not_or.mp (mt List.mem_cons.mpr plain)
    obtain ⟨t, rest, inner, joined⟩ := split_cons_of_ne (Ne.symm other) (a ++ b)
    rw [ih plain] at inner
    cases inner
    exact joined

/-- A slash never stands inside another character, so a text is cut between characters. -/
theorem isText_of_mem_split {s : List Char} {t : Bytes} (member : t ∈ split (Utf8.encode s)) :
    IsText t := by
  induction s generalizing t with
  | nil =>
    cases List.mem_singleton.mp member
    exact isText_nil
  | cons c s ih =>
    by_cases same : c = '/'
    · subst same
      have parts : split (Utf8.encode ('/' :: s)) = [] :: split (Utf8.encode s) := rfl
      rw [parts] at member
      rcases List.mem_cons.mp member with rfl | later
      · exact isText_nil
      · exact ih later
    · have plain : slash ∉ Utf8.encodeChar c := fun inside =>
        same ((Utf8.ascii_mem_encodeChar_iff (d := '/') (by decide) c).mp inside)
      obtain ⟨first, more, parts⟩ := List.exists_cons_of_ne_nil (split_ne_nil (Utf8.encode s))
      have joined : split (Utf8.encode (c :: s)) = (Utf8.encodeChar c ++ first) :: more :=
        split_append_of_notMem plain parts
      have char : IsText (Utf8.encodeChar c) := by
        have alone := isText_encode [c]
        rwa [Utf8.encode, List.flatMap_singleton] at alone
      rw [parts] at ih
      rw [joined] at member
      rcases List.mem_cons.mp member with rfl | later
      · exact char.append (ih List.mem_cons_self)
      · exact ih (List.mem_cons_of_mem first later)

theorem isText_unsplit {ss : List Bytes} (texts : ∀ s ∈ ss, IsText s) : IsText (unsplit ss) := by
  induction ss with
  | nil => exact isText_nil
  | cons s ss ih =>
    obtain ⟨first, others⟩ := List.forall_mem_cons.mp texts
    cases ss with
    | nil => exact first
    | cons t ss => exact first.append (isText_slash.append (ih others))

theorem mem_split_of_mem_body {p t : Bytes} (member : t ∈ body p) : t = [] ∨ t ∈ split p := by
  rcases head_cases p with ⟨r, rfl⟩ | rfl | ⟨r, rfl⟩ | bare
  · rw [body_slash] at member
    exact .inr (List.mem_cons_of_mem [] member)
  · exact .inl (List.mem_singleton.mp member)
  · rw [body_dotSlash] at member
    rw [split_dotSlash]
    exact (List.mem_cons.mp member).imp_right (List.mem_cons_of_mem [dot])
  · rw [body_of_head bare] at member
    exact .inr member

theorem isText_head (p : Bytes) : IsText (head p) := by
  rcases head_cases p with ⟨r, rfl⟩ | rfl | ⟨r, rfl⟩ | bare
  · rw [head_slash]
    exact isText_slash
  · exact isText_dot
  · rw [head_dotSlash]
    exact isText_dot
  · rw [bare]
    exact isText_nil

theorem isText_of_mem_ancestors {p dir : Bytes} (text : IsText p) (member : dir ∈ ancestors p) :
    IsText dir := by
  obtain ⟨s, rfl⟩ := text
  rw [ancestors, List.mem_append, List.mem_cons, List.mem_map] at member
  rcases member with (rfl | ⟨r, above, rfl⟩) | nothing
  · exact ⟨s, rfl⟩
  · refine (isText_head _).append (isText_unsplit fun t listed => ?_)
    rcases mem_split_of_mem_body ((reverse_prefix_body above).subset listed) with rfl | part
    · exact isText_nil
    · exact isText_of_mem_split part
  · split at nothing
    · rw [List.mem_singleton.mp nothing]
      exact isText_nil
    · cases nothing

end Path

/-! ### The log file -/

open ClangHost.Path

namespace LogOutput

/-- A path is split into a directory and the name at its end. Where the path is the name alone, the
directory is the current one. -/
structure SplitsInto (path directory name : String) : Prop where
  last : (components (ofText path)).getLast? = some (ofText name)
  single : '/' ∉ name.toList
  placed : directory ≠ ""
  joined : components (join (ofText directory) (ofText name)) =
    if (components (ofText path)).length = 1 then [dot] :: components (ofText path)
    else components (ofText path)
  absolute : isAbsolute (ofText path) = true → isAbsolute (ofText directory) = true

variable {path : String} {dir name : Bytes}

theorem ofPath_eq (cut : CutInto (ofText path) dir name) :
    ofPath path = .file (if dir = [] then "." else shown dir) (shown name) := by
  have above := cut.above
  have named := cut.named
  rw [ofText] at above named
  simp only [ofPath, above, named, Option.elim_some]
  by_cases nothing : dir = []
  · rw [if_pos nothing, nothing]
    rfl
  · rw [if_neg nothing, Option.filter_some, if_pos (by simpa using nothing)]
    rfl

theorem splitsInto (cut : CutInto (ofText path) dir name) :
    SplitsInto path (if dir = [] then "." else shown dir) (shown name) := by
  have name_text : ofText (shown name) = name := ofText_shown (isText_of_mem_split cut.mem_split)
  have dir_text : ofText (shown dir) = dir :=
    ofText_shown (isText_of_mem_ancestors ⟨path, rfl⟩ cut.mem_ancestors)
  have single : '/' ∉ (shown name).toList := by
    intro inside
    have byte : slash ∈ ofText (shown name) :=
      (Utf8.ascii_mem_encode_iff (d := '/') (by decide) _).mpr inside
    rw [name_text] at byte
    exact slash_notMem_split cut.mem_split byte
  have last : (components (ofText path)).getLast? = some (ofText (shown name)) := by
    rw [name_text, cut.ends, List.getLast?_concat]
  by_cases nothing : dir = []
  · have alone := cut.eq_nil_iff.mp nothing
    rw [if_pos nothing]
    refine ⟨last, single, by decide, ?_, fun absolute => ?_⟩
    · have here : components (ofText ".") = [[dot]] := by decide
      rw [if_pos alone, name_text, cut.components_join, cut.ends, nothing, here]
      rfl
    · have rooted := cut.isAbsolute absolute
      rw [nothing] at rooted
      cases rooted
  · have longer := mt cut.eq_nil_iff.mpr nothing
    rw [if_neg nothing]
    refine ⟨last, single, fun empty => ?_, ?_, fun absolute => ?_⟩
    · rw [empty] at dir_text
      exact nothing dir_text.symm
    · rw [if_neg longer, name_text, dir_text, cut.components_join, cut.ends]
    · rw [dir_text]
      exact cut.isAbsolute absolute

end LogOutput
namespace LogConfig

theorem text?_of_lookup {env : Environment} {name value : String}
    (given : env.lookup name = some (ofText value)) : env.text? name = some value := by
  rw [Environment.text?, given, ofText]
  simp only [Option.bind_eq_bind, Option.bind_some, Utf8.decode?_encode, Option.pure_def,
    String.ofList_toList]

/-- A log file that the environment gives by a path with a name at its end is that name in the
directory before it, whatever else the environment says. -/
theorem output_splits {path : String} {name : Bytes}
    (last : (components (ofText path)).getLast? = some name) (ordinary : IsOrdinary name) :
    ∃ directory file, LogOutput.SplitsInto path directory file ∧
      ∀ env : Environment, env.lookup "CINDEX_LOG_FILE" = some (ofText path) →
        (ofEnvironment env).output = .file directory file := by
  obtain ⟨dir, cut⟩ := cutInto_of_last last ordinary
  refine ⟨_, _, LogOutput.splitsInto cut, fun env given => ?_⟩
  have output : (ofEnvironment env).output = LogOutput.ofPath path := by
    change (env.text? "CINDEX_LOG_FILE").elim .stderr LogOutput.ofPath = _
    rw [text?_of_lookup given, Option.elim_some]
  rw [output, LogOutput.ofPath_eq cut]

/-- Steps upward, empty segments and a slash at the end. -/
theorem output_splits_crookedPath :
    let path := "./a/..//b.log/"
    (components (ofText path)).getLast? = some (ofText "b.log") ∧ IsOrdinary (ofText "b.log") ∧
      LogOutput.SplitsInto path "./a/.." "b.log" ∧
      ∀ env : Environment, env.lookup "CINDEX_LOG_FILE" = some (ofText path) →
        (ofEnvironment env).output = .file "./a/.." "b.log" := by
  intro path
  have last : (components (ofText path)).getLast? = some (ofText "b.log") := by decide
  have ordinary : IsOrdinary (ofText "b.log") := ⟨by decide, by decide, by decide⟩
  obtain ⟨directory, file, splits, output⟩ := output_splits last ordinary
  let env : Environment := [("CINDEX_LOG_FORMAT", ofText "json"), ("CINDEX_LOG_FILE", ofText path)]
  have computed : (ofEnvironment env).output = .file "./a/.." "b.log" := by decide
  cases (output env rfl).symm.trans computed
  exact ⟨last, ordinary, splits, output⟩

end LogConfig
end ClangHost
