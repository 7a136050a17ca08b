import ClangHost.Files.Path
import Mathlib.Data.List.Infix

/-!
The components of a path: the front, where it has one, and the proper segments. In
these terms the ancestors of a path are what is left of it when components are taken away from its
end, one after the other (`components_ancestors`), and to join a name is to add it at the end
(`components_join`).
-/
namespace ClangHost.Path

def isProper (s : Bytes) : Bool := !isTrivial s

def front (p : Bytes) : List Bytes := if head p = [] then [] else [head p]

def names (p : Bytes) : List Bytes := (split p).filter isProper

def components (p : Bytes) : List Bytes := front p ++ names p

theorem split_cons_of_ne {b : UInt8} (other : b ≠ slash) (rest : Bytes) :
    ∃ s more, split rest = s :: more ∧ split (b :: rest) = (b :: s) :: more := by
  cases parts : split rest with
  | nil => exact absurd parts (split_ne_nil rest)
  | cons s more => exact ⟨s, more, rfl, by simp [split, other, parts]⟩

theorem split_append_slash (a b : Bytes) : split (a ++ slash :: b) = split a ++ split b := by
  induction a with
  | nil => simp [split]
  | cons x a ih =>
    by_cases same : x = slash
    · simp [split, same, ih]
    · obtain ⟨s, more, parts, joined⟩ := split_cons_of_ne same a
      rw [parts] at ih
      rw [joined, List.cons_append, split, if_neg same, ih]
      rfl

theorem slash_notMem_split {p s : Bytes} (member : s ∈ split p) : slash ∉ s := by
  induction p generalizing s with
  | nil =>
    cases List.mem_singleton.mp member
    simp
  | cons b p ih =>
    by_cases same : b = slash
    · simp only [split, if_pos same, List.mem_cons] at member
      rcases member with rfl | member
      · simp
      · exact ih member
    · obtain ⟨t, more, parts, joined⟩ := split_cons_of_ne same p
      rw [joined] at member
      rcases List.mem_cons.mp member with rfl | member
      · have inner := ih (parts ▸ List.mem_cons_self)
        simpa [Ne.symm same] using inner
      · exact ih (parts ▸ List.mem_cons_of_mem t member)

theorem split_of_notMem {s : Bytes} (plain : slash ∉ s) : split s = [s] := by
  induction s with
  | nil => rfl
  | cons b s ih =>
    obtain ⟨other, plain⟩ := not_or.mp (mt List.mem_cons.mpr plain)
    simp [split, Ne.symm other, ih plain]

theorem split_unsplit {ss : List Bytes} (some_segments : ss ≠ [])
    (plain : ∀ s ∈ ss, slash ∉ s) : split (unsplit ss) = ss := by
  induction ss with
  | nil => exact absurd rfl some_segments
  | cons s ss ih =>
    have first := split_of_notMem (plain s List.mem_cons_self)
    cases ss with
    | nil => exact first
    | cons t ss =>
      have rest := ih (by simp) fun u member => plain u (List.mem_cons_of_mem s member)
      rw [unsplit, split_append_slash, first, rest]
      rfl

theorem split_first_eq_nil {p s : Bytes} {more : List Bytes} (parts : split p = s :: more) :
    s = [] ↔ p = [] ∨ p.head? = some slash := by
  cases p with
  | nil =>
    cases parts
    simp
  | cons c p =>
    by_cases same : c = slash
    · rw [split, if_pos same] at parts
      cases parts
      simp [same]
    · obtain ⟨t, rest, _, joined⟩ := split_cons_of_ne same p
      rw [joined] at parts
      cases parts
      simp [same]

theorem head_eq_nil_iff (p : Bytes) :
    head p = [] ↔ p = [] ∨ ∃ s more, split p = s :: more ∧ isProper s = true := by
  cases p with
  | nil => simp [head, isAbsolute]
  | cons b p =>
    by_cases same : b = slash
    · simp [head, isAbsolute, split, same, isProper, isTrivial]
    · obtain ⟨s, more, parts, joined⟩ := split_cons_of_ne same p
      have ends := split_first_eq_nil parts
      have proper : isProper (b :: s) = true ↔ ¬ (b = dot ∧ s = []) := by
        simp [isProper, isTrivial, imp_iff_not_or]
      have leads : head (b :: p) = [] ↔ ¬ (b = dot ∧ s = []) := by
        rw [ends, head, isAbsolute]
        cases p <;> simp [same]
      simp only [leads, joined, List.cons.injEq, reduceCtorEq, false_or]
      constructor
      · intro plain
        exact ⟨b :: s, more, ⟨rfl, rfl⟩, proper.mpr plain⟩
      · rintro ⟨_, _, ⟨rfl, _⟩, plain⟩
        exact proper.mp plain

theorem head_slash (r : Bytes) : head (slash :: r) = [slash] := by simp [head, isAbsolute]

theorem head_dot : head [dot] = [dot] := rfl

theorem head_dotSlash (r : Bytes) : head (dot :: slash :: r) = [dot] := by
  simp [head, isAbsolute, dot, slash]

theorem head_cases (p : Bytes) :
    (∃ r, p = slash :: r) ∨ p = [dot] ∨ (∃ r, p = dot :: slash :: r) ∨ head p = [] := by
  by_cases absolute : isAbsolute p = true
  · cases p with
    | nil => simp [isAbsolute] at absolute
    | cons b r => exact .inl ⟨r, by simpa [isAbsolute] using absolute⟩
  · by_cases dotted : p = [dot] ∨ p.take 2 = [dot, slash]
    · rcases dotted with rfl | dotted
      · exact .inr (.inl rfl)
      · refine .inr (.inr (.inl ⟨p.drop 2, ?_⟩))
        rw [← List.take_append_drop 2 p, dotted]
        rfl
    · exact .inr (.inr (.inr (by simp [head, absolute, dotted])))

def body (p : Bytes) : List Bytes := split (p.drop (head p).length)

theorem body_slash (r : Bytes) : body (slash :: r) = split r := by simp [body, head_slash]

theorem body_dotSlash (r : Bytes) : body (dot :: slash :: r) = [] :: split r := by
  simp [body, head_dotSlash, split]

theorem body_of_head {p : Bytes} (bare : head p = []) : body p = split p := by simp [body, bare]

theorem split_dotSlash (r : Bytes) : split (dot :: slash :: r) = [dot] :: split r := by
  simp [split, dot, slash]

theorem names_eq (p : Bytes) : names p = (body p).filter isProper := by
  rcases head_cases p with ⟨r, rfl⟩ | rfl | ⟨r, rfl⟩ | bare
  · rw [body_slash]
    rfl
  · rfl
  · rw [body_dotSlash, names, split_dotSlash]
    rfl
  · rw [body_of_head bare]
    rfl

theorem names_unsplit {ss : List Bytes} (plain : ∀ s ∈ ss, slash ∉ s) :
    names (unsplit ss) = ss.filter isProper := by
  cases ss with
  | nil => rfl
  | cons s ss => rw [names, split_unsplit (by simp) plain]

theorem cut {p : Bytes} {ss : List Bytes} (begins : ss <+: body p)
    (ends : ∀ s ∈ ss.getLast?, isProper s = true) :
    head (head p ++ unsplit ss) = head p ∧
      names (head p ++ unsplit ss) = ss.filter isProper := by
  have plain : ∀ s ∈ ss, slash ∉ s := fun s member => slash_notMem_split (begins.subset member)
  cases ss with
  | nil =>
    rw [unsplit, List.append_nil]
    rcases head_cases p with ⟨r, rfl⟩ | rfl | ⟨r, rfl⟩ | bare
    · rw [head_slash]
      exact ⟨rfl, rfl⟩
    · exact ⟨rfl, rfl⟩
    · rw [head_dotSlash]
      exact ⟨rfl, rfl⟩
    · rw [bare]
      exact ⟨rfl, rfl⟩
  | cons s ss =>
    rcases head_cases p with ⟨r, rfl⟩ | rfl | ⟨r, rfl⟩ | bare
    · rw [head_slash]
      exact ⟨head_slash _, names_unsplit plain⟩
    · -- The body of a lone dot is one empty segment, which is not proper.
      have dotted : body [dot] = [[]] := rfl
      obtain ⟨rfl, rfl⟩ : s = [] ∧ ss = [] := by simpa [dotted] using begins
      cases ends [] rfl
    · rw [body_dotSlash] at begins
      obtain ⟨rfl, begins⟩ := List.cons_prefix_cons.mp begins
      cases ss with
      | nil => cases ends [] rfl
      | cons t ss =>
        rw [head_dotSlash]
        refine ⟨head_dotSlash _, ?_⟩
        rw [unsplit, List.nil_append, List.singleton_append, names, split_dotSlash]
        exact names_unsplit fun u member => plain u (List.mem_cons_of_mem _ member)
    · -- Without a front the first segment must stay proper, or what is cut would get one.
      rw [bare, List.nil_append]
      refine ⟨?_, names_unsplit plain⟩
      rw [body_of_head bare] at begins
      rcases (head_eq_nil_iff p).mp bare with rfl | ⟨t, more, parts, proper⟩
      · obtain ⟨rfl, rfl⟩ : s = [] ∧ ss = [] := by simpa [split] using begins
        cases ends [] rfl
      · rw [parts] at begins
        obtain ⟨rfl, _⟩ := List.cons_prefix_cons.mp begins
        exact (head_eq_nil_iff _).mpr
          (.inr ⟨s, ss, split_unsplit (by simp) plain, proper⟩)

theorem filter_dropWhile (rs : List Bytes) :
    (rs.dropWhile isTrivial).filter isProper = rs.filter isProper := by
  induction rs with
  | nil => rfl
  | cons s rs ih =>
    cases trivial : isTrivial s with
    | true => simpa [trivial, isProper] using ih
    | false => simp [trivial]

theorem parents_eq (rs : List Bytes) :
    rs.reverse.filter isProper :: (parents rs).map (fun r => r.reverse.filter isProper) =
      (rs.reverse.filter isProper).inits.reverse := by
  induction rs with
  | nil => rfl
  | cons s rs ih =>
    cases trivial : isTrivial s with
    | true => simpa [parents, isProper, trivial] using ih
    | false =>
      have proper : isProper s = true := by simp [isProper, trivial]
      rw [List.reverse_cons, List.filter_append, List.inits_append, List.reverse_append,
        ← ih, parents]
      simp [trivial, proper, filter_dropWhile]

theorem of_mem_parents {rs r : List Bytes} (member : r ∈ parents rs) :
    r <:+ rs ∧ ∀ s ∈ r.head?, isProper s = true := by
  induction rs with
  | nil => cases member
  | cons s rs ih =>
    have above : r ∈ parents rs → r <:+ s :: rs ∧ ∀ s ∈ r.head?, isProper s = true := fun member =>
      ⟨(ih member).1.trans (List.suffix_cons s rs), (ih member).2⟩
    rw [parents] at member
    split at member
    · exact above member
    · rcases List.mem_cons.mp member with rfl | member
      · refine ⟨(List.dropWhile_suffix _).trans (List.suffix_cons s rs), fun t first => ?_⟩
        have stopped := List.head?_dropWhile_not isTrivial rs
        rw [first] at stopped
        simpa [isProper] using stopped
      · exact above member

theorem reverse_prefix_body {p : Bytes} {r : List Bytes} (member : r ∈ parents (bodyReversed p)) :
    r.reverse <+: body p := by
  have ends := List.reverse_prefix.mpr (of_mem_parents member).1
  rwa [bodyReversed, List.reverse_reverse] at ends

/-- The ancestors of a path are what is left when its components are taken away from the end, one
after the other. An absolute path keeps its front. -/
theorem components_ancestors (p : Bytes) :
    (ancestors p).map components =
      (if isAbsolute p then (components p).inits.tail else (components p).inits).reverse := by
  have whole : components p = front p ++ (bodyReversed p).reverse.filter isProper := by
    rw [components, names_eq, bodyReversed, List.reverse_reverse]
    rfl
  have part : ∀ r ∈ parents (bodyReversed p), components (head p ++ unsplit r.reverse) =
      front p ++ r.reverse.filter isProper := by
    intro r member
    have proper := (of_mem_parents member).2
    obtain ⟨same, segments⟩ := cut (reverse_prefix_body member) (by simpa using proper)
    rw [components, front, same, segments]
    rfl
  have all : (ancestors p).map components =
      ((bodyReversed p).reverse.filter isProper).inits.reverse.map (front p ++ ·) ++
        (if head p = [dot] then [[]] else []) := by
    have above : (parents (bodyReversed p)).map
        (components ∘ fun rs => head p ++ unsplit rs.reverse) =
          (parents (bodyReversed p)).map fun r => front p ++ r.reverse.filter isProper :=
      List.map_congr_left part
    rw [← parents_eq, ancestors, List.map_append, List.map_cons, List.map_map, above, whole,
      List.map_cons, List.map_map]
    split <;> rfl
  rw [all, whole]
  by_cases absolute : isAbsolute p = true
  · have head_eq : head p = [slash] := by rw [head, if_pos absolute]
    rw [if_pos absolute, front, head_eq]
    simp [List.map_reverse, slash, dot]
  · rw [if_neg absolute, front]
    rcases head_cases p with ⟨r, rfl⟩ | rfl | ⟨r, rfl⟩ | bare
    · exact absurd rfl absolute
    · simp [head_dot, List.map_reverse]
    · simp [head_dotSlash, List.map_reverse]
    · simp [bare]

theorem isAbsolute_iff (p : Bytes) : isAbsolute p = true ↔ head p = [slash] := by
  constructor
  · intro absolute
    rw [head, if_pos absolute]
  · intro led
    by_contra relative
    rw [head, if_neg relative] at led
    split at led
    · simp [dot, slash] at led
    · cases led

theorem components_of_isAbsolute {p : Bytes} (absolute : isAbsolute p = true) :
    components p = [slash] :: names p := by
  simp [components, front, (isAbsolute_iff p).mp absolute]

theorem isAbsolute_of_components {p : Bytes} {cs : List Bytes}
    (led : components p = [slash] :: cs) : isAbsolute p = true ∧ names p = cs := by
  rw [components, front] at led
  split at led
  · have member : [slash] ∈ names p := by
      rw [List.nil_append] at led
      rw [led]
      exact List.mem_cons_self
    exact absurd (List.mem_singleton_self slash) (slash_notMem_split (List.mem_filter.mp member).1)
  · obtain ⟨first, same⟩ := List.cons.inj led
    exact ⟨(isAbsolute_iff p).mpr first, same⟩

theorem unsplit_prefix {ss ts : List Bytes} (begins : ss <+: ts) : unsplit ss <+: unsplit ts := by
  obtain ⟨rest, rfl⟩ := begins
  induction ss with
  | nil => exact List.nil_prefix
  | cons s ss ih =>
    cases ss with
    | nil =>
      cases rest with
      | nil => exact List.prefix_rfl
      | cons t rest => exact List.prefix_append s _
    | cons t ss =>
      simp only [List.cons_append, unsplit, List.prefix_append_right_inj, List.cons_prefix_cons,
        true_and]
      exact ih

theorem head_append_body (p : Bytes) : head p ++ unsplit (body p) = p := by
  rw [body, unsplit_split]
  rcases head_cases p with ⟨r, rfl⟩ | rfl | ⟨r, rfl⟩ | bare
  · rw [head_slash]
    rfl
  · rfl
  · rw [head_dotSlash]
    rfl
  · rw [bare]
    rfl

theorem ancestors_prefix {p dir : Bytes} (member : dir ∈ ancestors p) : dir <+: p := by
  rw [ancestors, List.mem_append, List.mem_cons, List.mem_map] at member
  rcases member with (rfl | ⟨r, above, rfl⟩) | nothing
  · exact List.prefix_rfl
  · have begins := unsplit_prefix (reverse_prefix_body above)
    have whole := (List.prefix_append_right_inj (head p)).mpr begins
    rwa [head_append_body] at whole
  · split at nothing
    · rw [List.mem_singleton.mp nothing]
      exact List.nil_prefix
    · cases nothing

theorem ancestors_of_isAbsolute {p dir : Bytes} (absolute : isAbsolute p = true)
    (member : dir ∈ ancestors p) : isAbsolute dir = true ∧ names dir <+: names p := by
  have listed : components dir ∈ (ancestors p).map components := List.mem_map_of_mem member
  rw [components_ancestors, if_pos absolute, components_of_isAbsolute absolute, List.inits_cons,
    List.tail_cons, List.mem_reverse, List.mem_map] at listed
  obtain ⟨cs, begins, led⟩ := listed
  obtain ⟨absolute_too, same⟩ := isAbsolute_of_components led.symm
  exact ⟨absolute_too, same ▸ (List.mem_inits cs _).mp begins⟩

theorem names_ancestors {p : Bytes} (absolute : isAbsolute p = true) :
    (ancestors p).map names = (names p).inits.reverse := by
  have tails : (ancestors p).map names = ((ancestors p).map components).map List.tail := by
    rw [List.map_map]
    refine List.map_congr_left fun dir member => ?_
    rw [Function.comp_apply,
      components_of_isAbsolute (ancestors_of_isAbsolute absolute member).1, List.tail_cons]
  rw [tails, components_ancestors, if_pos absolute, components_of_isAbsolute absolute,
    List.inits_cons, List.tail_cons, List.map_reverse, List.map_map]
  simp [Function.comp_def]

theorem head_append_slash {a : Bytes} (some_bytes : a ≠ []) (b : Bytes) :
    head (a ++ slash :: b) = head a := by
  rcases head_cases a with ⟨r, rfl⟩ | rfl | ⟨r, rfl⟩ | bare
  · rw [List.cons_append, head_slash, head_slash]
  · exact head_dotSlash b
  · rw [List.cons_append, List.cons_append, head_dotSlash, head_dotSlash]
  · rw [bare, head_eq_nil_iff]
    obtain rfl | ⟨s, more, parts, proper⟩ := (head_eq_nil_iff a).mp bare
    · exact absurd rfl some_bytes
    · exact .inr ⟨s, more ++ split b, by rw [split_append_slash, parts]; rfl, proper⟩

theorem split_join (base : Bytes) {name : Bytes} (proper : isProper name = true)
    (plain : slash ∉ name) :
    ∃ ss, split (join base name) = ss ++ [name] ∧ ss.filter isProper = names base ∧
      head (join base name) = head base := by
  have relative : isAbsolute name = false := by
    cases name with
    | nil => rfl
    | cons b name =>
      have other : b ≠ slash := fun same => plain (same ▸ List.mem_cons_self)
      simpa [isAbsolute] using other
  have last := split_of_notMem plain
  by_cases nothing : base = []
  · subst nothing
    have joined : join [] name = name := by simp [join]
    rw [joined]
    exact ⟨[], last, rfl, (head_eq_nil_iff name).mpr (.inr ⟨name, [], last, proper⟩)⟩
  by_cases closed : base.getLast? = some slash
  · obtain ⟨a, rfl⟩ := List.getLast?_eq_some_iff.mp closed
    have joined : join (a ++ [slash]) name = a ++ slash :: name := by simp [join, relative]
    rw [joined]
    refine ⟨split a, by rw [split_append_slash, last], ?_, ?_⟩
    · rw [names, split_append_slash, List.filter_append]
      exact (List.append_nil _).symm
    · by_cases alone : a = []
      · rw [alone]
        exact (head_slash name).trans (head_slash []).symm
      · rw [head_append_slash alone, head_append_slash alone]
  · have joined : join base name = base ++ slash :: name := by
      simp [join, relative, nothing, closed]
    rw [joined]
    exact ⟨split base, by rw [split_append_slash, last], rfl, head_append_slash nothing name⟩

/-- To join a name is to add a component at the end. -/
theorem components_join (base : Bytes) {name : Bytes} (proper : isProper name = true)
    (plain : slash ∉ name) : components (join base name) = components base ++ [name] := by
  obtain ⟨ss, parts, kept, same⟩ := split_join base proper plain
  rw [components, front, names, parts, List.filter_append, kept, same, components, front,
    List.append_assoc]
  simp [proper]

end ClangHost.Path
