import ClangHost.Files.Tree
import ClangHost.Proofs.Components
import Mathlib.Tactic.Tauto

/-!
Segments followed through a tree, one step at a time (`follow_cons_iff`). Segments that say nothing
lead nowhere (`follow_filter`), and names alone lead downward (`follow_down`).
-/
namespace ClangHost

def Files.DirectoryAt (f : Files) (here : Location) : Prop :=
  ∃ t, f.root.at? here = some t ∧ t.isDirectory = true

inductive Files.Leads (f : Files) (here : Location) (s : Bytes) : Location → Prop where
  | stay : Path.isProper s = false → f.Leads here s here
  | up : s = Path.up → f.Leads here s here.dropLast
  | down (t : FileTree) : Path.isProper s = true → s ≠ Path.up → s.length ≤ FileTree.nameLimit →
      f.root.at? here = some t → (t.child? s).isSome = true → f.Leads here s (here ++ [s])

namespace Files

variable {f : Files} {here there : Location} {s : Bytes} {ss ts : List Bytes}

theorem Leads.of_trivial {next : Location} (leads : f.Leads here s next)
    (trivial : Path.isProper s = false) : next = here := by
  cases leads with
  | stay => rfl
  | up upward =>
    subst upward
    cases trivial
  | down t proper => exact absurd proper (by simp [trivial])

theorem Leads.length_le {next : Location} (leads : f.Leads here s next) :
    next.length ≤ here.length + 1 := by
  cases leads with
  | stay => omega
  | up => simp; omega
  | down => simp

theorem follow_cons_iff :
    f.follow here (s :: ss) = .ok there ↔
      f.DirectoryAt here ∧ ∃ next, f.Leads here s next ∧ f.follow next ss = .ok there := by
  rw [follow]
  cases found : f.root.at? here with
  | none => simp [DirectoryAt, found]
  | some t =>
    cases directory : t.isDirectory with
    | false => simp [DirectoryAt, found, directory]
    | true =>
      have stands : f.DirectoryAt here := ⟨t, found, directory⟩
      simp only [directory, Bool.not_true, Bool.false_eq_true, if_false, stands, true_and]
      constructor
      · intro followed
        split_ifs at followed with trivial upward long missing
        · exact ⟨here, .stay (by simp [Path.isProper, trivial]), followed⟩
        · exact ⟨_, .up upward, followed⟩
        · exact ⟨_, .down t (by simp [Path.isProper, trivial]) upward (Nat.not_lt.mp long) found
            (by simpa [Option.isSome_iff_ne_none] using missing), followed⟩
      · rintro ⟨next, leads, followed⟩
        cases leads with
        | stay trivial =>
          rw [if_pos (by simpa [Path.isProper] using trivial)]
          exact followed
        | up upward =>
          subst upward
          exact followed
        | down u proper other short same child =>
          cases found.symm.trans same
          rw [if_neg (by simpa [Path.isProper] using proper), if_neg other,
            if_neg (Nat.not_lt.mpr short), if_neg (by simp [Option.isNone_eq_false_iff.mpr child])]
          exact followed

theorem follow_append_iff :
    f.follow here (ss ++ ts) = .ok there ↔
      ∃ next, f.follow here ss = .ok next ∧ f.follow next ts = .ok there := by
  induction ss generalizing here with
  | nil => simp [follow]
  | cons s ss ih =>
    simp only [List.cons_append, follow_cons_iff, ih]
    tauto

theorem follow_filter (followed : f.follow here ss = .ok there) :
    f.follow here (ss.filter Path.isProper) = .ok there := by
  induction ss generalizing here with
  | nil => exact followed
  | cons s ss ih =>
    obtain ⟨stands, next, leads, followed⟩ := follow_cons_iff.mp followed
    have rest := ih followed
    cases proper : Path.isProper s with
    | false =>
      rw [List.filter_cons_of_neg (by simp [proper])]
      rwa [leads.of_trivial proper] at rest
    | true =>
      rw [List.filter_cons_of_pos proper]
      exact follow_cons_iff.mpr ⟨stands, next, leads, rest⟩

/-- Before a last name they can also be put in. -/
theorem follow_snoc_iff {name : Bytes} :
    f.follow here (ss ++ [name]) = .ok there ↔
      f.follow here (ss.filter Path.isProper ++ [name]) = .ok there := by
  induction ss generalizing here with
  | nil => exact Iff.rfl
  | cons s ss ih =>
    cases proper : Path.isProper s with
    | true =>
      rw [List.filter_cons_of_pos proper]
      simp only [List.cons_append, follow_cons_iff, ih]
    | false =>
      rw [List.filter_cons_of_neg (by simp [proper]), List.cons_append, follow_cons_iff]
      constructor
      · rintro ⟨_, next, leads, followed⟩
        rw [leads.of_trivial proper] at followed
        exact ih.mp followed
      · intro followed
        -- Something is still to come, so that one stands in a directory.
        have stands : f.DirectoryAt here := by
          cases rest : ss.filter Path.isProper ++ [name] with
          | nil => simp at rest
          | cons t ts => exact (follow_cons_iff.mp (rest ▸ followed)).1
        exact ⟨stands, here, .stay proper, ih.mpr followed⟩

theorem follow_down (proper : ∀ s ∈ ss, Path.isProper s = true) (down : Path.up ∉ ss)
    (followed : f.follow here ss = .ok there) : there = here ++ ss := by
  induction ss generalizing here with
  | nil =>
    cases followed
    simp
  | cons s ss ih =>
    obtain ⟨_, next, leads, followed⟩ := follow_cons_iff.mp followed
    have rest := ih (fun t member => proper t (List.mem_cons_of_mem s member))
      (fun member => down (List.mem_cons_of_mem s member)) followed
    cases leads with
    | stay trivial => simp [proper s List.mem_cons_self] at trivial
    | up upward => exact absurd (upward ▸ List.mem_cons_self) down
    | down => simpa using rest

theorem at?_append (t : FileTree) (ss ts : Location) :
    t.at? (ss ++ ts) = (t.at? ss).bind fun u => u.at? ts := by
  induction ss generalizing t with
  | nil => rfl
  | cons s ss ih =>
    simp only [List.cons_append, FileTree.at?, Option.bind_assoc, ih]

def Admitted (p : Bytes) : Prop :=
  0 ∉ p ∧ p.isEmpty = false ∧ p.length < FileTree.pathLimit

theorem locate_eq_ok_iff_follow {p : Bytes} : f.locate p = .ok there ↔
    Admitted p ∧
      f.follow (if Path.isAbsolute p then [] else f.current) (Path.split p) = .ok there := by
  rw [locate]
  generalize (if Path.isAbsolute p then [] else f.current) = start
  split_ifs with nul blank long
  · simp [Admitted, nul]
  · simp [Admitted, blank]
  · simp [Admitted, Nat.not_lt.mpr long]
  · simp only [Admitted, nul, blank, Nat.lt_of_not_ge long, not_false_eq_true, true_and]

theorem locate_eq_ok_iff {p : Bytes} (absolute : Path.isAbsolute p = true) :
    f.locate p = .ok there ↔
      0 ∉ p ∧ p.length < FileTree.pathLimit ∧ f.follow [] (Path.split p) = .ok there := by
  have some_bytes : p.isEmpty = false := by
    cases p with
    | nil => cases absolute
    | cons => rfl
  simp [locate_eq_ok_iff_follow, Admitted, some_bytes, absolute, and_assoc]

end Files

end ClangHost
