import Mathlib.Tactic.SplitIfs
import Hostlink.Proofs.Storage.Tree

/-!
# The directories above a path

A path that leads to a file has gone through the directories above it.  The paths to these directories
are the beginnings of the path, and each of them leads to its directory
(`Tree.directory_above_file`).
-/

namespace Hostlink.Storage

variable {pieces pieces' before : List Bytes} {piece : Bytes} {path q : Path}

/-! ## Beginnings of a path -/

namespace Component

theorem ofPiece?_eq_named_iff {name : Name} :
    ofPiece? piece = some (.named name) ↔
      piece ≠ [] ∧ piece ≠ [dot] ∧ piece ≠ [dot, dot] ∧ piece = name := by
  unfold ofPiece?
  split_ifs <;> simp_all

theorem ofPiece?_eq_none_iff : ofPiece? piece = none ↔ piece = [] := by
  unfold ofPiece?
  split_ifs <;> simp_all

end Component

namespace Path

/-- Whether a path is a beginning of another one, up to a piece that is not empty. -/
structure Begins (q path : Path) : Prop where
  ends : ∃ piece before, q.pieces = piece :: before ∧ piece ≠ []
  within : q.pieces <:+ path.pieces

namespace Begins

theorem mono (begins : q.Begins ⟨pieces⟩) (more : pieces <:+ pieces') : q.Begins ⟨pieces'⟩ :=
  ⟨begins.ends, begins.within.trans more⟩

/-- It begins where the path does. -/
theorem absolute (begins : q.Begins path) : q.absolute = path.absolute := by
  obtain ⟨⟨piece, before, shape, leads⟩, after, whole⟩ := begins
  have last : path.pieces.getLast? = q.pieces.getLast? := by
    rw [← whole, List.getLast?_append, shape]
    simp [List.getLast?_cons]
  have short : q.pieces.length ≤ path.pieces.length := by simp [← whole]
  rw [Path.absolute, Path.absolute, last, Bool.eq_iff_iff]
  simp only [Bool.and_eq_true, decide_eq_true_eq]
  constructor
  · rintro ⟨long, root⟩
    exact ⟨by omega, root⟩
  · rintro ⟨-, root⟩
    refine ⟨?_, root⟩
    rw [shape] at root ⊢
    cases before with
    | nil => exact absurd (Option.some.inj root) leads
    | cons _ _ => simp

theorem size_le (begins : q.Begins path) : q.size ≤ path.size := by
  obtain ⟨-, after, whole⟩ := begins
  simp only [size, ← whole, List.flatMap_append, List.length_append]
  omega

theorem components_ne_nil (begins : q.Begins path) : q.components ≠ [] := by
  obtain ⟨⟨piece, before, shape, leads⟩, -⟩ := begins
  rw [components, shape]
  cases some : Component.ofPiece? piece with
  | none => exact absurd (Component.ofPiece?_eq_none_iff.1 some) leads
  | some c => simp [List.filterMap_cons_some some]

end Begins

theorem fault?_eq_none_iff : path.fault? = none ↔
    (∀ piece ∈ path.pieces, zeroByte ∉ piece) ∧
      (path.absolute = false → path.components ≠ []) ∧ path.size ≤ pathLimit := by
  unfold fault?
  split_ifs with zero empty long
  · obtain ⟨piece, there, inside⟩ := List.any_eq_true.1 zero
    exact iff_of_false (by simp) fun plain => plain.1 piece there (List.contains_iff_mem.1 inside)
  all_goals simp_all

/-- It can be taken if the path can. -/
theorem Begins.fault?_eq_none (begins : q.Begins path) (sound : path.fault? = none) :
    q.fault? = none := by
  obtain ⟨plain, -, fits⟩ := fault?_eq_none_iff.1 sound
  exact fault?_eq_none_iff.2 ⟨fun piece there => plain piece (begins.within.subset there),
    fun _ => begins.components_ne_nil, Nat.le_trans begins.size_le fits⟩

end Path

theorem begins_of_mem_prefixes (h : q ∈ prefixes pieces) : q.Begins ⟨pieces⟩ := by
  induction pieces with
  | nil => simp [prefixes] at h
  | cons piece before ih =>
    have later (h : q ∈ prefixes before) : q.Begins ⟨piece :: before⟩ :=
      (ih h).mono (List.suffix_cons _ _)
    rw [prefixes] at h
    cases skipped : isSkipped piece before with
    | true => exact later (by simpa [skipped] using h)
    | false =>
      rw [skipped, if_neg (by simp), List.mem_cons] at h
      obtain rfl | h := h
      · refine ⟨⟨piece, before, rfl, ?_⟩, List.suffix_rfl⟩
        rintro rfl
        simp [isSkipped] at skipped
      · exact later h

/-- The paths to the directories above an entry end where the way to the entry has come through. -/
theorem tail_prefixes {name : Name} {components : List Component}
    (h : pieces.filterMap Component.ofPiece? = .named name :: components) :
    ∃ rest, (prefixes pieces).tail = prefixes rest ∧ rest <:+ pieces ∧
      rest.filterMap Component.ofPiece? = components := by
  induction pieces with
  | nil => simp at h
  | cons piece before ih =>
    cases leads : Component.ofPiece? piece with
    | none =>
      rw [List.filterMap_cons_none leads] at h
      obtain ⟨rest, same, ending, components⟩ := ih h
      refine ⟨rest, ?_, ending.trans (List.suffix_cons _ _), components⟩
      rw [prefixes, if_pos (by simp [isSkipped, Component.ofPiece?_eq_none_iff.1 leads]), same]
    | some c =>
      rw [List.filterMap_cons_some leads] at h
      obtain ⟨rfl, components⟩ := List.cons.inj h
      obtain ⟨full, other, -, -⟩ := Component.ofPiece?_eq_named_iff.1 leads
      refine ⟨before, ?_, List.suffix_cons _ _, components⟩
      rw [prefixes, if_neg (by simp [isSkipped, full, other]), List.tail_cons]

namespace Tree

variable {t : Tree} {base place directory origin : Location} {name : Name}
  {components after : List Component}

/-! ## The way to an entry -/

/-- A way to a directory has gone through directories. -/
theorem walk_of_suffix (h : t.walk origin (after ++ components) = .ok place)
    (holds : t.requireDirectory place = .ok ()) :
    ∃ middle, t.walk origin components = .ok middle ∧ t.requireDirectory middle = .ok () := by
  induction after generalizing place with
  | nil => exact ⟨place, h, holds⟩
  | cons c after ih =>
    obtain ⟨reached, walked, through, -⟩ := walk_cons_eq_ok_iff.1 h
    exact ih walked through

/-- A path whose way ends at a directory leads there. -/
theorem resolve_of_walk (sound : path.fault? = none)
    (walked : t.walk (start base path) path.components = .ok place)
    (holds : t.requireDirectory place = .ok ()) :
    t.resolve base path = .ok (place, .directory) := by
  rw [resolve_eq_ok_iff]
  by_cases named : ∃ name before, path.components = .named name :: before
  · obtain ⟨name, before, shape⟩ := named
    right
    rw [shape] at walked
    obtain ⟨reached, come, through, entered⟩ := walk_cons_eq_ok_iff.1 walked
    obtain ⟨short, rfl, -⟩ := enter_named_eq_ok_iff.1 entered
    exact ⟨reached, name, locate_eq_entry_iff.2 ⟨sound, before, shape, come, through⟩, short, rfl,
      requireDirectory_eq_ok.1 holds, fun _ => rfl⟩
  · left
    have other : ∀ name before, path.components ≠ .named name :: before :=
      fun name before shape => named ⟨name, before, shape⟩
    exact ⟨locate_eq_passed_iff.2 ⟨sound, other, walked⟩, rfl⟩

/-- All the directories above an entry are there. -/
theorem directory_of_mem_above (located : t.locate base path = .ok (.entry directory name))
    (above : q ∈ path.above) : ∃ place, t.resolve base q = .ok (place, .directory) := by
  obtain ⟨sound, components, shape, walked, holds⟩ := locate_eq_entry_iff.1 located
  obtain ⟨rest, tail, ending, same⟩ := tail_prefixes shape
  rw [Path.above, tail] at above
  have inside := begins_of_mem_prefixes above
  have begins : q.Begins path := inside.mono ending
  have origin : start base q = start base path := by rw [start, start, begins.absolute]
  obtain ⟨after, split⟩ : ∃ after, after ++ q.components = components := by
    obtain ⟨front, whole⟩ := inside.within
    refine ⟨front.filterMap Component.ofPiece?, ?_⟩
    rw [Path.components, ← List.filterMap_append, whole, same]
  rw [← split] at walked
  obtain ⟨middle, come, through⟩ := walk_of_suffix walked holds
  rw [← origin] at come
  exact ⟨middle, resolve_of_walk (begins.fault?_eq_none sound) come through⟩

/-- All the directories above a file are there. -/
theorem directory_above_file {index : Nat} (found : t.resolve base path = .ok (place, .file index))
    (above : q ∈ path.above) : ∃ place, t.resolve base q = .ok (place, .directory) := by
  obtain ⟨-, ⟨⟩⟩ | ⟨directory, name, located, -⟩ := resolve_eq_ok_iff.1 found
  exact directory_of_mem_above located above

end Tree
end Hostlink.Storage
