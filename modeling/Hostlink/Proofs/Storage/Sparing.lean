import Hostlink.Proofs.Storage.Tree
import Hostlink.Storage.Handle

/-!
# What making and writing a file spares

Making a file and writing to it leave the rest of the tree alone.  Only directories above the file
and the file itself can be new, and only the file can hold something else than before.  This is said
of the file that the path leads to in the end: a path can go through a directory that is missing and
come back, and then leads somewhere only after the directory has been made.

When the file cannot be replaced, nothing but such directories is new, unless the device has failed:
then the file is there, cut off.
-/

namespace Hostlink.Storage

namespace Tree

variable {t t' t'' : Tree} {base place : Location} {path : Path} {index : Nat}

/-! ## Writing to one file -/

/-- A tree in which nothing has changed but what one file holds, and what the device is still to
do. -/
structure Rewritten (index : Nat) (t t' : Tree) : Prop where
  entries : t'.entries = t.entries
  numbers : t'.contents.next = t.contents.next
  others : ∀ other, other ≠ index → t'.content other = t.content other

namespace Rewritten

theorem refl (index : Nat) (t : Tree) : Rewritten index t t := ⟨rfl, rfl, fun _ _ => rfl⟩

theorem trans (first : Rewritten index t t') (second : Rewritten index t' t'') :
    Rewritten index t t'' where
  entries := second.entries.trans first.entries
  numbers := second.numbers.trans first.numbers
  others := fun other hne => (second.others other hne).trans (first.others other hne)

theorem setContent (t : Tree) (index : Nat) (data : Bytes) :
    Rewritten index t (t.setContent index data) where
  entries := rfl
  numbers := by simp [Tree.setContent]
  others := fun other hne => by
    simp [content, Tree.setContent, Registry.get?_modify_other _ _ (Ne.symm hne)]

theorem putBlock (t : Tree) (index position : Nat) (block : Bytes) :
    Rewritten index t (t.putBlock index position block) :=
  have block := setContent t index (overwrite (t.content index) position (t.uptake.taken block))
  ⟨block.entries, block.numbers, block.others⟩

end Rewritten

/-! ## Sparing -/

/-- A tree without links: every file has contents, and stands at one place. -/
structure Sound (t : Tree) : Prop where
  wellFormed : t.WellFormed
  unlinked : ∀ place place' index, t.entry? place = some (.file index) →
    t.entry? place' = some (.file index) → place = place'

theorem sound_empty : Sound .empty := by
  have none : ∀ place index, Tree.empty.entry? place ≠ some (.file index) := by
    intro place index
    cases place <;> simp [empty, entry?]
  exact ⟨fun place index there => absurd there (none place index),
    fun place _ index here _ => absurd here (none place index)⟩

/-- What is left of a tree when something has been done to the file that a path leads to. -/
structure Spares (base : Location) (path : Path) (t t' : Tree) : Prop where
  /-- No entry has gone. -/
  more : t'.Extends t
  /-- What is new is a directory above the file, or the file. -/
  fresh : ∀ place e, t.entry? place = none → t'.entry? place = some e →
    (∃ q ∈ path.above, e = .directory ∧ t'.resolve base q = .ok (place, .directory)) ∨
      ∃ index, e = .file index ∧ t'.resolve base path = .ok (place, .file index)
  /-- Every other file holds what it held. -/
  kept : ∀ place index, t.entry? place = some (.file index) →
    t'.content index = t.content index ∨ t'.resolve base path = .ok (place, .file index)
  sound : t'.Sound

namespace Spares

theorem trans (first : Spares base path t t') (second : Spares base path t' t'') :
    Spares base path t t'' where
  more := fun place e there => second.more place e (first.more place e there)
  fresh := by
    intro place e none there
    cases before : t'.entry? place with
    | none => exact second.fresh place e before there
    | some e' =>
      obtain rfl : e' = e := Option.some.inj ((second.more _ _ before).symm.trans there)
      obtain ⟨q, hq, kind, found⟩ | ⟨index, kind, found⟩ := first.fresh place e' none before
      · exact .inl ⟨q, hq, kind, second.more.resolve found⟩
      · exact .inr ⟨index, kind, second.more.resolve found⟩
  kept := by
    intro place index there
    obtain same | found := first.kept place index there
    · exact (second.kept place index (first.more _ _ there)).imp_left (·.trans same)
    · exact .inr (second.more.resolve found)
  sound := second.sound

/-- Directories that have been made above the file. -/
theorem of_paved (sound : t.Sound) (paved : Paved base path.above t t') :
    Spares base path t t' where
  more := paved.more
  fresh := fun place e none there => .inl (paved.fresh place e none there)
  kept := fun place index _ => .inl (by rw [content, content, paved.contents])
  sound := {
    wellFormed := paved.wellFormed sound.wellFormed
    unlinked := by
      -- the files are those that there were
      have old : ∀ place index, t'.entry? place = some (.file index) →
          t.entry? place = some (.file index) := by
        intro place index there
        cases before : t.entry? place with
        | none =>
          obtain ⟨_, _, ⟨⟩, _⟩ := paved.fresh place _ before there
        | some e => exact (paved.more _ _ before).symm.trans there
      exact fun place place' index here there =>
        sound.unlinked place place' index (old _ _ here) (old _ _ there) }

/-- Bytes that have been written to the file. -/
theorem of_rewritten (sound : t.Sound) (found : t.resolve base path = .ok (place, .file index))
    (rewritten : Rewritten index t t') : Spares base path t t' where
  more := .of_entries rewritten.entries
  fresh := by
    intro place e none there
    rw [entry?_congr rewritten.entries, none] at there
    cases there
  kept := by
    intro other number there
    by_cases same : number = index
    · obtain rfl := same
      obtain rfl := sound.unlinked _ _ _ there (entry?_of_resolve found)
      exact .inr ((Extends.of_entries rewritten.entries).resolve found)
    · exact .inl (rewritten.others number same)
  sound := {
    wellFormed := fun place number there => by
      rw [entry?_congr rewritten.entries] at there
      rw [rewritten.numbers]
      exact sound.wellFormed place number there
    unlinked := fun place place' number here there => by
      rw [entry?_congr rewritten.entries] at here there
      exact sound.unlinked place place' number here there }

/-- The file, when it has been made. -/
theorem of_create (sound : t.Sound) (h : t.create base path = .ok (index, t')) :
    Spares base path t t' ∧ ∃ place, t'.resolve base path = .ok (place, .file index) := by
  have made := create_made sound.wellFormed h
  obtain ⟨directory, name, located, plain, named, ⟨there, rfl⟩ | ⟨free, rfl, rfl⟩⟩ := create_cases h
  · have found := resolve_eq_file located plain named there
    exact ⟨.of_rewritten sound found (.setContent t index []), _, made.more.resolve found⟩
  · -- the new file has a number that no other file has
    have inserted : ∀ place e, Tree.entry? ({ t with contents := t.contents.insert [] }.insert
        (name :: directory) (.file t.contents.next)) place = some e ↔
          t.entry? place = some e ∨ place = name :: directory ∧ e = .file t.contents.next := by
      intro place e
      have old : ∀ place, Tree.entry? { t with contents := t.contents.insert [] } place =
          t.entry? place := entry?_congr rfl
      rw [entry?_insert_eq_some ((old _).trans free), old]
    have found := resolve_eq_file (made.more.locate located) plain named
      ((inserted _ _).2 (.inr ⟨rfl, rfl⟩))
    have older : ∀ place number, t.entry? place = some (.file number) →
        number ≠ t.contents.next :=
      fun place number there => Nat.ne_of_lt (sound.wellFormed place number there)
    refine ⟨{ more := made.more, fresh := ?_, kept := ?_, sound := ⟨made.wellFormed, ?_⟩ }, _, found⟩
    · intro place e none there
      obtain old | ⟨rfl, rfl⟩ := (inserted place e).1 there
      · simp [none] at old
      · exact .inr ⟨_, rfl, found⟩
    · intro place number there
      left
      simp [content, insert, Registry.get?_insert_of_ne _ _ (older place number there)]
    · intro place place' number here there
      obtain old | ⟨rfl, new⟩ := (inserted _ _).1 here <;>
        obtain old' | ⟨rfl, new'⟩ := (inserted _ _).1 there
      · exact sound.unlinked _ _ _ old old'
      · exact absurd (TreeEntry.file.inj new') (older _ _ old)
      · exact absurd (TreeEntry.file.inj new) (older _ _ old')
      · rfl

end Spares

/-! ## Failing -/

/-- Whether the device will fail in some way at one of the blocks to come. -/
def Fails (t : Tree) (fault : IoFault) : Prop := ∃ u ∈ t.device, u.fault? = some fault

/-- Whether a file is the one that a path leads to, and has got only a beginning of the data because
the device has failed. -/
structure CutOff (base : Location) (path : Path) (data : Bytes) (fault : IoFault) (t t' : Tree)
    (place : Location) (index : Nat) : Prop where
  fails : t.Fails fault
  found : t'.resolve base path = .ok (place, .file index)
  beginning : t'.content index <+: data

/-- What is left of a tree when the file that a path leads to could not be replaced. -/
structure Remains (base : Location) (path : Path) (data : Bytes) (fault : IoFault) (t t' : Tree) :
    Prop where
  /-- No entry has gone. -/
  more : t'.Extends t
  /-- What is new is a directory above the file, or the file, cut off. -/
  fresh : ∀ place e, t.entry? place = none → t'.entry? place = some e →
    (∃ q ∈ path.above, e = .directory ∧ t'.resolve base q = .ok (place, .directory)) ∨
      ∃ index, e = .file index ∧ CutOff base path data fault t t' place index
  /-- Every file that is not cut off holds what it held. -/
  kept : ∀ place index, t.entry? place = some (.file index) →
    t'.content index = t.content index ∨ CutOff base path data fault t t' place index

variable {data : Bytes} {fault : IoFault}

/-- A failure before there is the file to write to. -/
theorem Remains.of_paved (paved : Paved base path.above t t') :
    Remains base path data fault t t' where
  more := paved.more
  fresh := fun place e none there => .inl (paved.fresh place e none there)
  kept := fun place index _ => .inl (by rw [content, content, paved.contents])

/-- A failure of the device. -/
theorem Remains.of_spares (spares : Spares base path t t') (fails : t.Fails fault)
    (beginning : ∀ place index, t'.resolve base path = .ok (place, .file index) →
      t'.content index <+: data) : Remains base path data fault t t' where
  more := spares.more
  fresh := by
    intro place e none there
    refine (spares.fresh place e none there).imp_right ?_
    rintro ⟨index, kind, found⟩
    exact ⟨index, kind, fails, found, beginning place index found⟩
  kept := by
    intro place index there
    exact (spares.kept place index there).imp_right fun found =>
      ⟨fails, found, beginning place index found⟩

end Tree

/-! ## Writing, block by block -/

namespace OpenFile

variable {f : OpenFile} {t : Tree} {index : Nat} {fault : IoFault} {data : Bytes}

/-- Whether a file may yet report a failure: one that is pending, or one of the device. -/
def Owes (f : OpenFile) (t : Tree) (fault : IoFault) : Prop := f.pending = some fault ∨ t.Fails fault

/-- What a block does to a file that is open for writing. -/
theorem writeBlock_eq (writes : f.mode = .writing) (file : f.entry = .file index) (t : Tree)
    (block : Bytes) : f.writeBlock t block =
      ({ f with position := f.position + (t.uptake.taken block).length, pending := t.uptake.fault? },
        t.putBlock index f.position block) := by
  simp [writeBlock, writes, file]

/-- A block only brings failures of the device. -/
theorem owes_writeBlock (writes : f.mode = .writing) (file : f.entry = .file index) {block : Bytes}
    (h : (f.writeBlock t block).1.Owes (f.writeBlock t block).2 fault) : t.Fails fault := by
  rw [writeBlock_eq writes file] at h
  obtain now | ⟨u, later, fails⟩ := h
  · simp only [Tree.uptake] at now
    cases hd : t.device with
    | nil => simp [hd, Uptake.fault?] at now
    | cons u rest => exact ⟨u, by simp [hd], by simpa [hd] using now⟩
  · exact ⟨u, List.mem_of_mem_tail later, fails⟩

/-- A write changes nothing but what its file holds. -/
theorem writeAll_rewritten (writes : f.mode = .writing) (file : f.entry = .file index) (t : Tree)
    (data : Bytes) : Tree.Rewritten index t (f.writeAll t data).2.2 := by
  fun_induction f.writeAll t data with
  | case1 f t => exact .refl index t
  | case2 f t data _ fault => exact .refl index t
  | case3 f t data _ plain f₁ t₁ written ih =>
    rw [writeBlock_eq writes file, Prod.mk.injEq] at written
    obtain ⟨rfl, rfl⟩ := written
    exact (Tree.Rewritten.putBlock t index f.position _).trans (ih writes file)

/-- The failures that a write reports or leaves behind were due before. -/
theorem owes_writeAll (writes : f.mode = .writing) (file : f.entry = .file index)
    (h : (f.writeAll t data).1 = .error fault ∨
      (f.writeAll t data).2.1.Owes (f.writeAll t data).2.2 fault) : f.Owes t fault := by
  fun_induction f.writeAll t data with
  | case1 f t => exact h.resolve_left (by simp)
  | case2 f t data _ found pending =>
    obtain same | none | later := h
    · exact .inl (by rw [pending, Except.error.inj same])
    · simp at none
    · exact .inr later
  | case3 f t data _ plain f₁ t₁ written ih =>
    have block : f.writeBlock t (data.take blockSize) = (f₁, t₁) := written
    have same := block
    rw [writeBlock_eq writes file, Prod.mk.injEq] at same
    have due := ih (by rw [← same.1]; exact writes) (by rw [← same.1]; exact file) h
    exact .inr (owes_writeBlock writes file (by rwa [block]))

end OpenFile
end Hostlink.Storage
