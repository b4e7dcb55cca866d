import Hostlink.Storage.Tree

/-!
# Making files

A tree that gets more entries still has the ones that it had, so every way that led somewhere leads
to the same place.  A file that has been made is found under its path, and holds nothing at first.
-/

namespace Hostlink.Storage.Tree

variable {t t' : Tree} {base place directory : Location} {path : Path}

/-- Whether every file has contents under its number. -/
def WellFormed (t : Tree) : Prop :=
  ∀ place index, t.entry? place = some (.file index) → index < t.contents.next

/-- Whether a tree has all the entries that another one has. -/
def Extends (t' t : Tree) : Prop := ∀ place e, t.entry? place = some e → t'.entry? place = some e

/-- Below the root the entries say what stands at a place. -/
theorem entry?_cons (t : Tree) (name : Name) (above : Location) :
    t.entry? (name :: above) = (t.entries.find? (·.1 = name :: above)).map (·.2) := rfl

/-! ## Ways that lead somewhere -/

theorem Extends.refl (t : Tree) : t.Extends t := fun _ _ h => h

theorem entry?_congr (same : t'.entries = t.entries) (place : Location) :
    t'.entry? place = t.entry? place := by
  cases place with
  | nil => rfl
  | cons name above => simp only [entry?_cons, same]

theorem Extends.of_entries (same : t'.entries = t.entries) : t'.Extends t :=
  fun place _ h => (entry?_congr same place).trans h

theorem requireDirectory_eq_ok :
    t.requireDirectory place = .ok () ↔ t.entry? place = some .directory := by
  unfold requireDirectory
  split <;> simp_all

theorem Extends.requireDirectory (more : t'.Extends t) (h : t.requireDirectory place = .ok ()) :
    t'.requireDirectory place = .ok () :=
  requireDirectory_eq_ok.2 (more _ _ (requireDirectory_eq_ok.1 h))

/-- A name leads to what has it, if an entry can have it. -/
theorem enter_named_eq_ok_iff {name : Name} :
    t.enter directory (.named name) = .ok place ↔
      requireName name = .ok () ∧ place = name :: directory ∧ (t.entry? place).isSome := by
  simp only [Tree.enter, bind, Except.bind]
  cases requireName name <;> grind

/-- Every component leads on from a directory. -/
theorem walk_cons_eq_ok_iff {origin : Location} {c : Component} {before : List Component} :
    t.walk origin (c :: before) = .ok place ↔ ∃ reached, t.walk origin before = .ok reached ∧
      t.requireDirectory reached = .ok () ∧ t.enter reached c = .ok place := by
  simp only [Tree.walk, bind, Except.bind]
  cases t.walk origin before with
  | error fault => simp
  | ok reached => cases hd : t.requireDirectory reached <;> simp [hd]

/-- A path ends at an entry if its last component is a name and the others lead to a directory. -/
theorem locate_eq_entry_iff {name : Name} :
    t.locate base path = .ok (.entry directory name) ↔ path.fault? = none ∧
      ∃ before, path.components = .named name :: before ∧
        t.walk (start base path) before = .ok directory ∧
        t.requireDirectory directory = .ok () := by
  unfold Tree.locate
  cases path.fault? with
  | some fault => simp
  | none =>
    simp only [bind, Except.bind, pure, Except.pure, true_and]
    split
    next last before shape =>
      cases hw : t.walk (start base path) before with
      | error fault => grind
      | ok reached => cases hd : t.requireDirectory reached <;> grind
    next other => cases t.walk (start base path) path.components <;> grind

/-- A path that does not end with a name has gone through the place where it ends. -/
theorem locate_eq_passed_iff :
    t.locate base path = .ok (.passed place) ↔ path.fault? = none ∧
      (∀ name before, path.components ≠ .named name :: before) ∧
        t.walk (start base path) path.components = .ok place := by
  unfold Tree.locate
  cases path.fault? with
  | some fault => simp
  | none =>
    simp only [bind, Except.bind, pure, Except.pure, true_and]
    split
    next last before shape =>
      cases hw : t.walk (start base path) before with
      | error fault => grind
      | ok reached => cases hd : t.requireDirectory reached <;> grind
    next other => cases t.walk (start base path) path.components <;> grind

theorem Extends.enter (more : t'.Extends t) {c : Component}
    (h : t.enter directory c = .ok place) : t'.enter directory c = .ok place := by
  cases c with
  | here | up => exact h
  | named name =>
    obtain ⟨named, rfl, there⟩ := enter_named_eq_ok_iff.1 h
    obtain ⟨e, he⟩ := Option.isSome_iff_exists.1 there
    exact enter_named_eq_ok_iff.2 ⟨named, rfl, by rw [more _ _ he]; rfl⟩

/-- A walk ends where it did. -/
theorem Extends.walk (more : t'.Extends t) {origin : Location} {components : List Component}
    (h : t.walk origin components = .ok place) : t'.walk origin components = .ok place := by
  induction components generalizing place with
  | nil => exact h
  | cons c before ih =>
    obtain ⟨reached, walked, holds, entered⟩ := walk_cons_eq_ok_iff.1 h
    exact walk_cons_eq_ok_iff.2
      ⟨reached, ih walked, more.requireDirectory holds, more.enter entered⟩

/-- A path ends where it did. -/
theorem Extends.locate (more : t'.Extends t) {spot : Spot} (h : t.locate base path = .ok spot) :
    t'.locate base path = .ok spot := by
  cases spot with
  | passed place =>
    obtain ⟨sound, other, walked⟩ := locate_eq_passed_iff.1 h
    exact locate_eq_passed_iff.2 ⟨sound, other, more.walk walked⟩
  | entry directory name =>
    obtain ⟨sound, before, shape, walked, holds⟩ := locate_eq_entry_iff.1 h
    exact locate_eq_entry_iff.2
      ⟨sound, before, shape, more.walk walked, more.requireDirectory holds⟩

/-- A path leads to a directory that it has gone through, or to an entry that is there; to a file only
if no separator follows. -/
theorem resolve_eq_ok_iff {e : TreeEntry} :
    t.resolve base path = .ok (place, e) ↔
      t.locate base path = .ok (.passed place) ∧ e = .directory ∨
      ∃ directory name, t.locate base path = .ok (.entry directory name) ∧
        requireName name = .ok () ∧ place = name :: directory ∧ t.entry? place = some e ∧
        (path.trailing = true → e = .directory) := by
  simp only [resolve, bind, Except.bind, pure, Except.pure]
  cases t.locate base path with
  | error fault => grind
  | ok spot =>
    cases spot with
    | passed place' => grind
    | entry directory name =>
      cases hn : requireName name with
      | error fault => grind
      | ok _ =>
        cases he : t.entry? (name :: directory) with
        | none => grind
        | some there => cases there <;> grind

theorem find_eq_ok_iff {e : TreeEntry} :
    t.find base path = .ok e ↔ ∃ place, t.resolve base path = .ok (place, e) := by
  rw [find]
  cases t.resolve base path with
  | error fault => simp [Functor.map, Except.map]
  | ok found => cases found; simp [Functor.map, Except.map]

/-- What a path leads to stands where it was. -/
theorem Extends.resolve (more : t'.Extends t) {e : TreeEntry}
    (h : t.resolve base path = .ok (place, e)) : t'.resolve base path = .ok (place, e) := by
  rw [resolve_eq_ok_iff] at h ⊢
  obtain ⟨located, rfl⟩ | ⟨directory, name, located, named, rfl, there, plain⟩ := h
  · exact .inl ⟨more.locate located, rfl⟩
  · exact .inr ⟨directory, name, more.locate located, named, rfl, more _ _ there, plain⟩

/-- A file that a path leads to stands there. -/
theorem entry?_of_resolve {index : Nat} (h : t.resolve base path = .ok (place, .file index)) :
    t.entry? place = some (.file index) := by
  rw [resolve_eq_ok_iff] at h
  obtain ⟨-, ⟨⟩⟩ | ⟨-, -, -, -, -, there, -⟩ := h
  exact there

/-- What a path leads to stands at some place, and the path leads to it in every tree with more. -/
theorem find_cases {e : TreeEntry} (h : t.find base path = .ok e) :
    (∃ place, t.entry? place = some e) ∧ ∀ t' : Tree, t'.Extends t → t'.find base path = .ok e := by
  obtain ⟨place, found⟩ := find_eq_ok_iff.1 h
  refine ⟨?_, fun t' more => find_eq_ok_iff.2 ⟨place, more.resolve found⟩⟩
  cases e with
  | directory => exact ⟨[], rfl⟩
  | file index => exact ⟨place, entry?_of_resolve found⟩

/-! ## Changes of the tree -/

theorem entry?_setContent (t : Tree) (index : Nat) (data : Bytes) :
    Tree.entry? (t.setContent index data) place = t.entry? place :=
  entry?_congr rfl place

theorem content_setContent {index : Nat} (there : index < t.contents.next) (data : Bytes) :
    (t.setContent index data).content index = data := by
  have found : (t.contents.get? index).isSome := by
    simpa [Registry.get?, Registry.next] using there
  obtain ⟨old, hold⟩ := Option.isSome_iff_exists.1 found
  simp [content, setContent, hold]

theorem entry?_insert (t : Tree) (e : TreeEntry) (h : t.entry? place = none) :
    Tree.entry? (t.insert place e) place = some e := by
  cases place with
  | nil => cases h
  | cons name above =>
    simp only [entry?_cons, Option.map_eq_none_iff] at h
    simp [entry?_cons, insert, List.find?_append, h]

theorem entry?_insert_of_ne (t : Tree) (e : TreeEntry) {other : Location} (hne : other ≠ place) :
    Tree.entry? (t.insert place e) other = t.entry? other := by
  cases other with
  | nil => rfl
  | cons name above =>
    simp [entry?_cons, insert, List.find?_append, Ne.symm hne]

/-- With a new entry there is this one besides those of before. -/
theorem entry?_insert_eq_some {e e' : TreeEntry} (h : t.entry? place = none) {other : Location} :
    Tree.entry? (t.insert place e) other = some e' ↔
      t.entry? other = some e' ∨ other = place ∧ e' = e := by
  by_cases hne : other = place
  · subst hne
    simp [entry?_insert t e h, h, eq_comm]
  · simp [entry?_insert_of_ne t e hne, hne]

/-- A new entry takes nothing away. -/
theorem extends_insert (t : Tree) (e : TreeEntry) (h : t.entry? place = none) :
    (t.insert place e).Extends t :=
  fun _ _ there => (entry?_insert_eq_some h).2 (.inl there)

theorem WellFormed.insert_directory (wf : t.WellFormed) (h : t.entry? place = none) :
    (t.insert place .directory).WellFormed := by
  intro other index there
  obtain old | ⟨-, ⟨⟩⟩ := (entry?_insert_eq_some h).1 there
  exact wf other index old

/-! ## Making -/

/-- What making a file does: it is found under its path and holds nothing, and all the other entries
are still there. -/
structure Made (t : Tree) (base : Location) (path : Path) (index : Nat) (t' : Tree) : Prop where
  found : t'.find base path = .ok (.file index)
  backed : index < t'.contents.next
  vacant : t'.content index = []
  more : t'.Extends t
  wellFormed : t'.WellFormed

/-- A path to an entry of a directory that is a file is found. -/
theorem resolve_eq_file {name : Name} {index : Nat}
    (located : t.locate base path = .ok (.entry directory name)) (plain : path.trailing = false)
    (named : requireName name = .ok ()) (there : t.entry? (name :: directory) = some (.file index)) :
    t.resolve base path = .ok (name :: directory, .file index) :=
  resolve_eq_ok_iff.2 (.inr ⟨directory, name, located, named, rfl, there, by simp [plain]⟩)

/-- Making a file either empties the one that is there or adds one. -/
theorem create_cases {index : Nat} (h : t.create base path = .ok (index, t')) :
    ∃ directory name, t.locate base path = .ok (.entry directory name) ∧ path.trailing = false ∧
      requireName name = .ok () ∧
      (t.entry? (name :: directory) = some (.file index) ∧ t' = t.setContent index [] ∨
        t.entry? (name :: directory) = none ∧ index = t.contents.next ∧
          t' = { t with contents := t.contents.insert [] }.insert (name :: directory)
            (.file index)) := by
  simp only [create, bind, Except.bind] at h
  cases hl : t.locate base path with
  | error fault => simp [hl] at h
  | ok spot =>
    cases spot with
    | passed place => simp [hl] at h
    | entry directory name =>
      cases ht : path.trailing with
      | true => simp [hl, ht] at h
      | false =>
        cases hn : requireName name with
        | error fault => simp [hl, ht, hn] at h
        | ok _ =>
          refine ⟨directory, name, rfl, rfl, hn, ?_⟩
          cases he : t.entry? (name :: directory) with
          | none =>
            have made := by simpa [hl, ht, hn, he, pure, Except.pure] using h
            exact .inr ⟨rfl, made.1.symm, by rw [← made.2, made.1]⟩
          | some e =>
            cases e with
            | directory => simp [hl, ht, hn, he] at h
            | file found =>
              obtain ⟨rfl, rfl⟩ := by simpa [hl, ht, hn, he, pure, Except.pure] using h
              exact .inl ⟨rfl, rfl⟩

theorem create_device {index : Nat} (h : t.create base path = .ok (index, t')) :
    t'.device = t.device := by
  obtain ⟨-, -, -, -, -, ⟨-, rfl⟩ | ⟨-, -, rfl⟩⟩ := create_cases h <;> rfl

theorem create_made (wf : t.WellFormed) {index : Nat} (h : t.create base path = .ok (index, t')) :
    Made t base path index t' := by
  obtain ⟨directory, name, located, plain, named, ⟨there, rfl⟩ | ⟨free, rfl, rfl⟩⟩ := create_cases h
  · -- the file that is there has been emptied
    have backed := wf _ _ there
    have more : (t.setContent index []).Extends t := .of_entries rfl
    exact {
      found := find_eq_ok_iff.2 ⟨_, resolve_eq_file (more.locate located) plain named (more _ _ there)⟩
      backed := by simpa [setContent] using backed
      vacant := content_setContent backed []
      more := more
      wellFormed := fun place other h => by
        rw [entry?_setContent] at h
        simpa [setContent] using wf place other h }
  · -- the new file has the next number
    have wider : ({ t with contents := t.contents.insert [] } : Tree).Extends t := .of_entries rfl
    have free' : Tree.entry? { t with contents := t.contents.insert [] } (name :: directory) = none :=
      free
    have more := extends_insert _ (.file t.contents.next) free'
    have there := entry?_insert _ (.file t.contents.next) free'
    exact {
      found := find_eq_ok_iff.2
        ⟨_, resolve_eq_file (more.locate (wider.locate located)) plain named there⟩
      backed := by simp [insert]
      vacant := by simp [insert, content]
      more := fun place e h => more place e (wider place e h)
      wellFormed := fun place other h => by
        simp only [insert, Registry.next_insert]
        obtain old | ⟨-, ⟨⟩⟩ := (entry?_insert_eq_some free').1 h
        · have := wf place other ((entry?_congr rfl place).symm.trans old)
          omega
        · omega }

/-- Making a directory adds it. -/
theorem makeDirectory_cases (h : t.makeDirectory base path = .ok t') :
    ∃ directory name, t.locate base path = .ok (.entry directory name) ∧
      requireName name = .ok () ∧ t.entry? (name :: directory) = none ∧
      t' = t.insert (name :: directory) .directory := by
  simp only [makeDirectory, bind, Except.bind] at h
  cases hl : t.locate base path with
  | error fault => simp [hl] at h
  | ok spot =>
    cases spot with
    | passed place => simp [hl] at h
    | entry directory name =>
      cases hn : requireName name with
      | error fault => simp [hl, hn] at h
      | ok _ =>
        cases he : t.entry? (name :: directory) with
        | none =>
          obtain rfl := by simpa [hl, hn, he, pure, Except.pure] using h
          exact ⟨directory, name, rfl, hn, he, rfl⟩
        | some e => simp [hl, hn, he] at h

/-- A tree after directories have been made in it: no entry has gone, and no file has changed. -/
structure Grown (t t' : Tree) : Prop where
  more : t'.Extends t
  contents : t'.contents = t.contents
  wellFormed : t.WellFormed → t'.WellFormed

theorem Grown.refl (t : Tree) : Grown t t := ⟨.refl t, rfl, id⟩

theorem Grown.trans {t'' : Tree} (first : Grown t t') (second : Grown t' t'') : Grown t t'' where
  more := fun place e h => second.more place e (first.more place e h)
  contents := second.contents.trans first.contents
  wellFormed := second.wellFormed ∘ first.wellFormed

/-- A tree after directories have been made in it that `paths` lead to. -/
structure Paved (base : Location) (paths : List Path) (t t' : Tree) : Prop extends Grown t t' where
  device : t'.device = t.device
  fresh : ∀ place e, t.entry? place = none → t'.entry? place = some e →
    ∃ q ∈ paths, e = .directory ∧ t'.resolve base q = .ok (place, .directory)

namespace Paved

variable {t'' : Tree} {paths : List Path}

theorem refl (base : Location) (paths : List Path) (t : Tree) : Paved base paths t t where
  toGrown := .refl t
  device := rfl
  fresh := fun place e none some => by simp [none] at some

theorem trans (first : Paved base paths t t') (second : Paved base paths t' t'') :
    Paved base paths t t'' where
  toGrown := first.toGrown.trans second.toGrown
  device := second.device.trans first.device
  fresh := by
    intro place e none there
    cases before : t'.entry? place with
    | none => exact second.fresh place e before there
    | some e' =>
      obtain rfl : e' = e := Option.some.inj ((second.more _ _ before).symm.trans there)
      obtain ⟨q, hq, kind, found⟩ := first.fresh place e' none before
      exact ⟨q, hq, kind, second.more.resolve found⟩

/-- Directories that some paths lead to are directories that one of more paths leads to. -/
theorem cons (paved : Paved base paths t t') (path : Path) : Paved base (path :: paths) t t' where
  toGrown := paved.toGrown
  device := paved.device
  fresh := by
    intro place e none there
    obtain ⟨q, hq, rest⟩ := paved.fresh place e none there
    exact ⟨q, List.mem_cons_of_mem _ hq, rest⟩

end Paved

/-- Making a directory adds the one that the path leads to. -/
theorem makeDirectory_paved (h : t.makeDirectory base path = .ok t') (above : List Path) :
    Paved base (path :: above) t t' := by
  obtain ⟨directory, name, located, named, free, rfl⟩ := makeDirectory_cases h
  have more := extends_insert t .directory free
  have there := entry?_insert t .directory free
  refine ⟨⟨more, rfl, fun wf => wf.insert_directory free⟩, rfl, ?_⟩
  intro place e none some
  obtain old | ⟨rfl, rfl⟩ := (entry?_insert_eq_some free).1 some
  · simp [none] at old
  exact ⟨path, by simp, rfl, resolve_eq_ok_iff.2
    (.inr ⟨directory, name, more.locate located, named, rfl, there, fun _ => rfl⟩)⟩

/-- Making directories only adds some that the paths lead to, also where it fails. -/
theorem makeDirectories_paved (t : Tree) (base : Location) (paths : List Path) :
    Paved base paths t (t.makeDirectories base paths).2 := by
  induction paths generalizing t with
  | nil => exact .refl base [] t
  | cons path above ih =>
    simp only [makeDirectories]
    cases first : t.makeDirectory base path with
    | ok made => exact makeDirectory_paved first above
    | error fault =>
      cases fault with
      | notFound =>
        have holders := (ih t).cons path
        cases made : t.makeDirectories base above with
        | mk result t₁ =>
          rw [made] at holders
          cases result with
          | error fault => simpa [made] using holders
          | ok _ =>
            cases again : t₁.makeDirectory base path with
            | error fault => simpa [made, again] using holders
            | ok t₂ => simpa [made, again] using holders.trans (makeDirectory_paved again above)
      | _ => exact .refl base _ t

/-- Making a file with its parents fails when only directories have been made, or goes well with a
file made among these. -/
theorem createWithParents_cases {result : Except IoFault Nat}
    (h : t.createWithParents base path = (result, t')) :
    (∃ fault, result = .error fault) ∧ Paved base path.above t t' ∨
      ∃ index t₁, result = .ok index ∧ Paved base path.above t t₁ ∧
        t₁.create base path = .ok (index, t') := by
  have paved := makeDirectories_paved t base path.above
  cases hm : t.makeDirectories base path.above with
  | mk made t₁ =>
    rw [hm] at paved
    cases made with
    | error fault =>
      obtain ⟨rfl, rfl⟩ : .error fault = result ∧ t₁ = t' := by
        simpa [createWithParents, hm] using h
      exact .inl ⟨⟨fault, rfl⟩, paved⟩
    | ok _ =>
      cases hc : t₁.create base path with
      | error fault =>
        obtain ⟨rfl, rfl⟩ : .error fault = result ∧ t₁ = t' := by
          simpa [createWithParents, hm, hc] using h
        exact .inl ⟨⟨fault, rfl⟩, paved⟩
      | ok created =>
        obtain ⟨rfl, rfl⟩ : .ok created.1 = result ∧ created.2 = t' := by
          simpa [createWithParents, hm, hc] using h
        exact .inr ⟨created.1, t₁, rfl, paved, hc⟩

/-- Making a file, in directories that are made if need be. -/
theorem createWithParents_made (wf : t.WellFormed) {index : Nat}
    (h : t.createWithParents base path = (.ok index, t')) : Made t base path index t' := by
  obtain ⟨⟨fault, ⟨⟩⟩, -⟩ | ⟨_, t₁, ⟨⟩, paved, created⟩ := createWithParents_cases h
  have one := create_made (paved.wellFormed wf) created
  exact { one with more := fun place e h => one.more place e (paved.more place e h) }

end Hostlink.Storage.Tree
