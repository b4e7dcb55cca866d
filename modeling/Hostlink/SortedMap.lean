/-!
# Sorted maps

Values by key, each key once, kept in the order of the keys.  A map is therefore known by what it
gives for each key, whatever the order in which it was filled.

`get?_modify_self` and `get?_modify_of_ne` say what a change does to the values, and
`toList_modify` where it does so.
-/

namespace Hostlink

/-- A strict order in which one of two different keys comes before the other. -/
class KeyOrder (κ : Type) where
  before : κ → κ → Bool
  before_irrefl (a : κ) : before a a = false
  before_trans {a b c : κ} : before a b = true → before b c = true → before a c = true
  eq_of_not_before {a b : κ} : before a b = false → before b a = false → a = b

open KeyOrder

instance : KeyOrder String where
  before a b := a < b
  before_irrefl a := by simp
  before_trans h g := by
    rw [decide_eq_true_eq] at *
    exact String.lt_trans h g
  eq_of_not_before h g := by grind

/-- Whether the keys of a list come in order. -/
def SortedByKey {κ α : Type} [KeyOrder κ] (pairs : List (κ × α)) : Prop :=
  (pairs.map (·.1)).Pairwise fun a b => before a b = true

/-- Changes the value under a key at its place in a sorted list. -/
def modifySorted {κ α : Type} [KeyOrder κ] (key : κ) (f : Option α → α) :
    List (κ × α) → List (κ × α)
  | [] => [(key, f none)]
  | (k, v) :: rest =>
    if before key k then (key, f none) :: (k, v) :: rest
    else if before k key then (k, v) :: modifySorted key f rest
    else (k, f (some v)) :: rest

section

variable {κ α : Type} [KeyOrder κ]

theorem mem_keys_modifySorted {key a : κ} {f : Option α → α} {pairs : List (κ × α)}
    (h : a ∈ (modifySorted key f pairs).map (·.1)) : a = key ∨ a ∈ pairs.map (·.1) := by
  induction pairs with
  | nil => simpa [modifySorted] using h
  | cons head rest ih =>
    obtain ⟨k, v⟩ := head
    rw [modifySorted] at h
    split at h
    · simpa using h
    · split at h
      · rcases List.mem_cons.mp h with rfl | hmem
        · simp
        · rcases ih hmem with rfl | hmem
          · exact Or.inl rfl
          · exact Or.inr (List.mem_cons_of_mem _ hmem)
      · exact Or.inr h

/-- A change keeps the keys in order. -/
theorem SortedByKey.modifySorted {pairs : List (κ × α)} (h : SortedByKey pairs) (key : κ)
    (f : Option α → α) : SortedByKey (Hostlink.modifySorted key f pairs) := by
  induction pairs with
  | nil => simp [SortedByKey, Hostlink.modifySorted]
  | cons head rest ih =>
    obtain ⟨k, v⟩ := head
    obtain ⟨hhead, hrest⟩ := List.pairwise_cons.mp h
    rw [Hostlink.modifySorted]
    split
    next hbefore =>
      refine List.pairwise_cons.mpr ⟨?_, h⟩
      intro a ha
      rcases List.mem_cons.mp ha with rfl | hmem
      · exact hbefore
      · exact before_trans hbefore (hhead a hmem)
    next =>
      split
      next hbehind =>
        refine List.pairwise_cons.mpr ⟨?_, ih hrest⟩
        intro a ha
        rcases mem_keys_modifySorted ha with rfl | hmem
        · exact hbehind
        · exact hhead a hmem
      next => exact List.pairwise_cons.mpr ⟨hhead, hrest⟩

end

/-- Values by key. -/
structure SortedMap (κ α : Type) [KeyOrder κ] where
  toList : List (κ × α)
  sorted : SortedByKey toList
  deriving DecidableEq, Repr

namespace SortedMap

variable {κ α β : Type} [KeyOrder κ]

/-- No values. -/
def empty : SortedMap κ α := ⟨[], .nil⟩

instance : Inhabited (SortedMap κ α) := ⟨empty⟩

/-- Whether there are no values. -/
def isEmpty (m : SortedMap κ α) : Bool := m.toList.isEmpty

/-- The values in the order of their keys. -/
def values (m : SortedMap κ α) : List α := m.toList.map (·.2)

/-- Changes the value under a key, or makes one. -/
def modify (m : SortedMap κ α) (key : κ) (f : Option α → α) : SortedMap κ α :=
  ⟨modifySorted key f m.toList, m.sorted.modifySorted key f⟩

/-- Sets the value under a key. -/
def insert (m : SortedMap κ α) (key : κ) (value : α) : SortedMap κ α := m.modify key fun _ => value

/-- The map of a list of pairs; of equal keys the last one counts. -/
def ofList (pairs : List (κ × α)) : SortedMap κ α :=
  pairs.foldl (fun map (key, value) => map.insert key value) empty

/-- Changes every value. -/
def mapValues (m : SortedMap κ α) (f : α → β) : SortedMap κ β where
  toList := m.toList.map fun (key, value) => (key, f value)
  sorted := by
    have h := m.sorted
    rwa [SortedByKey, List.map_map]

/-- No key of a map comes twice. -/
theorem nodup_keys (m : SortedMap κ α) : (m.toList.map (·.1)).Nodup := by
  refine m.sorted.imp ?_
  rintro a b ordered rfl
  rw [before_irrefl] at ordered
  exact Bool.false_ne_true ordered

variable [DecidableEq κ]

/-- The value under a key. -/
def get? (m : SortedMap κ α) (key : κ) : Option α := (m.toList.find? (·.1 = key)).map (·.2)

/-! ## What a change does to the values -/

theorem find?_modifySorted_of_ne {key other : κ} (hne : other ≠ key) (f : Option α → α)
    (pairs : List (κ × α)) :
    (modifySorted key f pairs).find? (·.1 = other) = pairs.find? (·.1 = other) := by
  induction pairs with
  | nil => simp [modifySorted, Ne.symm hne]
  | cons head rest ih =>
    obtain ⟨k, v⟩ := head
    rw [modifySorted]
    split
    next => simp [Ne.symm hne]
    next hnot =>
      split
      next => rw [List.find?_cons, List.find?_cons, ih]
      next hnot' =>
        have heq : key = k := eq_of_not_before (by simpa using hnot) (by simpa using hnot')
        simp [← heq, Ne.symm hne]

/-- A key that comes before the first one is not there. -/
theorem find?_eq_none_of_before {key k : κ} {v : α} {rest : List (κ × α)}
    (h : SortedByKey ((k, v) :: rest)) (hbefore : before key k = true) :
    ((k, v) :: rest).find? (·.1 = key) = none := by
  obtain ⟨hhead, _⟩ := List.pairwise_cons.mp h
  rw [List.find?_eq_none]
  intro pair hpair heq
  have heq : pair.1 = key := by simpa using heq
  have hself : before key key = true := by
    rcases List.mem_cons.mp hpair with rfl | hmem
    · rwa [show k = key from heq] at hbefore
    · have hlater := hhead pair.1 (List.mem_map_of_mem hmem)
      rw [heq] at hlater
      exact before_trans hbefore hlater
  rw [before_irrefl] at hself
  exact Bool.false_ne_true hself

theorem find?_modifySorted_self (key : κ) (f : Option α → α) {pairs : List (κ × α)}
    (h : SortedByKey pairs) :
    (modifySorted key f pairs).find? (·.1 = key)
      = some (key, f ((pairs.find? (·.1 = key)).map (·.2))) := by
  induction pairs with
  | nil => simp [modifySorted]
  | cons head rest ih =>
    obtain ⟨k, v⟩ := head
    obtain ⟨hhead, hrest⟩ := List.pairwise_cons.mp h
    rw [modifySorted]
    split
    next hbefore =>
      rw [find?_eq_none_of_before h hbefore]
      simp
    next hnot =>
      split
      next hbehind =>
        have hne : k ≠ key := by
          rintro rfl
          rw [before_irrefl] at hbehind
          exact Bool.false_ne_true hbehind
        simp [hne, ih hrest]
      next hnot' =>
        have heq : key = k := eq_of_not_before (by simpa using hnot) (by simpa using hnot')
        simp [heq]

/-- A change replaces the pair of its key, or puts it between pairs of other keys, which stay. -/
theorem modifySorted_eq_append (key : κ) (f : Option α → α) {pairs : List (κ × α)}
    (h : SortedByKey pairs) :
    ∃ front back, pairs = front ++ (pairs.find? (·.1 = key)).toList ++ back ∧
      modifySorted key f pairs
        = front ++ (key, f ((pairs.find? (·.1 = key)).map (·.2))) :: back ∧
      ∀ pair ∈ front ++ back, pair.1 ≠ key := by
  induction pairs with
  | nil => exact ⟨[], [], rfl, rfl, by simp⟩
  | cons head rest ih =>
    obtain ⟨k, v⟩ := head
    obtain ⟨hhead, hrest⟩ := List.pairwise_cons.mp h
    have hirrefl : ∀ {a b : κ}, before a b = true → a ≠ b := by
      rintro a b hbefore rfl
      rw [before_irrefl] at hbefore
      exact Bool.false_ne_true hbefore
    rw [modifySorted]
    split
    next hbefore =>
      have hnone := find?_eq_none_of_before h hbefore
      rw [hnone]
      refine ⟨[], (k, v) :: rest, rfl, rfl, ?_⟩
      simpa [List.find?_eq_none] using hnone
    next hnot =>
      split
      next hbehind =>
        obtain ⟨front, back, hpairs, hmodify, hothers⟩ := ih hrest
        rw [List.find?_cons_of_neg (by simpa using hirrefl hbehind), hmodify]
        refine ⟨(k, v) :: front, back, ?_, rfl, ?_⟩
        · rw [List.cons_append, List.cons_append, ← hpairs]
        · intro pair hpair
          rcases List.mem_cons.mp hpair with rfl | hpair
          · exact hirrefl hbehind
          · exact hothers pair hpair
      next hnot' =>
        have heq : key = k := eq_of_not_before (by simpa using hnot) (by simpa using hnot')
        subst heq
        refine ⟨[], rest, by simp, by simp, ?_⟩
        intro pair hpair
        exact (hirrefl (hhead pair.1 (List.mem_map_of_mem hpair))).symm

/-- A change replaces the pair of its key, or puts it between pairs of other keys, which stay. -/
theorem toList_modify (m : SortedMap κ α) (key : κ) (f : Option α → α) :
    ∃ front back, m.toList = front ++ ((m.get? key).map (key, ·)).toList ++ back ∧
      (m.modify key f).toList = front ++ (key, f (m.get? key)) :: back ∧
      ∀ pair ∈ front ++ back, pair.1 ≠ key := by
  obtain ⟨front, back, hpairs, hmodify, hothers⟩ := modifySorted_eq_append key f m.sorted
  refine ⟨front, back, ?_, hmodify, hothers⟩
  rw [get?]
  cases hfind : m.toList.find? (·.1 = key) with
  | none =>
    rw [hfind] at hpairs
    exact hpairs
  | some pair =>
    have hkey : pair.1 = key := by simpa using List.find?_some hfind
    rw [hfind] at hpairs
    rw [hpairs, ← hkey]
    rfl

/-- A pair of the map is what the map gives for its key. -/
theorem get?_of_mem {m : SortedMap κ α} {key : κ} {value : α} (h : (key, value) ∈ m.toList) :
    m.get? key = some value := by
  obtain ⟨front, back, hpairs, _, hothers⟩ := m.toList_modify key (fun _ => value)
  rw [hpairs] at h
  rcases List.mem_append.mp h with hfront | hback
  · rcases List.mem_append.mp hfront with hfront | hmiddle
    · exact absurd rfl (hothers _ (List.mem_append_left _ hfront))
    · obtain ⟨value', hget, heq⟩ := Option.map_eq_some_iff.mp (Option.mem_toList.mp hmiddle)
      rw [hget, (Prod.mk.inj heq).2]
  · exact absurd rfl (hothers _ (List.mem_append_right _ hback))

/-- Under the key there is what the change makes of the value before. -/
theorem get?_modify_self (m : SortedMap κ α) (key : κ) (f : Option α → α) :
    (m.modify key f).get? key = some (f (m.get? key)) := by
  simp [get?, modify, find?_modifySorted_self key f m.sorted]

/-- The values under other keys stay. -/
theorem get?_modify_of_ne (m : SortedMap κ α) {key other : κ} (hne : other ≠ key)
    (f : Option α → α) : (m.modify key f).get? other = m.get? other := by
  simp [get?, modify, find?_modifySorted_of_ne hne]

theorem get?_mapValues (m : SortedMap κ α) (f : α → β) (key : κ) :
    (m.mapValues f).get? key = (m.get? key).map f := by
  simp [get?, mapValues, List.find?_map, Function.comp_def]

end SortedMap
end Hostlink
