import Mathlib.Data.List.Basic
import Hostlink.Registry

/-!
# Changes of registries

What insertions and changes leave of a registry, as equations.
-/

namespace Hostlink

/-- A change that keeps an element keeps the list. -/
theorem modify_eq_of_fixed {α : Type} {xs : List α} {n : Nat} {f : α → α}
    (h : ∀ x, xs[n]? = some x → f x = x) : xs.modify n f = xs := by
  refine List.ext_getElem? fun m => ?_
  rw [List.getElem?_modify]
  split
  next hm =>
    subst hm
    cases hx : xs[n]? with
    | none => rfl
    | some x => exact congrArg some (h x hx)
  next => simp

namespace Registry

variable {α : Type} {r : Registry α} {index : Nat} {f g : α → α} {item found : α}

/-- A change that keeps an object keeps the registry. -/
theorem modify_eq_self (h : ∀ item, r.get? index = some item → f item = item) :
    r.modify index f = r :=
  congrArg Registry.mk (modify_eq_of_fixed h)

theorem modify_eq_self_of_some (there : r.get? index = some item) (kept : f item = item) :
    r.modify index f = r := by
  refine modify_eq_self fun found same => ?_
  obtain rfl : item = found := Option.some.inj (there.symm.trans same)
  exact kept

/-- Changing an object twice is one change. -/
theorem modify_modify (r : Registry α) (index : Nat) (f g : α → α) :
    (r.modify index f).modify index g = r.modify index (g ∘ f) := by
  simp [Registry.modify, List.modify_modify_eq]

/-- A new item that is changed at once. -/
theorem modify_insert_next (r : Registry α) (item : α) (f : α → α) :
    (r.insert item).modify r.next f = r.insert (f item) := by
  refine congrArg Registry.mk (List.ext_getElem? fun n => ?_)
  simp only [insert, next]
  grind

/-- Changes that agree on an object make the same registry. -/
theorem modify_congr (h : ∀ item, r.get? index = some item → f item = g item) :
    r.modify index f = r.modify index g := by
  obtain ⟨items⟩ := r
  refine congrArg Registry.mk (List.ext_getElem? fun m => ?_)
  rw [List.getElem?_modify, List.getElem?_modify]
  split
  next hm =>
    subst hm
    cases hx : items[index]? with
    | none => rfl
    | some x => exact congrArg some (h x hx)
  next => rfl

/-- A number that is given out comes before the next one. -/
theorem lt_next_of_get? (h : r.get? index = some found) : index < r.next :=
  (List.getElem?_eq_some_iff.1 h).1

/-- An object stays when another one is added. -/
theorem get?_insert_of_some (item : α) (h : r.get? index = some found) :
    (r.insert item).get? index = some found := by
  rw [get?_insert_of_ne r item (Nat.ne_of_lt (lt_next_of_get? h)), h]

/-- After an insertion there is the new object besides those of before. -/
theorem get?_insert_eq_some :
    (r.insert item).get? index = some found ↔
      r.get? index = some found ∨ index = r.next ∧ found = item := by
  by_cases h : index = r.next
  · subst h
    have fresh : r.get? r.next = none := by simp [get?, next]
    simp [fresh, eq_comm]
  · simp [get?_insert_of_ne r item h, h]

/-- What is there after a change was there before it. -/
theorem get?_modify_eq_some {other : Nat} :
    (r.modify other f).get? index = some found ↔
      ∃ item, r.get? index = some item ∧ found = if other = index then f item else item := by
  by_cases same : other = index
  · subst same
    rw [get?_modify_index, Option.map_eq_some_iff]
    simp only [if_true, eq_comm]
  · simp [get?_modify_other _ _ same, same]

/-- Changes add no objects. -/
theorem get?_modify_of_none {other : Nat} (f : α → α) (h : r.get? index = none) :
    (r.modify other f).get? index = none := by
  by_cases same : other = index
  · subst same
    rw [get?_modify_index, h]
    rfl
  · rw [get?_modify_other _ _ same, h]

/-- Two registries with the same numbers, and related objects under each number. -/
structure Alike (R : α → α → Prop) (r r' : Registry α) : Prop where
  next : r.next = r'.next
  get : ∀ index, Option.Rel R (r.get? index) (r'.get? index)

namespace Alike

variable {R : α → α → Prop} {r' : Registry α} {item' : α} {f' : α → α}

theorem empty : Alike R .empty .empty := ⟨rfl, fun _ => .none⟩

theorem get_some (h : Alike R r r') (there : r.get? index = some item) :
    ∃ item', r'.get? index = some item' ∧ R item item' := by
  have both := h.get index
  rw [there] at both
  cases hf : r'.get? index with
  | none =>
    rw [hf] at both
    cases both
  | some item' =>
    rw [hf] at both
    cases both with
    | some related => exact ⟨item', rfl, related⟩

theorem get_none (h : Alike R r r') (missing : r.get? index = none) : r'.get? index = none := by
  have both := h.get index
  rw [missing] at both
  cases hf : r'.get? index with
  | none => rfl
  | some item' =>
    rw [hf] at both
    cases both

theorem insert (h : Alike R r r') (related : R item item') :
    Alike R (r.insert item) (r'.insert item') := by
  refine ⟨by simp [h.next], fun index => ?_⟩
  by_cases last : index = r.next
  · have last' : index = r'.next := last.trans h.next
    rw [last, get?_insert_next, ← last, last', get?_insert_next]
    exact .some related
  · rw [get?_insert_of_ne _ _ last, get?_insert_of_ne _ _ (h.next ▸ last)]
    exact h.get index

theorem modify (h : Alike R r r')
    (related : ∀ item item', R item item' → R (f item) (f' item')) (index : Nat) :
    Alike R (r.modify index f) (r'.modify index f') := by
  refine ⟨by simp [h.next], fun other => ?_⟩
  by_cases same : index = other
  · subst same
    rw [get?_modify_index, get?_modify_index]
    cases hf : r.get? index with
    | none =>
      rw [h.get_none hf]
      exact .none
    | some item =>
      obtain ⟨item', hf', one⟩ := h.get_some hf
      rw [hf']
      exact .some (related item item' one)
  · rw [get?_modify_other _ _ same, get?_modify_other _ _ same]
    exact h.get other

end Alike

end Registry
end Hostlink
