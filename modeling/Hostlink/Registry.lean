/-!
# Registries of live objects

Objects are known by the number under which they were made.  A registry gives out the numbers in
order and never takes one back, so a number names one object for ever.
-/

namespace Hostlink

/-- The objects of one kind, by number. -/
structure Registry (α : Type) where
  items : List α
  deriving Repr

namespace Registry

variable {α : Type}

/-- No objects. -/
def empty : Registry α := ⟨[]⟩

instance : Inhabited (Registry α) := ⟨⟨[]⟩⟩

/-- The number that the next object gets. -/
def next (r : Registry α) : Nat := r.items.length

/-- Adds an object under the next number. -/
def insert (r : Registry α) (item : α) : Registry α := ⟨r.items ++ [item]⟩

/-- The object with a number. -/
def get? (r : Registry α) (index : Nat) : Option α := r.items[index]?

/-- Changes the object with a number, if there is one. -/
def modify (r : Registry α) (index : Nat) (f : α → α) : Registry α := ⟨r.items.modify index f⟩

/-! ## What the operations do to the objects -/

@[simp] theorem next_insert (r : Registry α) (item : α) : (r.insert item).next = r.next + 1 := by
  simp [next, insert]

@[simp] theorem next_modify (r : Registry α) (index : Nat) (f : α → α) :
    (r.modify index f).next = r.next := by
  simp [next, modify]

@[simp] theorem get?_insert_next (r : Registry α) (item : α) :
    (r.insert item).get? r.next = some item := by
  simp [get?, insert, next]

theorem get?_insert_of_ne (r : Registry α) (item : α) {index : Nat} (hne : index ≠ r.next) :
    (r.insert item).get? index = r.get? index := by
  simp only [get?, insert, next] at *
  grind

@[simp] theorem get?_modify_index (r : Registry α) (index : Nat) (f : α → α) :
    (r.modify index f).get? index = (r.get? index).map f := by
  simp [get?, modify]

theorem get?_modify_other (r : Registry α) (f : α → α) {index other : Nat} (hne : index ≠ other) :
    (r.modify index f).get? other = r.get? other := by
  simp [get?, modify, hne]

end Registry
end Hostlink
