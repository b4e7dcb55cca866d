/-!
# Multicast lists

The handlers of an event in the order in which they were added.  A handler may occur several
times; removal takes the occurrence that was added last.
-/

namespace Hostlink

/-- The list without its last occurrence of `x`. -/
def eraseLast {α : Type} [DecidableEq α] (x : α) (xs : List α) : List α :=
  (xs.reverse.erase x).reverse

theorem eraseLast_append_singleton {α : Type} [DecidableEq α] (x : α) (xs : List α) :
    eraseLast x (xs ++ [x]) = xs := by
  simp [eraseLast]

theorem eraseLast_of_not_mem {α : Type} [DecidableEq α] {x : α} {xs : List α} (h : x ∉ xs) :
    eraseLast x xs = xs := by
  simp [eraseLast, List.erase_of_not_mem (by simpa using h : x ∉ xs.reverse)]

theorem count_eraseLast {α : Type} [DecidableEq α] (x y : α) (xs : List α) :
    (eraseLast x xs).count y = xs.count y - if x = y then 1 else 0 := by
  simp [eraseLast, List.count_erase]

theorem eraseLast_sublist {α : Type} [DecidableEq α] (x : α) (xs : List α) :
    (eraseLast x xs).Sublist xs := by
  simpa [eraseLast] using (List.erase_sublist (a := x) (l := xs.reverse)).reverse

/-- Handlers in the order in which they were added. -/
structure Multicast (α : Type) where
  handlers : List α
  deriving DecidableEq, Repr

namespace Multicast

variable {α : Type} [DecidableEq α]

/-- No handlers. -/
def empty : Multicast α := ⟨[]⟩

instance : Inhabited (Multicast α) := ⟨⟨[]⟩⟩

/-- Adds a handler behind the others. -/
def add (m : Multicast α) (handler : α) : Multicast α := ⟨m.handlers ++ [handler]⟩

/-- Whether a handler is registered. -/
def contains (m : Multicast α) (handler : α) : Bool := handler ∈ m.handlers

/-- Removes the occurrence of a handler that was added last, if there is one. -/
def remove (m : Multicast α) (handler : α) : Multicast α := ⟨eraseLast handler m.handlers⟩

/-- The number of handlers, each occurrence counted. -/
def count (m : Multicast α) : Nat := m.handlers.length

end Multicast
end Hostlink
