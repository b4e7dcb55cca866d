import Hostlink.Identity
import Hostlink.SortedMap
import Hostlink.Text.Diagnostic

/-!
# Callback tables

A callback table records, for each member of an adapter, which native callback was made for which
caller callback.  A member is known by its name and by the types of argument on both sides.

* Attaching the same caller twice records two registrations.
* Detaching takes the earliest registration of a caller.
* Draining takes all registrations, together with the hook that unregisters them, and marks the
  table as released for good.

The registrations of one member come in the order of attachment.  Nobody is promised an order of the
members: a hash table lists them in an arbitrary one.  That they are kept here in the order of their
keys is a choice, made so that a table is known by what it holds.  What is said about the order of a
drain is therefore said of each member: one member comes after the other, in some order.
-/

namespace Hostlink

/-- The types of argument that a callback can take. -/
inductive ArgType where
  | int
  | text
  /-- A native observation of the network. -/
  | status
  /-- A change of availability. -/
  | change
  /-- Any other type, by its number. -/
  | other (number : Nat)
  deriving DecidableEq, Repr

/-- The place of a type in the order of keys. -/
def ArgType.rank : ArgType → Nat
  | .int => 0
  | .text => 1
  | .status => 2
  | .change => 3
  | .other number => number + 4

/-- Different types have different places. -/
theorem ArgType.rank_inj {s t : ArgType} (h : s.rank = t.rank) : s = t := by
  cases s <;> cases t <;> simp_all [ArgType.rank]

/-- What identifies a member. -/
structure MemberKey where
  name : String
  caller : ArgType
  native : ArgType
  deriving DecidableEq, Repr

/-- Whether one key comes before another: by name, then by types. -/
def MemberKey.before (a b : MemberKey) : Bool :=
  if a.name = b.name then
    if a.caller = b.caller then a.native.rank < b.native.rank
    else a.caller.rank < b.caller.rank
  else a.name < b.name

instance : KeyOrder MemberKey where
  before := MemberKey.before
  before_irrefl a := by simp [MemberKey.before]
  before_trans h g := by
    simp only [MemberKey.before] at *
    grind [String.lt_trans, String.lt_irrefl]
  eq_of_not_before {a b} h g := by
    obtain ⟨name, caller, native⟩ := a
    obtain ⟨name', caller', native'⟩ := b
    simp only [MemberKey.before] at *
    grind [ArgType.rank_inj]

/-- How a native callback is removed from the native object. -/
inductive Hook where
  /-- It is removed from an event. -/
  | removeFrom (event : EventId)
  /-- The caller's own code with this number does it. -/
  | client (code : Nat)
  deriving DecidableEq, Repr

/-- A caller callback and the native callback that was made for it. -/
structure Registration where
  caller : FunctionId
  native : FunctionId
  deriving DecidableEq, Repr

/-- What is recorded for one member. -/
structure Member where
  /-- The registrations in the order of attachment. -/
  entries : List Registration
  hook : Option Hook
  deriving DecidableEq, Repr

instance : Inhabited Member := ⟨⟨[], none⟩⟩

/-- The registrations taken from one member, to be unregistered by its hook. -/
structure Batch where
  hook : Option Hook
  natives : List FunctionId
  deriving DecidableEq, Repr

/-- The registrations of an adapter, and whether they have been released. -/
structure CallbackTable where
  members : SortedMap MemberKey Member
  released : Bool
  deriving DecidableEq, Repr

namespace CallbackTable

/-- A table without members. -/
def empty : CallbackTable := ⟨.empty, false⟩

instance : Inhabited CallbackTable := ⟨empty⟩

/-! ## Members -/

/-- The member with a key. -/
def member? (t : CallbackTable) (key : MemberKey) : Option Member := t.members.get? key

/-- Changes the member with a key, made without registrations if it is not there yet. -/
def modifyMember (t : CallbackTable) (key : MemberKey) (f : Member → Member) : CallbackTable :=
  { t with members := t.members.modify key fun m => f (m.getD default) }

/-- The registrations under a key; a member that is not there has none. -/
def entries (t : CallbackTable) (key : MemberKey) : List Registration :=
  ((t.member? key).map (·.entries)).getD []

/-! ## Operations -/

/-- Sets the hook of a member. -/
def setHook (t : CallbackTable) (key : MemberKey) (hook : Hook) : CallbackTable :=
  t.modifyMember key fun m => { m with hook := some hook }

/-- Records a registration behind those of its member. -/
def push (t : CallbackTable) (key : MemberKey) (entry : Registration) : CallbackTable :=
  t.modifyMember key fun m => { m with entries := m.entries ++ [entry] }

/-- The earliest registration of a caller under a key. -/
def first? (t : CallbackTable) (key : MemberKey) (caller : FunctionId) : Option Registration :=
  (t.entries key).find? (·.caller = caller)

/-- Takes away the earliest registration of a caller under a key, if there is one. -/
def detach (t : CallbackTable) (key : MemberKey) (caller : FunctionId) : CallbackTable :=
  match t.first? key caller with
  | none => t
  | some _ =>
    t.modifyMember key fun m => { m with entries := m.entries.eraseP (·.caller = caller) }

/-- All registrations, by member.  Their order is that of the keys, which nothing should rest on. -/
def batches (t : CallbackTable) : List Batch :=
  t.members.values.map fun m => ⟨m.hook, m.entries.map (·.native)⟩

/-- The table without registrations, released for good. -/
def drained (t : CallbackTable) : CallbackTable :=
  ⟨t.members.mapValues fun m => { m with entries := [] }, true⟩

/-! ## What the operations do to the registrations -/

theorem entries_setHook (t : CallbackTable) (key other : MemberKey) (hook : Hook) :
    (t.setHook key hook).entries other = t.entries other := by
  by_cases h : other = key
  · subst h
    cases hm : t.members.get? other <;>
      simp [setHook, modifyMember, entries, member?, SortedMap.get?_modify_self, hm, default]
  · simp [setHook, modifyMember, entries, member?, SortedMap.get?_modify_of_ne _ h]

theorem entries_push_self (t : CallbackTable) (key : MemberKey) (entry : Registration) :
    (t.push key entry).entries key = t.entries key ++ [entry] := by
  cases hm : t.members.get? key <;>
    simp [push, modifyMember, entries, member?, SortedMap.get?_modify_self, hm, default]

theorem entries_push_of_ne (t : CallbackTable) {key other : MemberKey} (hne : other ≠ key)
    (entry : Registration) : (t.push key entry).entries other = t.entries other := by
  simp [push, modifyMember, entries, member?, SortedMap.get?_modify_of_ne _ hne]

theorem detach_eq_self (t : CallbackTable) (key : MemberKey) (caller : FunctionId)
    (h : t.first? key caller = none) : t.detach key caller = t := by
  simp [detach, h]

theorem entries_detach_self (t : CallbackTable) (key : MemberKey) (caller : FunctionId) :
    (t.detach key caller).entries key = (t.entries key).eraseP (·.caller = caller) := by
  cases hf : t.first? key caller with
  | none =>
    have hnot : ∀ entry ∈ t.entries key, ¬ decide (entry.caller = caller) = true :=
      List.find?_eq_none.mp hf
    rw [detach_eq_self t key caller hf, List.eraseP_of_forall_not hnot]
  | some entry =>
    cases hm : t.members.get? key <;>
      simp [detach, hf, modifyMember, entries, member?, SortedMap.get?_modify_self, hm, default]

theorem entries_detach_of_ne (t : CallbackTable) {key other : MemberKey} (hne : other ≠ key)
    (caller : FunctionId) : (t.detach key caller).entries other = t.entries other := by
  cases hf : t.first? key caller with
  | none => rw [detach_eq_self t key caller hf]
  | some entry =>
    simp [detach, hf, modifyMember, entries, member?, SortedMap.get?_modify_of_ne _ hne]

theorem entries_drained (t : CallbackTable) (key : MemberKey) : t.drained.entries key = [] := by
  cases hm : t.members.get? key <;>
    simp [drained, entries, member?, SortedMap.get?_mapValues, hm]

/-! ## Views -/

/-- The number of registrations under a name, over all types of argument. -/
def len (t : CallbackTable) (name : String) : Nat :=
  ((t.members.toList.filter (·.1.name = name)).flatMap (·.2.entries)).length

/-- The number of all registrations. -/
def totalLen (t : CallbackTable) : Nat := (t.members.values.flatMap (·.entries)).length

/-- Whether a name and count come before or with another pair. -/
def pairBefore (a b : String × Nat) : Bool :=
  if a.1 = b.1 then a.2 ≤ b.2 else a.1 < b.1

/-- The table for diagnosis: names with their counts in order, and the mark of release. -/
def shown (t : CallbackTable) : Text.Diagnostic :=
  let sizes := t.members.toList.map fun (key, m) => (key.name, m.entries.length)
  let pairs := sizes.mergeSort pairBefore
  .record "CallbackBridge" [
    ("members", .list (pairs.map fun (name, count) => .tuple "" [.quoted name, .nat count])),
    ("released", .bool t.released)]

end CallbackTable
end Hostlink
