import Hostlink.Proofs.Bridge.Table
import Hostlink.Proofs.Interleaving.Ledger

/-!
# What is done to a bridge

The ledgers of a bridge: the native callbacks that were made and registered, the registrations that
were recorded, taken back and drained, and the callbacks that were handed to hooks.
-/

namespace Hostlink.Interleaving.Occurrence

variable {b : BridgeId} {x : Occurrence}

/-- The native callback that is made. -/
def made (x : Occurrence) : List FunctionId :=
  match x.deed with
  | .did (.addBridged _ _) => [x.objects.nextFunction]
  | _ => []

/-- The native callback that is registered with its native object. -/
def registered (x : Occurrence) : List (Registrar × FunctionId) :=
  match x.deed with
  | .did (.addHandler e handler) => [(.addTo e, handler)]
  | .asked (.register code native) => [(.client code, native)]
  | _ => []

theorem mem_registered {e : EventId} {native : FunctionId} :
    (.addTo e, native) ∈ x.registered ↔ x.deed = .did (.addHandler e native) := by
  unfold registered
  constructor
  · intro hmem
    split at hmem
    next hdeed =>
      obtain ⟨heq, rfl⟩ := Prod.mk.inj (List.mem_singleton.mp hmem)
      rw [hdeed, Registrar.addTo.inj heq]
    next => cases List.mem_singleton.mp hmem
    next => cases hmem
  · intro hdeed
    simp [hdeed]

/-- The registration that is recorded. -/
def pushed (b : BridgeId) (x : Occurrence) : List (MemberKey × Registration) :=
  match x.deed with
  | .did (.push b' key entry) => if b' = b then [(key, entry)] else []
  | _ => []

theorem mem_pushed {pair : MemberKey × Registration} :
    pair ∈ x.pushed b ↔ x.deed = .did (.push b pair.1 pair.2) := by
  unfold pushed
  constructor
  · intro hmem
    split at hmem
    next b' key' entry' hdeed =>
      split at hmem
      next hb => rw [List.mem_singleton.mp hmem, hdeed, hb]
      next => cases hmem
    next => cases hmem
  · intro hdeed
    simp [hdeed]

theorem pushed_eq_nil (h : ∀ key entry, x.deed ≠ .did (.push b key entry)) : x.pushed b = [] := by
  refine List.eq_nil_iff_forall_not_mem.mpr fun pair hmem => ?_
  exact h _ _ (mem_pushed.mp hmem)

/-- The registration that is taken back. -/
def detached (b : BridgeId) (x : Occurrence) : List (MemberKey × Registration) :=
  match x.deed with
  | .did (.detach b' key caller) =>
    if b' = b then ((x.objects.table b).first? key caller).toList.map (key, ·) else []
  | _ => []

theorem mem_detached {key : MemberKey} {entry : Registration} (h : (key, entry) ∈ x.detached b) :
    ∃ caller, x.deed = .did (.detach b key caller) := by
  unfold detached at h
  split at h
  next b' key' caller hdeed =>
    split at h
    next hb =>
      obtain ⟨entry', _, heq⟩ := List.mem_map.mp h
      exact ⟨caller, by rw [hdeed, hb, (Prod.mk.inj heq).1]⟩
    next => cases h
  next => cases h

theorem detached_eq_nil (h : ∀ key caller, x.deed ≠ .did (.detach b key caller)) :
    x.detached b = [] := by
  refine List.eq_nil_iff_forall_not_mem.mpr ?_
  rintro ⟨key, entry⟩ hmem
  obtain ⟨caller, hdeed⟩ := mem_detached hmem
  exact h key caller hdeed

/-- Whether the table is drained. -/
def Drains (b : BridgeId) (x : Occurrence) : Prop := x.deed = .did (.drain b)

/-- The registrations that are drained. -/
def drained (b : BridgeId) (x : Occurrence) : List (MemberKey × Registration) :=
  match x.deed with
  | .did (.drain b') => if b' = b then (x.objects.table b).registrations else []
  | _ => []

/-- What the drain of a table owes to hooks. -/
def owed (b : BridgeId) (x : Occurrence) : List (Hook × FunctionId) :=
  match x.deed with
  | .did (.drain b') => if b' = b then (x.objects.table b).owed else []
  | _ => []

theorem owed_of_drains (h : x.Drains b) :
    x.owed b = (x.objects.table b).owed ∧ x.drained b = (x.objects.table b).registrations := by
  simp [owed, drained, show x.deed = _ from h]

theorem owed_of_not_drains (h : ¬ x.Drains b) : x.owed b = [] ∧ x.drained b = [] := by
  constructor
  · unfold owed
    split
    next hdeed => exact if_neg fun heq => h (by rw [Drains, hdeed, heq])
    next => rfl
  · unfold drained
    split
    next hdeed => exact if_neg fun heq => h (by rw [Drains, hdeed, heq])
    next => rfl

theorem mem_owed {next : Hook × FunctionId} :
    next ∈ x.owed b ↔ x.Drains b ∧ next ∈ (x.objects.table b).owed := by
  by_cases h : x.Drains b
  · simp [h, (owed_of_drains h).1]
  · simp [h, (owed_of_not_drains h).1]

theorem mem_drained {pair : MemberKey × Registration} :
    pair ∈ x.drained b ↔ x.Drains b ∧ pair ∈ (x.objects.table b).registrations := by
  by_cases h : x.Drains b
  · simp [h, (owed_of_drains h).2]
  · simp [h, (owed_of_not_drains h).2]

/-- The native callback that is removed from its native object, with what removes it. -/
def handed (x : Occurrence) : List (Hook × FunctionId) :=
  match x.deed with
  | .did (.removeHandler e handler) => [(.removeFrom e, handler)]
  | .asked (.unregister code native) => [(.client code, native)]
  | _ => []

theorem mem_handed {e : EventId} {native : FunctionId} :
    (.removeFrom e, native) ∈ x.handed ↔ x.deed = .did (.removeHandler e native) := by
  unfold handed
  constructor
  · intro hmem
    split at hmem
    next hdeed =>
      obtain ⟨heq, rfl⟩ := Prod.mk.inj (List.mem_singleton.mp hmem)
      rw [hdeed, Hook.removeFrom.inj heq]
    next => cases List.mem_singleton.mp hmem
    next => cases hmem
  · intro hdeed
    simp [hdeed]

end Hostlink.Interleaving.Occurrence
