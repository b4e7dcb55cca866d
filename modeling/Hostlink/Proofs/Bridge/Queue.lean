import Hostlink.Proofs.Bridge.Finality

/-!
# Callbacks in a queue

The registrations of one callback under one key form a queue: attaching puts a native callback at
its end, detaching takes one from its front, and nothing but a release does anything else to it.
`Reachable.queue` follows the queue through a run.
-/

namespace Hostlink

namespace CallbackTable

/-! ## The queue in a table -/

variable {t : CallbackTable} {key key' : MemberKey} {caller : FunctionId}

/-- The native callbacks registered for a caller under a key, in the order of attachment. -/
def waiting (t : CallbackTable) (key : MemberKey) (caller : FunctionId) : List FunctionId :=
  ((t.entries key).filter (·.caller = caller)).map (·.native)

/-- Detaching finds the front of the queue. -/
theorem first?_eq_head? (t : CallbackTable) (key : MemberKey) (caller : FunctionId) :
    (t.first? key caller).map (·.native) = (t.waiting key caller).head? := by
  rw [first?, waiting, List.head?_map, List.head?_filter]

/-- What is found under a caller was attached by that caller. -/
theorem caller_of_first? {entry : Registration} (h : t.first? key caller = some entry) :
    entry.caller = caller := by
  simpa using List.find?_some h

/-- Without the elements that a removal is about, a list is the same before and after it. -/
theorem filter_eraseP_of_not {α : Type} {p q : α → Bool} (h : ∀ a, q a = true → p a = false)
    (xs : List α) : (xs.eraseP q).filter p = xs.filter p := by
  induction xs with
  | nil => rfl
  | cons x xs ih =>
    by_cases hx : q x = true
    · rw [List.eraseP_cons_of_pos hx, List.filter_cons_of_neg (by simp [h x hx])]
    · rw [List.eraseP_cons_of_neg (by simpa using hx), List.filter_cons, List.filter_cons, ih]

/-- The removal of the first element that satisfies a test takes the first of all that do. -/
theorem filter_eraseP_self {α : Type} {p : α → Bool} (xs : List α) :
    (xs.eraseP p).filter p = (xs.filter p).tail := by
  induction xs with
  | nil => rfl
  | cons x xs ih =>
    by_cases hx : p x = true
    · rw [List.eraseP_cons_of_pos hx, List.filter_cons_of_pos hx, List.tail_cons]
    · rw [List.eraseP_cons_of_neg (by simpa using hx), List.filter_cons_of_neg (by simpa using hx),
        List.filter_cons_of_neg (by simpa using hx), ih]

/-- A registration under a key leaves the order of those of other callers, and other keys. -/
theorem filter_entries_push {entry : Registration} {p : FunctionId → Bool}
    (h : key' = key → p entry.caller = false) :
    ((t.push key' entry).entries key).filter (p ·.caller) =
      (t.entries key).filter (p ·.caller) := by
  by_cases hkey : key' = key
  · subst hkey
    rw [entries_push_self, List.filter_append, List.filter_cons_of_neg (by simp [h rfl]),
      List.filter_nil, List.append_nil]
  · rw [entries_push_of_ne t (Ne.symm hkey)]

/-- A detachment leaves the order of the registrations of other callers, and other keys. -/
theorem filter_entries_detach {p : FunctionId → Bool} (h : key' = key → p caller = false) :
    ((t.detach key' caller).entries key).filter (p ·.caller) =
      (t.entries key).filter (p ·.caller) := by
  by_cases hkey : key' = key
  · subst hkey
    rw [entries_detach_self]
    refine filter_eraseP_of_not ?_ _
    intro entry hentry
    rw [show entry.caller = caller by simpa using hentry]
    exact h rfl
  · rw [entries_detach_of_ne t (Ne.symm hkey)]

theorem waiting_setHook {hook : Hook} :
    (t.setHook key' hook).waiting key caller = t.waiting key caller := by
  rw [waiting, entries_setHook, waiting]

theorem waiting_push_self {entry : Registration} :
    (t.push key entry).waiting key entry.caller = t.waiting key entry.caller ++ [entry.native] := by
  simp [waiting, entries_push_self]

theorem waiting_push_of_ne {entry : Registration} (h : key' = key → entry.caller ≠ caller) :
    (t.push key' entry).waiting key caller = t.waiting key caller := by
  rw [waiting, filter_entries_push (p := (· = caller)) (by simpa using h), waiting]

theorem waiting_detach_self : (t.detach key caller).waiting key caller =
    (t.waiting key caller).tail := by
  rw [waiting, entries_detach_self, filter_eraseP_self, List.map_tail, waiting]

theorem waiting_detach_of_ne {caller' : FunctionId} (h : key' = key → caller' ≠ caller) :
    (t.detach key' caller').waiting key caller = t.waiting key caller := by
  rw [waiting, filter_entries_detach (p := (· = caller)) (by simpa using h), waiting]

/-- Without registrations nothing waits. -/
theorem waiting_eq_nil (h : t.registrations = []) : t.waiting key caller = [] := by
  rw [waiting, registrations_eq_nil_iff.mp h key]
  rfl

end CallbackTable

namespace Interleaving

open Occurrence

/-! ## The queue in a run -/

variable {rule : Rule} {s : State} {b : BridgeId} {key : MemberKey} {caller : FunctionId}

namespace Occurrence

/-- The native callbacks among registrations that are a caller's under a key. -/
def ofCaller (key : MemberKey) (caller : FunctionId) (pairs : List (MemberKey × Registration)) :
    List FunctionId :=
  (pairs.filter fun pair => pair.1 = key ∧ pair.2.caller = caller).map (·.2.native)

/-- The native callback that comes into the queue. -/
def queued (b : BridgeId) (key : MemberKey) (caller : FunctionId) (x : Occurrence) :
    List FunctionId :=
  ofCaller key caller (x.pushed b)

/-- The native callback that is taken from the queue by a detachment. -/
def served (b : BridgeId) (key : MemberKey) (caller : FunctionId) (x : Occurrence) :
    List FunctionId :=
  ofCaller key caller (x.detached b)

variable {x : Occurrence}

theorem queued_of_push {key' : MemberKey} {entry : Registration}
    (h : x.deed = .did (.push b key' entry)) : x.queued b key caller =
      if key' = key ∧ entry.caller = caller then [entry.native] else [] := by
  simp only [queued, ofCaller, pushed, h, ↓reduceIte, List.filter_cons, List.filter_nil,
    decide_eq_true_eq]
  split <;> rfl

/-- A detachment serves the front of the queue of its own caller and key. -/
theorem served_of_detach {key' : MemberKey} {caller' : FunctionId}
    (h : x.deed = .did (.detach b key' caller')) : x.served b key caller =
      if key' = key ∧ caller' = caller then ((x.objects.table b).waiting key caller).head?.toList
      else [] := by
  simp only [served, ofCaller, detached, h, ↓reduceIte]
  cases hfound : (x.objects.table b).first? key' caller' with
  | none =>
    split
    next hmine =>
      obtain ⟨rfl, rfl⟩ := hmine
      rw [← CallbackTable.first?_eq_head?, hfound]
      rfl
    next => rfl
  | some entry =>
    rw [CallbackTable.caller_of_first? hfound |>.symm]
    simp only [Option.toList_some, List.map_cons, List.map_nil, List.filter_cons, List.filter_nil,
      decide_eq_true_eq]
    split
    next hmine =>
      obtain ⟨rfl, rfl⟩ := hmine
      rw [← CallbackTable.first?_eq_head?, CallbackTable.caller_of_first? hfound, hfound]
      rfl
    next => rfl

theorem queued_eq_nil (h : ∀ key entry, x.deed ≠ .did (.push b key entry)) :
    x.queued b key caller = [] := by
  rw [queued, pushed_eq_nil h]
  rfl

theorem served_eq_nil (h : ∀ key caller, x.deed ≠ .did (.detach b key caller)) :
    x.served b key caller = [] := by
  rw [served, detached_eq_nil h]
  rfl

end Occurrence

/-- In a run native callbacks are served in the order in which they were queued, and until the
release those that have not been served wait in the table. -/
theorem Reachable.queue (hs : Reachable rule s) (b : BridgeId) (key : MemberKey)
    (caller : FunctionId) :
    collect (served b key caller) s.history <+: collect (queued b key caller) s.history ∧
      ((s.objects.table b).released = false → collect (queued b key caller) s.history =
        collect (served b key caller) s.history ++ (s.objects.table b).waiting key caller) := by
  refine hs.induct (I := fun o h =>
    collect (served b key caller) h <+: collect (queued b key caller) h ∧
      ((o.table b).released = false → collect (queued b key caller) h =
        collect (served b key caller) h ++ (o.table b).waiting key caller)) ?_ ?_
  · cases b <;> exact ⟨List.prefix_refl _, fun _ => rfl⟩
  rintro s x hs hnext ⟨horder, hqueue⟩
  have hobjects := hnext.objects
  have hstep := hnext.tableStep b
  generalize (x.deed.apply s.objects).table b = t at hstep
  rw [collect_cons, collect_cons]
  cases hstep with
  | other hpushed hdetached =>
    have hqueued : x.queued b key caller = [] := by rw [queued, hpushed]; rfl
    have hserved : x.served b key caller = [] := by rw [served, hdetached]; rfl
    rw [hqueued, hserved, List.append_nil, List.append_nil]
    exact ⟨horder, hqueue⟩
  | setHook key' hook hdeed =>
    rw [queued_eq_nil (by simp [hdeed]), served_eq_nil (by simp [hdeed]), List.append_nil,
      List.append_nil, CallbackTable.waiting_setHook]
    exact ⟨horder, hqueue⟩
  | push key' entry hdeed =>
    obtain ⟨_, _, _, _, _, _, _, hfree⟩ := hnext.of_push hdeed
    rw [hobjects] at hfree
    rw [served_eq_nil (by simp [hdeed]), List.append_nil, queued_of_push hdeed]
    refine ⟨horder.trans (List.prefix_append _ _), fun _ => ?_⟩
    split
    next hmine =>
      obtain ⟨rfl, rfl⟩ := hmine
      rw [hqueue hfree, CallbackTable.waiting_push_self, List.append_assoc]
    next hother =>
      rw [List.append_nil, hqueue hfree,
        CallbackTable.waiting_push_of_ne fun hkey hcaller => hother ⟨hkey, hcaller⟩]
  | detach key' caller' hdeed =>
    rw [queued_eq_nil (by simp [hdeed]), List.append_nil, served_of_detach hdeed, hobjects,
      CallbackTable.released_detach]
    split
    next hmine =>
      obtain ⟨rfl, rfl⟩ := hmine
      rw [CallbackTable.waiting_detach_self]
      cases hreleased : (s.objects.table b).released with
      | true =>
        have hnone := hs.registrations_of_released hreleased
        rw [CallbackTable.waiting_eq_nil hnone]
        refine ⟨by simpa using horder, ?_⟩
        intro hfree
        cases hfree
      | false =>
        rw [hqueue hreleased]
        cases (s.objects.table b).waiting key' caller' with
        | nil => simp
        | cons native rest => exact ⟨⟨rest, by simp⟩, fun _ => by simp⟩
    next hother =>
      rw [List.append_nil,
        CallbackTable.waiting_detach_of_ne fun hkey hcaller => hother ⟨hkey, hcaller⟩]
      exact ⟨horder, hqueue⟩
  | drain hdeed =>
    have hdeed' : x.deed = .did (.drain b) := hdeed
    rw [queued_eq_nil (by simp [hdeed']), served_eq_nil (by simp [hdeed']), List.append_nil,
      List.append_nil]
    refine ⟨horder, ?_⟩
    intro hfree
    cases hfree

/-- What a detachment finds after a history: nothing once the bridge was released or all that was
queued has been served, and else the next one that was queued. -/
structure Due (b : BridgeId) (key : MemberKey) (caller : FunctionId) (h : History)
    (found : Option FunctionId) : Prop where
  none_iff : found = none ↔ (∃ x ∈ h, x.Drains b) ∨
    (collect (served b key caller) h).length = (collect (queued b key caller) h).length
  next : ∀ native, found = some native →
    (collect (queued b key caller) h)[(collect (served b key caller) h).length]? = some native

/-- The table holds what is due. -/
theorem Reachable.due (hs : Reachable rule s) (b : BridgeId) (key : MemberKey)
    (caller : FunctionId) :
    Due b key caller s.history (((s.objects.table b).first? key caller).map (·.native)) := by
  rw [CallbackTable.first?_eq_head?]
  cases hreleased : (s.objects.table b).released with
  | true =>
    rw [CallbackTable.waiting_eq_nil (hs.registrations_of_released hreleased)]
    exact ⟨by simp [(hs.released_iff b).mp hreleased], by simp⟩
  | false =>
    have hnot : ¬ ∃ x ∈ s.history, x.Drains b := by
      rw [← hs.released_iff b, hreleased]
      exact Bool.false_ne_true
    have hqueue := (hs.queue b key caller).2 hreleased
    cases hwaiting : (s.objects.table b).waiting key caller with
    | nil => exact ⟨by simp [hqueue, hwaiting], by simp⟩
    | cons native rest => exact ⟨by simp [hqueue, hwaiting, hnot], by simp [hqueue, hwaiting]⟩

end Interleaving
end Hostlink
