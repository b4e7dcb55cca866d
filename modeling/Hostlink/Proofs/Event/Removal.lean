import Hostlink.Proofs.Registry
import Hostlink.Proofs.Bridge.Performed
import Hostlink.Proofs.Event.Edits
import Hostlink.Proofs.Interleaving.Schedule

/-!
# The law of removal

A removal finds a handler if the handler has been added more often than removals have found it since
the event was cleared.  It then takes the latest addition that stands (`removal_takes_latest`).

Additions and removals are counted as deeds of the run, so calls of any threads, hooks of bridges
and handlers that are being called all count.  `editing` is the contract that ties the answers of
calls to these deeds.
-/

namespace Hostlink

/-- The operation that makes an edit. -/
def Edit.operation (e : EventId) : Edit FunctionId → Operation
  | .add handler => .add e handler
  | .remove handler => .remove e handler
  | .clear => .clear e

namespace EventId

variable {σ : Type} {e : EventId} {held : List Lock} {w : World σ}

/-- A handler that is added and then removed leaves everything as it was. -/
theorem run_add_remove (service : Service σ) (hevent : w.objects.HasEvent e)
    (hlock : .handlers e ∉ held) (handler : FunctionId) :
    ((e.add handler).bind fun _ => e.remove handler).run service held w
      = ⟨.returned true, held, w⟩ := by
  have hadded : ((Effect.addHandler e handler).apply w.objects).event e
      = (w.objects.event e).add handler :=
    Objects.event_modifyEvent_self hevent (·.add handler)
  have hfound : (((Effect.addHandler e handler).apply w.objects).event e).contains handler := by
    rw [hadded]
    simp [Multicast.contains, Multicast.add]
  have hundone : (Effect.removeHandler e handler).apply
      ((Effect.addHandler e handler).apply w.objects) = w.objects := by
    have hself : (w.objects.events.modify e.index (·.add handler)).modify e.index (·.remove handler)
        = w.objects.events := by
      rw [Registry.modify_modify]
      refine Registry.modify_eq_self fun m _ => ?_
      exact congrArg Multicast.mk (eraseLast_append_singleton handler m.handlers)
    simp only [Effect.apply, Objects.modifyEvent, hself]
  rw [Activity.run_bind, EventId.add, Activity.run_locked hlock]
  show (e.remove handler).run service held _ = _
  rw [EventId.remove, Activity.run_locked hlock, hfound, hundone]

end EventId

namespace Interleaving

open Occurrence

variable {rule : Rule} {s : State} {x : Occurrence} {e : EventId} {handler : FunctionId}

/-! ## Counting since the last clear -/

/-- The handler that a removal finds. -/
def Occurrence.removed (e : EventId) (x : Occurrence) : List FunctionId :=
  match x.deed with
  | .did (.removeHandler e' handler) =>
    if e' = e ∧ (x.objects.event e).contains handler then [handler] else []
  | _ => []

/-- What has happened since the event was cleared last. -/
def sinceClear (e : EventId) (h : History) : History := h.takeWhile fun x => .clear ∉ x.edits e

/-- How often a handler has been added since the last clear. -/
def additions (e : EventId) (handler : FunctionId) (h : History) : Nat :=
  (collect (added e) (sinceClear e h)).count handler

/-- How often removals have found a handler since the last clear. -/
def removals (e : EventId) (handler : FunctionId) (h : History) : Nat :=
  (collect (removed e) (sinceClear e h)).count handler

theorem sinceClear_cons (hx : .clear ∉ x.edits e) (h : History) :
    sinceClear e (x :: h) = x :: sinceClear e h := by
  simp [sinceClear, hx]

/-- What a deed does to an event: nothing, or it adds, removes or clears. -/
theorem edits_cases (e : EventId) (x : Occurrence) :
    (x.edits e = [] ∧ x.added e = [] ∧ x.removed e = []) ∨
      (∃ handler, x.edits e = [.add handler] ∧ x.deed = .did (.addHandler e handler)) ∨
      (∃ handler, x.edits e = [.remove handler] ∧ x.deed = .did (.removeHandler e handler)) ∨
      x.edits e = [.clear] ∧ x.deed = .did (.clearHandlers e) := by
  by_cases hlock : ∃ effect, x.deed = .did effect ∧ effect.lock? = some (.handlers e)
  · obtain ⟨effect, hdeed, hlock⟩ := hlock
    cases effect
    case addHandler e' handler =>
      cases hlock
      exact Or.inr (Or.inl ⟨handler, by simp [edits, hdeed], hdeed⟩)
    case removeHandler e' handler =>
      cases hlock
      exact Or.inr (Or.inr (Or.inl ⟨handler, by simp [edits, hdeed], hdeed⟩))
    case clearHandlers e' =>
      cases hlock
      exact Or.inr (Or.inr (Or.inr ⟨by simp [edits, hdeed], hdeed⟩))
    all_goals cases hlock
  · have hno : ∀ effect, effect.lock? = some (.handlers e) → x.deed ≠ .did effect :=
      fun effect heq hdeed => hlock ⟨effect, hdeed, heq⟩
    refine Or.inl ⟨edits_eq_nil fun effect hdeed heq => hno effect heq hdeed, ?_, ?_⟩
    · exact List.eq_nil_iff_forall_not_mem.mpr fun handler hmem => hno _ rfl (mem_added.mp hmem)
    · unfold removed
      split
      next hdeed => exact if_neg fun heq => hno _ (by rw [Effect.lock?, heq.1]) hdeed
      next => rfl

/-- Every handler that was added since the last clear is on the event, or a removal has found it. -/
theorem Reachable.handlers_perm (hs : Reachable rule s) (e : EventId) :
    ((s.objects.event e).handlers ++ collect (removed e) (sinceClear e s.history)).Perm
      (collect (added e) (sinceClear e s.history)) := by
  refine hs.induct (I := fun o h =>
    ((o.event e).handlers ++ collect (removed e) (sinceClear e h)).Perm
      (collect (added e) (sinceClear e h))) (List.Perm.refl _) ?_
  intro s x _ hnext ih
  rw [hnext.event_edited e]
  rcases edits_cases e x with ⟨hedits, hadded, hremoved⟩ | ⟨handler, hedits, hdeed⟩ |
    ⟨handler, hedits, hdeed⟩ | ⟨hedits, hdeed⟩
  · rw [sinceClear_cons (by simp [hedits]), collect_cons, collect_cons, hedits, hadded, hremoved,
      List.append_nil, List.append_nil]
    exact ih
  · rw [sinceClear_cons (by simp [hedits]), collect_cons, collect_cons, hedits,
      show x.added e = [handler] by simp [added, hdeed],
      show x.removed e = [] by simp [removed, hdeed], List.append_nil]
    refine List.perm_iff_count.mpr fun f => ?_
    have hcount := ih.count_eq f
    simp only [Multicast.edited, List.foldl_cons, List.foldl_nil, Multicast.edit, Multicast.add,
      List.count_append] at hcount ⊢
    omega
  · rw [sinceClear_cons (by simp [hedits]), collect_cons, collect_cons, hedits,
      show x.added e = [] by simp [added, hdeed], List.append_nil]
    by_cases hfound : handler ∈ (s.objects.event e).handlers
    · rw [show x.removed e = [handler] by
        simp [removed, hdeed, hnext.objects, Multicast.contains, hfound]]
      refine List.perm_iff_count.mpr fun f => ?_
      have hcount := ih.count_eq f
      have hmem := List.count_pos_iff.mpr hfound
      simp only [Multicast.edited, List.foldl_cons, List.foldl_nil, Multicast.edit,
        Multicast.remove, List.count_append, count_eraseLast, List.count_singleton,
        beq_iff_eq] at hcount ⊢
      split
      next heq =>
        subst heq
        omega
      next => omega
    · rw [show x.removed e = [] by
        simp [removed, hdeed, hnext.objects, Multicast.contains, hfound], List.append_nil]
      simpa [Multicast.edited, Multicast.edit, Multicast.remove, eraseLast_of_not_mem hfound]
        using ih
  · have hnone : sinceClear e (x :: s.history) = [] := by simp [sinceClear, hedits]
    rw [hnone, hedits]
    exact List.Perm.refl _

/-- A handler is on the event as often as it has been added and not been removed again. -/
theorem Reachable.count_add_removals (hs : Reachable rule s) (e : EventId) (handler : FunctionId) :
    (s.objects.event e).handlers.count handler + removals e handler s.history
      = additions e handler s.history := by
  have hcount := (hs.handlers_perm e).count_eq handler
  rwa [List.count_append] at hcount

/-- A handler is on the event if it has been added more often than removed since the last clear. -/
theorem Reachable.contains_iff (hs : Reachable rule s) (e : EventId) (handler : FunctionId) :
    (s.objects.event e).contains handler
      = decide (removals e handler s.history < additions e handler s.history) := by
  have hcount := hs.count_add_removals e handler
  refine decide_eq_decide.mpr ?_
  rw [← List.count_pos_iff]
  omega

/-- There are as many handlers as have been added and not been removed again. -/
theorem Reachable.count_eq (hs : Reachable rule s) (e : EventId) :
    (s.objects.event e).count + (collect (removed e) (sinceClear e s.history)).length
      = (collect (added e) (sinceClear e s.history)).length := by
  have hlength := (hs.handlers_perm e).length_eq
  rwa [List.length_append] at hlength

/-! ## What a removal takes -/

/-- A removal takes the latest addition of its handler that stands, and none if there is none. -/
theorem Reachable.standing_remove (hs : Reachable rule s)
    (hdeed : x.deed = .did (.removeHandler e handler)) :
    if removals e handler s.history < additions e handler s.history then
      TakesLatest handler (standing (collect (edits e) s.history))
        (standing (collect (edits e) (x :: s.history)))
    else
      standing (collect (edits e) (x :: s.history)) = standing (collect (edits e) s.history) := by
  have hfound := hs.contains_iff e handler
  rw [hs.event_edited e, Multicast.contains, handlers_edited, decide_eq_decide] at hfound
  rw [collect_cons, show x.edits e = [.remove handler] by simp [edits, hdeed], standing_concat]
  split
  next hmore => exact takesLatest_filter (standing_ordered _).1 (hfound.mpr hmore)
  next hnone => exact filter_isLatest_eq_self fun hmem => hnone (hfound.mp hmem)

/-! ## Answers -/

/-- The contract of the operations on handlers: each makes its own edit and no other, and a removal
and a count answer what they have seen. -/
def editing : Contract := fun x log =>
  match x.operation, x.deed with
  | .add e handler, .returned _ => collect (edits e) log = [.add handler]
  | .remove e handler, .returned answer =>
    collect (edits e) log = [.remove handler] ∧ ∃ y ∈ log,
      y.deed = .did (.removeHandler e handler) ∧
        answer = .flag ((y.objects.event e).contains handler)
  | .clear e, .returned _ => collect (edits e) log = [.clear]
  | .count e, .returned answer =>
    ∃ y ∈ log, y.deed = .did .look ∧ answer = .number (y.objects.event e).count
  | _, _ => True

/-- Every operation keeps the contract of the operations on handlers. -/
theorem keeps_editing (op : Operation) : Keeps editing op := by
  -- the contract is about returns only
  have hbefore : ∀ (x : Occurrence) log lock effect, x.operation = op →
      (x.deed = .begun ∨ x.deed = .took lock ∨ x.deed = .did effect) → editing x log := by
    intro x log lock effect _ hdeed
    unfold editing
    rcases hdeed with hdeed | hdeed | hdeed <;> simp [hdeed]
  cases op
  case add e handler =>
    refine keeps_section rfl (fun x log => hbefore x log (.handlers e) _) ?_ ?_
    · exact fun _ _ _ _ _ _ _ _ => trivial
    · intro call o₀ o₁ o₂ o₃ o₄ _
      simp [editing, edits]
  case remove e handler =>
    refine keeps_section rfl (fun x log => hbefore x log (.handlers e) _) ?_ ?_
    · exact fun _ _ _ _ _ _ _ _ => trivial
    · intro call o₀ o₁ o₂ o₃ o₄ _
      refine ⟨by simp [edits], ⟨call, .remove e handler, .did (.removeHandler e handler), o₂⟩, ?_⟩
      simp
  case clear e =>
    refine keeps_section rfl (fun x log => hbefore x log (.handlers e) _) ?_ ?_
    · exact fun _ _ _ _ _ _ _ _ => trivial
    · intro call o₀ o₁ o₂ o₃ o₄ _
      simp [editing, edits]
  case count e =>
    refine keeps_section rfl (fun x log => hbefore x log (.handlers e) _) ?_ ?_
    · exact fun _ _ _ _ _ _ _ _ => trivial
    · intro call o₀ o₁ o₂ o₃ o₄ _
      exact ⟨⟨call, .count e, .did .look, o₂⟩, by simp⟩
  all_goals exact (keeps_abiding _).weaken fun x log hop _ => by simp only [editing, hop]

/-- A call that has returned has made its own edit and no other. -/
theorem Reachable.edits_of_returned (hs : Reachable rule s) (hx : x ∈ s.history)
    {edit : Edit FunctionId} (hop : x.operation = edit.operation e) {answer : Answer}
    (hdeed : x.deed = .returned answer) : collect (edits e) (logOf s.history x.call) = [edit] := by
  obtain ⟨log, hlog, hlaw⟩ := hs.law_of_ends keeps_editing hx (hdeed ▸ trivial)
  rw [hlog, collect_cons, show x.edits e = [] by simp [edits, hdeed], List.append_nil]
  cases edit with
  | add handler =>
    simp only [editing, hop, hdeed, Edit.operation] at hlaw
    exact hlaw
  | remove handler =>
    simp only [editing, hop, hdeed, Edit.operation] at hlaw
    exact hlaw.1
  | clear =>
    simp only [editing, hop, hdeed, Edit.operation] at hlaw
    exact hlaw

/-! ## The law -/

/-- The law of removal for an event, in a run that has come to `s`. -/
structure RemovalLaw (e : EventId) (s : State) : Prop where
  /-- The handlers are those of the additions that stand. -/
  handlers : (s.objects.event e).handlers
    = (standing (collect (edits e) s.history)).map (·.handler)
  /-- Additions stand in the order in which they were made. -/
  ordered : (standing (collect (edits e) s.history)).Pairwise (·.time < ·.time) ∧
    ∀ addition ∈ standing (collect (edits e) s.history),
      (collect (edits e) s.history)[addition.time]? = some (.add addition.handler)
  /-- A removal takes the latest addition of its handler that stands, if there have been more
  additions than removals since the last clear, and else nothing. -/
  removal : ∀ {later x earlier handler}, s.history = later ++ x :: earlier →
    x.deed = .did (.removeHandler e handler) →
    if removals e handler earlier < additions e handler earlier then
      TakesLatest handler (standing (collect (edits e) earlier))
        (standing (collect (edits e) (x :: earlier)))
    else standing (collect (edits e) (x :: earlier)) = standing (collect (edits e) earlier)
  /-- A call that removes a handler answers whether there have been more additions. -/
  answered : ∀ x ∈ s.history, ∀ handler answer, x.operation = .remove e handler →
    x.deed = .returned answer → ∃ later y earlier, s.history = later ++ y :: earlier ∧
      y.call = x.call ∧ y.deed = .did (.removeHandler e handler) ∧
      answer = .flag (decide (removals e handler earlier < additions e handler earlier))
  /-- There are as many handlers as have been added less those that removals have found. -/
  count : (s.objects.event e).count = (collect (added e) (sinceClear e s.history)).length -
      (collect (removed e) (sinceClear e s.history)).length ∧
    (collect (removed e) (sinceClear e s.history)).length ≤
      (collect (added e) (sinceClear e s.history)).length
  /-- A call that counts answers this number. -/
  counted : ∀ x ∈ s.history, ∀ answer, x.operation = .count e → x.deed = .returned answer →
    ∃ later y earlier, s.history = later ++ y :: earlier ∧ y.call = x.call ∧
      answer = .number ((collect (added e) (sinceClear e earlier)).length -
        (collect (removed e) (sinceClear e earlier)).length)
  /-- Each call makes its own edit and no other. -/
  performed : ∀ x ∈ s.history, ∀ edit answer, x.operation = Edit.operation e edit →
    x.deed = .returned answer → collect (edits e) (logOf s.history x.call) = [edit]
  /-- A removal that is performed now returns, whatever calls of the client would do. -/
  returns : ∀ {σ : Type} (service : Service σ) (client : σ) (handler : FunctionId),
    (e.remove handler).ReturnsWith service [] ⟨s.objects, client⟩
      (decide (removals e handler s.history < additions e handler s.history))
  /-- A handler that is added and then removed leaves everything as it was. -/
  undone : ∀ {σ : Type} (service : Service σ) (held : List Lock) (w : World σ)
    (handler : FunctionId), w.objects.HasEvent e → .handlers e ∉ held →
    ((e.add handler).bind fun _ => e.remove handler).run service held w
      = ⟨.returned true, held, w⟩

/-- In every run the law of removal holds for every event. -/
theorem removal_takes_latest (hs : Reachable rule s) (e : EventId) : RemovalLaw e s := by
  constructor
  case handlers => rw [hs.event_edited e, handlers_edited]
  case ordered => exact standing_ordered _
  case removal =>
    intro later x earlier handler hsplit hdeed
    obtain ⟨s', hs', rfl, _⟩ := hs.split hsplit
    exact hs'.standing_remove hdeed
  case answered =>
    intro x hx handler answer hop hdeed
    obtain ⟨log, hlog, hlaw⟩ := hs.law_of_ends keeps_editing hx (hdeed ▸ trivial)
    simp only [editing, hop, hdeed] at hlaw
    obtain ⟨_, y, hy, hdid, hanswer⟩ := hlaw
    obtain ⟨later, s', hsplit, hcall, hs', hnext⟩ := hs.split_of_mem_log hlog hy
    refine ⟨later, y, s'.history, hsplit, hcall, hdid, ?_⟩
    rw [hanswer, hnext.objects, hs'.contains_iff]
  case count =>
    have hcount := hs.count_eq e
    omega
  case counted =>
    intro x hx answer hop hdeed
    obtain ⟨log, hlog, hlaw⟩ := hs.law_of_ends keeps_editing hx (hdeed ▸ trivial)
    simp only [editing, hop, hdeed] at hlaw
    obtain ⟨y, hy, _, hanswer⟩ := hlaw
    obtain ⟨later, s', hsplit, hcall, hs', hnext⟩ := hs.split_of_mem_log hlog hy
    refine ⟨later, y, s'.history, hsplit, hcall, ?_⟩
    have hcount := hs'.count_eq e
    rw [hanswer, hnext.objects, ← hcount, Nat.add_sub_cancel]
  case performed => exact fun x hx edit answer hop hdeed => hs.edits_of_returned hx hop hdeed
  case returns =>
    intro σ service client handler
    rw [← hs.contains_iff e handler]
    exact .locked List.not_mem_nil _ _ _
  case undone =>
    exact fun service held w handler hevent hlock =>
      EventId.run_add_remove service hevent hlock handler

/-- Two threads add and remove two handlers of an event.  The first handler is there twice and the
second one in between; a third removal finds none.  After a clear nothing counts any more. -/
def duplicatedHandlers : List Choice :=
  let e : EventId := ⟨0⟩
  let f : FunctionId := ⟨0⟩
  let g : FunctionId := ⟨1⟩
  .begin 0 .makeEvent :: goOn 0 2 ++
  .begin 0 .makeFunction :: goOn 0 2 ++ .begin 0 .makeFunction :: goOn 0 2 ++
  .begin 0 (.add e g) :: goOn 0 4 ++ .begin 0 (.clear e) :: goOn 0 4 ++
  .begin 0 (.add e f) :: goOn 0 4 ++ .begin 1 (.add e g) :: goOn 1 4 ++
  .begin 1 (.add e f) :: .begin 0 (.remove e f) :: goOn 1 4 ++ goOn 0 4 ++
  .begin 1 (.add e g) :: goOn 1 4 ++ .begin 0 (.count e) :: goOn 0 4 ++
  .begin 0 (.remove e f) :: goOn 0 4 ++ .begin 1 (.remove e f) :: goOn 1 4

theorem removal_takes_latest_duplicates :
    let s := State.initial.follow Rule.any duplicatedHandlers
    Reachable Rule.any s ∧ RemovalLaw ⟨0⟩ s ∧
      standing (collect (edits ⟨0⟩) s.history) = [⟨3, ⟨1⟩⟩, ⟨6, ⟨1⟩⟩] ∧
      additions ⟨0⟩ ⟨0⟩ s.history = 2 ∧ removals ⟨0⟩ ⟨0⟩ s.history = 2 ∧
      additions ⟨0⟩ ⟨1⟩ s.history = 2 ∧ removals ⟨0⟩ ⟨1⟩ s.history = 0 ∧
      s.frames.length = 0 := by
  have hs : Reachable Rule.any (State.initial.follow Rule.any duplicatedHandlers) :=
    Reachable.initial.follow duplicatedHandlers
  refine ⟨hs, removal_takes_latest hs _, ?_⟩
  decide +kernel

end Interleaving
end Hostlink
