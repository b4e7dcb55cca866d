import Hostlink.Proofs.Event.Member

/-!
# The accounts of an event member

A native callback of an event member is added to the event once, removed at most once, and is on the
event in between.  The call that removes it is the one that has taken its registration, and no such
call ends before it has removed everything.  Callbacks are recorded in the order in which they are
added.
-/

namespace Hostlink.Interleaving

open Occurrence

variable {m : EventMember} {s : State} {x : Occurrence} {native : FunctionId}
  {entry : Registration}

/-! ## Once added, once removed -/

/-- The call that removes a native callback of the member is the one that has taken it. -/
theorem Reachable.removed_by_taker (hs : Reachable m.rule s) {call : Nat}
    (htaken : (m.key, entry) ∈ collect (taken m.bridge) (logOf s.history call))
    (hremoved : (.removeFrom m.event, entry.native) ∈ collect handed s.history) :
    (.removeFrom m.event, entry.native) ∈ collect handed (logOf s.history call) := by
  obtain ⟨x, hx, hmem⟩ := mem_collect.mp hremoved
  obtain ⟨later, earlier, hsplit⟩ := List.append_of_mem hx
  have hours : entry.native ∈ collect m.synthesized s.history :=
    hs.synthesized_of_pushed (hs.pushed_of_taken (mem_collect_of_logOf htaken))
  obtain ⟨⟨entry', hnative, htaken'⟩, _⟩ := hs.taken_of_removed hsplit (mem_handed.mp hmem) hours
  have hnatives : ∀ {entry' call}, entry'.native = entry.native →
      (m.key, entry') ∈ collect (taken m.bridge) (logOf s.history call) →
      entry.native ∈ collect (fun x => (x.taken m.bridge).map (·.2.native)) (logOf s.history call) := by
    intro entry' call heq hmem
    rw [← collect_map]
    exact heq ▸ List.mem_map_of_mem (f := fun pair => pair.2.native) hmem
  have hcall : x.call = call := collect_call_unique (hs.taken_nodup m.bridge)
    (hnatives hnative (mem_collect_of_split hsplit htaken')) (hnatives rfl htaken)
  exact mem_collect.mpr ⟨x, mem_logOf.mpr ⟨hx, hcall⟩, hmem⟩

/-- A native callback of the member is removed from the event at most once. -/
theorem Reachable.removed_once (hs : Reachable m.rule s) {later earlier : History}
    (hsplit : s.history = later ++ x :: earlier)
    (hdeed : x.deed = .did (.removeHandler m.event native))
    (hours : native ∈ collect m.synthesized s.history) :
    (.removeFrom m.event, native) ∉ collect handed earlier := by
  obtain ⟨⟨entry, rfl, htaken⟩, hfirst⟩ := hs.taken_of_removed hsplit hdeed hours
  obtain ⟨s', hs', rfl, _⟩ := hs.split hsplit
  exact fun hremoved => hfirst _ (hs'.removed_by_taker htaken hremoved)

/-- A native callback of the member is added by the call that has made it, in its section. -/
theorem Reachable.law_of_added (hs : Reachable m.rule s) {later earlier : History}
    (hsplit : s.history = later ++ x :: earlier)
    (hdeed : x.deed = .did (.addHandler m.event native))
    (hours : native ∈ collect m.synthesized s.history) :
    m.Attaches x.operation ∧ collect made (logOf earlier x.call) = [native] ∧
      collect registered (logOf earlier x.call) = [] ∧
      collect (pushed m.bridge) (logOf earlier x.call) = [] ∧
      .table m.bridge ∈ held (logOf earlier x.call) := by
  have hx : x ∈ s.history := by rw [hsplit]; simp
  have hattaches := hs.attaches_of_added hx (mem_added.mpr hdeed) hours
  obtain ⟨callback, converter, registrar, hop⟩ := hattaches.exists_eq
  have hlaw := hs.obeys_at keeps_attaching hsplit
  simp only [attaching, hop, hdeed] at hlaw
  obtain ⟨_, hmade, hregistered, hpushed, hheld, _⟩ := hlaw
  exact ⟨hattaches, hmade, hregistered, hpushed, hheld⟩

/-- A native callback of the member is added to the event only once, and not removed before. -/
theorem Reachable.added_once (hs : Reachable m.rule s) {later earlier : History}
    (hsplit : s.history = later ++ x :: earlier)
    (hdeed : x.deed = .did (.addHandler m.event native))
    (hours : native ∈ collect m.synthesized s.history) :
    native ∉ collect (added m.event) earlier ∧
      (.removeFrom m.event, native) ∉ collect handed earlier := by
  obtain ⟨_, hmade, hregistered, hpushed, _⟩ := hs.law_of_added hsplit hdeed hours
  obtain ⟨s', hs', rfl, _⟩ := hs.split hsplit
  -- whatever another deed says about this callback, it is of the same call
  have hmine : ∀ {y : Occurrence}, native ∈ collect made (logOf s'.history y.call) →
      y.call = x.call :=
    fun hmade' => collect_call_unique hs'.made_nodup.1 hmade' (hmade ▸ List.mem_singleton_self _)
  constructor
  · intro hadded
    obtain ⟨y, hy, hmem⟩ := mem_collect.mp hadded
    obtain ⟨after, before, hsplit'⟩ := List.append_of_mem hy
    have hwhole : s.history = (later ++ x :: after) ++ y :: before := by simp [hsplit, hsplit']
    obtain ⟨_, hmade', _⟩ := hs.law_of_added hwhole (mem_added.mp hmem) hours
    have hcall : y.call = x.call :=
      hmine (mem_collect_of_split hsplit' (hmade' ▸ List.mem_singleton_self _))
    have hagain : (.addTo m.event, native) ∈ collect registered (logOf s'.history x.call) :=
      mem_collect.mpr ⟨y, mem_logOf.mpr ⟨hy, hcall⟩, mem_registered.mpr (mem_added.mp hmem)⟩
    rw [hregistered] at hagain
    cases hagain
  · intro hremoved
    obtain ⟨y, hy, hmem⟩ := mem_collect.mp hremoved
    obtain ⟨after, before, hsplit'⟩ := List.append_of_mem hy
    have hwhole : s.history = (later ++ x :: after) ++ y :: before := by simp [hsplit, hsplit']
    obtain ⟨⟨entry, rfl, htaken⟩, _⟩ := hs.taken_of_removed hwhole (mem_handed.mp hmem) hours
    have hrecorded : (m.key, entry) ∈ collect (pushed m.bridge) s'.history :=
      hs'.pushed_of_taken (mem_collect_of_logOf (mem_collect_of_split hsplit' htaken))
    obtain ⟨z, hz, hdeed', _, hmade'⟩ := hs'.exists_push hrecorded
    have hagain : (m.key, entry) ∈ collect (pushed m.bridge) (logOf s'.history x.call) :=
      mem_collect.mpr ⟨z, mem_logOf.mpr ⟨hz, hmine hmade'⟩, mem_pushed.mpr hdeed'⟩
    rw [hpushed] at hagain
    cases hagain

/-- Every registration of the member has been added to the event. -/
theorem Reachable.added_of_pushed (hs : Reachable m.rule s)
    (hmem : (m.key, entry) ∈ collect (pushed m.bridge) s.history) :
    entry.native ∈ collect (added m.event) s.history := by
  obtain ⟨x, hx, hdeed, _⟩ := hs.exists_push hmem
  obtain ⟨later, s', hsplit, _, hnext⟩ := hs.exists_next hx
  obtain ⟨converter, registrar, hop, _, hregistered, _⟩ := hnext.of_push hdeed
  rw [hs.registrar_eq hx hop] at hregistered
  obtain ⟨y, hy, hadds⟩ := mem_collect.mp (hregistered ▸ List.mem_singleton_self _)
  exact mem_collect.mpr ⟨y, mem_of_split hsplit y hy, mem_added.mpr (mem_registered.mp hadds)⟩

/-- No other code clears the event of the member. -/
theorem Next.not_clear (hnext : Next m.rule s x) :
    x.deed ≠ .did (.clearHandlers m.event) := by
  intro hdeed
  obtain ⟨s', hs', hhistory, _⟩ := hnext.reachable
  obtain ⟨_, _, _, hallowed⟩ := hs'.allowed x (hhistory ▸ List.mem_cons_self)
  rw [show x.operation = .clear m.event from hnext.effects hdeed] at hallowed
  exact absurd rfl hallowed

/-- A native callback of the member that has been added is on the event once, until it is removed. -/
theorem Reachable.count_handlers (hs : Reachable m.rule s) :
    ∀ native ∈ collect m.synthesized s.history, native ∈ collect (added m.event) s.history →
      (s.objects.event m.event).handlers.count native
        = if (.removeFrom m.event, native) ∈ collect handed s.history then 0 else 1 := by
  refine hs.induct (I := fun o h => ∀ native ∈ collect m.synthesized h,
    native ∈ collect (added m.event) h → (o.event m.event).handlers.count native
      = if (.removeFrom m.event, native) ∈ collect handed h then 0 else 1) (by simp) ?_
  intro s x hs hnext ih native hours hadded
  obtain ⟨s', hs', hhistory, _⟩ := hnext.reachable
  have hsplit : s'.history = [] ++ x :: s.history := hhistory
  have hours' : native ∈ collect m.synthesized s'.history := hhistory ▸ hours
  have hstep := hnext.eventStep m.event
  by_cases hnew : x.deed = .did (.addHandler m.event native)
  · obtain ⟨hfirst, hkept⟩ := hs'.added_once hsplit hnew hours'
    have hnone : (s.objects.event m.event).handlers.count native = 0 :=
      List.count_eq_zero.mpr fun hmem => hfirst ((hs.handlers_sublist m.event).subset hmem)
    have hremoved : (.removeFrom m.event, native) ∉ collect handed (x :: s.history) := by
      simpa [handed, hnew] using hkept
    rw [hstep.count_of_added hnew, hnone, if_neg hremoved]
  -- it was added before, and so it was made before
  have hbefore : native ∈ collect (added m.event) s.history := by
    rw [collect_cons] at hadded
    exact (List.mem_append.mp hadded).resolve_right fun hmem => hnew (mem_added.mp hmem)
  have hknown : native ∈ collect m.synthesized s.history := by
    rw [collect_cons] at hours
    refine (List.mem_append.mp hours).resolve_right fun hmem => ?_
    refine not_hasFunction_of_made (mem_made_of_synthesized hmem) ?_
    rw [hnext.objects]
    exact hs.hasFunction_of_added m.event native hbefore
  have hcount := ih native hknown hbefore
  by_cases hgone : x.deed = .did (.removeHandler m.event native)
  · have hkept := hs'.removed_once hsplit hgone hours'
    have hremoved : (.removeFrom m.event, native) ∈ collect handed (x :: s.history) :=
      List.mem_append_right _ (mem_handed.mpr hgone)
    rw [hstep.count_of_removed hgone, hcount, if_neg hkept, if_pos hremoved]
  · have hsame : (.removeFrom m.event, native) ∈ collect handed (x :: s.history) ↔
        (.removeFrom m.event, native) ∈ collect handed s.history := by
      rw [collect_cons, List.mem_append, mem_handed]
      simp [hgone]
    rw [hstep.count_of_other hnew hgone hnext.not_clear, hcount]
    simp only [hsame]

/-! ## Calls that have ended -/

/-- Whatever is owed to a hook is owed to the hook that was set for its key. -/
theorem Reachable.hook_of_owed (hs : Reachable m.rule s) {hook : Hook}
    (hmem : (hook, native) ∈ collect (owed m.bridge) s.history) : ∃ e, hook = .removeFrom e := by
  obtain ⟨x, hx, howed⟩ := mem_collect.mp hmem
  obtain ⟨_, s', _, hs', hnext⟩ := hs.exists_next hx
  obtain ⟨_, howed⟩ := Occurrence.mem_owed.mp howed
  rw [hnext.objects] at howed
  obtain ⟨key, entry, _, hhook, _⟩ := CallbackTable.mem_owed.mp howed
  rw [hs'.hook?] at hhook
  obtain ⟨e, heq, _⟩ := hs'.hook_eq (List.mem_of_getLast? hhook)
  exact ⟨e, heq⟩

/-- A release of the bridge has handed over everything when it ends, even by a panic. -/
theorem Reachable.handed_of_ends (hs : Reachable m.rule s) (hx : x ∈ s.history)
    (hop : x.operation.Releases m.bridge) (hends : x.deed.Ends) :
    collect handed (logOf s.history x.call) = collect (owed m.bridge) (logOf s.history x.call) := by
  obtain ⟨log, hlog, hlaw⟩ := hs.law_of_ends keeps_releasing hx hends
  have hlaw := hlaw m.bridge hop
  have hnothing : x.handed = [] ∧ x.owed m.bridge = [] := by
    rcases Deed.ends_iff.mp hends with ⟨answer, hdeed⟩ | ⟨message, hdeed⟩
    · simp [handed, owed, hdeed]
    · simp [handed, owed, hdeed]
  obtain ⟨hops, hobeys⟩ := hs.releasing_log hx
  have hbegins := handed_prefix_owed hop hops hobeys
  rw [hlog, collect_cons, collect_cons, hnothing.1, hnothing.2, List.append_nil,
    List.append_nil] at hbegins ⊢
  rcases Deed.ends_iff.mp hends with ⟨answer, hdeed⟩ | ⟨message, hdeed⟩
  · simp only [hdeed] at hlaw
    exact hlaw.1
  · simp only [hdeed] at hlaw
    rcases hlaw with hall | ⟨code, native, hclient⟩
    · exact hall
    · have hmem : (.client code, native) ∈ collect (owed m.bridge) (logOf s.history x.call) := by
        rw [hlog, collect_cons]
        exact List.mem_append_left _ (hbegins.subset hclient)
      obtain ⟨e, heq⟩ := hs.hook_of_owed (mem_collect_of_logOf hmem)
      cases heq

/-- The member's registrations are taken back by operations that remove from its event. -/
theorem Reachable.detachFrom_of_detached (hs : Reachable m.rule s) (hx : x ∈ s.history)
    {caller : FunctionId} (hdeed : x.deed = .did (.detach m.bridge m.key caller)) :
    x.operation = .detachFrom m.bridge m.key caller m.event := by
  obtain ⟨_, _, _, hallowed⟩ := hs.allowed x hx
  rcases hs.effects hx hdeed with hop | ⟨e, hop⟩
  · rw [hop] at hallowed
    exact absurd ⟨rfl, rfl⟩ hallowed
  · rw [hop] at hallowed
    rw [hop, show e = m.event from hallowed ⟨rfl, rfl⟩]

/-- A detachment that has ended has removed what it has taken back. -/
theorem Reachable.removed_of_detached (hs : Reachable m.rule s) (hx : x ∈ s.history)
    (hends : x.deed.Ends) {y : Occurrence} (hy : y ∈ logOf s.history x.call)
    (hdetached : (m.key, entry) ∈ y.detached m.bridge) :
    (.removeFrom m.event, entry.native) ∈ collect handed (logOf s.history x.call) := by
  obtain ⟨hin, hcall⟩ := mem_logOf.mp hy
  obtain ⟨caller, hdeed⟩ := mem_detached hdetached
  have hop : x.operation = .detachFrom m.bridge m.key caller m.event :=
    (hs.operation_eq hx hin hcall.symm).trans (hs.detachFrom_of_detached hin hdeed)
  obtain ⟨log, hlog, hlaw⟩ := hs.law_of_ends keeps_detaching hx hends
  have hbefore : entry.native ∈ (collect (detached m.bridge) log).map (·.2.native) := by
    rw [hlog] at hy
    rcases List.mem_cons.mp hy with rfl | hy
    · simp [hdeed, Deed.Ends] at hends
    · exact List.mem_map_of_mem (f := fun pair => pair.2.native)
        (mem_collect.mpr ⟨y, hy, hdetached⟩)
  rw [hlog, collect_cons]
  refine List.mem_append_left _ ?_
  rcases Deed.ends_iff.mp hends with ⟨answer, hend⟩ | ⟨message, hend⟩
  · simp only [detaching, hop, hend] at hlaw
    rcases hlaw with ⟨_, _, native, _, hhanded, hnatives, _⟩ | ⟨hnone, _⟩
    · rw [hnatives] at hbefore
      rw [hhanded, List.mem_singleton.mp hbefore]
      exact List.mem_singleton_self _
    · rw [hnone] at hbefore
      cases hbefore
  · simp [detaching, hop, hend] at hlaw

/-- A release that has ended has removed what it has drained. -/
theorem Reachable.removed_of_drained (hs : Reachable m.rule s) (hx : x ∈ s.history)
    (hends : x.deed.Ends) {y : Occurrence} (hy : y ∈ logOf s.history x.call)
    (hdrained : (m.key, entry) ∈ y.drained m.bridge) :
    (.removeFrom m.event, entry.native) ∈ collect handed (logOf s.history x.call) := by
  obtain ⟨hin, hcall⟩ := mem_logOf.mp hy
  obtain ⟨hdrains, hdrained⟩ := mem_drained.mp hdrained
  have hreleases : x.operation.Releases m.bridge :=
    hs.operation_eq hin hx hcall ▸ hs.effects hin hdrains
  obtain ⟨hops, hobeys⟩ := hs.releasing_log hx
  rw [hs.handed_of_ends hx hreleases hends,
    (owed_of_mem_drains hreleases hops hobeys hy hdrains).1]
  refine CallbackTable.mem_owed.mpr ⟨m.key, entry, hdrained, ?_, rfl⟩
  obtain ⟨_, s', _, hs', hnext⟩ := hs.exists_next hin
  rw [hnext.objects] at hdrained ⊢
  obtain ⟨z, hz, _, ⟨converter, registrar, hattach⟩, _⟩ :=
    hs'.exists_push ((hs'.places m.bridge).mem_iff.mpr (List.mem_append_left _ hdrained))
  refine hs'.hook?_of_attaches hz ?_
  rw [hattach]
  exact ⟨rfl, rfl⟩

/-- A call that has ended has removed what it has taken. -/
theorem Reachable.removed_of_ends (hs : Reachable m.rule s) (hx : x ∈ s.history)
    (hends : x.deed.Ends)
    (htaken : (m.key, entry) ∈ collect (taken m.bridge) (logOf s.history x.call)) :
    (.removeFrom m.event, entry.native) ∈ collect handed (logOf s.history x.call) := by
  obtain ⟨y, hy, hmem⟩ := mem_collect.mp htaken
  rcases List.mem_append.mp hmem with hdetached | hdrained
  · exact hs.removed_of_detached hx hends hy hdetached
  · exact hs.removed_of_drained hx hends hy hdrained

/-! ## The order of registrations -/

namespace EventMember

variable (m : EventMember)

/-- The native callback of the member that is added to its event. -/
def introduced (x : Occurrence) : List FunctionId :=
  if m.Attaches x.operation then x.added m.event else []

/-- The native callback of the registration of the member that is recorded. -/
def recorded (x : Occurrence) : List FunctionId :=
  ((x.pushed m.bridge).filter (·.1 = m.key)).map (·.2.native)

end EventMember

theorem mem_introduced :
    native ∈ m.introduced x ↔ m.Attaches x.operation ∧ x.deed = .did (.addHandler m.event native) := by
  unfold EventMember.introduced
  split
  next hop => simp [mem_added, hop]
  next hop => simp [hop]

theorem mem_recorded : native ∈ m.recorded x ↔
    ∃ entry : Registration, entry.native = native ∧ x.deed = .did (.push m.bridge m.key entry) := by
  unfold EventMember.recorded
  constructor
  · intro hmem
    obtain ⟨⟨key, entry⟩, hpair, hnative⟩ := List.mem_map.mp hmem
    obtain ⟨hpushed, hkey⟩ := List.mem_filter.mp hpair
    refine ⟨entry, hnative, ?_⟩
    rw [← of_decide_eq_true hkey]
    exact mem_pushed.mp hpushed
  · rintro ⟨entry, rfl, hdeed⟩
    simp [pushed, hdeed]

/-- Between adding and recording: a call that attaches has added its native callback to the event
and not recorded it yet. -/
structure Pending (m : EventMember) (h : History) (call : Nat) (native : FunctionId) : Prop where
  held : .table m.bridge ∈ held (logOf h call)
  registered : collect registered (logOf h call) = [(.addTo m.event, native)]
  pushed : collect (pushed m.bridge) (logOf h call) = []
  attaches : ∃ y ∈ logOf h call, m.Attaches y.operation

/-- A call that adds its native callback has come to be between adding and recording. -/
theorem Next.pending {rule : Rule} (hnext : Next rule s x) (hmem : native ∈ m.introduced x) :
    Pending m (x :: s.history) x.call native ∧ .table m.bridge ∈ held (logOf s.history x.call) ∧
      collect registered (logOf s.history x.call) = [] := by
  obtain ⟨hattaches, hdeed⟩ := mem_introduced.mp hmem
  obtain ⟨callback, converter, registrar, hop⟩ := hattaches.exists_eq
  have hlaw := hnext.obeys keeps_attaching
  simp only [attaching, hop, hdeed] at hlaw
  obtain ⟨_, _, hregistered, hpushed, hheld, _⟩ := hlaw
  refine ⟨?_, hheld, hregistered⟩
  constructor
  · rw [logOf_cons_self rfl]
    exact mem_held_cons_of_mem hheld (by simp [hdeed]) (by simp [hdeed])
  · simp [logOf_cons_self, hregistered, Occurrence.registered, hdeed]
  · simp [logOf_cons_self, hpushed, Occurrence.pushed, hdeed]
  · rw [logOf_cons_self rfl]
    exact ⟨x, List.mem_cons_self, hattaches⟩

/-- A call stays between adding and recording until it records. -/
theorem Pending.next {rule : Rule} {call : Nat} (h : Pending m s.history call native)
    (hnext : Next rule s x) (hrecorded : m.recorded x = []) :
    Pending m (x :: s.history) call native := by
  by_cases hcall : x.call = call
  · subst hcall
    obtain ⟨y, hy, hop⟩ := h.attaches
    rw [hnext.operation_eq hy] at hop
    obtain ⟨callback, converter, registrar, heq⟩ := hop.exists_eq
    have hlaw := hnext.obeys keeps_attaching
    simp only [attaching, heq, h.registered, h.pushed] at hlaw
    have hregistered : x.registered = [] := by
      unfold Occurrence.registered
      split
      next hdeed => simp [hdeed] at hlaw
      next hdeed => simp [hdeed] at hlaw
      next => rfl
    have hpushed : x.pushed m.bridge = [] := by
      refine pushed_eq_nil fun key entry hdeed => ?_
      simp only [hdeed] at hlaw
      have hmine : entry.native ∈ m.recorded x :=
        mem_recorded.mpr ⟨entry, rfl, by rw [hdeed, hlaw.2.1]⟩
      rw [hrecorded] at hmine
      cases hmine
    constructor
    · rw [logOf_cons_self rfl]
      refine mem_held_cons_of_mem h.held ?_ ?_
      · intro hdeed
        simp [hdeed] at hlaw
      · intro message hdeed
        simp [hdeed] at hlaw
    · rw [logOf_cons_self rfl, collect_cons, h.registered, hregistered]
      rfl
    · rw [logOf_cons_self rfl, collect_cons, h.pushed, hpushed]
      rfl
    · rw [logOf_cons_self rfl]
      exact ⟨y, List.mem_cons_of_mem _ hy, hnext.operation_eq hy ▸ hop⟩
  · constructor
    · rw [logOf_cons_of_ne hcall]
      exact h.held
    · rw [logOf_cons_of_ne hcall]
      exact h.registered
    · rw [logOf_cons_of_ne hcall]
      exact h.pushed
    · rw [logOf_cons_of_ne hcall]
      exact h.attaches

/-- What is recorded is not recorded before, though it has been added. -/
theorem Reachable.recorded_late (hs : Reachable m.rule s) (hnext : Next m.rule s x)
    (hdeed : x.deed = .did (.push m.bridge m.key entry)) :
    entry.native ∈ collect m.introduced s.history ∧ entry.native ∉ collect m.recorded s.history := by
  obtain ⟨converter, registrar, hop, hmade, hregistered, hpushed, _⟩ := hnext.of_push hdeed
  have hattaches : m.Attaches x.operation := by
    rw [hop]
    exact ⟨rfl, rfl⟩
  constructor
  · obtain ⟨s', hs', hhistory, _⟩ := hnext.reachable
    rw [hs'.registrar_eq (hhistory ▸ List.mem_cons_self) hop] at hregistered
    obtain ⟨y, hy, hadds⟩ := mem_collect.mp (hregistered ▸ List.mem_singleton_self _)
    refine mem_collect.mpr ⟨y, (mem_logOf.mp hy).1, mem_introduced.mpr ⟨?_, mem_registered.mp hadds⟩⟩
    rw [hnext.operation_eq hy]
    exact hattaches
  · intro hrecorded
    obtain ⟨y, hy, hmem⟩ := mem_collect.mp hrecorded
    obtain ⟨entry', hnative, hdeed'⟩ := mem_recorded.mp hmem
    obtain ⟨z, hz, hpush, _, hmade'⟩ :=
      hs.exists_push (mem_collect.mpr ⟨y, hy, mem_pushed.mpr hdeed'⟩)
    have hcall : z.call = x.call := by
      refine collect_call_unique hs.made_nodup.1 hmade' ?_
      rw [hmade, hnative]
      exact List.mem_singleton_self _
    have hagain : (m.key, entry') ∈ collect (pushed m.bridge) (logOf s.history x.call) :=
      mem_collect.mpr ⟨z, mem_logOf.mpr ⟨hz, hcall⟩, mem_pushed.mpr hpush⟩
    rw [hpushed] at hagain
    cases hagain

/-- Native callbacks are recorded in the order in which they are added, with at most one call
between the two. -/
theorem Reachable.introduced_eq (hs : Reachable m.rule s) :
    collect m.introduced s.history = collect m.recorded s.history ∨
      ∃ call native, Pending m s.history call native ∧
        collect m.introduced s.history = collect m.recorded s.history ++ [native] := by
  refine hs.induct (I := fun _ h => collect m.introduced h = collect m.recorded h ∨
    ∃ call native, Pending m h call native ∧
      collect m.introduced h = collect m.recorded h ++ [native]) (Or.inl rfl) ?_
  intro s x hs hnext ih
  rw [collect_cons, collect_cons]
  by_cases hintro : ∃ native, native ∈ m.introduced x
  · obtain ⟨native, hmem⟩ := hintro
    obtain ⟨hattaches, hdeed⟩ := mem_introduced.mp hmem
    obtain ⟨hpending, hheld, hregistered⟩ := hnext.pending hmem
    rw [show m.introduced x = [native] by simp [EventMember.introduced, hattaches, added, hdeed],
      show m.recorded x = [] by simp [EventMember.recorded, pushed, hdeed], List.append_nil]
    rcases ih with hsame | ⟨call, other, hother, _⟩
    · exact Or.inr ⟨x.call, native, hpending, by rw [hsame]⟩
    · -- both calls have the lock of the table, so they are the same
      have hsame := hother.registered
      rw [hs.exclusive hother.held hheld, hregistered] at hsame
      cases hsame
  by_cases hrecord : ∃ native, native ∈ m.recorded x
  · obtain ⟨native, hmem⟩ := hrecord
    obtain ⟨entry, rfl, hdeed⟩ := mem_recorded.mp hmem
    obtain ⟨converter, registrar, hop, hmade, hregistered, hpushed, hheld, _⟩ := hnext.of_push hdeed
    rw [show m.introduced x = [] by simp [EventMember.introduced, added, hdeed],
      show m.recorded x = [entry.native] by simp [EventMember.recorded, pushed, hdeed],
      List.append_nil]
    rcases ih with hsame | ⟨call, other, hpending, hlast⟩
    · obtain ⟨hadded, hnot⟩ := hs.recorded_late hnext hdeed
      exact absurd (hsame ▸ hadded) hnot
    · have hother := hpending.registered
      rw [hs.exclusive hpending.held hheld, hregistered] at hother
      obtain ⟨_, rfl⟩ := Prod.mk.inj (List.singleton_inj.mp hother)
      exact Or.inl hlast
  · rw [List.eq_nil_iff_forall_not_mem.mpr fun native hmem => hintro ⟨native, hmem⟩,
      List.eq_nil_iff_forall_not_mem.mpr fun native hmem => hrecord ⟨native, hmem⟩,
      List.append_nil, List.append_nil]
    rcases ih with hsame | ⟨call, native, hpending, hlast⟩
    · exact Or.inl hsame
    · refine Or.inr ⟨call, native, hpending.next hnext ?_, hlast⟩
      exact List.eq_nil_iff_forall_not_mem.mpr fun native hmem => hrecord ⟨native, hmem⟩

end Hostlink.Interleaving
