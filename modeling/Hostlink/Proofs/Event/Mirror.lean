import Hostlink.Proofs.Bridge.Finality
import Hostlink.Proofs.Event.Accounts

/-!
# An event mirrors a member's table

For an event member, the handlers of the event that are native callbacks of the member are those of
the registrations in the table, and those that a detachment or a release has taken and not yet
removed.  While no operation on the member is going on, both come in the same order.
-/

namespace Hostlink.Interleaving

open Occurrence

namespace EventMember

variable (m : EventMember)

/-- Whether a call that is going on has taken a registration of the member and has not removed its
native callback from the event yet. -/
def Holds (s : State) (entry : Registration) : Prop :=
  ∃ f ∈ s.frames, (m.key, entry) ∈ collect (taken m.bridge) (logOf s.history f.call) ∧
    (.removeFrom m.event, entry.native) ∉ collect handed (logOf s.history f.call)

/-- The handlers of the event that are native callbacks of the member. -/
def handlers (s : State) : List FunctionId :=
  (s.objects.event m.event).handlers.filter (· ∈ collect m.synthesized s.history)

/-- The native callbacks in the table of the member. -/
def natives (s : State) : List FunctionId :=
  ((s.objects.table m.bridge).entries m.key).map (·.native)

/-- The registration of the member that is taken back. -/
def withdrawn (x : Occurrence) : List (MemberKey × Registration) :=
  (x.detached m.bridge).filter (·.1 = m.key)

end EventMember

variable {m : EventMember} {s : State} {x : Occurrence} {native : FunctionId}
  {entry : Registration}

/-! ## In the table, in flight, or gone -/

/-- What takes a registration of the member uses it. -/
theorem Reachable.uses_of_taken (hs : Reachable m.rule s) (hx : x ∈ s.history)
    (hmem : (m.key, entry) ∈ x.taken m.bridge) : m.Uses x.operation := by
  rcases List.mem_append.mp hmem with hdetached | hdrained
  · obtain ⟨caller, hdeed⟩ := mem_detached hdetached
    exact Or.inr (Or.inl ⟨caller, m.event, hs.detachFrom_of_detached hx hdeed⟩)
  · exact Or.inr (Or.inr (hs.effects hx (mem_drained.mp hdrained).1))

/-- What is in the table was recorded. -/
theorem Reachable.pushed_of_entry (hs : Reachable m.rule s)
    (hmem : entry ∈ (s.objects.table m.bridge).entries m.key) :
    (m.key, entry) ∈ collect (pushed m.bridge) s.history :=
  (hs.places m.bridge).mem_iff.mpr
    (List.mem_append_left _ (CallbackTable.mem_registrations.mpr hmem))

/-- A registration has been removed from the event exactly if it is neither in the table nor held
by a call. -/
theorem Reachable.removed_iff (hs : Reachable m.rule s)
    (hmem : (m.key, entry) ∈ collect (pushed m.bridge) s.history) :
    (.removeFrom m.event, entry.native) ∈ collect handed s.history ↔
      ¬ (entry ∈ (s.objects.table m.bridge).entries m.key ∨ m.Holds s entry) := by
  have hplaces := hs.places_taken m.bridge
  constructor
  · rintro hremoved (htable | ⟨f, _, htaken, hkept⟩)
    · obtain ⟨x, hx, hremoves⟩ := mem_collect.mp hremoved
      obtain ⟨later, earlier, hsplit⟩ := List.append_of_mem hx
      obtain ⟨⟨entry', hnative, htaken⟩, _⟩ := hs.taken_of_removed hsplit (mem_handed.mp hremoves)
        (hs.synthesized_of_pushed hmem)
      have hnodup := (hplaces.map (·.2.native)).nodup_iff.mp (hs.natives_nodup m.bridge)
      rw [List.map_append] at hnodup
      refine (List.nodup_append.mp hnodup).2.2 entry.native ?_ entry.native ?_ rfl
      · exact List.mem_map_of_mem (f := fun pair => pair.2.native)
          (CallbackTable.mem_registrations.mpr htable)
      · rw [← hnative]
        exact List.mem_map_of_mem (f := fun pair => pair.2.native)
          (mem_collect_of_logOf (mem_collect_of_split hsplit htaken))
    · exact hkept (hs.removed_by_taker htaken hremoved)
  · intro hnot
    have htaken : (m.key, entry) ∈ collect (taken m.bridge) s.history := by
      refine (List.mem_append.mp (hplaces.mem_iff.mp hmem)).resolve_left fun htable => ?_
      exact hnot (Or.inl (CallbackTable.mem_registrations.mp htable))
    obtain ⟨x, hx, htakes⟩ := mem_collect.mp htaken
    have hlog : (m.key, entry) ∈ collect (taken m.bridge) (logOf s.history x.call) :=
      mem_collect.mpr ⟨x, mem_logOf.mpr ⟨hx, rfl⟩, htakes⟩
    rcases hs.running_or_ended hx with ⟨f, hf, hcall⟩ | ⟨y, hy, hcall, hends⟩
    · refine Classical.byContradiction fun hkept => hnot (Or.inr ⟨f, hf, hcall ▸ hlog, ?_⟩)
      exact fun hhanded => hkept (mem_collect_of_logOf hhanded)
    · exact mem_collect_of_logOf (hs.removed_of_ends hy hends (hcall ▸ hlog))

/-- A native callback of the member is on the event once while it is in the table or held by a
call, and not at all afterwards. -/
theorem Reachable.count_of_pushed (hs : Reachable m.rule s)
    (hmem : (m.key, entry) ∈ collect (pushed m.bridge) s.history) :
    (entry ∈ (s.objects.table m.bridge).entries m.key ∨ m.Holds s entry →
      (s.objects.event m.event).handlers.count entry.native = 1) ∧
    (¬ (entry ∈ (s.objects.table m.bridge).entries m.key ∨ m.Holds s entry) →
      (s.objects.event m.event).handlers.count entry.native = 0) := by
  have hcount := hs.count_handlers entry.native (hs.synthesized_of_pushed hmem)
    (hs.added_of_pushed hmem)
  have hremoved := hs.removed_iff hmem
  constructor
  · intro hhere
    rw [hcount, if_neg fun h => hremoved.mp h hhere]
  · intro hgone
    rw [hcount, if_pos (hremoved.mpr hgone)]

/-! ## At rest -/

/-- Sublists of a list without repetitions are the same if they have the same members. -/
private theorem sublist_ext {α : Type} {l l₁ l₂ : List α} (hl : l.Nodup) (h₁ : l₁.Sublist l)
    (h₂ : l₂.Sublist l) (h : ∀ a, a ∈ l₁ ↔ a ∈ l₂) : l₁ = l₂ := by
  classical
  suffices hfilter : ∀ {l' : List α}, l'.Sublist l → l' = l.filter (· ∈ l') by
    rw [hfilter h₁, hfilter h₂]
    exact List.filter_congr fun a _ => by simp [h a]
  intro l' h'
  have hall : l'.filter (· ∈ l') = l' := List.filter_eq_self.mpr (by simp)
  have hsub := h'.filter (· ∈ l')
  rw [hall] at hsub
  refine hsub.eq_of_length (List.Perm.length_eq ?_)
  refine (List.perm_ext_iff_of_nodup (h'.nodup hl) (hl.filter _)).mpr fun a => ?_
  rw [List.mem_filter]
  simpa using fun ha => h'.subset ha

theorem collect_recorded (h : History) : collect m.recorded h
    = ((collect (pushed m.bridge) h).filter (·.1 = m.key)).map (·.2.native) := by
  rw [collect_filter, collect_map]
  rfl

theorem mem_collect_recorded {h : History} : native ∈ collect m.recorded h ↔
    ∃ entry : Registration, entry.native = native ∧
      (m.key, entry) ∈ collect (pushed m.bridge) h := by
  rw [collect_recorded]
  constructor
  · intro hmem
    obtain ⟨⟨key, entry⟩, hpair, hnative⟩ := List.mem_map.mp hmem
    obtain ⟨hpushed, hkey⟩ := List.mem_filter.mp hpair
    exact ⟨entry, hnative, of_decide_eq_true hkey ▸ hpushed⟩
  · rintro ⟨entry, rfl, hpushed⟩
    refine List.mem_map.mpr ⟨(m.key, entry), List.mem_filter.mpr ⟨hpushed, ?_⟩, rfl⟩
    simp

/-- The native callbacks of the member that were added are those that its calls have added. -/
theorem Reachable.introduced_filter (hs : Reachable m.rule s) :
    (collect (added m.event) s.history).filter (· ∈ collect m.synthesized s.history)
      = collect m.introduced s.history := by
  rw [collect_filter]
  refine collect_congr fun x hx => ?_
  unfold EventMember.introduced
  split
  next hop =>
    refine List.filter_eq_self.mpr fun native hmem => decide_eq_true ?_
    obtain ⟨callback, converter, registrar, heq⟩ := hop.exists_eq
    obtain ⟨later, earlier, hsplit⟩ := List.append_of_mem hx
    have hlaw := hs.obeys_at keeps_attaching hsplit
    simp only [attaching, heq, mem_added.mp hmem] at hlaw
    obtain ⟨y, hy, hmade⟩ := mem_collect.mp (hlaw.2.1 ▸ List.mem_singleton_self native)
    have hin := mem_of_split hsplit y hy
    refine mem_synthesized.mpr ⟨y, hin, ?_, hmade⟩
    rw [hs.operation_eq hin hx (mem_logOf.mp hy).2]
    exact hop
  next hop =>
    refine List.filter_eq_nil_iff.mpr fun native hmem hours => hop ?_
    exact hs.attaches_of_added hx hmem (of_decide_eq_true hours)

/-- While no operation on the member is going on, every callback that was added was recorded. -/
theorem Reachable.introduced_at_rest (hs : Reachable m.rule s) (hquiet : s.Quiet m.Uses) :
    collect m.introduced s.history = collect m.recorded s.history := by
  rcases hs.introduced_eq with hsame | ⟨call, native, hpending, _⟩
  · exact hsame
  · obtain ⟨f, hf, rfl⟩ := hs.running_of_held hpending.held
    obtain ⟨y, hy, hop⟩ := hpending.attaches
    rw [(hs.sound.traced f hf).operation_eq y hy] at hop
    exact absurd (Or.inl hop) (hquiet f hf)

/-- While no operation on the member is going on, no call holds a registration. -/
theorem Reachable.not_holds_at_rest (hs : Reachable m.rule s) (hquiet : s.Quiet m.Uses) :
    ¬ m.Holds s entry := by
  rintro ⟨f, hf, htaken, _⟩
  obtain ⟨y, hy, htakes⟩ := mem_collect.mp htaken
  refine hquiet f hf ?_
  rw [← (hs.sound.traced f hf).operation_eq y hy]
  exact hs.uses_of_taken (mem_logOf.mp hy).1 htakes

/-- While no operation on the member is going on, the handlers are the callbacks in the table. -/
theorem Reachable.handlers_at_rest (hs : Reachable m.rule s) (hquiet : s.Quiet m.Uses) :
    m.handlers s = m.natives s := by
  have hnodup : (collect m.recorded s.history).Nodup := by
    rw [collect_recorded]
    exact (List.filter_sublist.map _).nodup (hs.natives_nodup m.bridge)
  refine sublist_ext hnodup ?_ ?_ ?_
  · rw [← hs.introduced_at_rest hquiet, ← hs.introduced_filter]
    exact (hs.handlers_sublist m.event).filter _
  · have hentries := (hs.entries_sublist m.bridge m.key).map (·.native)
    rw [List.map_map] at hentries
    rw [collect_recorded]
    exact hentries
  · intro native
    have hrecorded : native ∈ m.handlers s ∨ native ∈ m.natives s →
        native ∈ collect m.recorded s.history := by
      rintro (hmem | hmem)
      · rw [← hs.introduced_at_rest hquiet, ← hs.introduced_filter]
        exact ((hs.handlers_sublist m.event).filter _).subset hmem
      · obtain ⟨entry, hentry, rfl⟩ := List.mem_map.mp hmem
        exact mem_collect_recorded.mpr ⟨entry, rfl, hs.pushed_of_entry hentry⟩
    constructor
    · intro hmem
      obtain ⟨entry, rfl, hpushed⟩ := mem_collect_recorded.mp (hrecorded (Or.inl hmem))
      obtain ⟨hhandler, _⟩ := List.mem_filter.mp hmem
      refine List.mem_map_of_mem (Classical.byContradiction fun hnot => ?_)
      have hzero := (hs.count_of_pushed hpushed).2
        (not_or.mpr ⟨hnot, hs.not_holds_at_rest hquiet⟩)
      exact List.count_eq_zero.mp hzero hhandler
    · intro hmem
      obtain ⟨entry, hentry, rfl⟩ := List.mem_map.mp hmem
      have hpushed := hs.pushed_of_entry hentry
      refine List.mem_filter.mpr ⟨?_, decide_eq_true (hs.synthesized_of_pushed hpushed)⟩
      refine List.count_pos_iff.mp ?_
      rw [(hs.count_of_pushed hpushed).1 (Or.inl hentry)]
      exact Nat.one_pos

/-- Both are empty once as many registrations have been taken back as were recorded. -/
theorem Reachable.natives_of_matched (hs : Reachable m.rule s)
    (hmatched : (collect m.recorded s.history).length = (collect m.withdrawn s.history).length) :
    m.natives s = [] := by
  have hplaces := ((hs.places m.bridge).filter (·.1 = m.key)).length_eq
  have hrecorded : (collect m.recorded s.history).length
      = ((collect (pushed m.bridge) s.history).filter (·.1 = m.key)).length := by
    rw [collect_recorded, List.length_map]
  have hwithdrawn : collect m.withdrawn s.history
      = (collect (detached m.bridge) s.history).filter (·.1 = m.key) := by
    rw [collect_filter]
    rfl
  have htable : ((s.objects.table m.bridge).registrations.filter (·.1 = m.key)).length
      = (m.natives s).length := by
    rw [CallbackTable.registrations_filter, List.length_map, EventMember.natives, List.length_map]
  rw [List.filter_append, List.filter_append, List.length_append, List.length_append] at hplaces
  rw [hwithdrawn] at hmatched
  refine List.length_eq_zero_iff.mp ?_
  omega

/-! ## Answers -/

/-- What is removed from the event for the member is on it. -/
theorem Reachable.contains_of_removed (hs : Reachable m.rule s) {later earlier : History}
    (hsplit : s.history = later ++ x :: earlier)
    (hdeed : x.deed = .did (.removeHandler m.event native))
    (hours : native ∈ collect m.synthesized s.history) :
    (x.objects.event m.event).contains native = true := by
  obtain ⟨⟨entry, rfl, htaken⟩, _⟩ := hs.taken_of_removed hsplit hdeed hours
  have hkept := hs.removed_once hsplit hdeed hours
  obtain ⟨s', hs', rfl, hnext⟩ := hs.split hsplit
  have hpushed := hs'.pushed_of_taken (mem_collect_of_logOf htaken)
  have hcount := hs'.count_handlers entry.native (hs'.synthesized_of_pushed hpushed)
    (hs'.added_of_pushed hpushed)
  rw [if_neg hkept] at hcount
  rw [hnext.objects]
  refine decide_eq_true (List.count_pos_iff.mp ?_)
  rw [hcount]
  exact Nat.one_pos

/-- A detachment answers true exactly if it has taken a registration back. -/
theorem Reachable.withdrawn_answer (hs : Reachable m.rule s) (hx : x ∈ s.history)
    {callback : FunctionId} {e : EventId} {answer : Answer}
    (hop : x.operation = .detachFrom m.bridge m.key callback e) (hdeed : x.deed = .returned answer) :
    ∃ had, answer = .flag had ∧
      (collect m.withdrawn (logOf s.history x.call)).length = if had then 1 else 0 := by
  obtain ⟨log, hlog, hlaw⟩ := hs.law_of_ends keeps_detaching hx (Deed.ends_of_returned hdeed)
  simp only [detaching, hop, hdeed] at hlaw
  have hin := hs.of_mem_log hx hlog
  have hkeys : ∀ pair ∈ collect (Occurrence.detached m.bridge) log, pair.1 = m.key := by
    rintro ⟨key, entry⟩ hmem
    obtain ⟨y, hy, hdetached⟩ := mem_collect.mp hmem
    obtain ⟨hy', hop'⟩ := hin y hy
    obtain ⟨caller, hdeed'⟩ := mem_detached hdetached
    have heffects := hs.effects hy' hdeed'
    rw [hop', hop] at heffects
    rcases heffects with heq | ⟨e', heq⟩
    · cases heq
    · cases heq
      rfl
  have hwithdrawn : collect m.withdrawn (logOf s.history x.call)
      = collect (Occurrence.detached m.bridge) log := by
    rw [hlog, collect_cons, show m.withdrawn x = [] by
      simp [EventMember.withdrawn, Occurrence.detached, hdeed], List.append_nil]
    refine Eq.trans (collect_filter _ _ _).symm (List.filter_eq_self.mpr ?_)
    exact fun pair hpair => decide_eq_true (hkeys pair hpair)
  rw [hwithdrawn]
  rcases hlaw with ⟨y, hy, native, hremoves, _, hnatives, rfl⟩ | ⟨hnone, rfl⟩
  · obtain ⟨_, _, _, hallowed⟩ := hs.allowed x hx
    rw [hop] at hallowed
    obtain rfl : e = m.event := hallowed ⟨rfl, rfl⟩
    obtain ⟨⟨key, entry⟩, hmem, rfl⟩ := List.mem_map.mp (hnatives ▸ List.mem_singleton_self native)
    obtain rfl : key = m.key := hkeys _ hmem
    have hwhole : (m.key, entry) ∈ collect (Occurrence.detached m.bridge) (logOf s.history x.call) := by
      rw [hlog, collect_cons]
      exact List.mem_append_left _ hmem
    have htaken : (m.key, entry) ∈ collect (taken m.bridge) s.history :=
      (collect_append_perm _ _ _).mem_iff.mpr (List.mem_append_left _ (mem_collect_of_logOf hwhole))
    obtain ⟨later, earlier, hsplit⟩ := List.append_of_mem (hin y hy).1
    have hhas := hs.contains_of_removed hsplit hremoves
      (hs.synthesized_of_pushed (hs.pushed_of_taken htaken))
    refine ⟨_, rfl, ?_⟩
    rw [hhas, if_pos rfl, ← List.length_map (f := fun pair => pair.2.native), hnatives]
    rfl
  · exact ⟨false, rfl, by rw [hnone]; rfl⟩

/-! ## The result -/

/-- The event of a member mirrors its table. -/
structure Mirrored (m : EventMember) (s : State) : Prop where
  /-- An attachment that succeeds has recorded the native callback that it answers; one that fails
  has recorded nothing. -/
  attached : ∀ x ∈ s.history, ∀ callback converter registrar answer,
    x.operation = .attach m.bridge m.key callback converter registrar →
    x.deed = .returned answer →
    (∃ native, answer = .attached (.ok native) ∧
      collect m.recorded (logOf s.history x.call) = [native]) ∨
    ∃ error, answer = .attached (.error error) ∧
      collect m.recorded (logOf s.history x.call) = []
  /-- A detachment answers true exactly if it has taken a registration back. -/
  detached : ∀ x ∈ s.history, ∀ callback e answer,
    x.operation = .detachFrom m.bridge m.key callback e → x.deed = .returned answer →
    ∃ had, answer = .flag had ∧
      (collect m.withdrawn (logOf s.history x.call)).length = if had then 1 else 0
  /-- A native callback that was recorded is on the event once while it is in the table or held by
  a detachment or release that has not removed it yet. -/
  present : ∀ entry, (m.key, entry) ∈ collect (pushed m.bridge) s.history →
    entry ∈ (s.objects.table m.bridge).entries m.key ∨ m.Holds s entry →
    (s.objects.event m.event).handlers.count entry.native = 1
  /-- Afterwards it is not on the event. -/
  gone : ∀ entry, (m.key, entry) ∈ collect (pushed m.bridge) s.history →
    ¬ (entry ∈ (s.objects.table m.bridge).entries m.key ∨ m.Holds s entry) →
    (s.objects.event m.event).handlers.count entry.native = 0
  /-- At rest the handlers of the member are the callbacks in its table, in the same order. -/
  at_rest : s.Quiet m.Uses → m.handlers s = m.natives s
  /-- At rest both are empty if every registration was matched by a detachment. -/
  matched : s.Quiet m.Uses →
    (collect m.recorded s.history).length = (collect m.withdrawn s.history).length →
    m.handlers s = [] ∧ m.natives s = []
  /-- At rest both are empty if the bridge has been released. -/
  released : s.Quiet m.Uses → (∃ x ∈ s.history, x.Drains m.bridge) →
    m.handlers s = [] ∧ m.natives s = []

/-- In every run under the rule of an event member, its event mirrors its table. -/
theorem event_mirrors_table (hs : Reachable m.rule s) : Mirrored m s := by
  constructor
  case attached =>
    intro x hx callback converter registrar answer hop hdeed
    obtain ⟨log, hlog, hattach⟩ := hs.law_of_ends keeps_attaching hx (Deed.ends_of_returned hdeed)
    simp only [attaching, hop, hdeed] at hattach
    have hpushed : x.pushed m.bridge = [] := by simp [pushed, hdeed]
    rw [collect_recorded, hlog, collect_cons, hpushed, List.append_nil]
    rcases hattach with ⟨native, hanswer, _, _, hnew⟩ | ⟨hanswer, _, hnone, _⟩
    · exact Or.inl ⟨native, hanswer, by simp [hnew]⟩
    · exact Or.inr ⟨_, hanswer, by simp [hnone]⟩
  case detached => exact fun x hx callback e answer hop hdeed => hs.withdrawn_answer hx hop hdeed
  case present => exact fun entry hmem => (hs.count_of_pushed hmem).1
  case gone => exact fun entry hmem => (hs.count_of_pushed hmem).2
  case at_rest => exact hs.handlers_at_rest
  case matched =>
    intro hquiet hmatched
    have hnone := hs.natives_of_matched hmatched
    exact ⟨(hs.handlers_at_rest hquiet).trans hnone, hnone⟩
  case released =>
    intro hquiet hdrains
    have hnone : m.natives s = [] := by
      have hreleased := hs.registrations_of_released ((hs.released_iff m.bridge).mpr hdrains)
      rw [EventMember.natives, CallbackTable.registrations_eq_nil_iff.mp hreleased m.key]
      rfl
    exact ⟨(hs.handlers_at_rest hquiet).trans hnone, hnone⟩

/-- Two attachments, and a detachment of the other thread that stops before it removes. -/
def startedDetach : List Choice :=
  let b := BridgeId.ofWrapper ⟨0⟩
  let key : MemberKey := ⟨"value_changed", .int, .int⟩
  let attach := Operation.attach b key ⟨0⟩ (.client 0) (.addTo ⟨0⟩)
  .begin 0 (.makeWrapper .borrowed ⟨"Counter", 1⟩) :: goOn 0 2 ++
  .begin 0 .makeEvent :: goOn 0 2 ++
  .begin 0 .makeFunction :: goOn 0 2 ++
  .begin 0 (.registerMember b key (.removeFrom ⟨0⟩)) :: goOn 0 4 ++
  .begin 0 attach :: goOn 0 11 ++
  .begin 0 attach :: goOn 0 11 ++
  .begin 1 (.detachFrom b key ⟨0⟩ ⟨0⟩) :: goOn 1 3

/-- The wrapper is disposed of before the detachment goes on. -/
def racingDispose : List Choice :=
  .begin 0 (.dispose ⟨0⟩) :: goOn 0 4 ++ goOn 1 5 ++ goOn 0 9

theorem event_mirrors_table_racing :
    let m : EventMember := ⟨.ofWrapper ⟨0⟩, ⟨"value_changed", .int, .int⟩, ⟨0⟩⟩
    let s := State.initial.follow m.rule startedDetach
    let s' := s.follow m.rule racingDispose
    Reachable m.rule s ∧ Mirrored m s ∧ m.handlers s = [⟨1⟩, ⟨2⟩] ∧ m.natives s = [⟨2⟩] ∧
      Reachable m.rule s' ∧ Mirrored m s' ∧ m.handlers s' = [] ∧ m.natives s' = [] ∧
      s'.frames.length = 0 := by
  intro m s s'
  have hs : Reachable m.rule s := Reachable.initial.follow startedDetach
  have hs' : Reachable m.rule s' := hs.follow racingDispose
  refine ⟨hs, event_mirrors_table hs, ?_, ?_, hs', event_mirrors_table hs', ?_, ?_, ?_⟩
  all_goals decide +kernel

end Hostlink.Interleaving
