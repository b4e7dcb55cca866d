import Hostlink.Proofs.Notifying.Record

/-!
# The last value that a handler is told

A record changes what a source has seen before its handlers are told, and a handler may record again
while others of the same notification have still to be called.  Those are told the newer value first
and the older one after it (`stale_after_nested_record`).

A handler that is not waiting for its turn whenever a change is recorded is told the values in their
order: what it is told last is what the source has seen last (`told_latest`).  Until a notification
has called the handler, its value is the one that the source has, and after that the handler knows it.
-/

namespace Hostlink.Notifying

open Network (Reply)

variable {rule : Rule} {s₀ s s' : State} {src : SourceId} {n : FunctionId} {call : Call}
  {turn calls : Nat} {outer : List Frame} {o : Objects} {op : Operation} {x : Entry}

/-! ## Notifications of one source -/

/-- Whether a call notifies handlers of a source. -/
def NotifiesOf (src : SourceId) (call : Call) : Prop := (notification call).map (·.1) = some src

/-- Whether a waiting call has still to tell a handler of a source. -/
def Awaits (src : SourceId) (n : FunctionId) (frame : Frame) : Prop :=
  NotifiesOf src frame.call ∧ n ∈ remaining frame

/-- Whether a notification of a source is under way. -/
def Busy (src : SourceId) (s : State) : Prop := ∃ frame ∈ s.stack, NotifiesOf src frame.call

/-- What a handler of a source is told. -/
def told? (src : SourceId) (n : FunctionId) (x : Entry) : Option Bool :=
  match x.event with
  | .asked turn (.invoke _ argument) =>
    if (notification x.call).map (·.1) = some src ∧ (notified x.call)[turn]? = some n then
      argument.available?
    else none
  | _ => none

/-- Whether a call panics. -/
def panics (x : Entry) : Bool :=
  match x.event with
  | .panicked _ => true
  | _ => false

/-- What has happened since an earlier state of a run. -/
def since (s₀ s : State) : List Entry := s.history.take (s.history.length - s₀.history.length)

/-- What a handler of a source has been told last since an earlier state. -/
def lastTold (src : SourceId) (n : FunctionId) (s₀ s : State) : Option Bool :=
  (since s₀ s).findSome? (told? src n)

instance (src : SourceId) (call : Call) : Decidable (NotifiesOf src call) :=
  inferInstanceAs (Decidable (_ = _))

instance (src : SourceId) (n : FunctionId) (frame : Frame) : Decidable (Awaits src n frame) :=
  inferInstanceAs (Decidable (_ ∧ _))

instance (src : SourceId) (s : State) : Decidable (Busy src s) :=
  inferInstanceAs (Decidable (∃ frame ∈ s.stack, NotifiesOf src frame.call))

/-! ## Rules -/

/-- The source whose event an operation raises without a record. -/
def Operation.raised? : Operation → Option SourceId
  | .raise s _ => some s
  | _ => none

/-- The rule that a source is notified of records only. -/
def Rule.recording (src : SourceId) : Rule := fun s op => op.Valid s.objects ∧ op.raised? ≠ some src

/-- The rule that, moreover, no change of a source is recorded while a handler of it waits for its turn
in a notification. -/
def Rule.unhurried (src : SourceId) (n : FunctionId) : Rule := fun s op =>
  Rule.recording src s op ∧ ((∃ frame ∈ s.stack, Awaits src n frame) →
    (op.notification s.objects).map (·.1) ≠ some src)

instance (src : SourceId) (s : State) (op : Operation) : Decidable (Rule.recording src s op) :=
  inferInstanceAs (Decidable (_ ∧ _))

instance (src : SourceId) (n : FunctionId) (s : State) (op : Operation) :
    Decidable (Rule.unhurried src n s op) :=
  inferInstanceAs (Decidable (_ ∧ (_ → _)))

/-- A part of a run in which a handler of a source is registered throughout and no handler of the
source panics.  No notification of the source is under way at its start and at its end. -/
structure Session (rule : Rule) (src : SourceId) (n : FunctionId) (s₀ s : State) : Prop where
  start : Nested.Reachable Operation.activity Rule.valid s₀
  source : s₀.objects.HasSource src
  idle : ¬ Busy src s₀
  run : Nested.Run Operation.activity rule s₀ s
  registered : ∀ x ∈ since s₀ s, n ∈ x.objects.listeners src
  calm : ∀ x ∈ since s₀ s, NotifiesOf src x.call → panics x = false
  done : ¬ Busy src s

/-- Whether a handler has been told last what the source has seen last, if it has been told anything. -/
def ToldLatest (src : SourceId) (n : FunctionId) (s₀ s : State) : Prop :=
  ∀ value ∈ lastTold src n s₀ s, value = s.objects.available src

/-! ## What a source has seen -/

theorem available_of_source? {source : StatusSource} (hs : o.source? src = some source) :
    o.available src = source.available := by
  rw [Objects.available, hs]
  rfl

/-- Rewiring leaves what a source has seen. -/
theorem Changes.available {o' : Objects} (h : Changes o o') (hs : o.HasSource src) :
    o'.HasSource src ∧ o'.available src = o.available src := by
  obtain ⟨source, hsource⟩ := exists_source hs
  have hsource' := h.source? hsource
  refine ⟨(List.getElem?_eq_some_iff.mp hsource').1, ?_⟩
  rw [available_of_source? hsource, available_of_source? hsource']

/-- An observation leaves the sources that exist. -/
theorem hasSource_observed (op : Operation) (hs : o.HasSource src) :
    (op.observed o).HasSource src := by
  unfold Operation.observed
  split
  · exact Nat.lt_of_lt_of_eq hs (Registry.next_modify ..).symm
  · exact hs

theorem available_modifySource_of_ne {s : SourceId} (available : Bool) (hne : s ≠ src) :
    (o.modifySource s ({ · with available })).available src = o.available src := by
  have hindex : s.index ≠ src.index := by
    intro h
    exact hne (by cases s; cases src; simpa using h)
  rw [Objects.available, Objects.source?, Objects.modifySource, Registry.get?_modify_other _ _ hindex]
  rfl

theorem available_modifySource_self (available : Bool) (hs : o.HasSource src) :
    (o.modifySource src ({ · with available })).available src = available := by
  obtain ⟨source, hsource⟩ := exists_source hs
  rw [Objects.available, Objects.source?, Objects.modifySource, Registry.get?_modify_index]
  rw [Objects.source?] at hsource
  rw [hsource]
  rfl

/-- What is no notification of a source leaves what it has seen. -/
theorem available_observed_of_ne (hs : o.HasSource src)
    (hother : (op.notification o).map (·.1) ≠ some src) :
    (op.observed o).available src = o.available src := by
  cases hobservation : op.observation o with
  | none => rw [Operation.observed, hobservation]
  | some seen =>
    obtain ⟨s, available⟩ := seen
    rw [Operation.observed, hobservation]
    by_cases heq : s = src
    · subst heq
      rw [notification_of_observation hobservation] at hother
      have hsame : o.available s = available := by
        refine Decidable.byContradiction fun hne => hother ?_
        rw [if_neg hne]
        rfl
      rw [available_modifySource_self available hs, hsame]
    · exact available_modifySource_of_ne available heq

/-- A recorded change is what a source has seen then. -/
theorem available_observed_self (hs : o.HasSource src)
    (hself : (op.notification o).map (·.1) = some src) (hrecord : op.raised? ≠ some src) :
    (op.observed o).available src = (op.announced o).available := by
  cases hobservation : op.observation o with
  | none =>
    cases op
    case raise s value => exact absurd hself hrecord
    case record => cases hobservation
    case poll =>
      simp only [Operation.notification, hobservation] at hself
      cases hself
    all_goals cases hself
  | some seen =>
    obtain ⟨s, available⟩ := seen
    have hnotification := notification_of_observation hobservation
    rw [hnotification] at hself
    split at hself
    · cases hself
    next hne =>
      obtain rfl : s = src := Option.some.inj hself
      rw [Operation.observed, Operation.announced, hnotification, hobservation, if_neg hne]
      exact available_modifySource_self available hs

/-! ## What a handler knows -/

/-- What a handler of a source knows once the source has notified handlers (`heard`): it has been told
last what the source has seen, or it is still to be told so. -/
structure Current (src : SourceId) (n : FunctionId) (available : Bool) (heard : Prop)
    (stack : List Frame) (known : Option Bool) : Prop where
  waiting : ∀ frame ∈ stack, Awaits src n frame → (announced frame.call).available = available
  begun : ∀ frame ∈ stack, NotifiesOf src frame.call → heard
  knows : heard → known = some available ∨ ∃ frame ∈ stack, Awaits src n frame

variable {seen : Bool} {heard : Prop} {known : Option Bool} {queue : List FunctionId}

theorem Comes.call_eq (h : Comes s call turn calls outer o queue s')
    (hx : s'.history = x :: s.history) : x.call = call := by
  obtain ⟨⟨event, hhistory⟩, _⟩ := h.after
  rw [← (List.cons.inj (hhistory.symm.trans hx)).1]

theorem told?_of_other (hother : ¬ NotifiesOf src x.call) : told? src n x = none := by
  unfold told?
  split
  · exact if_neg fun h => hother h.1
  · rfl

/-- A waiting call that has nothing to tell the handler. -/
theorem Current.of_cons {frame : Frame} (h : Current src n seen heard (frame :: outer) known)
    (hnot : ¬ Awaits src n frame) : Current src n seen heard outer known where
  waiting := (List.forall_mem_cons.mp h.waiting).2
  begun := (List.forall_mem_cons.mp h.begun).2
  knows := by
    intro hheard
    refine (h.knows hheard).imp id ?_
    rintro ⟨other, hother, hawaits⟩
    rcases List.mem_cons.mp hother with rfl | hother
    · exact absurd hawaits hnot
    · exact ⟨other, hother, hawaits⟩

/-- A call that waits now, to tell the handler what the source has seen. -/
theorem Current.cons {frame : Frame} (h : Current src n seen heard outer known)
    (hframe : Awaits src n frame → (announced frame.call).available = seen)
    (hheard : NotifiesOf src frame.call → heard) :
    Current src n seen heard (frame :: outer) known where
  waiting := List.forall_mem_cons.mpr ⟨hframe, h.waiting⟩
  begun := List.forall_mem_cons.mpr ⟨hheard, h.begun⟩
  knows := by
    intro hheard
    refine (h.knows hheard).imp id ?_
    rintro ⟨other, hother, hawaits⟩
    exact ⟨other, List.mem_cons_of_mem _ hother, hawaits⟩

/-- A call that does not notify handlers of the source tells them nothing. -/
theorem Current.other (h : Current src n seen heard outer known)
    (hcomes : Comes s call turn calls outer o queue s') (hx : s'.history = x :: s.history)
    (hother : ¬ NotifiesOf src call) :
    Current src n seen (NotifiesOf src x.call ∨ heard) s'.stack ((told? src n x).or known) := by
  have hnot : ¬ NotifiesOf src x.call := hcomes.call_eq hx ▸ hother
  rw [told?_of_other hnot, Option.none_or, or_iff_right hnot]
  cases hcomes with
  | returned | panicked => exact h
  | asked value reports =>
    exact h.cons (fun hawaits => absurd hawaits.1 hother) fun hown => absurd hown hother

/-- A notification tells its next handler what the source has seen. -/
theorem Current.told (hcomes : Comes s call turn calls outer o queue s')
    (hx : s'.history = x :: s.history) (hown : NotifiesOf src call)
    (hqueue : queue = (notified call).drop turn) (hcalm : panics x = false)
    (hvalue : n ∈ queue → (announced call).available = seen)
    (hwaiting : ∀ frame ∈ outer, Awaits src n frame → (announced frame.call).available = seen)
    (hlast : n ∈ queue ∨ Current src n seen True outer known) :
    Current src n seen True s'.stack ((told? src n x).or known) := by
  cases hcomes with
  | panicked =>
    obtain rfl := (List.cons.inj hx).1
    cases hcalm
  | returned reply notices =>
    obtain rfl := (List.cons.inj hx).1
    exact hlast.resolve_left List.not_mem_nil
  | @asked handler rest argument tail value reports =>
    obtain rfl := (List.cons.inj hx).1
    obtain ⟨hhandler, hrest⟩ := of_drop_eq_cons hqueue.symm
    have hawaits : ∀ pause, Awaits src n ⟨call, turn, pause⟩ ↔ n ∈ rest := by
      intro pause
      rw [Awaits, remaining, hrest]
      exact and_iff_right hown
    have hframe : ∀ pause, Awaits src n ⟨call, turn, pause⟩ → (announced call).available = seen :=
      fun pause h => hvalue (List.mem_cons_of_mem _ ((hawaits pause).mp h))
    have htold : told? src n ⟨call, .asked turn (.invoke (o.function handler).endpoint argument),
        s.objects⟩ = if handler = n then some (announced call).available else none := by
      have hsource : (notification call).map (·.1) = some src := hown
      simp only [told?, value, hhandler, hsource, true_and, Option.some.injEq]
    rw [htold]
    by_cases hself : handler = n
    · rw [if_pos hself, hvalue (hself ▸ List.mem_cons_self)]
      exact ⟨List.forall_mem_cons.mpr ⟨hframe _, hwaiting⟩, fun _ _ _ => trivial, fun _ => Or.inl rfl⟩
    · rw [if_neg hself, Option.none_or]
      rcases hlast with hqueued | hknown
      · have hleft := (List.mem_cons.mp hqueued).resolve_left (Ne.symm hself)
        refine ⟨List.forall_mem_cons.mpr ⟨hframe _, hwaiting⟩, fun _ _ _ => trivial, fun _ => ?_⟩
        exact Or.inr ⟨_, List.mem_cons_self, (hawaits _).mpr hleft⟩
      · exact hknown.cons (hframe _) fun _ => trivial

/-- A turn keeps what a handler knows, if no change is recorded while it waits. -/
theorem Current.next (h : Current src n (s.objects.available src) heard s.stack known)
    (hs : s.objects.HasSource src) (hturn : Turn (Rule.unhurried src n) s s')
    (hx : s'.history = x :: s.history) (hregistered : n ∈ s.objects.listeners src)
    (hcalm : NotifiesOf src x.call → panics x = false) :
    s'.objects.HasSource src ∧ Current src n (s'.objects.available src)
      (NotifiesOf src x.call ∨ heard) s'.stack ((told? src n x).or known) := by
  cases hturn with
  | @begin op o tail allowed begins comes =>
    obtain ⟨⟨valid, hrecord⟩, hunhurried⟩ := allowed
    have hcall := comes.call_eq hx
    obtain ⟨_, hchanges, _⟩ := comes.after
    have hmoves : Changes (op.observed s.objects) s'.objects := begins.changes.trans hchanges
    obtain ⟨hsource, hseen⟩ := hmoves.available (hasSource_observed op hs)
    refine ⟨hsource, ?_⟩
    by_cases hown : (op.notification s.objects).map (·.1) = some src
    · have hheard : NotifiesOf src x.call := hcall ▸ hown
      -- Nobody waits, so the handler is among those that the change is told.
      have hidle : ¬ ∃ frame ∈ s.stack, Awaits src n frame := fun hwaits => hunhurried hwaits hown
      have hqueue : n ∈ op.notified s.objects := by
        obtain ⟨⟨s₁, value⟩, hnotification, rfl⟩ := Option.map_eq_some_iff.mp hown
        rw [Operation.notified, hnotification]
        exact hregistered
      rw [hseen, available_observed_self hs hown hrecord, eq_true (Or.inl hheard)]
      exact .told comes hx hown rfl (hcalm hheard) (fun _ => rfl)
        (fun frame hframe hawaits => absurd ⟨frame, hframe, hawaits⟩ hidle) (Or.inl hqueue)
    · rw [hseen, available_observed_of_ne hs hown]
      exact h.other comes hx hown
  | @goOn frame outer stack comes =>
    have hcall := comes.call_eq hx
    obtain ⟨_, hchanges, _⟩ := comes.after
    obtain ⟨hsource, hseen⟩ := hchanges.available hs
    refine ⟨hsource, ?_⟩
    rw [stack] at h
    rw [hseen]
    by_cases hown : NotifiesOf src frame.call
    · have hheard := h.begun frame List.mem_cons_self hown
      rw [eq_true hheard] at h
      rw [eq_true (Or.inr hheard)]
      refine .told comes hx hown rfl (hcalm (hcall ▸ hown)) ?_
        (List.forall_mem_cons.mp h.waiting).2 ?_
      · exact fun hmem => h.waiting frame List.mem_cons_self ⟨hown, hmem⟩
      · by_cases hmem : n ∈ remaining frame
        · exact Or.inl hmem
        · exact Or.inr (h.of_cons fun hawaits => hmem hawaits.2)
    · exact (h.of_cons fun hawaits => hown hawaits.1).other comes hx hown

/-! ## The last value -/

theorem since_self (s : State) : since s s = [] := by
  rw [since, Nat.sub_self, List.take_zero]

theorem since_next (hlonger : s₀.history.length ≤ s.history.length)
    (hx : s'.history = x :: s.history) : since s₀ s' = x :: since s₀ s := by
  rw [since, hx, List.length_cons, Nat.succ_sub hlonger, List.take_succ_cons]
  rfl

/-- Whether a source has notified handlers since an earlier state. -/
def Heard (src : SourceId) (s₀ s : State) : Prop := ∃ x ∈ since s₀ s, NotifiesOf src x.call

/-- Nothing is told but by a notification. -/
theorem heard_of_told {value : Bool} (h : lastTold src n s₀ s = some value) : Heard src s₀ s := by
  obtain ⟨x, hx, htold⟩ := List.exists_of_findSome?_eq_some h
  refine ⟨x, hx, Decidable.byContradiction fun hother => ?_⟩
  rw [told?_of_other hother] at htold
  cases htold

/-- What a handler knows while it is registered. -/
structure Follows (src : SourceId) (n : FunctionId) (s₀ s : State) : Prop where
  longer : s₀.history.length ≤ s.history.length
  current : (∀ x ∈ since s₀ s, n ∈ x.objects.listeners src) →
    (∀ x ∈ since s₀ s, NotifiesOf src x.call → panics x = false) →
      s.objects.HasSource src ∧ Current src n (s.objects.available src) (Heard src s₀ s) s.stack
        (lastTold src n s₀ s)

theorem Follows.next (h : Follows src n s₀ s) (hturn : Turn (Rule.unhurried src n) s s')
    (hx : Enters s s' x) : Follows src n s₀ s' where
  longer := by
    rw [hx.history]
    exact Nat.le_succ_of_le h.longer
  current := by
    have hsince := since_next h.longer hx.history
    have hlast : lastTold src n s₀ s' = (told? src n x).or (lastTold src n s₀ s) := by
      rw [lastTold, hsince, List.findSome?_cons]
      cases told? src n x <;> rfl
    have hheard : Heard src s₀ s' = (NotifiesOf src x.call ∨ Heard src s₀ s) := by
      simp only [Heard, hsince, List.mem_cons, exists_eq_or_imp]
    rw [hsince, hlast, hheard]
    intro hregistered hcalm
    obtain ⟨hregisteredNow, hregistered⟩ := List.forall_mem_cons.mp hregistered
    obtain ⟨hcalmNow, hcalm⟩ := List.forall_mem_cons.mp hcalm
    obtain ⟨hsource, hcurrent⟩ := h.current hregistered hcalm
    exact hcurrent.next hsource hturn hx.history (hx.objects ▸ hregisteredNow) hcalmNow

/-- A handler that does not wait when changes are recorded has been told last what the source has
seen last, whenever no notification of the source is under way.  It has been told something as soon
as the source has notified handlers. -/
theorem told_latest (h : Session (Rule.unhurried src n) src n s₀ s) :
    ToldLatest src n s₀ s ∧ (Heard src s₀ s → lastTold src n s₀ s ≠ none) := by
  obtain ⟨hs, hrecorded, _⟩ := run_induct (P := fun _ => True) (fun _ _ hop => hop) sound_initial
    recorded_initial trivial (fun _ _ _ _ _ _ _ => trivial) h.start
  have hfirst : Follows src n s₀ s₀ := by
    refine ⟨Nat.le_refl _, fun _ _ => ⟨h.source, ?_, ?_, ?_⟩⟩
    · exact fun frame hframe hawaits => absurd ⟨frame, hframe, hawaits.1⟩ h.idle
    · exact fun frame hframe hown => absurd ⟨frame, hframe, hown⟩ h.idle
    · rw [Heard, since_self]
      rintro ⟨x, hx, _⟩
      cases hx
  obtain ⟨_, _, hfollows⟩ := run_induct (fun _ _ hop => hop.1.1) hs hrecorded hfirst
    (fun _ _ _ _ hturn hx hfollows => hfollows.next hturn hx) h.run
  have hknows : Heard src s₀ s → lastTold src n s₀ s = some (s.objects.available src) := by
    intro hheard
    refine ((hfollows.current h.registered h.calm).2.knows hheard).resolve_right ?_
    rintro ⟨frame, hframe, hawaits⟩
    exact h.done ⟨frame, hframe, hawaits.1⟩
  constructor
  · intro value hvalue
    exact Option.some.inj (hvalue.symm.trans (hknows (heard_of_told hvalue)))
  · intro hheard hnone
    rw [hknows hheard] at hnone
    cases hnone

/-! Two callbacks of one adapter, of which one records again while it is notified. -/

/-- Before the source has been told anything. -/
def twoCallbacks : List (Nested.Choice Operation) :=
  [.begin (.makeSource ""), .begin (.makeAdapter ⟨0⟩), .begin .makeCallback, .begin .makeCallback,
    .begin (.on ⟨⟨0⟩, ⟨0⟩⟩ ⟨0⟩), .begin (.on ⟨⟨0⟩, ⟨0⟩⟩ ⟨1⟩)]

/-- The second callback records: the first one has been called already. -/
theorem told_latest_recording_second :
    let s₀ := Nested.State.initial.follow Operation.activity Rule.valid twoCallbacks
    let s := s₀.follow Operation.activity (Rule.unhurried ⟨0⟩ ⟨2⟩)
      [.begin (.record ⟨0⟩ true), .answer, .begin (.record ⟨0⟩ false), .answer, .answer, .answer]
    Session (Rule.unhurried ⟨0⟩ ⟨2⟩) ⟨0⟩ ⟨2⟩ s₀ s ∧
      (ToldLatest ⟨0⟩ ⟨2⟩ s₀ s ∧ (Heard ⟨0⟩ s₀ s → lastTold ⟨0⟩ ⟨2⟩ s₀ s ≠ none)) ∧
      (since s₀ s).filterMap (told? ⟨0⟩ ⟨2⟩) = [false, true] := by
  intro s₀ s
  have hsession : Session (Rule.unhurried ⟨0⟩ ⟨2⟩) ⟨0⟩ ⟨2⟩ s₀ s := by
    refine ⟨Nested.Run.follow _ _, ?_, ?_, Nested.Run.follow _ _, ?_, ?_, ?_⟩
    all_goals decide +kernel
  refine ⟨hsession, told_latest hsession, ?_⟩
  decide +kernel

/-- The first callback records: the second one is told of that first, and then of the change before
it. -/
theorem stale_after_nested_record :
    let s₀ := Nested.State.initial.follow Operation.activity Rule.valid twoCallbacks
    let s := s₀.follow Operation.activity (Rule.recording ⟨0⟩)
      [.begin (.record ⟨0⟩ true), .begin (.record ⟨0⟩ false), .answer, .answer, .answer, .answer]
    Session (Rule.recording ⟨0⟩) ⟨0⟩ ⟨3⟩ s₀ s ∧ ¬ ToldLatest ⟨0⟩ ⟨3⟩ s₀ s := by
  intro s₀ s
  have hsession : Session (Rule.recording ⟨0⟩) ⟨0⟩ ⟨3⟩ s₀ s := by
    refine ⟨Nested.Run.follow _ _, ?_, ?_, Nested.Run.follow _ _, ?_, ?_, ?_⟩
    all_goals decide +kernel
  have htold : lastTold ⟨0⟩ ⟨3⟩ s₀ s = some true := by decide +kernel
  have hseen : s.objects.available ⟨0⟩ = false := by decide +kernel
  refine ⟨hsession, fun hlatest => ?_⟩
  cases (hlatest true htold).trans hseen

end Hostlink.Notifying
