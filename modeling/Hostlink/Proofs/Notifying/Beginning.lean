import Hostlink.Proofs.Network.Performed
import Hostlink.Proofs.Notifying.Rewiring

/-!
# How operations begin

Between two turns of the client an operation changes the objects and then may have handlers to call.
`begins` says both for every operation: what it changes keeps the objects wired, and what is left to
do is to notify the handlers that the source had when the operation began.
-/

namespace Hostlink

namespace Notifying

open Network (Reply)

variable {α β : Type} {o o' : Objects} {s : SourceId} {a : NetworkAdapter} {f : FunctionId}
  {op : Operation}

/-! ## Notifications -/

/-- Calls handlers with an observation, in order. -/
def notify (handlers : List FunctionId) (value : Availability) : Activity Unit Unit :=
  Activity.forEach handlers fun handler => handler.invoke (.status value)

/-- Whether an activity only reports and returns. -/
def Reports (tail : Activity Unit Reply) : Prop :=
  ∀ o, ∃ reply notices, tail.proceed [] o = ⟨.returned reply, [], { o with notices }⟩

/-- A raise notifies the handlers that the event has now. -/
theorem proceed_raise (e : EventId) (value : Availability) (next : Nat → Activity Unit β) :
    ((e.raise (.status value)).bind next).proceed [] o =
      ((notify (o.event e).handlers value).bind fun _ =>
        next (o.event e).handlers.length).proceed [] o := by
  have hraise : (e.raise (.status value)).bind next =
      (Activity.locked (.handlers e) (fun o => (o.event e).handlers) .look).bind fun handlers =>
        (notify handlers value).bind fun _ => next handlers.length := by
    rw [EventId.raise]
    simp only [bind, Activity.bind_assoc]
    rfl
  rw [hraise, Activity.proceed_locked List.not_mem_nil]
  rfl

/-- The report of a change. -/
def reportChange (available : Bool) (handlers : Nat) : Activity Unit Unit :=
  Activity.report (.notice .debug SourceId.logTarget "Network availability changed"
    [⟨"available", .bool available⟩, ⟨"handlers", .int handlers⟩])

theorem record_bind (s : SourceId) (available : Bool) (next : Bool → Activity Unit β) :
    (s.record available).bind next =
      (Activity.exchange (fun o => ((o.source? s).map (·.available)).getD available)
        (.setAvailable s available)).bind fun previous =>
          if previous = available then next false
          else s.changed.bind fun event =>
            (event.raise (.status ⟨available, none⟩)).bind fun handlers =>
              (reportChange available handlers).bind fun _ => next true := by
  rw [SourceId.record]
  simp only [bind, Activity.bind_assoc]
  refine congrArg _ (funext fun previous => ?_)
  split
  · rfl
  · simp only [Activity.bind_assoc]
    rfl

/-- An observation is recorded, and notified if it is a change. -/
theorem proceed_record (available : Bool) (hs : o.HasSource s) (next : Bool → Activity Unit β) :
    ((s.record available).bind next).proceed [] o =
      if o.available s = available then
        (next false).proceed [] (o.modifySource s ({ · with available }))
      else
        ((notify (o.listeners s) ⟨available, none⟩).bind fun _ =>
          (reportChange available (o.listeners s).length).bind fun _ => next true).proceed []
            (o.modifySource s ({ · with available })) := by
  have hprevious : ((o.source? s).map (·.available)).getD available = o.available s := by
    obtain ⟨source, hsource⟩ : ∃ source, o.source? s = some source :=
      ⟨_, List.getElem?_eq_getElem hs⟩
    rw [Objects.available, hsource]
    rfl
  have hchanged : (((o.modifySource s ({ · with available })).source? s).map (·.changed)).getD ⟨0⟩ =
      ((o.source? s).map (·.changed)).getD ⟨0⟩ := by
    rw [Objects.source?, Objects.modifySource, Registry.get?_modify_index, Option.map_map]
    rfl
  rw [record_bind, Activity.proceed_exchange, hprevious]
  split
  next => rfl
  next =>
    rw [SourceId.changed, SourceId.view, Activity.proceed_inspect, proceed_raise, Effect.apply]
    rw [hchanged]
    rfl

/-! ## Beginnings -/

/-- How an operation begins: with changes, and with the handlers to notify. -/
structure Begins (op : Operation) (o o₁ : Objects) (tail : Activity Unit Reply) : Prop where
  changes : Changes (op.observed o) o₁
  disposes : ∀ a, op.disposed? = some a → o₁.Disposed a.wrapper
  reports : Reports tail
  proceeds : op.activity.proceed [] o =
    ((notify (op.notified o) (op.announced o)).bind fun _ => tail).proceed [] o₁

theorem reports_done (reply : Reply) : Reports (.done reply) :=
  fun o => ⟨reply, o.notices, rfl⟩

/-- An operation that notifies nobody and returns. -/
theorem Begins.quiet {op : Operation} {activity : Activity Unit α} {reply : α → Reply} {result : α}
    {o₁ : Objects} (hactivity : op.activity = activity.replying reply)
    (hquiet : op.notification o = none)
    (hleaves : activity.Leaves .none [] ⟨o, ()⟩ result [] o₁ ())
    (changes : Changes (op.observed o) o₁)
    (disposes : ∀ a, op.disposed? = some a → o₁.Disposed a.wrapper) : ∃ o₁ tail, Begins op o o₁ tail := by
  obtain ⟨notices, hrun⟩ := hleaves
  refine ⟨{ o₁ with notices }, .done (reply result), changes.tail (.report notices), disposes,
    reports_done _, ?_⟩
  rw [Operation.notified, hquiet, hactivity, Activity.replying, Activity.proceed_bind,
    Activity.proceed_of_run hrun]
  rfl

/-! ## Observations -/

theorem notification_of_observation {available : Bool}
    (h : op.observation o = some (s, available)) :
    op.notification o =
      if o.available s = available then none else some (s, ⟨available, none⟩) := by
  cases op
  case record | poll => simp only [Operation.notification, h]
  all_goals cases h

/-- An operation that has a source observe something. -/
theorem Begins.observing {available : Bool} {next : Bool → Activity Unit Reply}
    (hobservation : op.observation o = some (s, available)) (hs : o.HasSource s)
    (hproceeds : op.activity.proceed [] o = ((s.record available).bind next).proceed [] o)
    (hnext : ∀ changed, Reports (next changed)) : ∃ o₁ tail, Begins op o o₁ tail := by
  have hnotification := notification_of_observation hobservation
  have hobserved : op.observed o = o.modifySource s ({ · with available }) := by
    rw [Operation.observed, hobservation]
  have hdisposes : ∀ a, op.disposed? = some a → (op.observed o).Disposed a.wrapper := by
    cases op
    case record | poll => exact nofun
    all_goals cases hobservation
  rw [proceed_record available hs] at hproceeds
  by_cases hsame : o.available s = available
  · rw [if_pos hsame] at hnotification hproceeds
    refine ⟨_, next false, .refl, hdisposes, hnext false, ?_⟩
    rw [Operation.notified, hnotification, hobserved]
    exact hproceeds
  · rw [if_neg hsame] at hnotification hproceeds
    refine ⟨_, (reportChange available (o.listeners s).length).bind fun _ => next true, .refl,
      hdisposes, ?_, ?_⟩
    · intro o
      obtain ⟨reply, notices, hreports⟩ := hnext true (o.report _)
      exact ⟨reply, notices, hreports⟩
    · rw [Operation.notified, Operation.announced, hnotification, hobserved]
      exact hproceeds

/-! ## Each operation -/

theorem exists_source (hs : o.HasSource s) : ∃ source, o.source? s = some source :=
  ⟨_, List.getElem?_eq_getElem hs⟩

/-- Attaching. -/
theorem begins_on (hw : Wired o) (ha : o.HasAdapter a) (hf : o.HasCallback f) :
    ∃ o₁ tail, Begins (.on a f) o o₁ tail := by
  obtain ⟨source, entries, disposed, hs, hk, hend⟩ := hw.adapter ha
  cases disposed with
  | false =>
    exact Begins.quiet rfl rfl (NetworkAdapter.on_leaves hk rfl rfl hs) (changes_on hw hk hf.2) nofun
  | true => exact Begins.quiet rfl rfl (NetworkAdapter.on_leaves_disposed hk rfl) .refl nofun

/-- Detaching. -/
theorem begins_off (hw : Wired o) (ha : o.HasAdapter a) :
    ∃ o₁ tail, Begins (.off a f) o o₁ tail := by
  obtain ⟨source, entries, disposed, hs, hk, hend⟩ := hw.adapter ha
  cases hfound : (o.table a.bridge).first? NetworkAdapter.availabilityChanged f with
  | none => exact Begins.quiet rfl rfl (NetworkAdapter.off_leaves_none hfound) .refl nofun
  | some entry =>
    exact Begins.quiet rfl rfl (NetworkAdapter.off_leaves_some hfound hs)
      (changes_off hw hk hend hfound) nofun

/-- Disposing leaves a disposed adapter. -/
theorem dispose_wired (hw : Wired o) (ha : o.HasAdapter a) :
    ∃ o₁, a.dispose.Leaves (.none : Service Unit) [] ⟨o, ()⟩ (.ok ()) [] o₁ () ∧ Changes o o₁ ∧
      o₁.Disposed a.wrapper := by
  obtain ⟨source, entries, disposed, hs, hk, hend⟩ := hw.adapter ha
  cases disposed with
  | false =>
    refine ⟨_, WrapperId.dispose_leaves hk rfl rfl rfl, changes_dispose hw hk, ?_⟩
    refine ⟨adapterWrapper a.source source.changed [] true, ?_, rfl⟩
    exact (Objects.wrapper?_modifyWrapper_self ..).trans (congrArg (Option.map _) hk)
  | true => exact ⟨o, WrapperId.dispose_leaves_again hk rfl rfl, .refl, _, hk, rfl⟩

/-- Making an adapter. -/
theorem begins_makeAdapter (hs : o.HasSource s) : ∃ o₁ tail, Begins (.makeAdapter s) o o₁ tail := by
  obtain ⟨source, hsource⟩ := exists_source hs
  refine Begins.quiet rfl rfl (NetworkAdapter.ofSource_leaves hsource) (.single ?_) nofun
  have hobjects : (o.addWrapper (.make .borrowed s.native)).modifyTable (.ofWrapper o.nextWrapper)
      (·.setHook NetworkAdapter.availabilityChanged (.removeFrom source.changed)) =
        o.addWrapper (adapterWrapper s source.changed [] false) :=
    congrArg (fun wrappers => { o with wrappers }) (Registry.modify_insert_next ..)
  rw [hobjects]
  exact .adapter hsource

/-- A poll on a live adapter records what the probe came to. -/
theorem proceed_poll {found : Wrapper} (hk : o.wrapper? a.wrapper = some found)
    (hensure : found.ensureLive = .ok ()) (reachable : Bool) :
    (Operation.poll a reachable).activity.proceed [] o =
      ((a.source.record reachable).bind fun _ => .done (.flag reachable)).proceed [] o := by
  rw [Operation.activity, Activity.replying, NetworkAdapter.poll]
  simp only [bind, Activity.bind_assoc]
  rw [WrapperId.ensureLive, WrapperId.view, Activity.proceed_inspect, hk]
  simp only [Option.map_some, Option.getD_some, hensure]
  rw [SourceId.refresh, SourceId.probe]
  simp only [Functor.map, bind, Activity.bind_assoc]
  rw [SourceId.probeAddress, SourceId.view, Activity.proceed_inspect]
  rfl

theorem begins_poll (reachable : Bool) (hw : Wired o) (ha : o.HasAdapter a) :
    ∃ o₁ tail, Begins (.poll a reachable) o o₁ tail := by
  obtain ⟨source, entries, disposed, hs, hk, hend⟩ := hw.adapter ha
  cases disposed with
  | false =>
    have hlive : ¬ o.Disposed a.wrapper := by
      rintro ⟨found, hfound, hdisposed⟩
      obtain rfl := Option.some.inj (hk.symm.trans hfound)
      cases hdisposed
    exact Begins.observing (if_neg hlive) (List.getElem?_eq_some_iff.mp hs).1
      (proceed_poll hk rfl reachable) fun _ => reports_done (.flag reachable)
  | true =>
    have hdisposed : o.Disposed a.wrapper := ⟨_, hk, rfl⟩
    have hobservation : (Operation.poll a reachable).observation o = none := if_pos hdisposed
    refine Begins.quiet rfl ?_ (NetworkAdapter.poll_leaves_disposed hk rfl) ?_ nofun
    · simp only [Operation.notification, hobservation]
    · rw [Operation.observed, hobservation]

/-! The event of a source is used in one section. -/

theorem begins_add (hs : o.HasSource s) (hf : o.HasCallback f) :
    ∃ o₁ tail, Begins (.add s f) o o₁ tail := by
  obtain ⟨source, hsource⟩ := exists_source hs
  have hleaves : (s.changed.bind fun event => event.add f).Leaves (.none : Service Unit) [] ⟨o, ()⟩ ()
      [] (o.modifyEvent source.changed (·.add f)) () :=
    .bind (NetworkAdapter.changed_leaves hsource) fun _ => .locked List.not_mem_nil _ _
  have hown : (o.function f).converters = [] := by rw [hf.2]
  exact Begins.quiet rfl rfl hleaves (.single (.add hf.1 (Or.inl hown))) nofun

theorem begins_remove (hs : o.HasSource s) : ∃ o₁ tail, Begins (.remove s f) o o₁ tail := by
  obtain ⟨source, hsource⟩ := exists_source hs
  have hleaves : (s.changed.bind fun event => event.remove f).Leaves (.none : Service Unit) []
      ⟨o, ()⟩ ((o.event source.changed).contains f) [] (o.modifyEvent source.changed (·.remove f))
      () :=
    .bind (NetworkAdapter.changed_leaves hsource) fun _ => .locked List.not_mem_nil _ _
  exact Begins.quiet rfl rfl hleaves (.single (.remove (eraseLast_sublist _ _))) nofun

theorem begins_clear (hs : o.HasSource s) : ∃ o₁ tail, Begins (.clear s) o o₁ tail := by
  obtain ⟨source, hsource⟩ := exists_source hs
  have hleaves : (s.changed.bind fun event => event.clear).Leaves (.none : Service Unit) [] ⟨o, ()⟩ ()
      [] (o.modifyEvent source.changed fun _ => .empty) () :=
    .bind (NetworkAdapter.changed_leaves hsource) fun _ => .locked List.not_mem_nil _ _
  exact Begins.quiet rfl rfl hleaves (.single (.remove (List.nil_sublist _))) nofun

theorem begins_count (hs : o.HasSource s) : ∃ o₁ tail, Begins (.count s) o o₁ tail := by
  obtain ⟨source, hsource⟩ := exists_source hs
  have hleaves : (s.changed.bind fun event => event.count).Leaves (.none : Service Unit) [] ⟨o, ()⟩
      (o.event source.changed).count [] o () :=
    .bind (NetworkAdapter.changed_leaves hsource) fun _ => .locked List.not_mem_nil _ _
  exact Begins.quiet rfl rfl hleaves .refl nofun

/-- How every operation begins. -/
theorem begins (hw : Wired o) (hop : op.Valid o) : ∃ o₁ tail, Begins op o o₁ tail := by
  cases op with
  | makeSource address =>
    exact Begins.quiet rfl rfl (SourceId.make_leaves address) (.single (.source address)) nofun
  | makeAdapter s => exact begins_makeAdapter hop
  | makeCallback => exact Begins.quiet rfl rfl FunctionId.make_leaves (.single .callback) nofun
  | on a f => exact begins_on hw hop.1 hop.2
  | off a f => exact begins_off hw hop.1
  | record s available =>
    exact Begins.observing rfl hop rfl fun changed => reports_done (.flag changed)
  | poll a reachable => exact begins_poll reachable hw hop
  | raise s value =>
    refine ⟨o, .done (.count (o.listeners s).length), .refl, nofun, reports_done _, ?_⟩
    exact proceed_raise _ value _
  | add s f => exact begins_add hop.1 hop.2
  | remove s f => exact begins_remove hop.1
  | clear s => exact begins_clear hop
  | count s => exact begins_count hop
  | isAvailable a => exact Begins.quiet rfl rfl (.inspect rfl) .refl nofun
  | dispose a =>
    obtain ⟨o₁, hleaves, hchanges, hdisposed⟩ := dispose_wired hw hop
    refine Begins.quiet rfl rfl hleaves hchanges ?_
    intro a' ha'
    obtain rfl := Option.some.inj ha'
    exact hdisposed
  | drop a =>
    obtain ⟨o₁, hleaves, hchanges, hdisposed⟩ := dispose_wired hw hop
    refine Begins.quiet rfl rfl (NetworkAdapter.drop_leaves hleaves) hchanges ?_
    intro a' ha'
    obtain rfl := Option.some.inj ha'
    exact hdisposed

end Notifying
end Hostlink
