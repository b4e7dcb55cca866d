import Hostlink.Proofs.Network.Linking
import Hostlink.Proofs.Network.Performed

/-!
# Adapters refine a plain multicast list

Whatever commands are given, sources and adapters report what the plain list reports.  Each command
leads from a picture to a picture; `adapters_refine_multicast` follows a whole run.
-/

namespace Hostlink.Network

open Picture

variable {α : Type} {p p' : Picture} {o o' : Objects}

/-- Whether desk and machine report the same and are left in one picture. -/
def Agree (onDesk : Response × Desk) (onMachine : Response × Machine) : Prop :=
  ∃ response p' o', Shows p' o' ∧ onDesk = (response, p'.desk o') ∧ onMachine = (response, p'.machine)

/-! ## Numbers -/

theorem desk_source (p : Picture) (o : Objects) (i : Nat) :
    (p.desk o).sources[i]? = (p.sources[i]?).map fun _ => ⟨i⟩ := by
  rw [desk, List.getElem?_map]
  rcases Nat.lt_or_ge i p.sources.length with hi | hi
  · rw [List.getElem?_range hi, List.getElem?_eq_getElem hi]
    rfl
  · rw [List.getElem?_eq_none (by simpa using hi), List.getElem?_eq_none hi]
    rfl

theorem desk_adapter (p : Picture) (o : Objects) (k : Nat) :
    (p.desk o).adapters[k]? = (p.adapters[k]?).map fun a => ⟨⟨k⟩, ⟨a.source⟩⟩ :=
  List.getElem?_mapIdx

theorem desk_modifySource (p : Picture) (o : Objects) (i : Nat) (f : Source → Source) :
    (p.modifySource i f).desk o = p.desk o := by
  simp [desk, modifySource]

theorem desk_modifyAdapter (p : Picture) (o : Objects) (k : Nat)
    {f : Machine.Adapter → Machine.Adapter} (hf : ∀ a, (f a).source = a.source) :
    (p.modifyAdapter k f).desk o = p.desk o := by
  have hadapters : (p.adapters.modify k f).mapIdx (fun k a => NetworkAdapter.mk ⟨k⟩ ⟨a.source⟩) =
      p.adapters.mapIdx fun k a => ⟨⟨k⟩, ⟨a.source⟩⟩ := by
    refine List.ext_getElem? fun n => ?_
    simp only [List.getElem?_mapIdx, List.getElem?_modify, Option.map_eq_map, Option.map_map]
    refine congrArg (Option.map · p.adapters[n]?) (funext fun a => ?_)
    simp only [Function.comp_apply]
    split
    · rw [hf]
    · rfl
  exact congrArg (Desk.mk o _ _) hadapters

namespace Agree

theorem unknown (h : p.Shows o) : Agree (p.desk o).unknown (p.machine.reply .unknown) :=
  ⟨_, p, o, h, rfl, rfl⟩

/-- A source has the same number on both sides. -/
theorem withSource (h : p.Shows o) {i : Nat} {next : SourceId → Response × Desk}
    {next' : Machine.Source → Response × Machine}
    (hnext : ∀ s, p.sources[i]? = some s → SourceShown p o i s →
      Agree (next ⟨i⟩) (next' (s.machine p.callbacks))) :
    Agree ((p.desk o).withNumber (p.desk o).sources i next) (p.machine.withSource i next') := by
  have hmachine : p.machine.sources[i]? = (p.sources[i]?).map (·.machine p.callbacks) :=
    List.getElem?_map
  rw [Desk.withNumber, desk_source, Machine.withSource, hmachine]
  cases hs : p.sources[i]? with
  | none => exact unknown h
  | some s => exact hnext s hs (h.sources i s hs)

/-- An adapter has the same number on both sides. -/
theorem withAdapter (h : p.Shows o) {k : Nat} {next : NetworkAdapter → Response × Desk}
    {next' : Machine.Adapter → Machine.Source → Response × Machine}
    (hnext : ∀ a s, p.adapters[k]? = some a → AdapterShown p o k a s →
      Agree (next ⟨⟨k⟩, ⟨a.source⟩⟩) (next' a (s.machine p.callbacks))) :
    Agree ((p.desk o).withNumber (p.desk o).adapters k next) (p.machine.withAdapter k next') := by
  have hmachine : p.machine.adapters[k]? = p.adapters[k]? := rfl
  rw [Desk.withNumber, desk_adapter, Machine.withAdapter, hmachine]
  cases ha : p.adapters[k]? with
  | none => exact unknown h
  | some a =>
    obtain ⟨s, shown⟩ := h.adapters k a ha
    have hsource : p.machine.sources[a.source]? = some (s.machine p.callbacks) := by
      rw [machine, List.getElem?_map, shown.source]
      rfl
    simp only [Option.map_some, Machine.withSource, hsource]
    exact hnext a s ha shown

/-- A callback has the same number on both sides. -/
theorem withCallback (h : p.Shows o) {c : Nat} {next : FunctionId → Response × Desk}
    {y : Response × Machine} (hnext : ∀ f, p.callbacks[c]? = some f → Agree (next f) y) :
    Agree ((p.desk o).withNumber (p.desk o).callbacks c next)
      (if p.machine.callbacks ≤ c then p.machine.reply .unknown else y) := by
  have hdesk : (p.desk o).callbacks[c]? = p.callbacks[c]? := rfl
  rw [Desk.withNumber, hdesk]
  cases hf : p.callbacks[c]? with
  | none =>
    rw [if_pos (show p.machine.callbacks ≤ c from List.getElem?_eq_none_iff.mp hf)]
    exact unknown h
  | some f =>
    rw [if_neg (Nat.not_le_of_lt (show c < p.machine.callbacks from
      (List.getElem?_eq_some_iff.mp hf).1))]
    exact hnext f hf

/-- Calls as they are reported. -/
def reported (p : Picture) (calls : Calls) : List (Nat × Payload) :=
  calls.map fun call => (p.callbacks.idxOf call.1, call.2)

/-- What an activity leaves is what the desk reports. -/
theorem perform {act : Activity Calls α} {result : α} {calls : Calls} {reply : α → Reply}
    {keep : α → Desk → Desk} {y : Response × Machine}
    (hact : act.Leaves (recorder.service 0) [] ⟨o, []⟩ result [] o' calls) (hshows : p'.Shows o')
    (hkeep : ∀ o'', keep result { p.desk o with objects := o'' } = p'.desk o'')
    (hy : y = (⟨reply result, reported p calls⟩, p'.machine)) :
    Agree ((p.desk o).perform act reply keep) y := by
  obtain ⟨notices, hrun⟩ := hact
  refine ⟨_, p', { o' with notices }, hshows.withNotices notices, ?_, hy⟩
  have hperform : recorder.perform 0 act ⟨(p.desk o).objects, []⟩ =
      (.returned result, ⟨{ o' with notices }, calls⟩) := Client.perform_of_run hrun
  rw [Desk.perform, hperform]
  exact congrArg (Prod.mk _) (hkeep _)

/-- An activity of which nothing is kept. -/
theorem use {act : Activity Calls α} {result : α} {calls : Calls} {reply : α → Reply}
    {y : Response × Machine}
    (hact : act.Leaves (recorder.service 0) [] ⟨o, []⟩ result [] o' calls) (hshows : p'.Shows o')
    (hdesk : ∀ o'', p'.desk o'' = p.desk o'')
    (hy : y = (⟨reply result, reported p calls⟩, p'.machine)) :
    Agree ((p.desk o).use act reply) y :=
  perform hact hshows (fun o'' => (hdesk o'').symm) hy

/-- An activity that changes no objects. -/
theorem look {act : Activity Calls α} {result : α} {calls : Calls} {reply : α → Reply}
    {y : Response × Machine} (h : p.Shows o)
    (hact : act.Leaves (recorder.service 0) [] ⟨o, []⟩ result [] o calls)
    (hy : y = (⟨reply result, reported p calls⟩, p.machine)) :
    Agree ((p.desk o).use act reply) y :=
  use hact h (fun _ => rfl) hy

/-- An activity that panics before it changes anything. -/
theorem panic {act : Activity Calls α} {message : String} {reply : α → Reply}
    {y : Response × Machine} (h : p.Shows o)
    (hact : act.run (recorder.service 0) [] ⟨o, []⟩ = ⟨.panicked message, [], ⟨o, []⟩⟩)
    (hy : y = (⟨.panicked message, []⟩, p.machine)) : Agree ((p.desk o).use act reply) y := by
  refine ⟨_, p, o, h, ?_, hy⟩
  have hperform : recorder.perform 0 act ⟨(p.desk o).objects, []⟩ =
      (.panicked message, ⟨o, []⟩) := Client.perform_of_run hact
  rw [Desk.use, Desk.perform, hperform]
  rfl

end Agree

/-! ## Calls -/

section Calls

variable {i : Nat} {s : Source} (shown : SourceShown p o i s)
include shown

/-- Native callbacks convert observations. -/
theorem converters_of_shown : ∀ handler ∈ (o.event ⟨i⟩).handlers,
    (o.function handler).converters = [.availability] := by
  intro handler hhandler
  rw [shown.event] at hhandler
  obtain ⟨l, hl, rfl⟩ := List.mem_map.mp hhandler
  rw [(shown.links l hl).function]

/-- The calls of all native callbacks of a source are the calls of its listeners. -/
theorem reported_callsOf (value : Availability) :
    Agree.reported p (callsOf o (o.event ⟨i⟩).handlers value) =
      (s.machine p.callbacks).calls value := by
  rw [shown.event, Agree.reported, callsOf, List.map_map, List.map_map, Source.machine,
    Machine.Source.calls, List.map_map]
  refine List.map_congr_left fun l hl => ?_
  simp only [Function.comp_apply, (shown.links l hl).function, Link.listener]

/-- Recording calls the native callbacks exactly if the machine calls the listeners. -/
theorem record_shown (available : Bool) : ∃ calls,
    Agree.reported p calls = (s.machine p.callbacks).observe available ∧
      ∀ notices, (SourceId.record ⟨i⟩ available).Leaves (recorder.service 0) []
        ⟨{ o with notices }, []⟩ (decide (s.available ≠ available)) []
          (o.modifySource ⟨i⟩ ({ · with available })) calls := by
  obtain ⟨address, hsource⟩ := shown.source
  have hconverters := converters_of_shown shown
  refine ⟨if s.available = available then []
    else callsOf o (o.event ⟨i⟩).handlers ⟨available, none⟩, ?_, fun notices =>
      record_leaves (w := ⟨{ o with notices }, []⟩) hsource available hconverters List.not_mem_nil⟩
  rw [Machine.Source.observe, ← reported_callsOf shown]
  exact apply_ite (Agree.reported p) _ _ _

end Calls

/-! ## Commands -/

section Commands

variable (h : p.Shows o)
include h

theorem agree_makeSource (address : String) :
    Agree ((p.desk o).step (.makeSource address)) (p.machine.step (.makeSource address)) := by
  rw [Desk.step]
  refine Agree.perform (SourceId.make_leaves address) (h.addSource address) (fun o'' => ?_) ?_
  · have hsource : o.nextSource = ⟨p.sources.length⟩ := congrArg SourceId.mk h.next_sources
    simp [desk, addSource, List.range_succ, hsource]
  · rw [machine_addSource]
    rfl

theorem agree_makeCallback :
    Agree ((p.desk o).step .makeCallback) (p.machine.step .makeCallback) := by
  rw [Desk.step]
  refine Agree.perform FunctionId.make_leaves h.addCallback (fun _ => rfl) ?_
  rw [machine_addCallback]
  · rfl
  · intro s hs l hl
    obtain ⟨i, hi⟩ := List.mem_iff_getElem?.mp hs
    exact ((h.sources i s hi).links l hl).callback

theorem agree_makeAdapter (i : Nat) :
    Agree ((p.desk o).step (.makeAdapter i)) (p.machine.step (.makeAdapter i)) := by
  refine .withSource h fun s hs shown => ?_
  obtain ⟨address, hsource⟩ := shown.source
  refine Agree.perform (NetworkAdapter.ofSource_leaves hsource) (h.addAdapter hs)
    (fun o'' => ?_) rfl
  have hwrapper : o.nextWrapper = ⟨p.adapters.length⟩ := congrArg WrapperId.mk h.next_wrappers
  simp [desk, addAdapter, hwrapper]

theorem agree_on (k c : Nat) :
    Agree ((p.desk o).step (.on k c)) (p.machine.step (.on k c)) := by
  refine .withAdapter h fun a s ha shown => ?_
  refine .withCallback h fun f hf => ?_
  cases hdisposed : a.disposed with
  | true =>
    rw [if_pos rfl]
    exact .look h (NetworkAdapter.on_leaves_disposed shown.wrapper hdisposed) rfl
  | false =>
    rw [if_neg Bool.false_ne_true]
    obtain ⟨address, hsource⟩ := (h.sources _ _ shown.source).source
    refine Agree.use (NetworkAdapter.on_leaves shown.wrapper hdisposed hdisposed hsource)
      (h.link ha shown hdisposed (List.mem_of_getElem? hf)) (fun o'' => desk_modifySource ..) ?_
    have hlistener : Link.listener p.callbacks ⟨k, f, o.nextFunction⟩ = (k, c) :=
      eq_of_beq ((listener_eq_iff h.distinct hf _).trans (by simp [Attaches]))
    rw [machine_setLinks, List.map_append, List.map_singleton, hlistener]
    rfl

theorem agree_off (k c : Nat) :
    Agree ((p.desk o).step (.off k c)) (p.machine.step (.off k c)) := by
  refine .withAdapter h fun a s ha shown => ?_
  refine .withCallback h fun f hf => ?_
  have hcontains : (s.machine p.callbacks).listeners.contains (k, c) =
      (s.links.find? (Attaches k f)).isSome := contains_listener h.distinct hf s.links
  have herase : (s.machine p.callbacks).listeners.erase (k, c) =
      (s.links.eraseP (Attaches k f)).map (·.listener p.callbacks) :=
    erase_listener h.distinct hf s.links
  have hfirst : (o.table (.ofWrapper ⟨k⟩)).first? NetworkAdapter.availabilityChanged f =
      (s.links.find? (Attaches k f)).map (·.registration) := by
    rw [Objects.table, shown.wrapper]
    exact first?_wrapper k a s.links f
  rw [hcontains, herase, ← machine_setLinks]
  cases hl : s.links.find? (Attaches k f) with
  | none =>
    rw [hl] at hfirst
    rw [List.eraseP_of_forall_not (List.find?_eq_none.mp hl), setLinks_self shown.source]
    exact .look h (NetworkAdapter.off_leaves_none hfirst) rfl
  | some l =>
    rw [hl] at hfirst
    have hsource := h.sources _ _ shown.source
    obtain ⟨address, hstatus⟩ := hsource.source
    have hpresent : (o.event ⟨a.source⟩).contains l.registration.native = true := by
      rw [hsource.event]
      exact decide_eq_true (List.mem_map_of_mem (List.mem_of_find?_eq_some hl))
    refine Agree.use (NetworkAdapter.off_leaves_some hfirst hstatus) (h.unlink ha shown hl)
      (fun o'' => desk_modifySource ..) ?_
    simp only [hpresent]
    rfl

theorem agree_record (i : Nat) (available : Bool) :
    Agree ((p.desk o).step (.record i available)) (p.machine.step (.record i available)) := by
  refine .withSource h fun s hs shown => ?_
  obtain ⟨calls, hcalls, hact⟩ := record_shown shown available
  refine Agree.use (hact o.notices) (h.setAvailable i available)
    (fun o'' => desk_modifySource ..) ?_
  rw [hcalls, machine_setAvailable]
  rfl

theorem agree_poll (k : Nat) (reachable : Bool) :
    Agree ((p.desk o).step (.poll k reachable)) (p.machine.step (.poll k reachable)) := by
  refine .withAdapter h fun a s ha shown => ?_
  cases hdisposed : a.disposed with
  | true =>
    rw [if_pos rfl]
    exact .look h (NetworkAdapter.poll_leaves_disposed shown.wrapper hdisposed) rfl
  | false =>
    rw [if_neg Bool.false_ne_true]
    obtain ⟨calls, hcalls, hact⟩ := record_shown (h.sources _ _ shown.source) reachable
    refine Agree.use (NetworkAdapter.poll_leaves shown.wrapper hdisposed hact)
      (h.setAvailable a.source reachable) (fun o'' => desk_modifySource ..) ?_
    rw [hcalls, machine_setAvailable]
    rfl

theorem agree_raise (i : Nat) (available : Bool) (time : Time.Instant) :
    Agree ((p.desk o).step (.raise i available time))
      (p.machine.step (.raise i available time)) := by
  refine .withSource h fun s hs shown => ?_
  obtain ⟨address, hsource⟩ := shown.source
  have hconverters := converters_of_shown shown
  have hlength : (o.event ⟨i⟩).handlers.length = (s.machine p.callbacks).listeners.length := by
    rw [shown.event, Source.machine, List.length_map, List.length_map]
  rw [Machine.Source.raise]
  split
  next hin =>
    have hconverts : ∀ handler ∈ (o.event ⟨i⟩).handlers,
        Converts o ⟨available, some time⟩ handler := by
      intro handler hmem
      refine ⟨hconverters handler hmem, fun t ht => ?_⟩
      obtain rfl : time = t := Option.some_inj.mp ht
      refine hin.resolve_left fun hnone => ?_
      rw [hnone] at hlength
      exact absurd hmem (by simp [List.length_eq_zero_iff.mp hlength])
    have hact : ((SourceId.changed ⟨i⟩).bind fun event =>
        event.raise (.status ⟨available, some time⟩)).Leaves (recorder.service 0) [] ⟨o, []⟩
          (o.event ⟨i⟩).handlers.length [] o (callsOf o (o.event ⟨i⟩).handlers
            ⟨available, some time⟩) := by
      refine .bind (NetworkAdapter.changed_leaves hsource) fun notices => ?_
      exact raise_leaves (w := ⟨{ o with notices }, []⟩) hconverts List.not_mem_nil
    refine .look h hact ?_
    rw [hlength, reported_callsOf shown]
  next hout =>
    -- The conversion for the first listener panics, so nothing has been called.
    obtain ⟨hsome, hcalendar⟩ := not_or.mp hout
    obtain ⟨handler, rest, hevent⟩ : ∃ handler rest, (o.event ⟨i⟩).handlers = handler :: rest := by
      refine List.exists_cons_of_ne_nil fun hnone => hsome ?_
      rw [hnone] at hlength
      exact List.length_eq_zero_iff.mp hlength.symm
    have hraise : (EventId.raise ⟨i⟩ (.status ⟨available, some time⟩)).run (recorder.service 0) []
        ⟨o, []⟩ = ⟨.panicked "No such local time", [], ⟨o, []⟩⟩ :=
      raise_panics rfl (by simpa using hcalendar) hevent (hconverters handler (by simp [hevent]))
        List.not_mem_nil
    have hchanged : (SourceId.changed ⟨i⟩).run (recorder.service 0) [] ⟨o, []⟩ =
        ⟨.returned ⟨i⟩, [], ⟨o, []⟩⟩ := by
      show Ending.mk (.returned (((o.source? ⟨i⟩).map _).getD _)) _ _ = _
      rw [hsource]
      rfl
    refine .panic h ?_ rfl
    rw [Activity.run_bind, hchanged]
    exact hraise

/-- Disposing of an adapter. -/
theorem dispose_agrees {k : Nat} {a : Machine.Adapter} {s : Source}
    (ha : p.adapters[k]? = some a) (shown : AdapterShown p o k a s) :
    ∃ (p' : Picture) (o' : Objects), p'.Shows o' ∧ (∀ o'', p'.desk o'' = p.desk o'') ∧
      (NetworkAdapter.dispose ⟨⟨k⟩, ⟨a.source⟩⟩).Leaves (recorder.service 0) [] ⟨o, []⟩ (.ok ()) []
        o' [] ∧
      p.machine.dispose k a (s.machine p.callbacks) = p'.machine := by
  let p' := (p.setLinks a.source (s.links.filter (·.adapter ≠ k))).modifyAdapter k
    ({ · with disposed := true })
  have hmachine : p.machine.dispose k a (s.machine p.callbacks) = p'.machine := by
    have hlisteners : (s.machine p.callbacks).listeners.filter (·.1 ≠ k) =
        (s.links.filter (·.adapter ≠ k)).map (·.listener p.callbacks) := List.filter_map
    rw [Machine.dispose, hlisteners, ← machine_setLinks]
    rfl
  cases hdisposed : a.disposed with
  | false =>
    refine ⟨p', _, h.unlinkAll ha shown, fun o'' => ?_, ?_, hmachine⟩
    · exact (desk_modifyAdapter (f := ({ · with disposed := true })) _ _ _ fun _ => rfl).trans
        (desk_modifySource ..)
    · refine WrapperId.dispose_leaves shown.wrapper rfl hdisposed ?_
      rw [wrapper, CallbackTable.batches_sole, List.map_map]
      rfl
  | true =>
    -- Nothing is done, and on the machine there is nothing to erase or to mark any more.
    have hlinks : s.links.filter (·.adapter ≠ k) = s.links :=
      List.filter_eq_self.mpr fun l hl => by simpa using shown.unlinked hdisposed l hl
    have hsame : p' = p := by
      show (p.setLinks a.source (s.links.filter (·.adapter ≠ k))).modifyAdapter k _ = p
      rw [hlinks, setLinks_self shown.source]
      exact modifyAdapter_self ha (by rw [← hdisposed])
    rw [hsame] at hmachine
    exact ⟨p, o, h, fun _ => rfl, WrapperId.dispose_leaves_again shown.wrapper rfl hdisposed,
      hmachine⟩

theorem agree_dispose (k : Nat) :
    Agree ((p.desk o).step (.dispose k)) (p.machine.step (.dispose k)) := by
  refine .withAdapter h fun a s ha shown => ?_
  obtain ⟨p', o', hshows, hdesk, hact, hmachine⟩ := dispose_agrees h ha shown
  refine Agree.use hact hshows hdesk ?_
  rw [hmachine]
  rfl

theorem agree_drop (k : Nat) :
    Agree ((p.desk o).step (.drop k)) (p.machine.step (.drop k)) := by
  refine .withAdapter h fun a s ha shown => ?_
  obtain ⟨p', o', hshows, hdesk, hact, hmachine⟩ := dispose_agrees h ha shown
  refine Agree.use (NetworkAdapter.drop_leaves hact) hshows hdesk ?_
  rw [hmachine]
  rfl

theorem agree_isAvailable (k : Nat) :
    Agree ((p.desk o).step (.isAvailable k)) (p.machine.step (.isAvailable k)) := by
  refine .withAdapter h fun a s ha shown => ?_
  obtain ⟨address, hsource⟩ := (h.sources _ _ shown.source).source
  exact .look h (.inspect (by rw [hsource]; rfl)) rfl

theorem agree_countHandlers (i : Nat) :
    Agree ((p.desk o).step (.countHandlers i)) (p.machine.step (.countHandlers i)) := by
  refine .withSource h fun s hs shown => ?_
  obtain ⟨address, hsource⟩ := shown.source
  have hact : ((SourceId.changed ⟨i⟩).bind EventId.count).Leaves (recorder.service 0) [] ⟨o, []⟩
      (o.event ⟨i⟩).count [] o [] :=
    .bind (NetworkAdapter.changed_leaves hsource) fun _ => count_leaves List.not_mem_nil
  refine .look h hact ?_
  have hcount : (o.event ⟨i⟩).count = (s.machine p.callbacks).listeners.length := by
    rw [shown.event, Multicast.count, Source.machine, List.length_map, List.length_map]
  rw [hcount]
  rfl

end Commands

/-- A command on desk and machine. -/
theorem agree_step (h : p.Shows o) (c : Command) :
    Agree ((p.desk o).step c) (p.machine.step c) := by
  cases c with
  | makeSource address => exact agree_makeSource h address
  | makeAdapter source => exact agree_makeAdapter h source
  | makeCallback => exact agree_makeCallback h
  | on adapter callback => exact agree_on h adapter callback
  | off adapter callback => exact agree_off h adapter callback
  | record source available => exact agree_record h source available
  | poll adapter reachable => exact agree_poll h adapter reachable
  | raise source available time => exact agree_raise h source available time
  | dispose adapter => exact agree_dispose h adapter
  | drop adapter => exact agree_drop h adapter
  | isAvailable adapter => exact agree_isAvailable h adapter
  | countHandlers source => exact agree_countHandlers h source

/-- From a common picture every run reports the same. -/
theorem run_eq (h : p.Shows o) (commands : List Command) :
    (p.desk o).run commands = p.machine.run commands := by
  induction commands generalizing p o with
  | nil => rfl
  | cons command rest ih =>
    obtain ⟨response, p', o', hshows, hdesk, hmachine⟩ := agree_step h command
    simp only [Desk.run, Machine.run, hdesk, hmachine, ih hshows]

/-- Sources and adapters behave like a plain multicast list: whatever is done with them, every
command has the reply, and calls the callbacks in the order and with the arguments, that the list
gives. -/
theorem adapters_refine_multicast (commands : List Command) :
    Desk.empty.run commands = Machine.empty.run commands :=
  run_eq Shows.empty commands

end Hostlink.Network
