import Hostlink.Proofs.Bridge.Queue
import Hostlink.Proofs.Registry

/-!
# First in, first out

Of one callback, what was attached first is detached first.  A detachment that finds nothing changes
nothing, and what is done to other bridges, members and callbacks neither shows in what a
detachment finds nor reorders the registrations.
-/

namespace Hostlink

/-- Whether nothing but the reported log events differs. -/
def Objects.SameButNotices (o o' : Objects) : Prop := o' = { o with notices := o'.notices }

/-- A change that keeps the table of a bridge keeps all objects. -/
theorem Objects.modifyTable_eq_self {o : Objects} {b : BridgeId}
    {f : CallbackTable → CallbackTable} (h : f (o.table b) = o.table b) :
    o.modifyTable b f = o := by
  cases b with
  | standalone index =>
    have hsame : o.bridges.modify index f = o.bridges := by
      refine Registry.modify_eq_self fun t ht => ?_
      simpa [table, ht] using h
    rw [modifyTable, hsame]
  | ofWrapper w =>
    have hsame : o.wrappers.modify w.index (fun w => { w with callbacks := f w.callbacks }) =
        o.wrappers := by
      refine Registry.modify_eq_self fun wrapper hw => ?_
      have hcallbacks : f wrapper.callbacks = wrapper.callbacks := by
        simpa [table, wrapper?, hw] using h
      rw [hcallbacks]
    rw [modifyTable, modifyWrapper, hsame]

/-- A detachment that finds nothing changes nothing. -/
theorem Effect.apply_detach_of_none {o : Objects} {b : BridgeId} {key : MemberKey}
    {caller : FunctionId} (h : (o.table b).first? key caller = none) :
    (Effect.detach b key caller).apply o = o :=
  Objects.modifyTable_eq_self (CallbackTable.detach_eq_self _ _ _ h)

/-- Detaching returns what the table holds first, whatever calls of the client would do. -/
theorem BridgeId.tryDetach_run {σ : Type} {service : Service σ} {held : List Lock} {b : BridgeId}
    (htable : .table b ∉ held) (key : MemberKey) (caller : FunctionId) (w : World σ) :
    ∃ notices, (b.tryDetach key caller).run service held w =
      ⟨.returned (((w.objects.table b).first? key caller).map (·.native)), held,
        ⟨{ (Effect.detach b key caller).apply w.objects with notices }, w.client⟩⟩ := by
  have hsection : ∀ f : Objects → Bool × Option Registration × Nat,
      (Activity.locked (.table b) f (.detach b key caller)).run service held w =
        ⟨.returned (f w.objects), held, ⟨(Effect.detach b key caller).apply w.objects, w.client⟩⟩ := by
    intro f
    simp [Activity.locked, Activity.run, htable]
  unfold BridgeId.tryDetach BridgeId.onTable
  simp only [bind, Activity.run_bind, hsection, Ending.andThen]
  cases (w.objects.table b).first? key caller with
  | some entry => exact ⟨_, rfl⟩
  | none =>
    dsimp only
    split
    · exact ⟨_, rfl⟩
    · exact ⟨_, rfl⟩

/-- The operations on the registrations of a callback under a key. -/
def Operation.Handles (b : BridgeId) (key : MemberKey) (op : Operation) (caller : FunctionId) :
    Prop :=
  (∃ converter registrar, op = .attach b key caller converter registrar) ∨
    op = .tryDetach b key caller ∨ ∃ e, op = .detachFrom b key caller e

namespace Interleaving

open Occurrence

/-! ## Answers of detachments -/

/-- The contract of plain detaching: it answers what it has found in the table. -/
def answering : Contract := fun x log =>
  match x.operation with
  | .tryDetach b key callback =>
    match x.deed with
    | .returned answer => ∃ y ∈ log, y.deed = .did (.detach b key callback) ∧
        answer = .detached (((y.objects.table b).first? key callback).map (·.native))
    | _ => True
  | _ => True

/-- Every operation keeps the contract of plain detaching. -/
theorem keeps_answering (op : Operation) : Keeps answering op := by
  cases op
  case tryDetach b key callback =>
    intro call o ho
    refine ⟨trivial, ?_⟩
    intro o₁ h₁
    refine ⟨trivial, ?_⟩
    intro o₂ h₂
    refine ⟨trivial, ?_⟩
    intro o₃ h₃
    refine ⟨trivial, ?_⟩
    dsimp only
    -- what is answered is what the section has seen, whichever event is reported
    have hseen : ∀ {answer : Answer} {log : History},
        (⟨call, .tryDetach b key callback, .did (.detach b key callback), o₂⟩ : Occurrence) ∈ log →
        answer = .detached (((o₂.table b).first? key callback).map (·.native)) →
        Returns answering call (.tryDetach b key callback) answer log :=
      fun hmem hanswer o ho => ⟨_, hmem, rfl, hanswer⟩
    cases hfound : (o₂.table b).first? key callback with
    | some entry =>
      intro o₄ h₄
      exact ⟨trivial, hseen (by simp) (by rw [hfound]; rfl)⟩
    | none =>
      show Conforms answering call _ _
        (Activity.bind (if ((o₂.table b).member? key).isSome = true then _ else _) _) _
      split
      · intro o₄ h₄
        exact ⟨trivial, hseen (by simp) (by rw [hfound]; rfl)⟩
      · exact hseen (by simp) (by rw [hfound]; rfl)
  all_goals exact (keeps_abiding _).weaken fun x log hop _ => by simp only [answering, hop]

variable {rule : Rule} {s : State} {x : Occurrence} {b : BridgeId} {key : MemberKey}
  {caller : FunctionId}

namespace Occurrence

/-- A caller's native callbacks, of whole ledgers. -/
theorem collect_ofCaller (f : Occurrence → List (MemberKey × Registration)) (h : History) :
    collect (fun x => ofCaller key caller (f x)) h = ofCaller key caller (collect f h) := by
  simp only [ofCaller, collect_map, collect_filter]

end Occurrence

/-! ## Who comes to the queue -/

/-- Native callbacks are queued by attachments of the callback. -/
theorem Reachable.attach_of_queued (hs : Reachable rule s) (hx : x ∈ s.history)
    (h : x.queued b key caller ≠ []) :
    ∃ converter registrar, x.operation = .attach b key caller converter registrar := by
  obtain ⟨native, hnative⟩ := List.exists_mem_of_ne_nil _ h
  obtain ⟨pair, hpair, -⟩ := List.mem_map.mp hnative
  obtain ⟨hpushed, hmine⟩ := List.mem_filter.mp hpair
  obtain ⟨rfl, rfl⟩ : pair.1 = key ∧ pair.2.caller = caller := by simpa using hmine
  exact hs.effects hx (mem_pushed.mp hpushed)

/-- Native callbacks are served by detachments of the callback. -/
theorem Reachable.detach_of_served (hs : Reachable rule s) (hx : x ∈ s.history)
    (h : x.served b key caller ≠ []) :
    x.operation = .tryDetach b key caller ∨ ∃ e, x.operation = .detachFrom b key caller e := by
  obtain ⟨native, hnative⟩ := List.exists_mem_of_ne_nil _ h
  obtain ⟨pair, hpair, -⟩ := List.mem_map.mp hnative
  obtain ⟨key', caller', hdeed⟩ : ∃ key' caller', x.deed = .did (.detach b key' caller') := by
    obtain ⟨caller', hdeed⟩ := mem_detached (List.mem_filter.mp hpair).1
    exact ⟨_, caller', hdeed⟩
  rw [served_of_detach hdeed] at h
  split at h
  next hmine =>
    obtain ⟨rfl, rfl⟩ := hmine
    exact hs.effects hx hdeed
  next => exact absurd rfl h

/-- An attachment that has ended has queued just what it has answered. -/
theorem Reachable.queued_of_attach (hs : Reachable rule s) (hx : x ∈ s.history)
    {converter : Converter} {registrar : Registrar}
    (hop : x.operation = .attach b key caller converter registrar) (hends : x.deed.Ends) :
    (∃ native, x.deed = .returned (.attached (.ok native)) ∧
      collect (queued b key caller) (logOf s.history x.call) = [native]) ∨
    (∀ native, x.deed ≠ .returned (.attached (.ok native))) ∧
      collect (queued b key caller) (logOf s.history x.call) = [] := by
  have hledger : collect (queued b key caller) (logOf s.history x.call) =
      ofCaller key caller (collect (pushed b) (logOf s.history x.call)) := collect_ofCaller _ _
  rw [hledger]
  rcases Deed.ends_iff.mp hends with ⟨answer, hdeed⟩ | ⟨message, hdeed⟩
  · rcases hs.attached_answer hx hop hdeed with ⟨native, rfl, hpushed⟩ | ⟨error, rfl, hpushed⟩
    · exact Or.inl ⟨native, hdeed, by simp [hpushed, ofCaller]⟩
    · exact Or.inr ⟨by simp [hdeed], by simp [hpushed, ofCaller]⟩
  · obtain ⟨log, hlog, hlaw⟩ := hs.law_of_ends keeps_attaching hx hends
    simp only [attaching, hop, hdeed] at hlaw
    refine Or.inr ⟨by simp [hdeed], ?_⟩
    rw [hlog, collect_cons, hlaw.1, pushed_eq_nil (by simp [hdeed])]
    rfl

/-- A detachment answers what is due when it comes to the table, and serves nothing else. -/
theorem Reachable.due_of_tryDetach (hs : Reachable rule s) (hx : x ∈ s.history)
    (hop : x.operation = .tryDetach b key caller) {answer : Answer}
    (hdeed : x.deed = .returned answer) :
    ∃ later y earlier found, s.history = later ++ y :: earlier ∧ y.call = x.call ∧
      answer = .detached found ∧ Due b key caller earlier found ∧
      y.served b key caller = found.toList ∧
      collect (served b key caller) (logOf s.history x.call) = found.toList := by
  obtain ⟨log, hlog, hanswer⟩ := hs.law_of_ends keeps_answering hx (Deed.ends_of_returned hdeed)
  simp only [answering, hop, hdeed] at hanswer
  obtain ⟨y, hy, htries, rfl⟩ := hanswer
  obtain ⟨hyin, hcall⟩ := mem_logOf.mp (hlog ▸ List.mem_cons_of_mem x hy)
  obtain ⟨later, s', hsplit, hs', hnext⟩ := hs.exists_next hyin
  have hserved : y.served b key caller =
      (((y.objects.table b).first? key caller).map (·.native)).toList := by
    rw [served_of_detach htries, if_pos ⟨rfl, rfl⟩, CallbackTable.first?_eq_head?]
  refine ⟨later, y, s'.history, _, hsplit, hcall, rfl, ?_, hserved, ?_⟩
  · rw [hnext.objects]
    exact hs'.due b key caller
  -- the call takes back at most what it answers, and the queue is served by `y`
  obtain ⟨found, heq, htaken⟩ := hs.detached_answer hx hop hdeed
  rw [← Answer.detached.inj heq] at htaken
  have hledger : collect (served b key caller) (logOf s.history x.call) =
      ofCaller key caller (collect (detached b) (logOf s.history x.call)) := collect_ofCaller _ _
  have hsub : (collect (served b key caller) (logOf s.history x.call)).Sublist
      (((y.objects.table b).first? key caller).map (·.native)).toList := by
    rw [hledger, ← htaken]
    exact List.filter_sublist.map _
  refine hsub.eq_of_length_le (List.Sublist.length_le ?_)
  cases hfound : ((y.objects.table b).first? key caller).map (·.native) with
  | none => exact List.nil_sublist _
  | some native =>
    refine List.singleton_sublist.mpr (mem_collect.mpr ⟨y, mem_logOf.mpr ⟨hyin, hcall⟩, ?_⟩)
    rw [hserved, hfound]
    exact List.mem_singleton_self native

/-! ## What does not change -/

/-- A detachment that takes nothing back changes nothing. -/
theorem Next.same_of_tryDetach (h : Next rule s x) (hop : x.operation = .tryDetach b key caller)
    (hnone : x.detached b = []) : x.objects.SameButNotices (x.deed.apply x.objects) := by
  cases hdeed : x.deed with
  | did effect =>
    have heffects := h.effects hdeed
    rw [hop] at heffects
    cases effect
    case look => rfl
    case report event => rfl
    case detach b' key' caller' =>
      obtain ⟨rfl, rfl, rfl⟩ : b' = b ∧ key' = key ∧ caller' = caller := by
        simpa [Operation.Effects, eq_comm] using heffects
      have hfirst : (x.objects.table b').first? key' caller' = none := by
        simpa [detached, hdeed] using hnone
      rw [Deed.apply, Effect.apply_detach_of_none hfirst]
      rfl
    all_goals simp [Operation.Effects, Operation.Releases, Operation.Disposes] at heffects
  | begun | took | gave | asked | answered | failed | returned | panicked => rfl

/-- An operation leaves the order of the registrations of all callbacks but its own, and unless it
releases the bridge it takes none of them away. -/
theorem Next.filter_entries (h : Next rule s x) (hreleases : ¬ x.operation.Releases b)
    {p : FunctionId → Bool} (hp : ∀ other, x.operation.Handles b key other → p other = false) :
    (((x.deed.apply x.objects).table b).entries key).filter (p ·.caller) =
      ((x.objects.table b).entries key).filter (p ·.caller) := by
  have hstep := h.tableStep b
  rw [h.objects]
  generalize (x.deed.apply s.objects).table b = t at hstep
  cases hstep with
  | other => rfl
  | setHook key' hook hdeed => rw [CallbackTable.entries_setHook]
  | push key' entry hdeed =>
    refine CallbackTable.filter_entries_push ?_
    rintro rfl
    exact hp _ (Or.inl (h.effects hdeed))
  | detach key' caller' hdeed =>
    refine CallbackTable.filter_entries_detach ?_
    rintro rfl
    exact hp _ (Or.inr (h.effects hdeed))
  | drain hdeed => exact absurd (h.effects hdeed) hreleases

/-- Nothing that happens reorders the registrations under a key: one comes behind the others, or
some are taken away. -/
theorem Next.entries_ordered (h : Next rule s x) (b : BridgeId) (key : MemberKey) :
    (x.objects.table b).entries key <+: ((x.deed.apply x.objects).table b).entries key ∨
      (((x.deed.apply x.objects).table b).entries key).Sublist ((x.objects.table b).entries key) := by
  have hstep := h.tableStep b
  rw [h.objects]
  generalize (x.deed.apply s.objects).table b = t at hstep
  cases hstep with
  | other => exact Or.inl (List.prefix_refl _)
  | setHook key' hook hdeed =>
    rw [CallbackTable.entries_setHook]
    exact Or.inl (List.prefix_refl _)
  | push key' entry hdeed =>
    by_cases hkey : key' = key
    · subst hkey
      rw [CallbackTable.entries_push_self]
      exact Or.inl (List.prefix_append _ _)
    · rw [CallbackTable.entries_push_of_ne _ (Ne.symm hkey)]
      exact Or.inl (List.prefix_refl _)
  | detach key' caller' hdeed =>
    by_cases hkey : key' = key
    · subst hkey
      rw [CallbackTable.entries_detach_self]
      exact Or.inr List.eraseP_sublist
    · rw [CallbackTable.entries_detach_of_ne _ (Ne.symm hkey)]
      exact Or.inl (List.prefix_refl _)
  | drain hdeed =>
    rw [CallbackTable.entries_drained]
    exact Or.inr (List.nil_sublist _)

/-! ## The result -/

/-- Under each key the native callbacks of a callback are detached in the order of attachment. -/
structure FirstInFirstOut (b : BridgeId) (key : MemberKey) (caller : FunctionId) (s : State) :
    Prop where
  /-- Native callbacks come into the queue by attachments of the callback. -/
  queued_by : ∀ x ∈ s.history, x.queued b key caller ≠ [] →
    ∃ converter registrar, x.operation = .attach b key caller converter registrar
  /-- An attachment puts what it answers into the queue, and nothing if it fails or panics. -/
  attached : ∀ x ∈ s.history, ∀ converter registrar,
    x.operation = .attach b key caller converter registrar → x.deed.Ends →
    (∃ native, x.deed = .returned (.attached (.ok native)) ∧
      collect (queued b key caller) (logOf s.history x.call) = [native]) ∨
    (∀ native, x.deed ≠ .returned (.attached (.ok native))) ∧
      collect (queued b key caller) (logOf s.history x.call) = []
  /-- They leave the queue by detachments of the callback. -/
  served_by : ∀ x ∈ s.history, x.served b key caller ≠ [] →
    x.operation = .tryDetach b key caller ∨ ∃ e, x.operation = .detachFrom b key caller e
  /-- The ones served so far are the first ones queued, in their order. -/
  order : collect (served b key caller) s.history <+: collect (queued b key caller) s.history
  /-- Until the release all others wait in the table, in their order. -/
  waiting : (¬ ∃ x ∈ s.history, x.Drains b) → collect (queued b key caller) s.history =
    collect (served b key caller) s.history ++ (s.objects.table b).waiting key caller
  /-- A detachment answers what was due when it came to the table, and that is all it has served. -/
  detached : ∀ x ∈ s.history, x.operation = .tryDetach b key caller →
    ∀ answer, x.deed = .returned answer →
    ∃ later y earlier found, s.history = later ++ y :: earlier ∧ y.call = x.call ∧
      answer = .detached found ∧ Due b key caller earlier found ∧
      y.served b key caller = found.toList ∧
      collect (served b key caller) (logOf s.history x.call) = found.toList
  /-- A detachment that has found nothing has changed nothing. -/
  unchanged : ∀ x ∈ s.history, x.operation = .tryDetach b key caller →
    x.deed = .returned (.detached none) → ∀ y ∈ s.history, y.call = x.call →
    y.objects.SameButNotices (y.deed.apply y.objects)
  /-- What is done to other callbacks, members and bridges changes nothing here. -/
  isolated : ∀ x ∈ s.history, ¬ x.operation.Releases b → ∀ p : FunctionId → Bool,
    (∀ other, x.operation.Handles b key other → p other = false) →
    (((x.deed.apply x.objects).table b).entries key).filter (p ·.caller) =
      ((x.objects.table b).entries key).filter (p ·.caller)
  /-- Nothing reorders the registrations under the key. -/
  ordered : ∀ x ∈ s.history,
    (x.objects.table b).entries key <+: ((x.deed.apply x.objects).table b).entries key ∨
      (((x.deed.apply x.objects).table b).entries key).Sublist ((x.objects.table b).entries key)
  /-- A detachment that is performed now returns what is due, whatever calls of the client would
  do, and changes nothing if that is nothing. -/
  performed : ∀ {σ : Type} (service : Service σ) (client : σ), ∃ found notices,
    (b.tryDetach key caller).run service [] ⟨s.objects, client⟩ = ⟨.returned found, [],
      ⟨{ (Effect.detach b key caller).apply s.objects with notices }, client⟩⟩ ∧
    Due b key caller s.history found ∧
    (found = none → (Effect.detach b key caller).apply s.objects = s.objects)

/-- In every run detaching is first in, first out for every callback of every member. -/
theorem detach_first_in_first_out (hs : Reachable rule s) (b : BridgeId) (key : MemberKey)
    (caller : FunctionId) : FirstInFirstOut b key caller s := by
  constructor
  case queued_by => exact fun x hx => hs.attach_of_queued hx
  case attached => exact fun x hx converter registrar hop => hs.queued_of_attach hx hop
  case served_by => exact fun x hx => hs.detach_of_served hx
  case order => exact (hs.queue b key caller).1
  case waiting =>
    intro hnot
    refine (hs.queue b key caller).2 ?_
    rw [← hs.released_iff b] at hnot
    simpa using hnot
  case detached => exact fun x hx hop answer => hs.due_of_tryDetach hx hop
  case unchanged =>
    intro x hx hop hdeed y hy hcall
    obtain ⟨_, s', _, _, hnext⟩ := hs.exists_next hy
    obtain ⟨found, heq, htaken⟩ := hs.detached_answer hx hop hdeed
    rw [← Answer.detached.inj heq] at htaken
    refine hnext.same_of_tryDetach ((hs.operation_eq hy hx hcall).trans hop) ?_
    have hall := List.map_eq_nil_iff.mp htaken
    exact collect_eq_nil.mp hall y (mem_logOf.mpr ⟨hy, hcall⟩)
  case isolated =>
    intro x hx hreleases p hp
    obtain ⟨_, s', _, _, hnext⟩ := hs.exists_next hx
    exact hnext.filter_entries hreleases hp
  case ordered =>
    intro x hx
    obtain ⟨_, s', _, _, hnext⟩ := hs.exists_next hx
    exact hnext.entries_ordered b key
  case performed =>
    intro σ service client
    have hfree : .table b ∉ ([] : List Lock) := List.not_mem_nil
    obtain ⟨notices, hrun⟩ := BridgeId.tryDetach_run hfree key caller ⟨s.objects, client⟩
    refine ⟨_, notices, hrun, hs.due b key caller, ?_⟩
    intro hnone
    exact Effect.apply_detach_of_none (Option.map_eq_none_iff.mp hnone)

/-- Two threads attach one callback twice, another one under the same key, the first one under a key
with the same name and other types, and the first one on another bridge; then all of it is detached
but for the other types.  The thread that makes its native callback first records it last. -/
def duplicates : List Choice :=
  let b := BridgeId.standalone 0
  let b' := BridgeId.standalone 1
  let key : MemberKey := ⟨"value_changed", .int, .int⟩
  let key' : MemberKey := ⟨"value_changed", .text, .other 5⟩
  let attach (b : BridgeId) (key : MemberKey) (caller : FunctionId) :=
    Operation.attach b key caller (.client 0) (.addTo ⟨0⟩)
  .begin 0 .makeBridge :: goOn 0 2 ++ .begin 0 .makeBridge :: goOn 0 2 ++
  .begin 0 .makeEvent :: goOn 0 2 ++
  .begin 0 .makeFunction :: goOn 0 2 ++ .begin 0 .makeFunction :: goOn 0 2 ++
  .begin 1 (attach b key ⟨0⟩) :: goOn 1 1 ++
  .begin 0 (attach b key ⟨0⟩) :: goOn 0 11 ++
  .begin 0 (attach b key ⟨1⟩) :: goOn 0 11 ++
  .begin 0 (attach b key' ⟨0⟩) :: goOn 0 11 ++
  .begin 0 (attach b' key ⟨0⟩) :: goOn 0 11 ++
  goOn 1 10 ++
  .begin 0 (.tryDetach b key ⟨0⟩) :: goOn 0 5 ++
  .begin 1 (.tryDetach b' key ⟨0⟩) :: goOn 1 5 ++
  .begin 1 (.tryDetach b key ⟨1⟩) :: goOn 1 5 ++
  .begin 1 (.tryDetach b key ⟨0⟩) :: goOn 1 5 ++
  .begin 0 (.tryDetach b key ⟨0⟩) :: goOn 0 5

theorem detach_first_in_first_out_duplicates :
    let b := BridgeId.standalone 0
    let key : MemberKey := ⟨"value_changed", .int, .int⟩
    let s := State.initial.follow Rule.any duplicates
    Reachable Rule.any s ∧ FirstInFirstOut b key ⟨0⟩ s ∧
      collect (queued b key ⟨0⟩) s.history = [⟨3⟩, ⟨2⟩] ∧
      collect (served b key ⟨0⟩) s.history = [⟨3⟩, ⟨2⟩] ∧
      collect (detachedAnswer b) s.history = [⟨3⟩, ⟨4⟩, ⟨2⟩] ∧
      (s.objects.table b).waiting ⟨"value_changed", .text, .other 5⟩ ⟨0⟩ = [⟨5⟩] ∧
      s.frames.length = 0 := by
  have hs : Reachable Rule.any (State.initial.follow Rule.any duplicates) :=
    Reachable.initial.follow duplicates
  refine ⟨hs, detach_first_in_first_out hs _ _ _, ?_⟩
  decide +kernel

end Interleaving
end Hostlink
