import Hostlink.Proofs.Bridge.Releasing
import Hostlink.Proofs.Bridge.Request
import Hostlink.Proofs.Bridge.Run

/-!
# Serving requests during a run

The table of a bridge is what its requests have made of it, one after the other
(`Reachable.table_served`).  A call that returns has made one request, and it answers what the table
has answered to it (`Reachable.exists_served`).

An attachment that panics has made none.  It panics in the section in which it has found the table,
and the table is then as it was found (`Reachable.table_of_panicked`).
-/

namespace Hostlink.Interleaving

open Occurrence

variable {rule : Rule} {s : State} {x : Occurrence} {b : BridgeId}

/-! ## The requests of a run -/

/-- The request that is recorded on the table. -/
def Occurrence.requested (b : BridgeId) (x : Occurrence) : List TableRequest :=
  match x.deed with
  | .did (.setHook b' key hook) => if b' = b then [.setHook key hook] else []
  | .did (.push b' key entry) => if b' = b then [.attach key entry.caller entry.native] else []
  | .did (.detach b' key caller) => if b' = b then [.detach key caller] else []
  | .did (.drain b') => if b' = b then [.release] else []
  | _ => []

/-- Only what changes the table is recorded. -/
theorem requested_eq_nil (h : ∀ effect, x.deed = .did effect → effect.lock? ≠ some (.table b)) :
    x.requested b = [] := by
  unfold requested
  split
  next hdeed => exact if_neg fun heq => h _ hdeed (congrArg (some <| Lock.table ·) heq)
  next hdeed => exact if_neg fun heq => h _ hdeed (congrArg (some <| Lock.table ·) heq)
  next hdeed => exact if_neg fun heq => h _ hdeed (congrArg (some <| Lock.table ·) heq)
  next hdeed => exact if_neg fun heq => h _ hdeed (congrArg (some <| Lock.table ·) heq)
  next => rfl

/-- A deed serves the request that it records. -/
theorem Next.table_serve (h : Next rule s x) (b : BridgeId) :
    (x.deed.apply s.objects).table b
      = (x.requested b).foldl CallbackTable.serve (s.objects.table b) := by
  by_cases hlock : ∃ effect, x.deed = .did effect ∧ effect.lock? = some (.table b)
  · obtain ⟨effect, hdeed, hlock⟩ := hlock
    have hbridge := hasBridge_of_effects h.valid (h.effects hdeed) hlock
    have htable : ∀ f, (s.objects.modifyTable b f).table b = f (s.objects.table b) :=
      Objects.table_modifyTable_self hbridge
    cases effect
    case setHook b' key hook =>
      cases hlock
      rw [show x.requested b = [.setHook key hook] by simp [requested, hdeed], hdeed]
      exact htable _
    case push b' key entry =>
      cases hlock
      obtain ⟨_, _, _, _, _, _, _, hfree⟩ := h.of_push hdeed
      rw [h.objects] at hfree
      rw [show x.requested b = [.attach key entry.caller entry.native] by simp [requested, hdeed],
        hdeed, List.foldl_cons, CallbackTable.serve, hfree]
      exact htable _
    case detach b' key caller =>
      cases hlock
      rw [show x.requested b = [.detach key caller] by simp [requested, hdeed], hdeed]
      exact htable _
    case drain b' =>
      cases hlock
      rw [show x.requested b = [.release] by simp [requested, hdeed], hdeed]
      exact htable _
    all_goals cases hlock
  · have hno : ∀ effect, x.deed = .did effect → effect.lock? ≠ some (.table b) :=
      fun effect hdeed heq => hlock ⟨effect, hdeed, heq⟩
    rw [requested_eq_nil hno]
    exact Deed.table_apply_of_ne hno s.objects

/-- The table is what its requests have made of it. -/
theorem Reachable.table_served (hs : Reachable rule s) (b : BridgeId) :
    s.objects.table b = .served (collect (requested b) s.history) := by
  refine hs.induct (I := fun o h => o.table b = .served (collect (requested b) h)) ?_ ?_
  · cases b <;> rfl
  intro s x _ hnext ih
  rw [collect_cons, CallbackTable.served_append, ← ih]
  exact hnext.table_serve b

/-! ## Calls that are served -/

/-- Whether `z` has served the request of a call with this log, and no other deed of the call has
left a mark on the table. -/
structure ServedAt (b : BridgeId) (request : TableRequest) (answer : Answer) (log : History)
    (z : Occurrence) : Prop where
  mem : z ∈ log
  answer : answer = (z.objects.table b).answer request
  recorded : z.requested b = (z.objects.table b).recorded request
  once : collect (requested b) log = (z.objects.table b).recorded request

/-- The contract of serving a request: a call that returns has been served. -/
def serving (b : BridgeId) (request : TableRequest) : Contract := fun x log =>
  x.operation.Requests b request → ∀ answer, x.deed = .returned answer →
    ∃ z, ServedAt b request answer log z

section

variable {request : TableRequest} {call : Nat} {op : Operation} {log : History}

private theorem serving_of_ne (h : ∀ answer, x.deed ≠ .returned answer) :
    serving b request x log :=
  fun _ answer hdeed => absurd hdeed (h answer)

/-- An operation that is one section on the table is served in the section. -/
private theorem keeps_serving_section {α : Type} {f : CallbackTable → α} {effect : Effect}
    {g : α → Answer}
    (hactivity : (op.activity : Activity Unit Answer) = (b.onTable f effect).answering g)
    (hrequested : ∀ call o, (⟨call, op, .did effect, o⟩ : Occurrence).requested b
      = (o.table b).recorded request)
    (hanswer : ∀ t, g (f t) = t.answer request) : Keeps (serving b request) op := by
  refine keeps_section hactivity ?_ ?_ ?_
  · rintro x log _ (hdeed | hdeed | hdeed) <;> exact serving_of_ne (by simp [hdeed])
  · exact fun _ _ _ _ _ _ _ _ => serving_of_ne (by simp)
  · intro call o₀ o₁ o₂ o₃ o₄ _ _ answer hdeed
    cases hdeed
    refine ⟨⟨call, op, .did effect, o₂⟩, by simp, hanswer _, hrequested call o₂, ?_⟩
    simpa [requested] using hrequested call o₂

private theorem keeps_serving_detach (key : MemberKey) (caller : FunctionId) :
    Keeps (serving b (.detach key caller)) (.tryDetach b key caller) := by
  intro call o ho
  refine ⟨serving_of_ne (by simp), ?_⟩
  intro o₁ h₁
  refine ⟨serving_of_ne (by simp), ?_⟩
  intro o₂ h₂
  refine ⟨serving_of_ne (by simp), ?_⟩
  intro o₃ h₃
  refine ⟨serving_of_ne (by simp), ?_⟩
  dsimp only
  -- what is answered is what the section has seen, whichever event is reported
  have hserved : ∀ {found : Option FunctionId} {log : History},
      (⟨call, .tryDetach b key caller, .did (.detach b key caller), o₂⟩ : Occurrence) ∈ log →
      collect (requested b) log = [.detach key caller] →
      found = ((o₂.table b).first? key caller).map (·.native) →
      Returns (serving b (.detach key caller)) call (.tryDetach b key caller) (.detached found)
        log := by
    rintro found log hmem hrequested rfl o' ho' _ answer hdeed
    cases hdeed
    exact ⟨_, hmem, rfl, by simp [requested, CallbackTable.recorded], hrequested⟩
  cases hfound : (o₂.table b).first? key caller with
  | some entry =>
    intro o₄ h₄
    refine ⟨serving_of_ne (by simp), hserved (by simp) ?_ (by rw [hfound]; rfl)⟩
    simp [requested]
  | none =>
    show Conforms _ call _ _
      (Activity.bind (if ((o₂.table b).member? key).isSome = true then _ else _) _) _
    split
    · intro o₄ h₄
      refine ⟨serving_of_ne (by simp), hserved (by simp) ?_ (by rw [hfound]; rfl)⟩
      simp [requested]
    · refine hserved (by simp) ?_ (by rw [hfound]; rfl)
      simp [requested]

/-- After its section a release leaves the table alone. -/
private theorem nothing_of_unregisters (h : x.Unregisters) :
    x.requested b = [] ∧ ¬ x.Drains b ∧ ∀ answer, x.deed ≠ .returned answer := by
  unfold Unregisters at h
  refine ⟨requested_eq_nil fun effect hdeed hlock => ?_, fun hdrains => ?_, fun answer hdeed => ?_⟩
  · rw [hdeed] at h
    cases effect
    case setHook | push | detach | drain => exact h
    all_goals cases hlock
  · simp [show x.deed = _ from hdrains] at h
  · simp [hdeed] at h

private theorem keeps_serving_release : Keeps (serving b .release) (.releaseAll b) := by
  have hreleases : (Operation.releaseAll b).Releases b := Or.inl rfl
  -- once the table has been drained, the rest of the call leaves no mark on it
  let Drained (log : History) : Prop := ∃ z ∈ log, z.Drains b ∧
    collect (drained b) log = (z.objects.table b).registrations ∧
    collect (requested b) log = [.release]
  have hfollows : ∀ call, Follows (serving b .release) Drained call (.releaseAll b) := by
    intro call
    constructor
    · rintro x log - - hunregisters - ⟨z, hz, hdrains, hdrained, hrequested⟩
      obtain ⟨hnone, hnot, hne⟩ := nothing_of_unregisters hunregisters
      refine ⟨serving_of_ne hne, z, List.mem_cons_of_mem _ hz, hdrains, ?_, ?_⟩
      · rw [collect_cons, (owed_of_not_drains hnot).2, List.append_nil, hdrained]
      · rw [collect_cons, hnone, List.append_nil, hrequested]
    · intro x message o code native o' log _ _ hdeed _ _
      exact serving_of_ne (by simp [hdeed])
  intro call o ho
  refine ⟨serving_of_ne (by simp), Conforms.bind (Conforms.mono ?_
    (Conforms.releaseAll (hfollows call) hreleases ⟨rfl, rfl, rfl⟩ ?_ ?_ ?_))⟩
  · rintro released log ⟨⟨t, hlog, hcount⟩, z, hz, hdrains, hdrained, hrequested⟩
    intro o₁ h₁ _ answer hdeed
    cases hdeed
    refine ⟨z, hz, ?_, ?_, hrequested⟩
    · rw [CallbackTable.answer, CallbackTable.totalLen_eq_length, ← hdrained, hlog.drained, hcount]
    · simp [requested, show z.deed = _ from hdrains, CallbackTable.recorded]
  · exact fun _ => serving_of_ne (by simp)
  · exact fun _ _ => serving_of_ne (by simp)
  · intro o₁ o₂ o₃
    refine ⟨serving_of_ne (by simp), ⟨call, .releaseAll b, .did (.drain b), o₂⟩, by simp, rfl,
      ?_, ?_⟩
    · simp [drained]
    · simp [requested]

end

/-- Every operation keeps the contract of serving; attaching has a contract of its own. -/
theorem keeps_serving {request : TableRequest}
    (hattach : ∀ key caller native, request ≠ .attach key caller native) (op : Operation) :
    Keeps (serving b request) op := by
  by_cases hop : op.Requests b request
  · cases request with
    | attach key caller native => exact absurd rfl (hattach key caller native)
    | setHook key hook =>
      obtain rfl : op = _ := hop
      exact keeps_serving_section rfl (by simp [requested, CallbackTable.recorded]) fun _ => rfl
    | detach key caller =>
      obtain rfl : op = _ := hop
      exact keeps_serving_detach key caller
    | release =>
      obtain rfl : op = _ := hop
      exact keeps_serving_release
    | len | totalLen | isEmpty | isReleased | shown =>
      obtain rfl : op = _ := hop
      exact keeps_serving_section rfl (fun _ _ => rfl) fun _ => rfl
  · exact (keeps_abiding op).weaken fun x log hx _ hrequests => absurd (hx ▸ hrequests) hop

/-! ## Attachments -/

section

variable {key : MemberKey} {caller : FunctionId} {converter : Converter} {registrar : Registrar}

/-- An attachment records a request by recording the registration. -/
theorem Reachable.requested_of_attach (hs : Reachable rule s) (hx : x ∈ s.history)
    {b' : BridgeId} (hop : x.operation = .attach b' key caller converter registrar) :
    x.requested b
      = (x.pushed b).map fun (key, entry) => .attach key entry.caller entry.native := by
  cases hdeed : x.deed with
  | did effect =>
    have heffects := hs.effects hx hdeed
    rw [hop] at heffects
    cases effect
    case push b' key entry =>
      simp only [requested, pushed, hdeed]
      split <;> rfl
    case setHook | detach | drain =>
      simp [Operation.Effects, Operation.Releases, Operation.Disposes] at heffects
    all_goals simp [requested, pushed, hdeed]
  | begun | took | gave | asked | answered | failed | returned | panicked =>
    simp [requested, pushed, hdeed]

/-- What the deeds of an attachment record. -/
theorem Reachable.collect_requested (hs : Reachable rule s) (hx : x ∈ s.history)
    (hop : x.operation = .attach b key caller converter registrar) {log : History}
    (hlog : logOf s.history x.call = x :: log) : collect (requested b) log
      = (collect (pushed b) log).map fun (key, entry) => .attach key entry.caller entry.native := by
  rw [collect_map]
  refine collect_congr fun y hy => ?_
  obtain ⟨hin, heq⟩ := hs.of_mem_log hx hlog y hy
  exact hs.requested_of_attach hin (heq.trans hop)

/-- An attachment that returns is served where it records its registration; one that is refused has
met the table after its release. -/
theorem Reachable.served_of_attach (hs : Reachable rule s) (hx : x ∈ s.history)
    (hop : x.operation = .attach b key caller converter registrar) {answer : Answer}
    (hdeed : x.deed = .returned answer) {log : History} (hlog : logOf s.history x.call = x :: log) :
    ∃ native z, ServedAt b (.attach key caller native) answer log z := by
  have hlaw := hs.obeys keeps_attaching x.call
  rw [hlog] at hlaw
  have hlaw := hlaw.1
  have hrequested := hs.collect_requested hx hop hlog
  simp only [attaching, hop, hdeed] at hlaw
  rcases hlaw with ⟨native, rfl, -, -, hpushed⟩ | ⟨rfl, -, hpushed, z, hz, hreleased⟩
  · obtain ⟨z, hz, hmem⟩ := mem_collect.mp (hpushed ▸ List.mem_singleton_self _)
    have hpush := mem_pushed.mp hmem
    obtain ⟨_, s', _, _, hnext⟩ := hs.exists_next (hs.of_mem_log hx hlog z hz).1
    obtain ⟨_, _, _, _, _, _, _, hfree⟩ := hnext.of_push hpush
    rw [hpushed] at hrequested
    exact ⟨native, z, hz, by simp [CallbackTable.answer, hfree],
      by simp [requested, hpush, CallbackTable.recorded, hfree],
      by simp [hrequested, CallbackTable.recorded, hfree]⟩
  · rw [hpushed] at hrequested
    refine ⟨⟨0⟩, z, hz, by simp [CallbackTable.answer, hreleased], ?_,
      by simp [hrequested, CallbackTable.recorded, hreleased]⟩
    have hnone : z.requested b = [] := collect_eq_nil.mp hrequested z hz
    simp [hnone, CallbackTable.recorded, hreleased]

end

/-! ## All calls -/

/-- A call that returns has been served once. -/
theorem Reachable.exists_served (hs : Reachable rule s) (hx : x ∈ s.history)
    {request : TableRequest} (hop : x.operation.Requests b request) {answer : Answer}
    (hdeed : x.deed = .returned answer) :
    ∃ log request z, logOf s.history x.call = x :: log ∧ x.operation.Requests b request ∧
      ServedAt b request answer log z := by
  have hends : x.deed.Ends := hdeed ▸ trivial
  by_cases hattach : ∃ key caller native, request = .attach key caller native
  · obtain ⟨key, caller, _, rfl⟩ := hattach
    obtain ⟨converter, registrar, hop⟩ := hop
    obtain ⟨log, hlog⟩ := hs.log_of_ends hx hends
    obtain ⟨native, z, hserved⟩ := hs.served_of_attach hx hop hdeed hlog
    exact ⟨log, .attach key caller native, z, hlog, ⟨converter, registrar, hop⟩, hserved⟩
  · have hne : ∀ key caller native, request ≠ .attach key caller native :=
      fun key caller native heq => hattach ⟨key, caller, native, heq⟩
    obtain ⟨log, hlog, hlaw⟩ := hs.law_of_ends (keeps_serving hne) hx hends
    obtain ⟨z, hserved⟩ := hlaw hop answer hdeed
    exact ⟨log, request, z, hlog, hop, hserved⟩

/-! ## Attachments that panic -/

/-- The contract of a panic in an attachment: the call has taken the lock of the table, and the
table is as it was then. -/
def sheltering : Contract := fun x log =>
  match x.operation, x.deed with
  | .attach b _ _ _ _, .panicked _ => ∃ z ∈ log, z.deed = .took (.table b) ∧
    known (.table b) log = some (.table (z.objects.table b))
  | _, _ => True

section

variable {key : MemberKey} {caller : FunctionId} {converter : Converter} {registrar : Registrar}

/-- Every operation keeps the contract of a panic in an attachment. -/
theorem keeps_sheltering (op : Operation) : Keeps sheltering op := by
  cases op
  case attach b key callback converter registrar =>
    intro call o ho
    refine ⟨trivial, ?_⟩
    intro o₁ h₁
    refine ⟨trivial, ?_⟩
    intro o₂ h₂
    refine ⟨trivial, ?_⟩
    intro o₃ h₃
    refine ⟨trivial, ?_⟩
    have hsame : Guarded.table (o₃.table b) = .table (o₂.table b) :=
      h₃.agrees (.table b) _ (by simp [known, Lock.guarded])
    show Conforms sheltering call _ _
      (Activity.bind (if (o₃.table b).released = true then _ else _) _) _
    split
    next =>
      intro o₄ h₄
      refine ⟨trivial, ?_⟩
      intro o₅ h₅
      exact ⟨trivial, fun o₆ h₆ => trivial⟩
    next =>
      -- only the client can panic, and only while it registers
      refine Conforms.bind (Conforms.bind (Conforms.mono (Q := fun _ _ => True) ?_ ?_))
      · intro _ log _ o₄ h₄
        refine ⟨trivial, ?_⟩
        intro o₅ h₅
        refine ⟨trivial, ?_⟩
        intro o₆ h₆
        refine ⟨trivial, ?_⟩
        intro o₇ h₇
        exact ⟨trivial, fun o₈ h₈ => trivial⟩
      cases registrar with
      | addTo e =>
        intro o₄ h₄
        refine ⟨trivial, ?_⟩
        intro o₅ h₅
        exact ⟨trivial, fun o₆ h₆ => ⟨trivial, trivial⟩⟩
      | client code =>
        intro o₄ h₄
        refine ⟨trivial, fun reply o₅ h₅ => ⟨trivial, trivial⟩, ?_⟩
        intro message o₅ h₅
        refine ⟨trivial, fun o₆ => ?_⟩
        refine ⟨⟨call, .attach b key callback converter (.client code), .took (.table b), o₂⟩,
          by simp, rfl, ?_⟩
        simp [known, Lock.guarded, Effect.apply, hsame]
  all_goals exact (keeps_abiding _).weaken fun x log hop _ => by simp only [sheltering, hop]

/-- When an attachment panics, the table is as the call has found it. -/
theorem Reachable.table_of_panicked (hs : Reachable rule s) {later earlier : History}
    (hsplit : s.history = later ++ x :: earlier)
    (hop : x.operation = .attach b key caller converter registrar) {message : String}
    (hdeed : x.deed = .panicked message) : ∃ z ∈ earlier, z.call = x.call ∧
      z.deed = .took (.table b) ∧ x.objects.table b = z.objects.table b := by
  obtain ⟨s', hs', rfl, hnext⟩ := hs.split hsplit
  have hlaw := hnext.obeys keeps_sheltering
  simp only [sheltering, hop, hdeed] at hlaw
  obtain ⟨z, hz, htook, hknown⟩ := hlaw
  obtain ⟨hin, hcall⟩ := mem_logOf.mp hz
  refine ⟨z, hin, hcall, htook, ?_⟩
  have htable : Guarded.table (x.objects.table b) = .table (z.objects.table b) :=
    hnext.agrees (.table b) _ hknown
  exact Guarded.table.inj htable

/-- The panic of an attachment gives the lock of the table free. -/
theorem Reachable.unlocked_of_panicked (hs : Reachable rule s) {later earlier : History}
    (hsplit : s.history = later ++ x :: earlier)
    (hop : x.operation = .attach b key caller converter registrar) {message : String}
    (hdeed : x.deed = .panicked message) (call : Nat) :
    .table b ∉ held (logOf (x :: earlier) call) := by
  obtain ⟨s', hs', rfl, hnext⟩ := hs.split hsplit
  have hlaw := hnext.obeys keeps_sheltering
  simp only [sheltering, hop, hdeed] at hlaw
  obtain ⟨z, _, _, hknown⟩ := hlaw
  intro hheld
  by_cases hcall : x.call = call
  · rw [logOf_cons_self hcall, held] at hheld
    simp [hdeed] at hheld
  · rw [logOf_cons_of_ne hcall] at hheld
    exact hcall (hs'.exclusive (mem_held_of_known hknown) hheld)

/-- An attachment that panics leaves no mark on the table. -/
theorem Reachable.requested_of_panicked (hs : Reachable rule s) (hx : x ∈ s.history)
    (hop : x.operation = .attach b key caller converter registrar) {message : String}
    (hdeed : x.deed = .panicked message) : collect (requested b) (logOf s.history x.call) = [] := by
  obtain ⟨log, hlog, hlaw⟩ := hs.law_of_ends keeps_attaching hx (hdeed ▸ trivial)
  simp only [attaching, hop, hdeed] at hlaw
  rw [hlog, collect_cons, hs.collect_requested hx hop hlog, hlaw.1,
    requested_eq_nil (by simp [hdeed])]
  rfl

end

end Hostlink.Interleaving
