import Hostlink.Proofs.Bridge.Conservation

/-!
# Releasing is final

The first drain of a table marks it as released, and nothing is recorded on it afterwards.  A call
that comes to the table after the drain finds it released and empty: attaching fails without
registering anything, detaching finds nothing, and another release has nothing to hand over.
-/

namespace Hostlink.Interleaving

open Occurrence

variable {rule : Rule} {s : State} {b : BridgeId}

/-! ## The mark of release -/

/-- A table is marked as released by its drains. -/
theorem Reachable.released_iff (hs : Reachable rule s) (b : BridgeId) :
    (s.objects.table b).released = true ↔ ∃ x ∈ s.history, x.Drains b := by
  refine hs.induct (I := fun o h => (o.table b).released = true ↔ ∃ x ∈ h, x.Drains b) ?_ ?_
  · cases b <;> simp [Objects.table, Objects.empty, CallbackTable.empty, Objects.wrapper?,
      Registry.get?, Registry.empty]
  intro s x _ hnext ih
  have hstep := hnext.tableStep b
  generalize (x.deed.apply s.objects).table b = t at hstep
  have hsame : ¬ x.Drains b → ((∃ y ∈ x :: s.history, y.Drains b) ↔ ∃ y ∈ s.history, y.Drains b) := by
    intro hnot
    simp [hnot]
  cases hstep with
  | other _ _ _ hnot => rw [hsame hnot, ih]
  | setHook key hook hdeed =>
    rw [hsame (by simp [Drains, hdeed]), ← ih]
    rfl
  | push key entry hdeed =>
    rw [hsame (by simp [Drains, hdeed]), ← ih]
    rfl
  | detach key caller hdeed =>
    rw [hsame (by simp [Drains, hdeed]), ← ih, CallbackTable.released_detach]
  | drain hdeed => exact ⟨fun _ => ⟨x, List.mem_cons_self, hdeed⟩, fun _ => rfl⟩

/-- A released table has no registrations. -/
theorem Reachable.registrations_of_released (hs : Reachable rule s)
    (hreleased : (s.objects.table b).released = true) : (s.objects.table b).registrations = [] := by
  revert hreleased
  refine hs.induct (I := fun o _ => (o.table b).released = true → (o.table b).registrations = [])
    ?_ ?_
  · intro _
    cases b <;> rfl
  intro s x _ hnext ih
  have hstep := hnext.tableStep b
  generalize (x.deed.apply s.objects).table b = t at hstep
  cases hstep with
  | other => exact ih
  | setHook key hook hdeed =>
    rw [CallbackTable.registrations_setHook]
    exact ih
  | push key entry hdeed =>
    obtain ⟨_, _, _, _, _, _, _, hfree⟩ := hnext.of_push hdeed
    rw [hnext.objects] at hfree
    intro hreleased
    rw [show (s.objects.table b).released = true from hreleased] at hfree
    cases hfree
  | detach key caller hdeed =>
    rw [CallbackTable.released_detach]
    intro hreleased
    have hnone := ih hreleased
    rw [CallbackTable.detach_eq_self _ _ _ (CallbackTable.first?_eq_none hnone key caller), hnone]
  | drain hdeed => exact fun _ => CallbackTable.registrations_drained _

/-! ## After the drain -/

/-- Whether a call has come to the table of the bridge. -/
def Entered (b : BridgeId) (h : History) (call : Nat) : Prop :=
  ∃ x ∈ h, x.call = call ∧ x.deed = .took (.table b)

/-- A call that has the lock of the table has come to it. -/
theorem entered_of_held {h : History} {call : Nat} (hheld : .table b ∈ held (logOf h call)) :
    Entered b h call := by
  suffices hlog : ∀ log : History, .table b ∈ held log → ∃ x ∈ log, x.deed = .took (.table b) by
    obtain ⟨x, hx, hdeed⟩ := hlog _ hheld
    obtain ⟨hx, hcall⟩ := mem_logOf.mp hx
    exact ⟨x, hx, hcall, hdeed⟩
  intro log
  induction log with
  | nil => intro hheld; cases hheld
  | cons x log ih =>
    intro hheld
    rcases mem_held_cons hheld with htook | hold
    · exact ⟨x, List.mem_cons_self, htook⟩
    · obtain ⟨y, hy, hdeed⟩ := ih hold
      exact ⟨y, List.mem_cons_of_mem _ hy, hdeed⟩

theorem Entered.mono {h h' : History} {call : Nat} (hentered : Entered b h call)
    (hsub : ∀ x ∈ h, x ∈ h') : Entered b h' call := by
  obtain ⟨x, hx, hcall, hdeed⟩ := hentered
  exact ⟨x, hsub x hx, hcall, hdeed⟩

/-- After a drain, nothing is done to the registrations of a table. -/
theorem Reachable.untouched (hs : Reachable rule s) {later earlier : History} {x y : Occurrence}
    (hsplit : s.history = later ++ x :: earlier) (hdrains : x.Drains b) (hy : y ∈ later) :
    y.pushed b = [] ∧ y.detached b = [] ∧ y.drained b = [] ∧ y.owed b = [] ∧
      ∀ key callback converter registrar,
        y.operation = .attach b key callback converter registrar → y.registered = [] := by
  obtain ⟨after, between, rfl⟩ := List.append_of_mem hy
  rw [List.append_assoc, List.cons_append] at hsplit
  obtain ⟨s', hs', hhistory, hnext⟩ := hs.split hsplit
  have hreleased : (y.objects.table b).released = true := by
    rw [hnext.objects, hs'.released_iff b, hhistory]
    exact ⟨x, by simp, hdrains⟩
  have hnone : (y.objects.table b).registrations = [] := by
    rw [hnext.objects] at hreleased ⊢
    exact hs'.registrations_of_released hreleased
  refine ⟨?_, ?_, ?_, ?_, ?_⟩
  · refine pushed_eq_nil fun key entry hdeed => ?_
    obtain ⟨_, _, _, _, _, _, _, hfree⟩ := hnext.of_push hdeed
    rw [hreleased] at hfree
    cases hfree
  · unfold detached
    split
    next key caller _ => split <;> simp [CallbackTable.first?_eq_none, *]
    next => rfl
  · by_cases hdrains' : y.Drains b
    · rw [(owed_of_drains hdrains').2, hnone]
    · exact (owed_of_not_drains hdrains').2
  · by_cases hdrains' : y.Drains b
    · rw [(owed_of_drains hdrains').1, CallbackTable.owed_eq_nil hnone]
    · exact (owed_of_not_drains hdrains').1
  · intro key callback converter registrar hop
    have hlaw := hnext.obeys keeps_attaching
    unfold registered
    split
    next e handler hdeed =>
      simp only [attaching, hop, hdeed] at hlaw
      rw [hreleased] at hlaw
      exact absurd hlaw.2.2.2.2.2 (by simp)
    next code native hdeed =>
      simp only [attaching, hop, hdeed] at hlaw
      rw [hreleased] at hlaw
      exact absurd hlaw.2.2.2.2.2 (by simp)
    next => rfl

/-- Whether a call had not come to the table of the bridge when the table was drained. -/
def Late (b : BridgeId) (s : State) (call : Nat) : Prop :=
  ∃ later x earlier, s.history = later ++ x :: earlier ∧ x.Drains b ∧ ¬ Entered b earlier call

/-- What changes a table comes to it first. -/
theorem Reachable.entered_of_effect (hs : Reachable rule s) {later earlier : History}
    {x : Occurrence} (hsplit : s.history = later ++ x :: earlier) {effect : Effect}
    (hdeed : x.deed = .did effect) (hlock : effect.lock? = some (.table b)) :
    Entered b earlier x.call := by
  have habides := hs.obeys_at keeps_abiding hsplit
  simp only [abiding, hdeed] at habides
  exact entered_of_held (habides.2 _ hlock)

/-- A native callback is registered by a call that has come to the table. -/
theorem Reachable.entered_of_registered (hs : Reachable rule s) {later earlier : History}
    {x : Occurrence} (hsplit : s.history = later ++ x :: earlier) {key : MemberKey}
    {callback : FunctionId} {converter : Converter} {registrar : Registrar}
    (hop : x.operation = .attach b key callback converter registrar) (hne : x.registered ≠ []) :
    Entered b earlier x.call := by
  have hlaw := hs.obeys_at keeps_attaching hsplit
  unfold registered at hne
  split at hne
  next e handler hdeed =>
    simp only [attaching, hop, hdeed] at hlaw
    exact entered_of_held hlaw.2.2.2.2.1
  next code native hdeed =>
    simp only [attaching, hop, hdeed] at hlaw
    exact entered_of_held hlaw.2.2.2.2.1
  next => exact absurd rfl hne

/-- A late call has done nothing to the table by the time of the drain, nor does it later on. -/
theorem Reachable.of_late (hs : Reachable rule s) {y : Occurrence} (hy : y ∈ s.history)
    (hlate : Late b s y.call) :
    y.pushed b = [] ∧ y.detached b = [] ∧ y.drained b = [] ∧ y.owed b = [] ∧
      ∀ key callback converter registrar,
        y.operation = .attach b key callback converter registrar → y.registered = [] := by
  obtain ⟨later, x, earlier, hsplit, hdrains, hnot⟩ := hlate
  rw [hsplit] at hy
  rcases List.mem_append.mp hy with hy | hy
  · exact hs.untouched hsplit hdrains hy
  obtain ⟨after, before, hsplit', hsub⟩ :
      ∃ after before, s.history = after ++ y :: before ∧ ∀ z ∈ before, z ∈ earlier := by
    rcases List.mem_cons.mp hy with rfl | hy
    · exact ⟨later, earlier, hsplit, fun _ => id⟩
    · obtain ⟨front, back, rfl⟩ := List.append_of_mem hy
      exact ⟨later ++ x :: front, back, by simp [hsplit], fun z hz => by simp [hz]⟩
  -- whatever it did to the table, it would have come to the table before
  have heffect : ∀ effect, effect.lock? = some (.table b) → y.deed ≠ .did effect :=
    fun effect hlock hdeed => hnot ((hs.entered_of_effect hsplit' hdeed hlock).mono hsub)
  refine ⟨?_, ?_, ?_, ?_, ?_⟩
  · exact pushed_eq_nil fun key entry => heffect _ rfl
  · exact detached_eq_nil fun key caller => heffect _ rfl
  · exact (owed_of_not_drains (heffect _ rfl)).2
  · exact (owed_of_not_drains (heffect _ rfl)).1
  · intro key callback converter registrar hop
    refine Classical.byContradiction fun hne => ?_
    exact hnot ((hs.entered_of_registered hsplit' hop hne).mono hsub)

/-- A late call has no registrations to account for. -/
theorem Reachable.log_of_late (hs : Reachable rule s) {call : Nat} (hlate : Late b s call) :
    collect (pushed b) (logOf s.history call) = [] ∧
      collect (detached b) (logOf s.history call) = [] ∧
      collect (drained b) (logOf s.history call) = [] ∧
      collect (owed b) (logOf s.history call) = [] := by
  have hlog : ∀ z ∈ logOf s.history call,
      z.pushed b = [] ∧ z.detached b = [] ∧ z.drained b = [] ∧ z.owed b = [] := by
    intro z hz
    obtain ⟨hin, hcall⟩ := mem_logOf.mp hz
    obtain ⟨hpushed, hdetached, hdrained, howed, _⟩ := hs.of_late hin (hcall ▸ hlate)
    exact ⟨hpushed, hdetached, hdrained, howed⟩
  refine ⟨?_, ?_, ?_, ?_⟩
  · exact collect_eq_nil.mpr fun z hz => (hlog z hz).1
  · exact collect_eq_nil.mpr fun z hz => (hlog z hz).2.1
  · exact collect_eq_nil.mpr fun z hz => (hlog z hz).2.2.1
  · exact collect_eq_nil.mpr fun z hz => (hlog z hz).2.2.2

/-- A late attachment that ends has failed, because the bridge is disposed. -/
theorem Reachable.attached_of_late (hs : Reachable rule s) {y : Occurrence} (hy : y ∈ s.history)
    (hlate : Late b s y.call) {key : MemberKey} {callback : FunctionId} {converter : Converter}
    {registrar : Registrar} (hop : y.operation = .attach b key callback converter registrar)
    (hends : y.deed.Ends) :
    y.deed = .returned (.attached (.error (.objectDisposed "CallbackBridge"))) := by
  obtain ⟨log, hlog, hlaw⟩ := hs.law_of_ends keeps_attaching hy hends
  rcases Deed.ends_iff.mp hends with ⟨answer, hdeed⟩ | ⟨message, hdeed⟩
  · simp only [attaching, hop, hdeed] at hlaw
    rcases hlaw with ⟨native, _, _, _, hpushed⟩ | ⟨rfl, _⟩
    · have hnone := (hs.log_of_late hlate).1
      rw [hlog, collect_cons, hpushed] at hnone
      cases hnone
    · exact hdeed
  · simp only [attaching, hop, hdeed] at hlaw
    obtain ⟨_, code, native, hregistered⟩ := hlaw
    have hnothing : collect registered log = [] := by
      refine collect_eq_nil.mpr fun z hz => ?_
      obtain ⟨hin, hcall⟩ := mem_logOf.mp (hlog ▸ List.mem_cons_of_mem y hz)
      exact (hs.of_late hin (hcall ▸ hlate)).2.2.2.2 _ _ _ _
        ((hs.operation_eq hin hy hcall).trans hop)
    rw [hnothing] at hregistered
    cases hregistered

/-- A late release has nothing to hand over. -/
theorem Reachable.handed_of_late (hs : Reachable rule s) {y : Occurrence} (hy : y ∈ s.history)
    (hlate : Late b s y.call) (hop : y.operation.Releases b) : y.handed = [] := by
  refine List.eq_nil_iff_forall_not_mem.mpr fun next hnext => ?_
  obtain ⟨later, earlier, hsplit⟩ := List.append_of_mem hy
  obtain ⟨⟨rest, howed⟩, _⟩ := inTurn_of_handed (hs.obeys_at keeps_releasing hsplit) hop hnext
  have hturn : next ∈ collect (owed b) (logOf earlier y.call) := by
    rw [howed]
    simp
  have hnone := (hs.log_of_late hlate).2.2.2
  have hmem := mem_collect_of_split hsplit hturn
  rw [hnone] at hmem
  cases hmem

/-! ## The result -/

/-- The first drain of a bridge is final. -/
structure Final (b : BridgeId) (s : State) : Prop where
  /-- The bridge is released from the first drain on, and not before. -/
  released_iff : (s.objects.table b).released = true ↔ ∃ x ∈ s.history, x.Drains b
  /-- Since then no member has registrations. -/
  empty : (∃ x ∈ s.history, x.Drains b) →
    (s.objects.table b).totalLen = 0 ∧ ∀ key, (s.objects.table b).entries key = []
  /-- After the drain no native callback is registered by an attachment. -/
  unregistered : ∀ later x earlier, s.history = later ++ x :: earlier → x.Drains b → ∀ y ∈ later,
    ∀ key callback converter registrar,
      y.operation = .attach b key callback converter registrar → y.registered = []
  /-- A late attachment fails and registers nothing. -/
  attached : ∀ y ∈ s.history, Late b s y.call → ∀ key callback converter registrar,
    y.operation = .attach b key callback converter registrar →
    y.registered = [] ∧ (∀ message, y.deed ≠ .panicked message) ∧
      ∀ answer, y.deed = .returned answer →
        answer = .attached (.error (.objectDisposed "CallbackBridge"))
  /-- A late detachment finds nothing. -/
  detached : ∀ y ∈ s.history, Late b s y.call → ∀ key callback,
    y.operation = .tryDetach b key callback → ∀ answer, y.deed = .returned answer →
      answer = .detached none
  /-- A late release answers zero. -/
  released : ∀ y ∈ s.history, Late b s y.call → y.operation = .releaseAll b →
    ∀ answer, y.deed = .returned answer → answer = .number 0
  /-- A late release calls no hook. -/
  unhooked : ∀ y ∈ s.history, Late b s y.call → y.operation.Releases b → y.handed = []
  /-- Operations that are performed since then return, whatever calls of the client would do. -/
  performed : (∃ x ∈ s.history, x.Drains b) → ∀ {σ : Type} (service : Service σ) (client : σ),
    (∀ key callback converter registrar,
      (b.attach key callback converter registrar).ReturnsWith service [] ⟨s.objects, client⟩
        (.error (.objectDisposed "CallbackBridge"))) ∧
    (∀ key callback,
      (b.tryDetach key callback).ReturnsWith service [] ⟨s.objects, client⟩ none) ∧
    b.releaseAll.ReturnsWith service [] ⟨s.objects, client⟩ 0 ∧
    b.isReleased.ReturnsWith service [] ⟨s.objects, client⟩ true ∧
    b.totalLen.ReturnsWith service [] ⟨s.objects, client⟩ 0

/-- In every run releasing is final for every bridge. -/
theorem release_final (hs : Reachable rule s) (b : BridgeId) : Final b s := by
  have hnone : (∃ x ∈ s.history, x.Drains b) → (s.objects.table b).registrations = [] :=
    fun hdrains => hs.registrations_of_released ((hs.released_iff b).mpr hdrains)
  have hzero : (∃ x ∈ s.history, x.Drains b) → (s.objects.table b).totalLen = 0 := by
    intro hdrains
    rw [CallbackTable.totalLen_eq_length, hnone hdrains]
    rfl
  constructor
  case released_iff => exact hs.released_iff b
  case empty =>
    exact fun hdrains =>
      ⟨hzero hdrains, CallbackTable.registrations_eq_nil_iff.mp (hnone hdrains)⟩
  case unregistered =>
    intro later x earlier hsplit hdrains y hy
    exact (hs.untouched hsplit hdrains hy).2.2.2.2
  case attached =>
    intro y hy hlate key callback converter registrar hop
    refine ⟨(hs.of_late hy hlate).2.2.2.2 _ _ _ _ hop, ?_, ?_⟩
    · intro message hdeed
      have hfailed := hs.attached_of_late hy hlate hop (Deed.ends_iff.mpr (Or.inr ⟨_, hdeed⟩))
      rw [hdeed] at hfailed
      cases hfailed
    · intro answer hdeed
      have hfailed := hs.attached_of_late hy hlate hop (Deed.ends_of_returned hdeed)
      rw [hdeed] at hfailed
      exact Deed.returned.inj hfailed
  case detached =>
    intro y hy hlate key callback hop answer hdeed
    obtain ⟨found, rfl, hfound⟩ := hs.detached_answer hy hop hdeed
    rw [(hs.log_of_late hlate).2.1] at hfound
    cases found with
    | none => rfl
    | some native => cases hfound
  case released =>
    intro y hy hlate hop answer hdeed
    rw [hs.released_answer hy hop hdeed, (hs.log_of_late hlate).2.2.1]
    rfl
  case unhooked => exact fun y hy hlate hop => hs.handed_of_late hy hlate hop
  case performed =>
    intro hdrains σ service client
    have hentries := CallbackTable.registrations_eq_nil_iff.mp (hnone hdrains)
    have hreleased := (hs.released_iff b).mpr hdrains
    refine ⟨?_, ?_, ?_, ?_, ?_⟩
    · exact fun key callback converter registrar =>
        BridgeId.attach_returnsWith hreleased (by simp) key callback converter registrar
    · exact fun key callback =>
        BridgeId.tryDetach_returnsWith (w := ⟨s.objects, client⟩) (hentries key) (by simp) callback
    · exact BridgeId.releaseAll_returnsWith_zero (hnone hdrains) (by simp)
    · rw [← hreleased]
      exact BridgeId.view_returnsWith (by simp) (·.released)
    · rw [← hzero hdrains]
      exact BridgeId.view_returnsWith (by simp) (·.totalLen)

/-- A run of two threads: one releases the bridge, and while it waits for the hook the other one
tries to attach. -/
def racingRelease : List Choice :=
  let b := BridgeId.standalone 0
  let key : MemberKey := ⟨"value_changed", .int, .int⟩
  let attach := Operation.attach b key ⟨0⟩ (.client 0) (.client 1)
  .begin 0 .makeBridge :: goOn 0 2 ++
  .begin 0 .makeFunction :: goOn 0 2 ++
  .begin 0 (.registerMember b key (.client 7)) :: goOn 0 4 ++
  .begin 0 attach :: goOn 0 4 ++ .answer 0 (.ok ()) :: goOn 0 5 ++
  .begin 1 attach :: goOn 1 1 ++
  .begin 0 (.releaseAll b) :: goOn 0 2 ++ goOn 1 1 ++ goOn 0 2 ++
  goOn 1 5 ++
  .answer 0 (.ok ()) :: goOn 0 2

theorem release_final_racing :
    let b := BridgeId.standalone 0
    let s := State.initial.follow Rule.any racingRelease
    Reachable Rule.any s ∧ Final b s ∧ (s.objects.table b).released = true ∧
      collect (attachedAnswer b) s.history = [⟨1⟩] ∧
      collect registered s.history = [(.client 1, ⟨1⟩)] ∧
      tally (releasedAnswer b) s.history = 1 ∧ s.frames.length = 0 := by
  have hs : Reachable Rule.any (State.initial.follow Rule.any racingRelease) :=
    Reachable.initial.follow racingRelease
  refine ⟨hs, release_final hs _, ?_⟩
  decide +kernel

end Hostlink.Interleaving
