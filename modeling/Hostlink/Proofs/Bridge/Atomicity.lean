import Mathlib.Logic.Equiv.Basic
import Hostlink.Proofs.Bridge.FirstInFirstOut
import Hostlink.Proofs.Bridge.Serving

/-!
# Attachments that fail

The client can panic while an attachment registers its native callback, in the middle of the section
on the table.  Such an attachment leaves no trace on the bridge (`failed_attach_leaves_no_trace`):
the table is as it was found, and every call is answered as in any other run that makes the requests
of the other calls.

The functions of the other run have other numbers, because the failed attachment has made a function
as well; so its requests need to be the same only after a renaming.
-/

namespace Hostlink

/-- An operation that is performed now returns what the table answers to its request. -/
theorem Operation.returnsWith {σ : Type} {service : Service σ} {held : List Lock} {b : BridgeId}
    {w : World σ} (hregisters : service.Registers) (hunregisters : service.Unregisters)
    (hheld : ∀ e, .handlers e ∉ held) (htable : .table b ∉ held) {op : Operation}
    {request : TableRequest} (hop : op.Requests b request)
    (hnative : ∀ key caller native, request = .attach key caller native →
      native = w.objects.nextFunction) :
    op.activity.ReturnsWith service held w ((w.objects.table b).answer request) := by
  cases request with
  | setHook key hook =>
    obtain rfl : op = _ := hop
    exact .answering _ (.locked htable _ _ w)
  | attach key caller native =>
    obtain ⟨converter, registrar, rfl⟩ := hop
    obtain rfl := hnative key caller native rfl
    cases hreleased : (w.objects.table b).released with
    | true =>
      rw [CallbackTable.answer, hreleased]
      exact .answering _ (b.attach_returnsWith hreleased htable key caller converter registrar)
    | false =>
      rw [CallbackTable.answer, hreleased]
      exact .answering _
        (b.attach_returnsWith_ok hregisters hheld htable hreleased key caller converter registrar)
  | detach key caller =>
    obtain rfl : op = _ := hop
    obtain ⟨notices, hrun⟩ := @BridgeId.tryDetach_run σ service held b htable key caller w
    exact .answering _ ⟨_, hrun⟩
  | release =>
    obtain rfl : op = _ := hop
    exact .answering _ (BridgeId.releaseAll_returnsWith hunregisters hheld htable)
  | len | totalLen | isEmpty | isReleased | shown =>
    obtain rfl : op = _ := hop
    exact .answering _ (BridgeId.view_returnsWith htable _)

namespace Interleaving

open Occurrence

variable {rule : Rule} {s : State} {x : Occurrence} {b : BridgeId}

/-- The history without what has happened in one call. -/
def without (call : Nat) (h : History) : History := h.filter (·.call ≠ call)

/-- What a call does not yield is not missed in the history without it. -/
theorem collect_without {α : Type} {f : Occurrence → List α} {call : Nat} {h : History}
    (hnone : ∀ x ∈ h, x.call = call → f x = []) : collect f (without call h) = collect f h := by
  induction h with
  | nil => rfl
  | cons x h ih =>
    have hrest := ih fun y hy => hnone y (List.mem_cons_of_mem _ hy)
    by_cases hx : x.call = call
    · rw [without, List.filter_cons_of_neg (by simp [hx]), collect_cons,
        hnone x List.mem_cons_self hx, List.append_nil]
      exact hrest
    · rw [without, List.filter_cons_of_pos (by simp [hx]), collect_cons, collect_cons]
      exact congrArg (· ++ f x) hrest

/-- The bridge to which an attachment fails, when it panics. -/
def Occurrence.failedAttach (x : Occurrence) : Option BridgeId :=
  match x.operation, x.deed with
  | .attach b _ _ _ _, .panicked _ => some b
  | _, _ => none

theorem failedAttach_eq_some (h : x.failedAttach = some b) :
    (∃ key caller converter registrar, x.operation = .attach b key caller converter registrar) ∧
      ∃ message, x.deed = .panicked message := by
  unfold failedAttach at h
  split at h
  next hop hdeed =>
    rw [Option.some.inj h] at hop
    exact ⟨⟨_, _, _, _, hop⟩, _, hdeed⟩
  next => cases h

/-- Whether a call that ends with `x` has been answered on a bridge: it made the request when the
history had come to `earlier`, and made no other one. -/
structure Answered (b : BridgeId) (s : State) (x : Occurrence) (request : TableRequest)
    (earlier : History) : Prop where
  requests : x.operation.Requests b request
  served : ∃ later z, s.history = later ++ z :: earlier ∧ z.call = x.call ∧
    z.requested b = (CallbackTable.served (collect (requested b) earlier)).recorded request
  returned :
    x.deed = .returned ((CallbackTable.served (collect (requested b) earlier)).answer request)
  once : collect (requested b) (logOf s.history x.call)
    = (CallbackTable.served (collect (requested b) earlier)).recorded request

/-- A call that has returned has been answered. -/
theorem Reachable.answered (hs : Reachable rule s) (hx : x ∈ s.history) {request : TableRequest}
    (hop : x.operation.Requests b request) {answer : Answer} (hdeed : x.deed = .returned answer) :
    ∃ request earlier, Answered b s x request earlier := by
  obtain ⟨log, request, z, hlog, hop, hserved⟩ := hs.exists_served hx hop hdeed
  obtain ⟨later, s', hsplit, hcall, hs', hnext⟩ := hs.split_of_mem_log hlog hserved.mem
  have htable : z.objects.table b = .served (collect (requested b) s'.history) := by
    rw [hnext.objects]
    exact hs'.table_served b
  refine ⟨request, s'.history, hop, ⟨later, z, hsplit, hcall, ?_⟩, ?_, ?_⟩
  · rw [← htable]
    exact hserved.recorded
  · rw [← htable, hdeed, hserved.answer]
  · rw [← htable, hlog, collect_cons, requested_eq_nil (by simp [hdeed]), List.append_nil]
    exact hserved.once

/-- An attachment that ends with `x` and has failed has left no trace on its bridge. -/
structure LeavesNoTrace (b : BridgeId) (s : State) (x : Occurrence) : Prop where
  /-- The table is as it was when the attachment took its lock. -/
  untouched : ∀ {later earlier}, s.history = later ++ x :: earlier →
    ∃ z ∈ earlier, z.call = x.call ∧ z.deed = .took (.table b) ∧
      x.objects.table b = z.objects.table b
  /-- The lock is free. -/
  unlocked : ∀ {later earlier}, s.history = later ++ x :: earlier →
    ∀ call, .table b ∉ held (logOf (x :: earlier) call)
  /-- The table is what the requests of the other calls have made of it. -/
  replayed : s.objects.table b = .served (collect (requested b) (without x.call s.history))
  /-- Every call that has returned has been answered. -/
  answered : ∀ y ∈ s.history, ∀ request answer, y.operation.Requests b request →
    y.deed = .returned answer → ∃ request earlier, Answered b s y request earlier
  /-- The table is the same in every run with the requests of the other calls. -/
  same_table : ∀ {rule' s'} (b' : BridgeId) (ρ : Renaming), Reachable rule' s' →
    collect (requested b') s'.history
      = (collect (requested b) (without x.call s.history)).map ρ.request →
    s'.objects.table b' = ρ.table (s.objects.table b)
  /-- A call of such a run is answered the same and leaves the same mark on the table. -/
  same_answer : ∀ {rule' s' b'} {ρ : Renaming} {y y' request earlier earlier'}, Reachable rule' s' →
    Answered b s y request earlier → Answered b' s' y' (ρ.request request) earlier' →
    collect (requested b') earlier'
      = (collect (requested b) (without x.call earlier)).map ρ.request →
    (∃ answer, y.deed = .returned answer ∧ y'.deed = .returned (ρ.answer answer)) ∧
      collect (requested b') (logOf s'.history y'.call)
        = (collect (requested b) (logOf s.history y.call)).map ρ.request
  /-- Operations that are performed now return what the table answers, if the calls of the client
  return. -/
  performed : ∀ {σ : Type} (service : Service σ) (client : σ), service.Registers →
    service.Unregisters → ∀ (op : Operation) (request : TableRequest), op.Requests b request →
    (∀ key caller native, request = .attach key caller native →
      native = s.objects.nextFunction) →
    op.activity.ReturnsWith service [] ⟨s.objects, client⟩ ((s.objects.table b).answer request)

/-- In every run an attachment that fails leaves no trace on its bridge. -/
theorem failed_attach_leaves_no_trace (hs : Reachable rule s) (hx : x ∈ s.history)
    (hfailed : x.failedAttach = some b) : LeavesNoTrace b s x := by
  obtain ⟨⟨key, caller, converter, registrar, hop⟩, message, hdeed⟩ := failedAttach_eq_some hfailed
  -- the call has made no request, so it is not missed in any part of the history
  have hnone := hs.requested_of_panicked hx hop hdeed
  have hwithout : ∀ {later earlier}, s.history = later ++ earlier →
      collect (requested b) (without x.call earlier) = collect (requested b) earlier := by
    intro later earlier hsplit
    refine collect_without fun y hy hcall => collect_eq_nil.mp hnone y (mem_logOf.mpr ⟨?_, hcall⟩)
    rw [hsplit]
    exact List.mem_append_right _ hy
  have hwhole := hwithout (List.nil_append s.history).symm
  constructor
  case untouched => exact fun hsplit => hs.table_of_panicked hsplit hop hdeed
  case unlocked => exact fun hsplit call => hs.unlocked_of_panicked hsplit hop hdeed call
  case replayed =>
    rw [hwhole]
    exact hs.table_served b
  case answered => exact fun y hy request answer hop hdeed => hs.answered hy hop hdeed
  case same_table =>
    intro rule' s' b' ρ hs' hsame
    rw [hs'.table_served b', hsame, hwhole, hs.table_served b, ρ.table_served]
  case same_answer =>
    intro rule' s' b' ρ y y' request earlier earlier' hs' hanswered hanswered' hsame
    obtain ⟨later, z, hsplit, -, -⟩ := hanswered.served
    rw [hwithout (hsplit.trans (List.append_cons later z earlier))] at hsame
    have htable : CallbackTable.served (collect (requested b') earlier')
        = ρ.table (.served (collect (requested b) earlier)) := by
      rw [hsame, ρ.table_served]
    refine ⟨⟨_, hanswered.returned, ?_⟩, ?_⟩
    · rw [hanswered'.returned, htable, ρ.answer_table]
    · rw [hanswered'.once, hanswered.once, htable, ρ.recorded_table]
  case performed =>
    intro σ service client hregisters hunregisters op request hrequests hnative
    exact Operation.returnsWith hregisters hunregisters (by simp) (by simp) hrequests hnative

/-- The client panics in the first attachment, after it has added the native callback to an event
itself; another thread waits for the bridge.  Then it attaches again, detaches and releases. -/
def retriedAttach : List Choice :=
  let b := BridgeId.standalone 0
  let key : MemberKey := ⟨"value_changed", .int, .int⟩
  let attach := Operation.attach b key ⟨0⟩ (.client 0) (.client 1)
  .begin 0 .makeBridge :: goOn 0 2 ++ .begin 0 .makeEvent :: goOn 0 2 ++
  .begin 0 .makeFunction :: goOn 0 2 ++
  .begin 0 (.registerMember b key (.removeFrom ⟨0⟩)) :: goOn 0 4 ++
  .begin 0 attach :: goOn 0 4 ++ .begin 0 (.add ⟨0⟩ ⟨1⟩) :: goOn 0 4 ++
  .begin 1 (.totalLen b) :: goOn 1 1 ++
  .fail 0 "cannot register" :: goOn 0 1 ++ goOn 1 4 ++
  .begin 0 attach :: goOn 0 4 ++ .answer 0 (.ok ()) :: goOn 0 5 ++
  .begin 0 attach :: goOn 0 4 ++ .answer 0 (.ok ()) :: goOn 0 5 ++
  .begin 1 (.tryDetach b key ⟨0⟩) :: goOn 1 5 ++
  .begin 0 (.releaseAll b) :: goOn 0 8

/-- The same without the first attachment. -/
def plainAttach : List Choice :=
  let b := BridgeId.standalone 0
  let key : MemberKey := ⟨"value_changed", .int, .int⟩
  let attach := Operation.attach b key ⟨0⟩ (.client 0) (.client 1)
  .begin 0 .makeBridge :: goOn 0 2 ++ .begin 0 .makeEvent :: goOn 0 2 ++
  .begin 0 .makeFunction :: goOn 0 2 ++
  .begin 0 (.registerMember b key (.removeFrom ⟨0⟩)) :: goOn 0 4 ++
  .begin 1 (.totalLen b) :: goOn 1 4 ++
  .begin 0 attach :: goOn 0 4 ++ .answer 0 (.ok ()) :: goOn 0 5 ++
  .begin 0 attach :: goOn 0 4 ++ .answer 0 (.ok ()) :: goOn 0 5 ++
  .begin 1 (.tryDetach b key ⟨0⟩) :: goOn 1 5 ++
  .begin 0 (.releaseAll b) :: goOn 0 8

theorem failed_attach_leaves_no_trace_retried :
    let b := BridgeId.standalone 0
    let s := State.initial.follow Rule.any retriedAttach
    let s' := State.initial.follow Rule.any plainAttach
    -- the second run has no number for the native callback of the first attachment
    let ρ : Renaming := ⟨(Equiv.swap ⟨1⟩ ⟨2⟩).trans (Equiv.swap ⟨2⟩ ⟨3⟩), Equiv.injective _, id⟩
    (∃ x ∈ s.history, x.failedAttach = some b ∧ LeavesNoTrace b s x) ∧
      Reachable Rule.any s ∧ Reachable Rule.any s' ∧
      collect (requested b) s'.history = (collect (requested b) s.history).map ρ.request ∧
      s'.objects.table b = ρ.table (s.objects.table b) ∧
      (collect (requested b) s.history).length = 5 ∧
      s.frames.length = 0 ∧ s'.frames.length = 0 := by
  have hs : Reachable Rule.any (State.initial.follow Rule.any retriedAttach) :=
    Reachable.initial.follow retriedAttach
  have hs' : Reachable Rule.any (State.initial.follow Rule.any plainAttach) :=
    Reachable.initial.follow plainAttach
  have hfailed : ∃ x ∈ (State.initial.follow Rule.any retriedAttach).history,
      x.failedAttach = some (.standalone 0) := by decide +kernel
  obtain ⟨x, hx, hfailed⟩ := hfailed
  refine ⟨⟨x, hx, hfailed, failed_attach_leaves_no_trace hs hx hfailed⟩, hs, hs', ?_⟩
  decide +kernel

end Interleaving
end Hostlink
