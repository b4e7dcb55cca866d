import Hostlink.Proofs.Interleaving.Schedule
import Hostlink.Proofs.Wrapper.Performed
import Hostlink.Proofs.Wrapper.Run

/-!
# Closing the native object of a wrapper

A borrowed wrapper never closes its native object.  Every disposal of an owned wrapper attempts one
close until one has succeeded, and none afterwards; what a failed close leaves is attempted again by
the next disposal.  The bridge of the wrapper is released once, by the disposal that begins first.
-/

namespace Hostlink.Interleaving

open Occurrence

variable {rule : Rule} {s : State} {x : Occurrence} {w : WrapperId}

/-- What a call has seen of the ownership is the ownership of the wrapper. -/
theorem Reachable.ownership_of_saw (hs : Reachable rule s) {log : History} {ownership : Ownership}
    (hsaw : SawOwnership w ownership log) (hlog : ∀ y ∈ log, y ∈ s.history) {wrapper : Wrapper}
    (hwrapper : s.objects.wrapper? w = some wrapper) : wrapper.ownership = ownership := by
  obtain ⟨y, hy, seen, hseen, rfl⟩ := hsaw
  obtain ⟨wrapper', hwrapper', _, hownership⟩ := hs.exists_wrapper w y (hlog y hy) seen hseen
  rw [hwrapper] at hwrapper'
  rw [Option.some.inj hwrapper', hownership]

/-- Only an owned wrapper closes, and it closes its own native object. -/
theorem Reachable.wrapper_of_attempted (hs : Reachable rule s) {native : Native}
    (hmem : native ∈ collect (attempted w) s.history) {wrapper : Wrapper}
    (hwrapper : s.objects.wrapper? w = some wrapper) :
    wrapper.ownership = .owned ∧ native = wrapper.native := by
  obtain ⟨y, hy, hattempted⟩ := mem_collect.mp hmem
  obtain ⟨hdeed, hop⟩ := mem_attempted.mp hattempted
  obtain ⟨later, earlier, hsplit⟩ := List.append_of_mem hy
  have hlaw := hs.obeys_at keeps_disposing hsplit w hop
  simp only [hdeed] at hlaw
  obtain ⟨_, _, _, _, _, z, hz, seen, hseen, howned, hnative⟩ := hlaw
  have hin : z ∈ s.history := mem_of_split hsplit z hz
  obtain ⟨wrapper', hwrapper', hnative', hownership⟩ := hs.exists_wrapper w z hin seen hseen
  rw [hwrapper] at hwrapper'
  rw [Option.some.inj hwrapper', hownership, hnative']
  exact ⟨howned, hnative.symm⟩

/-- After a success no close is asked for or answered. -/
theorem Reachable.closed_for_good (hs : Reachable rule s) {later earlier : History}
    (hsplit : s.history = later ++ x :: earlier) (hok : .ok () ∈ x.settled w) :
    collect (attempted w) later = [] ∧ collect (settled w) later = [] := by
  have hnone : ∀ y ∈ later, ¬ ((∃ native, native ∈ y.attempted w) ∨ ∃ result, result ∈ y.settled w) := by
    intro y hy hclose
    obtain ⟨after, between, rfl⟩ := List.append_of_mem hy
    rw [List.append_assoc, List.cons_append] at hsplit
    obtain ⟨s', hs', hhistory, hnext⟩ := hs.split hsplit
    refine hnext.unsettled hs' hclose x ?_ hok
    rw [hhistory]
    simp
  constructor
  · refine collect_eq_nil.mpr fun y hy => List.eq_nil_iff_forall_not_mem.mpr fun native hmem => ?_
    exact hnone y hy (Or.inl ⟨native, hmem⟩)
  · refine collect_eq_nil.mpr fun y hy => List.eq_nil_iff_forall_not_mem.mpr fun result hmem => ?_
    exact hnone y hy (Or.inr ⟨result, hmem⟩)

/-- At most one close succeeds. -/
theorem Reachable.successes_le_one (hs : Reachable rule s) (w : WrapperId) :
    ((collect (settled w) s.history).filter (·.isOk)).length ≤ 1 := by
  refine hs.induct (I := fun _ h => ((collect (settled w) h).filter (·.isOk)).length ≤ 1)
    (Nat.zero_le 1) ?_
  intro s x hs hnext ih
  rw [collect_cons, List.filter_append, List.length_append]
  cases hanswers : x.settled w with
  | nil => exact ih
  | cons result rest =>
    have hmem : result ∈ x.settled w := by rw [hanswers]; exact List.mem_cons_self
    have hnone : (collect (settled w) s.history).filter (·.isOk) = [] := by
      refine List.filter_eq_nil_iff.mpr fun answer hanswer hisok => ?_
      obtain ⟨y, hy, hsettled⟩ := mem_collect.mp hanswer
      cases answer with
      | ok value => exact hnext.unsettled hs (Or.inr ⟨result, hmem⟩) y hy hsettled
      | error e => cases hisok
    rw [hnone, ← hanswers, (mem_settled hmem).2.2, List.length_nil, Nat.zero_add]
    exact List.length_filter_le _ _

/-- A close that a call has found recorded has succeeded before. -/
theorem Reachable.succeeded_of_seen (hs : Reachable rule s) {later earlier : History}
    (hsplit : s.history = later ++ earlier) {y : Occurrence} (hy : y ∈ earlier)
    (hclosed : y.objects.closed w = true) : ∃ z ∈ earlier, .ok () ∈ z.settled w := by
  obtain ⟨after, before, rfl⟩ := List.append_of_mem hy
  rw [← List.append_assoc] at hsplit
  obtain ⟨s', hs', rfl, hnext⟩ := hs.split hsplit
  rw [hnext.objects] at hclosed
  obtain ⟨z, hz, hok⟩ := hs'.succeeded_of_closed hclosed
  exact ⟨z, List.mem_append_right _ (List.mem_cons_of_mem _ hz), hok⟩

/-! ## Disposals that have ended -/

/-- A disposal ends after its first phase. -/
theorem Reachable.firstPhase_of_ends (hs : Reachable rule s) {later earlier : History}
    (hsplit : s.history = later ++ x :: earlier) (hop : x.operation.Disposes w)
    (hends : x.deed.Ends) : FirstPhase w (logOf earlier x.call) := by
  have hlaw := hs.obeys_at keeps_disposing hsplit w hop
  rcases Deed.ends_iff.mp hends with ⟨answer, hdeed⟩ | ⟨message, hdeed⟩
  · simp only [hdeed] at hlaw
    exact hlaw.1
  · simp only [hdeed] at hlaw
    exact hlaw.1

/-- The first disposal finds the mark new. -/
theorem Reachable.marked_of_first (hs : Reachable rule s) (hx : x ∈ s.history)
    (hdeed : x.deed = .did (.markDisposed w))
    (hfirst : (collect (disposers w) s.history).head? = some x.call) : x.marked w = [false] := by
  obtain ⟨later, s', hsplit, hs', hnext⟩ := hs.exists_next hx
  rw [(hnext.disposed_of_mark hdeed).2]
  refine congrArg ([·]) (Bool.eq_false_iff.mpr fun hdisposed => ?_)
  obtain ⟨call, rest, hbefore⟩ := List.exists_cons_of_ne_nil ((hs'.disposed_iff w).mp hdisposed)
  -- an earlier mark would be of the same call, which marks once
  have hcall : call = x.call := by
    rw [hsplit, collect_append, collect_cons, hbefore] at hfirst
    exact Option.some.inj hfirst
  obtain ⟨y, hy, hmark⟩ :=
    mem_collect.mp (hbefore ▸ List.mem_cons_self : call ∈ collect (disposers w) s'.history)
  obtain ⟨hdeed', hcall'⟩ := mem_disposers.mp hmark
  have hlaw := hnext.obeys keeps_disposing w (hnext.effects hdeed)
  simp only [hdeed] at hlaw
  have hnone := collect_eq_nil.mp hlaw y (mem_logOf.mpr ⟨hy, hcall'.symm.trans hcall⟩)
  simp [marked, hdeed'] at hnone

/-- A disposal that has ended has begun, and it has released the bridge if it was the first. -/
theorem Reachable.released_of_ends (hs : Reachable rule s) (hx : x ∈ s.history)
    (hop : x.operation.Disposes w) (hends : x.deed.Ends) :
    x.call ∈ collect (disposers w) s.history ∧
    ((collect (disposers w) s.history).head? = some x.call →
      collect (releasers w) s.history = [x.call]) := by
  obtain ⟨later, earlier, hsplit⟩ := List.append_of_mem hx
  obtain ⟨already, hmarked, hdrains⟩ := hs.firstPhase_of_ends hsplit hop hends
  have hlog : ∀ y ∈ logOf earlier x.call, y ∈ s.history ∧ y.call = x.call := by
    exact fun y hy => ⟨mem_of_split hsplit y hy, (mem_logOf.mp hy).2⟩
  obtain ⟨y, hy, hmark⟩ := mem_collect.mp
    (hmarked ▸ List.mem_singleton_self already : already ∈ collect (marked w) (logOf earlier x.call))
  obtain ⟨hin, hcall⟩ := hlog y hy
  have hdeed := deed_of_marked hmark
  refine ⟨mem_collect.mpr ⟨y, hin, mem_disposers.mpr ⟨hdeed, hcall.symm⟩⟩, ?_⟩
  intro hfirst
  have hnew : already = false := by
    rw [hs.marked_of_first hin hdeed (hcall ▸ hfirst)] at hmark
    exact List.mem_singleton.mp hmark
  obtain ⟨z, hz, hdrain⟩ := hdrains hnew
  obtain ⟨hin', hcall'⟩ := hlog z hz
  have hmem : x.call ∈ collect (releasers w) s.history := by
    refine mem_collect.mpr ⟨z, hin', mem_releasers.mpr ⟨hdrain, ?_, hcall'.symm⟩⟩
    rw [hs.operation_eq hin' hx hcall']
    exact hop
  have honce := hs.releasers_prefix w
  rw [List.take_one, hfirst] at honce
  exact honce.eq_of_length_le (List.length_pos_of_mem hmem)

/-- A disposal of an owned wrapper that has ended has attempted one close, unless one had succeeded
before or a hook has panicked. -/
theorem Reachable.attempts_of_ends (hs : Reachable rule s) {later earlier : History}
    (hsplit : s.history = later ++ x :: earlier) (hop : x.operation.Disposes w)
    (hends : x.deed.Ends) {wrapper : Wrapper} (hwrapper : s.objects.wrapper? w = some wrapper)
    (howned : wrapper.ownership = .owned) :
    (collect (attempted w) (logOf earlier x.call)).length = 1 ∨
    collect (attempted w) (logOf earlier x.call) = [] ∧
      ((∃ y ∈ earlier, .ok () ∈ y.settled w) ∨
        HookFailed (logOf earlier x.call) ∧ ∃ message, x.deed = .panicked message) := by
  have hlaw := hs.obeys_at keeps_disposing hsplit w hop
  rcases Deed.ends_iff.mp hends with ⟨answer, hdeed⟩ | ⟨message, hdeed⟩
  · simp only [hdeed] at hlaw
    obtain ⟨_, result, hsecond, _⟩ := hlaw
    rcases hsecond with ⟨hsaw, _, _⟩ | ⟨_, hone, _⟩ | ⟨_, hnone, _, y, hy, hclosed⟩
    · rw [hs.ownership_of_saw hsaw (mem_of_split hsplit) hwrapper] at howned
      cases howned
    · exact Or.inl hone
    · exact Or.inr ⟨hnone, Or.inl (hs.succeeded_of_seen (hsplit.trans (List.append_cons _ _ _))
        (mem_logOf.mp hy).1 hclosed)⟩
  · simp only [hdeed] at hlaw
    obtain ⟨_, _, hone | ⟨hnone, hhook⟩⟩ := hlaw
    · exact Or.inl hone
    · exact Or.inr ⟨hnone, Or.inr ⟨hhook, message, hdeed⟩⟩

/-- A dispose answers the error of its own attempt, and no error only after a success. -/
theorem Reachable.answer_of_dispose (hs : Reachable rule s) {later earlier : History}
    (hsplit : s.history = later ++ x :: earlier) (hop : x.operation = .dispose w) {answer : Answer}
    (hdeed : x.deed = .returned answer) :
    ∃ result, answer = .finished result ∧
      (∀ e, result = .error e → collect (settled w) (logOf earlier x.call) = [.error e]) ∧
      (result = .ok () → ∀ wrapper, s.objects.wrapper? w = some wrapper →
        wrapper.ownership = .owned → ∃ y ∈ earlier, .ok () ∈ y.settled w) := by
  have hlaw := hs.obeys_at keeps_disposing hsplit w (Or.inl hop)
  simp only [hdeed] at hlaw
  obtain ⟨_, result, hsecond, hanswer⟩ := hlaw
  refine ⟨result, hanswer hop, ?_⟩
  rcases hsecond with ⟨hsaw, _, rfl⟩ | ⟨_, _, hsettled⟩ | ⟨_, _, rfl, y, hy, hclosed⟩
  · refine ⟨fun e he => (by cases he), fun _ wrapper hwrapper howned => ?_⟩
    rw [hs.ownership_of_saw hsaw (mem_of_split hsplit) hwrapper] at howned
    cases howned
  · refine ⟨fun e he => he ▸ hsettled, fun hok _ _ _ => ?_⟩
    obtain ⟨y, hy, hmem⟩ := mem_collect.mp (hsettled ▸ List.mem_singleton_self result)
    exact ⟨y, (mem_logOf.mp hy).1, hok ▸ hmem⟩
  · refine ⟨fun e he => (by cases he), fun _ _ _ _ => ?_⟩
    exact hs.succeeded_of_seen (hsplit.trans (List.append_cons _ _ _)) (mem_logOf.mp hy).1 hclosed

/-! ## The result -/

/-- The life of a wrapper's native object and of its bridge. -/
structure Disposal (w : WrapperId) (s : State) : Prop where
  /-- A borrowed wrapper never attempts a close. -/
  borrowed : ∀ wrapper, s.objects.wrapper? w = some wrapper → wrapper.ownership = .borrowed →
    collect (attempted w) s.history = []
  /-- What is to be closed is the native object of the wrapper. -/
  native : ∀ wrapper, s.objects.wrapper? w = some wrapper →
    ∀ native ∈ collect (attempted w) s.history, native = wrapper.native
  /-- After a close has succeeded, none is attempted. -/
  final : ∀ later x earlier, s.history = later ++ x :: earlier → .ok () ∈ x.settled w →
    collect (attempted w) later = []
  /-- At most one close succeeds. -/
  once : ((collect (settled w) s.history).filter (·.isOk)).length ≤ 1
  /-- A disposal of an owned wrapper that has ended has attempted one close, unless one had
  succeeded before, or it has panicked because a hook did. -/
  attempts : ∀ later x earlier, s.history = later ++ x :: earlier → x.operation.Disposes w →
    x.deed.Ends → ∀ wrapper, s.objects.wrapper? w = some wrapper → wrapper.ownership = .owned →
    (collect (attempted w) (logOf earlier x.call)).length = 1 ∨
    collect (attempted w) (logOf earlier x.call) = [] ∧
      ((∃ y ∈ earlier, .ok () ∈ y.settled w) ∨
        HookFailed (logOf earlier x.call) ∧ ∃ message, x.deed = .panicked message)
  /-- A dispose answers the error of its own attempt; of an owned wrapper it answers no error only
  after a close has succeeded. -/
  answered : ∀ later x earlier, s.history = later ++ x :: earlier → x.operation = .dispose w →
    ∀ answer, x.deed = .returned answer → ∃ result, answer = .finished result ∧
      (∀ e, result = .error e → collect (settled w) (logOf earlier x.call) = [.error e]) ∧
      (result = .ok () → ∀ wrapper, s.objects.wrapper? w = some wrapper →
        wrapper.ownership = .owned → ∃ y ∈ earlier, .ok () ∈ y.settled w)
  /-- Until a close has succeeded, the wrapper is not marked as closed. -/
  pending : (∀ y ∈ s.history, .ok () ∉ y.settled w) → s.objects.closed w = false
  /-- Only the disposal that begins first releases the bridge, and only once. -/
  released_once : collect (releasers w) s.history <+: (collect (disposers w) s.history).take 1
  /-- That disposal has released it when it ends. -/
  released : ∀ x ∈ s.history, x.operation.Disposes w → x.deed.Ends →
    x.call ∈ collect (disposers w) s.history ∧
    ((collect (disposers w) s.history).head? = some x.call →
      collect (releasers w) s.history = [x.call])
  /-- The wrapper is disposed from the beginning of the first disposal on. -/
  disposed_iff : s.objects.disposed w = true ↔ collect (disposers w) s.history ≠ []
  /-- The wrapper tells whether it is disposed. -/
  shown : ∀ wrapper, s.objects.wrapper? w = some wrapper →
    ∀ {σ : Type} (service : Service σ) (client : σ),
      w.isDisposed.ReturnsWith service [] ⟨s.objects, client⟩ (s.objects.disposed w) ∧
      w.ensureLive.ReturnsWith service [] ⟨s.objects, client⟩ (if s.objects.disposed w then
        .error (.objectDisposed wrapper.native.typeName) else .ok ())
  /-- Disposing and dropping return if unregistering and closing do. -/
  returns : ∀ {σ : Type} (service : Service σ) (client : σ) result, service.Unregisters →
    service.Closes result →
    (∃ result', w.dispose.ReturnsWith service [] ⟨s.objects, client⟩ result' ∧
      (result' = .ok () ∨ result' = result)) ∧
    w.drop.ReturnsWith service [] ⟨s.objects, client⟩ ()

/-- In every run every wrapper is disposed of in this way. -/
theorem disposal_closes (hs : Reachable rule s) (w : WrapperId) : Disposal w s := by
  constructor
  case borrowed =>
    intro wrapper hwrapper hborrowed
    refine List.eq_nil_iff_forall_not_mem.mpr fun native hmem => ?_
    have howned := (hs.wrapper_of_attempted hmem hwrapper).1
    rw [hborrowed] at howned
    cases howned
  case native => exact fun wrapper hwrapper native hmem => (hs.wrapper_of_attempted hmem hwrapper).2
  case final => exact fun later x earlier hsplit hok => (hs.closed_for_good hsplit hok).1
  case once => exact hs.successes_le_one w
  case attempts =>
    exact fun later x earlier hsplit hop hends wrapper hwrapper howned =>
      hs.attempts_of_ends hsplit hop hends hwrapper howned
  case answered =>
    exact fun later x earlier hsplit hop answer hdeed => hs.answer_of_dispose hsplit hop hdeed
  case pending =>
    intro hnone
    refine Bool.eq_false_iff.mpr fun hclosed => ?_
    obtain ⟨y, hy, hok⟩ := hs.succeeded_of_closed hclosed
    exact hnone y hy hok
  case released_once => exact hs.releasers_prefix w
  case released => exact fun x hx hop hends => hs.released_of_ends hx hop hends
  case disposed_iff => exact hs.disposed_iff w
  case shown =>
    intro wrapper hwrapper σ service client
    have hflag : s.objects.disposed w = wrapper.disposed := by rw [Objects.disposed, hwrapper]; rfl
    have hviews : ∀ {α : Type} (default : α) (f : Wrapper → α),
        (w.view default f).ReturnsWith service [] ⟨s.objects, client⟩ (f wrapper) := by
      intro α default f
      have hview : (w.view default f).ReturnsWith service [] ⟨s.objects, client⟩
          (((s.objects.wrapper? w).map f).getD default) :=
        WrapperId.view_returnsWith default f _
      rw [hwrapper] at hview
      exact hview
    rw [hflag]
    exact ⟨hviews true Wrapper.disposed, hviews (Except.ok ()) Wrapper.ensureLive⟩
  case returns =>
    intro σ service client result hunregister hclose
    exact ⟨WrapperId.dispose_returnsWith hunregister hclose _,
      WrapperId.drop_returnsWith hunregister hclose _⟩

/-- A run of two threads: a hook of the first disposal disposes again, and that close fails; the
client panics in the close of the first one; the other thread disposes, then the wrapper is
dropped. -/
def retriedClose : List Choice :=
  let w : WrapperId := ⟨0⟩
  let b := BridgeId.ofWrapper w
  let key : MemberKey := ⟨"value_changed", .int, .int⟩
  let goOn (thread : Nat) := goOn thread 9
  .begin 0 (.makeWrapper .owned ⟨"Handle", 1⟩) :: goOn 0 ++
  .begin 0 .makeFunction :: goOn 0 ++
  .begin 0 (.registerMember b key (.client 7)) :: goOn 0 ++
  .begin 0 (.attach b key ⟨0⟩ (.client 0) (.client 1)) :: goOn 0 ++ .answer 0 (.ok ()) :: goOn 0 ++
  .begin 0 (.dispose w) :: goOn 0 ++
  .begin 0 (.dispose w) :: goOn 0 ++ .answer 0 (.error (.io .notFound)) :: goOn 0 ++
  .answer 0 (.ok ()) :: goOn 0 ++ .fail 0 "closing failed" :: goOn 0 ++
  .begin 1 (.dispose w) :: goOn 1 ++ .answer 1 (.ok ()) :: goOn 1 ++
  .begin 0 (.drop w) :: goOn 0

theorem disposal_closes_retried :
    let w : WrapperId := ⟨0⟩
    let s := State.initial.follow Rule.any retriedClose
    Reachable Rule.any s ∧ Disposal w s ∧
      (collect (attempted w) s.history).map (·.identity) = [1, 1, 1] ∧
      (collect (settled w) s.history).map (·.isOk) = [false, true] ∧
      collect (disposers w) s.history = [4, 5, 6, 7] ∧ collect (releasers w) s.history = [4] ∧
      s.frames.length = 0 := by
  have hs : Reachable Rule.any (State.initial.follow Rule.any retriedClose) :=
    Reachable.initial.follow retriedClose
  refine ⟨hs, disposal_closes hs _, ?_⟩
  decide +kernel

end Hostlink.Interleaving
