import Mathlib.Data.List.Nodup
import Hostlink.Proofs.Wrapper.Teardown

/-!
# Disposals whose hooks panic

A release takes everything out of the table before the first hook is called.  The panic of a hook
ends the whole call: what the hook had is the last callback that is handed over, and those behind it
are in no table any more.  A disposal that ends in this way does not come to the close either.

Only the disposal that begins first can end in this way, so any other one attempts the close.
-/

namespace Hostlink.Interleaving

open Occurrence

variable {rule : Rule} {s : State} {x : Occurrence} {w : WrapperId} {b : BridgeId}

/-- An answered close has been attempted. -/
theorem Reachable.attempted_of_settled (hs : Reachable rule s) (hx : x ∈ s.history)
    {result : Except HostError Unit} (hsettled : result ∈ x.settled w) :
    collect (attempted w) s.history ≠ [] := by
  obtain ⟨⟨native, hdeed⟩, hop, _⟩ := mem_settled hsettled
  obtain ⟨later, s', hsplit, _, hnext⟩ := hs.exists_next hx
  obtain ⟨p, htraced⟩ := hnext.traced
  obtain ⟨o, rest, hlog⟩ := htraced.asked_of_answered hdeed
  let y : Occurrence := ⟨x.call, x.operation, .asked (.close native), o⟩
  have hin : y ∈ logOf s'.history x.call := by rw [hlog]; exact List.mem_cons_self
  have hasked : native ∈ y.attempted w := mem_attempted.mpr ⟨rfl, hop⟩
  refine List.ne_nil_of_mem (mem_collect.mpr ⟨y, ?_, hasked⟩)
  rw [hsplit]
  exact List.mem_append_right _ (List.mem_cons_of_mem _ (mem_logOf.mp hin).1)

/-! ## What is handed over -/

/-- Whether the latest deeds are that a hook of the client was handed this callback and panicked. -/
def HookFailedWith (code : Nat) (native : FunctionId) (log : History) : Prop :=
  ∃ x y rest, log = x :: y :: rest ∧ (∃ message, x.deed = .failed message) ∧
    y.deed = .asked (.unregister code native)

theorem hookFailed_iff {log : History} :
    HookFailed log ↔ ∃ code native, HookFailedWith code native log := by
  constructor
  · rintro ⟨x, y, rest, hlog, hfailed, code, native, hasked⟩
    exact ⟨code, native, x, y, rest, hlog, hfailed, hasked⟩
  · rintro ⟨code, native, x, y, rest, hlog, hfailed, hasked⟩
    exact ⟨x, y, rest, hlog, hfailed, code, native, hasked⟩

/-- What the failing hook was handed is the last callback that is handed over. -/
theorem HookFailedWith.getLast?_handed {code : Nat} {native : FunctionId} {log : History}
    (h : HookFailedWith code native log) :
    (collect handed log).getLast? = some (.client code, native) := by
  obtain ⟨x, y, rest, rfl, ⟨message, hfailed⟩, hasked⟩ := h
  have hx : x.handed = [] := by rw [handed, hfailed]
  have hy : y.handed = [(.client code, native)] := by rw [handed, hasked]
  rw [collect_cons, collect_cons, hx, hy, List.append_nil, List.getLast?_concat]

/-- After its first phase a disposal drains nothing. -/
theorem Reachable.not_drains_of_firstPhase (hs : Reachable rule s) {later earlier : History}
    (hsplit : s.history = later ++ x :: earlier) (hop : x.operation.Disposes w)
    (hphase : FirstPhase w (logOf earlier x.call)) {y : Occurrence} (hy : y ∈ later)
    (hcall : y.call = x.call) : ¬ y.Drains (.ofWrapper w) := by
  intro hdrains
  obtain ⟨already, hmarked, hdrained⟩ := hphase
  obtain ⟨after, between, rfl⟩ := List.append_of_mem hy
  have hx : x ∈ s.history := by rw [hsplit]; simp
  have hy' : y ∈ s.history := by rw [hsplit]; simp
  rw [List.append_assoc, List.cons_append] at hsplit
  have hlaw := hs.obeys_at keeps_disposing hsplit w (hs.operation_eq hy' hx hcall ▸ hop)
  simp only [show y.deed = _ from hdrains, hcall] at hlaw
  obtain ⟨hnew, hnone⟩ := hlaw
  rw [logOf_append, logOf_cons_self rfl] at hnew hnone
  have halready : already = false := by
    have hmem : already ∈ collect (marked w) (logOf between x.call ++ x :: logOf earlier x.call) := by
      rw [collect_append, collect_cons, hmarked]
      simp
    rw [hnew] at hmem
    exact List.mem_singleton.mp hmem
  obtain ⟨z, hz, hzdrains⟩ := hdrained halready
  exact hnone z (by simp [hz]) hzdrains

/-- A disposal that has handed over everything after its first phase owes nothing later on. -/
theorem Reachable.not_owes_later (hs : Reachable rule s) {later earlier : History}
    (hsplit : s.history = later ++ x :: earlier) (hop : x.operation.Disposes w)
    (hphase : FirstPhase w (logOf earlier x.call)) (hx : ¬ x.Drains (.ofWrapper w))
    (hdone : ¬ Owes (.ofWrapper w) earlier x.call) : ¬ Owes (.ofWrapper w) s.history x.call := by
  have howed : collect (owed (.ofWrapper w)) (logOf s.history x.call)
      = collect (owed (.ofWrapper w)) (logOf earlier x.call) := by
    have hlater : collect (owed (.ofWrapper w)) (logOf later x.call) = [] := by
      refine collect_eq_nil.mpr fun y hy => ?_
      obtain ⟨hin, hcall⟩ := mem_logOf.mp hy
      exact (owed_of_not_drains (hs.not_drains_of_firstPhase hsplit hop hphase hin hcall)).1
    rw [hsplit, logOf_append, collect_append, hlater, logOf_cons_self rfl, collect_cons,
      (owed_of_not_drains hx).1, List.append_nil, List.append_nil]
  have hmore : collect (given (.ofWrapper w)) (logOf earlier x.call) <+:
      collect (given (.ofWrapper w)) (logOf s.history x.call) := by
    rw [hsplit, logOf_append, collect_append, logOf_cons_self rfl, collect_cons, List.append_assoc]
    exact List.prefix_append _ _
  rintro ⟨next, hnext, hnot⟩
  exact hdone ⟨next, howed ▸ hnext, fun hgiven => hnot (hmore.subset hgiven)⟩

/-- A disposal that has attempted a close owes nothing. -/
theorem Reachable.not_owes_of_attempted (hs : Reachable rule s) {native : Native}
    (hx : x ∈ s.history) (hclose : native ∈ x.attempted w) :
    ¬ Owes (.ofWrapper w) s.history x.call := by
  obtain ⟨later, s', hsplit, _, hnext⟩ := hs.exists_next hx
  obtain ⟨hdeed, hop⟩ := mem_attempted.mp hclose
  have hlaw := hnext.obeys keeps_disposing w hop
  simp only [hdeed] at hlaw
  refine hs.not_owes_later hsplit hop hlaw.1 ?_ (hnext.not_owes hclose)
  intro hdrains
  rw [show x.deed = _ from hdrains] at hdeed
  cases hdeed

/-- A disposal that has ended owes nothing, unless a hook has panicked. -/
theorem Reachable.not_owes_of_ends (hs : Reachable rule s) {later earlier : History}
    (hsplit : s.history = later ++ x :: earlier) (hop : x.operation.Disposes w)
    (hends : x.deed.Ends) : ¬ Owes (.ofWrapper w) s.history x.call ∨
      (∃ message, x.deed = .panicked message) ∧ HookFailed (logOf earlier x.call) := by
  have hx : x ∈ s.history := by rw [hsplit]; simp
  rcases Deed.ends_iff.mp hends with ⟨answer, hdeed⟩ | ⟨message, hdeed⟩
  · exact Or.inl fun howes => hs.not_returned_of_owes howes ⟨x, hx, rfl, answer, hdeed⟩
  · have hlaw := hs.obeys_at keeps_disposing hsplit w hop
    simp only [hdeed] at hlaw
    obtain ⟨_, _, hone | ⟨_, hhook⟩⟩ := hlaw
    · obtain ⟨native, hnative⟩ := List.exists_mem_of_length_pos (by rw [hone]; exact Nat.one_pos)
      obtain ⟨y, hy, hclose⟩ := mem_collect.mp hnative
      obtain ⟨hin, hcall⟩ := mem_logOf.mp hy
      have hy' : y ∈ s.history := by rw [hsplit]; simp [hin]
      exact Or.inl (hcall ▸ hs.not_owes_of_attempted hy' hclose)
    · exact Or.inr ⟨⟨message, hdeed⟩, hhook⟩

/-- The hook that panicked has the last callback that the disposal hands over. -/
theorem Reachable.given_of_hookFailed (hs : Reachable rule s) {later earlier : History}
    (hsplit : s.history = later ++ x :: earlier) (hop : x.operation.Disposes w)
    (hends : x.deed.Ends) {code : Nat} {native : FunctionId}
    (hhook : HookFailedWith code native (logOf earlier x.call)) :
    (collect (given (.ofWrapper w)) (logOf s.history x.call)).getLast?
      = some (.client code, native) := by
  have hx : x ∈ s.history := by rw [hsplit]; simp
  have hreleases : x.operation.Releases (.ofWrapper w) := (releases_ofWrapper hop).mpr rfl
  have hend : x.handed = [] := by
    rcases Deed.ends_iff.mp hends with ⟨answer, hdeed⟩ | ⟨message, hdeed⟩ <;> rw [handed, hdeed]
  rw [collect_given hreleases (hs.releasing_log hx).1, hsplit, logOf_append,
    hs.logOf_after_end hsplit hends, logOf_cons_self rfl, List.nil_append, collect_cons, hend,
    List.append_nil]
  exact hhook.getLast?_handed

/-- Only the disposal that began first calls hooks. -/
theorem Reachable.first_of_given (hs : Reachable rule s) (hx : x ∈ s.history)
    (hop : x.operation.Disposes w)
    (hgiven : collect (given (.ofWrapper w)) (logOf s.history x.call) ≠ []) :
    (collect (disposers w) s.history).head? = some x.call := by
  obtain ⟨next, hnext⟩ := List.exists_mem_of_ne_nil _ hgiven
  have howed := (hs.given_prefix (.ofWrapper w) x.call).subset hnext
  obtain ⟨y, hy, hmem⟩ := mem_collect.mp howed
  obtain ⟨hin, hcall⟩ := mem_logOf.mp hy
  have hrelease : x.call ∈ collect (releasers w) s.history := by
    refine mem_collect.mpr ⟨y, hin, mem_releasers.mpr ⟨(mem_owed.mp hmem).1, ?_, hcall.symm⟩⟩
    rw [hs.operation_eq hin hx hcall]
    exact hop
  have hfirst := (hs.releasers_prefix w).subset hrelease
  rw [List.take_one, Option.mem_toList] at hfirst
  exact hfirst

/-- What a call has not handed over when it has ended, no other call hands over. -/
theorem Reachable.lost (hs : Reachable rule s) {call : Nat} {next : Hook × FunctionId}
    (howed : next ∈ collect (owed b) (logOf s.history call))
    (hnot : next ∉ collect (given b) (logOf s.history call)) :
    next.2 ∉ (collect (given b) s.history).map (·.2) := by
  intro hmem
  obtain ⟨other, hother, hsame⟩ := List.mem_map.mp hmem
  obtain ⟨y, hy, hgiven⟩ := mem_collect.mp hother
  have hgiven' : other ∈ collect (given b) (logOf s.history y.call) :=
    mem_collect.mpr ⟨y, mem_logOf.mpr ⟨hy, rfl⟩, hgiven⟩
  have howed' := (hs.given_prefix b y.call).subset hgiven'
  -- both are among what was drained, where native callbacks are told apart
  have hdrained := hs.drained_nodup b
  have hnative : ∀ {c : Nat} {next : Hook × FunctionId}, next ∈ collect (owed b) (logOf s.history c) →
      next.2 ∈ collect (fun x => (x.drained b).map (·.2.native)) (logOf s.history c) := by
    intro c next hnext
    rw [← collect_map]
    exact (owed_sublist_drained _).subset (List.mem_map_of_mem hnext)
  rw [collect_map] at hdrained
  obtain rfl : call = y.call :=
    collect_call_unique hdrained (hnative howed) (hsame ▸ hnative howed')
  have hnodup : ((collect (owed b) (logOf s.history y.call)).map (·.2)).Nodup := by
    refine (List.Sublist.trans (owed_sublist_drained _) ?_).nodup (hs.drained_nodup b)
    exact (collect_logOf_sublist _ _).map _
  have heq : other = next := List.inj_on_of_nodup_map hnodup howed' howed hsame
  exact hnot (heq ▸ hgiven')

/-! ## The close -/

/-- A disposal of an owned wrapper has ended without an attempt only after a success, or as the first
one, by the panic of a hook. -/
theorem Reachable.attempted_of_ends (hs : Reachable rule s) {later earlier : History}
    (hsplit : s.history = later ++ x :: earlier) (hop : x.operation.Disposes w)
    (hends : x.deed.Ends) {wrapper : Wrapper} (hwrapper : s.objects.wrapper? w = some wrapper)
    (howned : wrapper.ownership = .owned) :
    collect (attempted w) s.history ≠ [] ∨
      HookFailed (logOf earlier x.call) ∧ (collect (disposers w) s.history).head? = some x.call := by
  have hearlier : ∀ y ∈ earlier, y ∈ s.history := fun y hy => by rw [hsplit]; simp [hy]
  have hx : x ∈ s.history := by rw [hsplit]; simp
  rcases hs.attempts_of_ends hsplit hop hends hwrapper howned with hone | ⟨_, hsettled | hhook⟩
  · obtain ⟨native, hnative⟩ := List.exists_mem_of_length_pos (by rw [hone]; exact Nat.one_pos)
    refine Or.inl (List.ne_nil_of_mem (a := native) ?_)
    obtain ⟨y, hy, hclose⟩ := mem_collect.mp hnative
    exact mem_collect.mpr ⟨y, hearlier y (mem_logOf.mp hy).1, hclose⟩
  · obtain ⟨y, hy, hok⟩ := hsettled
    exact Or.inl (hs.attempted_of_settled (hearlier y hy) hok)
  · obtain ⟨code, native, hfailed⟩ := hookFailed_iff.mp hhook.1
    refine Or.inr ⟨hhook.1, hs.first_of_given hx hop fun hnone => ?_⟩
    have hlast := hs.given_of_hookFailed hsplit hop hends hfailed
    rw [hnone] at hlast
    cases hlast

/-- Of two disposals that have ended, one has attempted a close or found one attempted. -/
theorem Reachable.attempted_of_two (hs : Reachable rule s) {y : Occurrence} (hx : x ∈ s.history)
    (hy : y ∈ s.history) (hop : x.operation.Disposes w) (hop' : y.operation.Disposes w)
    (hends : x.deed.Ends) (hends' : y.deed.Ends) (hne : x.call ≠ y.call) {wrapper : Wrapper}
    (hwrapper : s.objects.wrapper? w = some wrapper) (howned : wrapper.ownership = .owned) :
    collect (attempted w) s.history ≠ [] := by
  obtain ⟨later, earlier, hsplit⟩ := List.append_of_mem hx
  obtain ⟨later', earlier', hsplit'⟩ := List.append_of_mem hy
  rcases hs.attempted_of_ends hsplit hop hends hwrapper howned with hsome | ⟨_, hfirst⟩
  · exact hsome
  rcases hs.attempted_of_ends hsplit' hop' hends' hwrapper howned with hsome | ⟨_, hfirst'⟩
  · exact hsome
  rw [hfirst] at hfirst'
  exact absurd (Option.some.inj hfirst') hne

/-! ## The result -/

/-- Whether a wrapper is torn down: all disposals have handed over what they drained, and a close of
an owned native object has been attempted. -/
structure TornDown (w : WrapperId) (s : State) : Prop where
  handed : ∀ x ∈ s.history, x.operation.Disposes w → ¬ Owes (.ofWrapper w) s.history x.call
  closed : ∀ wrapper, s.objects.wrapper? w = some wrapper → wrapper.ownership = .owned →
    collect (attempted w) s.history ≠ []

/-- Every disposal has ended when none is under way. -/
theorem Reachable.ended_of_quiet (hs : Reachable rule s) (hquiet : s.Quiet (·.Disposes w))
    (hx : x ∈ s.history) (hop : x.operation.Disposes w) :
    ∃ later y earlier, s.history = later ++ y :: earlier ∧ y.call = x.call ∧
      y.operation.Disposes w ∧ y.deed.Ends := by
  rcases hs.running_or_ended hx with ⟨f, hf, hcall⟩ | ⟨y, hy, hcall, hends⟩
  · refine absurd ?_ (hquiet f hf)
    have hop' := (hs.sound.traced f hf).operation_eq x (mem_logOf.mpr ⟨hx, hcall.symm⟩)
    exact hop' ▸ hop
  · obtain ⟨later, earlier, hsplit⟩ := List.append_of_mem hy
    exact ⟨later, y, earlier, hsplit, hcall, hs.operation_eq hy hx hcall ▸ hop, hends⟩

/-- Disposals that have ended without the panic of a hook have torn the wrapper down. -/
theorem Reachable.tornDown_of_quiet (hs : Reachable rule s) (hquiet : s.Quiet (·.Disposes w))
    (hsome : ∃ x ∈ s.history, x.operation.Disposes w)
    (hnone : ∀ later x earlier, s.history = later ++ x :: earlier → x.operation.Disposes w →
      x.deed.Ends → ¬ HookFailed (logOf earlier x.call)) : TornDown w s := by
  constructor
  case handed =>
    intro x hx hop
    obtain ⟨later, y, earlier, hsplit, hcall, hop', hends⟩ := hs.ended_of_quiet hquiet hx hop
    rcases hs.not_owes_of_ends hsplit hop' hends with hdone | ⟨_, hhook⟩
    · exact hcall ▸ hdone
    · exact absurd hhook (hnone later y earlier hsplit hop' hends)
  case closed =>
    intro wrapper hwrapper howned
    obtain ⟨x, hx, hop⟩ := hsome
    obtain ⟨later, y, earlier, hsplit, _, hop', hends⟩ := hs.ended_of_quiet hquiet hx hop
    rcases hs.attempted_of_ends hsplit hop' hends hwrapper howned with hdone | ⟨hhook, _⟩
    · exact hdone
    · exact absurd hhook (hnone later y earlier hsplit hop' hends)

/-- What becomes of the callbacks and of the native object of a wrapper whose hooks may panic. -/
structure Unwinding (w : WrapperId) (s : State) : Prop where
  /-- What was in the table when it was drained is handed over one key after the other in some order
  of the keys, and for each key from the first on. -/
  in_order : ∀ later x earlier, s.history = later ++ x :: earlier → x.Drains (.ofWrapper w) →
    ∃ keys, (x.objects.table (.ofWrapper w)).Lists keys ∧
      collect (owed (.ofWrapper w)) (logOf s.history x.call)
        = keys.flatMap (dues (.ofWrapper w) (x.objects.table (.ofWrapper w)) earlier) ∧
      collect (given (.ofWrapper w)) (logOf s.history x.call)
        <+: keys.flatMap (dues (.ofWrapper w) (x.objects.table (.ofWrapper w)) earlier)
  /-- No callback is handed over twice. -/
  once : ((collect (given (.ofWrapper w)) s.history).map (·.2)).Nodup
  /-- A disposal that has ended has handed over everything, unless a hook has panicked; then the
  callback that the hook had is the last one. -/
  ended : ∀ later x earlier, s.history = later ++ x :: earlier → x.operation.Disposes w →
    x.deed.Ends → ¬ Owes (.ofWrapper w) s.history x.call ∨
      (∃ message, x.deed = .panicked message) ∧
      ∃ code native, HookFailedWith code native (logOf earlier x.call) ∧
        (collect (given (.ofWrapper w)) (logOf s.history x.call)).getLast?
          = some (.client code, native)
  /-- What a disposal that has ended has not handed over is lost: nothing is registered any more, and
  no call hands it over. -/
  lost : ∀ x ∈ s.history, x.operation.Disposes w → x.deed.Ends →
    ∀ next ∈ collect (owed (.ofWrapper w)) (logOf s.history x.call),
      next ∉ collect (given (.ofWrapper w)) (logOf s.history x.call) →
      (s.objects.table (.ofWrapper w)).registrations = [] ∧
      next.2 ∉ (collect (given (.ofWrapper w)) s.history).map (·.2)
  /-- A disposal of an owned wrapper has ended without an attempt of a close only as the first one,
  by the panic of a hook. -/
  attempted : ∀ later x earlier, s.history = later ++ x :: earlier → x.operation.Disposes w →
    x.deed.Ends → ∀ wrapper, s.objects.wrapper? w = some wrapper → wrapper.ownership = .owned →
    collect (attempted w) s.history ≠ [] ∨
      HookFailed (logOf earlier x.call) ∧ (collect (disposers w) s.history).head? = some x.call
  /-- So a close has been attempted when two disposals have ended. -/
  second : ∀ x ∈ s.history, ∀ y ∈ s.history, x.operation.Disposes w → y.operation.Disposes w →
    x.deed.Ends → y.deed.Ends → x.call ≠ y.call →
    ∀ wrapper, s.objects.wrapper? w = some wrapper → wrapper.ownership = .owned →
    collect (Occurrence.attempted w) s.history ≠ []
  /-- The wrapper is torn down when its disposals have ended and no hook has panicked. -/
  complete : s.Quiet (·.Disposes w) → (∃ x ∈ s.history, x.operation.Disposes w) →
    (∀ later x earlier, s.history = later ++ x :: earlier → x.operation.Disposes w →
      x.deed.Ends → ¬ HookFailed (logOf earlier x.call)) → TornDown w s

/-- In every run the panic of a hook costs the callbacks behind it and, for the first disposal, the
close. -/
theorem panicking_hook_cuts_off (hs : Reachable rule s) (w : WrapperId) : Unwinding w s := by
  constructor
  case in_order =>
    intro later x earlier hsplit hdrains
    have howed := hs.owed_eq_dues hsplit hdrains
    exact ⟨_, CallbackTable.lists_keys _, howed, howed ▸ hs.given_prefix _ x.call⟩
  case once => exact hs.given_nodup _
  case ended =>
    intro later x earlier hsplit hop hends
    refine (hs.not_owes_of_ends hsplit hop hends).imp id ?_
    rintro ⟨hpanicked, hhook⟩
    obtain ⟨code, native, hfailed⟩ := hookFailed_iff.mp hhook
    exact ⟨hpanicked, code, native, hfailed, hs.given_of_hookFailed hsplit hop hends hfailed⟩
  case lost =>
    intro x hx hop hends next howed hnot
    refine ⟨?_, hs.lost howed hnot⟩
    obtain ⟨y, hy, hmem⟩ := mem_collect.mp howed
    refine hs.registrations_of_released ((hs.released_iff _).mpr ?_)
    exact ⟨y, (mem_logOf.mp hy).1, (mem_owed.mp hmem).1⟩
  case attempted =>
    exact fun later x earlier hsplit hop hends wrapper hwrapper howned =>
      hs.attempted_of_ends hsplit hop hends hwrapper howned
  case second =>
    exact fun x hx y hy hop hop' hends hends' hne wrapper hwrapper howned =>
      hs.attempted_of_two hx hy hop hop' hends hends' hne hwrapper howned
  case complete => exact hs.tornDown_of_quiet

/-- An owned wrapper with two registrations under a hook of the client. -/
def twoRegistrations : List Choice :=
  let b := BridgeId.ofWrapper ⟨0⟩
  let key : MemberKey := ⟨"value_changed", .int, .int⟩
  let attach := Operation.attach b key ⟨0⟩ (.client 0) (.client 1)
  let goOn := goOn 0 9
  .begin 0 (.makeWrapper .owned ⟨"Handle", 1⟩) :: goOn ++
  .begin 0 .makeFunction :: goOn ++
  .begin 0 (.registerMember b key (.client 7)) :: goOn ++
  .begin 0 attach :: goOn ++ .answer 0 (.ok ()) :: goOn ++
  .begin 0 attach :: goOn ++ .answer 0 (.ok ()) :: goOn

/-- The hook panics in a disposal, and then the wrapper is dropped. -/
def disposeThenDrop : List Choice :=
  twoRegistrations ++
  .begin 0 (.dispose ⟨0⟩) :: goOn 0 9 ++ .fail 0 "hook failed" :: goOn 0 9 ++
  .begin 0 (.drop ⟨0⟩) :: goOn 0 9 ++ .answer 0 (.ok ()) :: goOn 0 9

theorem panicking_hook_cuts_off_dispose :
    let w : WrapperId := ⟨0⟩
    let b := BridgeId.ofWrapper w
    let s := State.initial.follow Rule.any disposeThenDrop
    Reachable Rule.any s ∧ Unwinding w s ∧
      collect (owed b) s.history = [(.client 7, ⟨1⟩), (.client 7, ⟨2⟩)] ∧
      collect (given b) s.history = [(.client 7, ⟨1⟩)] ∧
      (collect (attempted w) s.history).map (·.identity) = [1] ∧
      collect (disposers w) s.history = [5, 6] ∧ s.frames.length = 0 := by
  have hs : Reachable Rule.any (State.initial.follow Rule.any disposeThenDrop) :=
    Reachable.initial.follow disposeThenDrop
  refine ⟨hs, panicking_hook_cuts_off hs _, ?_⟩
  decide +kernel

/-- The hook panics when the wrapper is dropped. -/
def dropAlone : List Choice :=
  twoRegistrations ++ .begin 0 (.drop ⟨0⟩) :: goOn 0 9 ++ .fail 0 "hook failed" :: goOn 0 9

/-- A drop whose hook panics has ended, but the wrapper is not torn down: one callback has not been
handed over, and no close has been attempted. -/
theorem not_tornDown_after_drop :
    let w : WrapperId := ⟨0⟩
    let s := State.initial.follow Rule.any dropAlone
    Reachable Rule.any s ∧ s.frames.length = 0 ∧
      (∃ x ∈ s.history, x.operation = .drop w ∧ x.deed.Ends) ∧
      (∃ x ∈ s.history, x.operation.Disposes w ∧ Owes (.ofWrapper w) s.history x.call) ∧
      (∃ wrapper, s.objects.wrapper? w = some wrapper ∧ wrapper.ownership = .owned ∧
        collect (attempted w) s.history = []) ∧ ¬ TornDown w s := by
  intro w s
  have howes : Owes (.ofWrapper w) s.history 5 := by decide +kernel
  have hnone : collect (attempted w) s.history = [] := by
    rw [← List.map_eq_nil_iff (f := Native.identity)]
    decide +kernel
  obtain ⟨wrapper, hwrapper, howned⟩ :
      ∃ wrapper, s.objects.wrapper? w = some wrapper ∧ wrapper.ownership = .owned :=
    Option.map_eq_some_iff.mp
      (show (s.objects.wrapper? w).map (·.ownership) = some .owned by decide +kernel)
  obtain ⟨x, hx, hop, hcall, hends⟩ :
      ∃ x ∈ s.history, x.operation = .drop w ∧ x.call = 5 ∧ x.deed.Ends := by
    decide +kernel
  refine ⟨Reachable.initial.follow dropAlone, by decide +kernel, ⟨x, hx, hop, hends⟩,
    ⟨x, hx, Or.inr hop, hcall ▸ howes⟩, ⟨wrapper, hwrapper, howned, hnone⟩, ?_⟩
  exact fun htorn => htorn.closed wrapper hwrapper howned hnone

end Hostlink.Interleaving
