import Mathlib.Data.List.Basic
import Hostlink.Proofs.Bridge.Finality
import Hostlink.Proofs.Wrapper.Closing

/-!
# What is left when a native object is closed

A disposal hands everything that it has drained to hooks before it asks for the close.  Hooks run
without a lock, though, and a disposal that begins meanwhile finds the wrapper marked and goes on to
the close at once.  So a native object can be closed while callbacks are still to be handed over, but
only by releases that other calls have not finished.
-/

namespace Hostlink.Interleaving

open Occurrence

variable {rule : Rule} {s : State} {x : Occurrence} {w : WrapperId} {b : BridgeId}

/-- Whether a call has returned. -/
def Returned (h : History) (call : Nat) : Prop :=
  ∃ y ∈ h, y.call = call ∧ ∃ answer, y.deed = .returned answer

/-- Whether a call has not yet handed over all that it has drained. -/
def Owes (b : BridgeId) (h : History) (call : Nat) : Prop :=
  ∃ next ∈ collect (owed b) (logOf h call), next ∉ collect (given b) (logOf h call)

instance (b : BridgeId) (h : History) (call : Nat) : Decidable (Owes b h call) :=
  inferInstanceAs (Decidable (∃ next ∈ collect (owed b) (logOf h call),
    next ∉ collect (given b) (logOf h call)))

/-- Whether every callback registered through the wrapper has been handed over, whenever a close is
asked for. -/
def ClosesLast (w : WrapperId) (s : State) : Prop :=
  ∀ later x earlier, s.history = later ++ x :: earlier → ∀ native ∈ x.attempted w,
    (x.objects.table (.ofWrapper w)).registrations = [] ∧ ∀ call, ¬ Owes (.ofWrapper w) earlier call

/-- A call that still has to hand something over is one that releases the bridge. -/
theorem Reachable.releases_of_owes (hs : Reachable rule s) {call : Nat}
    (h : Owes b s.history call) :
    ∃ y ∈ s.history, y.call = call ∧ y.Drains b ∧ y.operation.Releases b := by
  obtain ⟨next, hnext, _⟩ := h
  obtain ⟨y, hy, howed⟩ := mem_collect.mp hnext
  obtain ⟨hin, hcall⟩ := mem_logOf.mp hy
  have hdrains := (mem_owed.mp howed).1
  exact ⟨y, hin, hcall, hdrains, hs.effects hin hdrains⟩

/-- A call that has returned owes nothing. -/
theorem Reachable.not_returned_of_owes (hs : Reachable rule s) {call : Nat}
    (h : Owes b s.history call) : ¬ Returned s.history call := by
  rintro ⟨z, hz, rfl, answer, hdeed⟩
  obtain ⟨y, hy, hcall, _, hop⟩ := hs.releases_of_owes h
  rw [hs.operation_eq hy hz hcall] at hop
  obtain ⟨next, howed, hnot⟩ := h
  rw [hs.given_of_returned hz hop hdeed] at hnot
  exact hnot howed

/-- A disposal asks for a close after it has handed over everything itself. -/
theorem Next.not_owes (h : Next rule s x) {native : Native} (hclose : native ∈ x.attempted w) :
    ¬ Owes (.ofWrapper w) s.history x.call := by
  obtain ⟨hdeed, hop⟩ := mem_attempted.mp hclose
  have hreleases : x.operation.Releases (.ofWrapper w) := (releases_ofWrapper hop).mpr rfl
  have hlaw := h.obeys keeps_releasing (.ofWrapper w) hreleases
  simp only [hdeed] at hlaw
  rintro ⟨next, howed, hnot⟩
  rw [collect_given hreleases fun y hy => h.operation_eq hy, hlaw] at hnot
  exact hnot howed

/-- If something is registered when a close is asked for, then the disposal that was the first to
mark the wrapper is another call, which has not drained the table yet. -/
theorem Next.marker_of_registrations (h : Next rule s x) (hs : Reachable rule s) {native : Native}
    (hclose : native ∈ x.attempted w)
    (hsome : (x.objects.table (.ofWrapper w)).registrations ≠ []) :
    ∃ call, call ≠ x.call ∧ (collect (disposers w) s.history).head? = some call ∧
      (∃ y ∈ s.history, y.call = call ∧ y.operation.Disposes w) ∧ ¬ Returned s.history call := by
  obtain ⟨hdeed, hop⟩ := mem_attempted.mp hclose
  have hundrained : ¬ ∃ y ∈ s.history, y.Drains (.ofWrapper w) := by
    rw [← hs.released_iff, ← h.objects]
    intro hreleased
    rw [h.objects] at hreleased hsome
    exact hsome (hs.registrations_of_released hreleased)
  -- the call has found the mark, for otherwise it would have drained the table
  obtain ⟨mark, hmark, hlog⟩ : ∃ y, true ∈ y.marked w ∧ y ∈ logOf s.history x.call := by
    have hlaw := h.obeys keeps_disposing w hop
    simp only [hdeed] at hlaw
    obtain ⟨⟨already, hmarked, hdrains⟩, _⟩ := hlaw
    have hfound : already = true := by
      cases already with
      | true => rfl
      | false =>
        obtain ⟨y, hy, hdrain⟩ := hdrains rfl
        exact absurd ⟨y, (mem_logOf.mp hy).1, hdrain⟩ hundrained
    obtain ⟨y, hy, hmark⟩ := mem_collect.mp (hmarked ▸ List.mem_singleton_self already :
      already ∈ collect (marked w) (logOf s.history x.call))
    exact ⟨y, hfound ▸ hmark, hy⟩
  obtain ⟨hin, hcall⟩ := mem_logOf.mp hlog
  have hmine : x.call ∈ collect (disposers w) s.history :=
    mem_collect.mpr ⟨mark, hin, mem_disposers.mpr ⟨deed_of_marked hmark, hcall.symm⟩⟩
  obtain ⟨call, rest, hfirst⟩ := List.exists_cons_of_ne_nil (List.ne_nil_of_mem hmine)
  have hhead : (collect (disposers w) s.history).head? = some call := by rw [hfirst]; rfl
  obtain ⟨y, hy, hdisposes⟩ := mem_collect.mp
    (hfirst ▸ List.mem_cons_self : call ∈ collect (disposers w) s.history)
  obtain ⟨hmarks, rfl⟩ := mem_disposers.mp hdisposes
  have hdisposal : y.operation.Disposes w := hs.effects hy hmarks
  refine ⟨y.call, ?_, hhead, ⟨y, hy, rfl, hdisposal⟩, ?_⟩
  · intro hsame
    rw [hs.marked_of_first hin (deed_of_marked hmark) (by rw [hhead, hsame, hcall])] at hmark
    cases List.mem_singleton.mp hmark
  · rintro ⟨z, hz, hzcall, answer, hreturned⟩
    have hends : z.deed.Ends := Deed.ends_of_returned hreturned
    have hop' : z.operation.Disposes w := hs.operation_eq hz hy hzcall ▸ hdisposal
    have hreleasers := (hs.released_of_ends hz hop' hends).2 (by rw [hhead, hzcall])
    obtain ⟨d, hd, hdrain⟩ := mem_collect.mp (hreleasers ▸ List.mem_singleton_self z.call :
      z.call ∈ collect (releasers w) s.history)
    exact hundrained ⟨d, hd, (mem_releasers.mp hdrain).1⟩

/-! ## The result -/

/-- What can be left of the callbacks registered through a wrapper when it closes its native
object. -/
structure Teardown (w : WrapperId) (s : State) : Prop where
  /-- The call that asks for the close has handed over all that it has drained. -/
  own : ∀ later x earlier, s.history = later ++ x :: earlier → ∀ native ∈ x.attempted w,
    ¬ Owes (.ofWrapper w) earlier x.call
  /-- What has been drained and not been handed over is left to a call that has not returned. -/
  drained : ∀ later x earlier, s.history = later ++ x :: earlier → ∀ native ∈ x.attempted w,
    ∀ call, Owes (.ofWrapper w) earlier call → ¬ Returned earlier call
  /-- What has not been drained is left to the disposal that was the first to mark the wrapper; it is
  another call, and has not returned. -/
  registered : ∀ later x earlier, s.history = later ++ x :: earlier → ∀ native ∈ x.attempted w,
    (x.objects.table (.ofWrapper w)).registrations ≠ [] →
    ∃ call, call ≠ x.call ∧ (collect (disposers w) earlier).head? = some call ∧
      (∃ y ∈ earlier, y.call = call ∧ y.operation.Disposes w) ∧ ¬ Returned earlier call
  /-- So nothing is left if all other releases of the bridge have returned. -/
  complete : ∀ later x earlier, s.history = later ++ x :: earlier → ∀ native ∈ x.attempted w,
    (∀ y ∈ earlier, y.operation.Releases (.ofWrapper w) → y.call ≠ x.call →
      Returned earlier y.call) →
    (x.objects.table (.ofWrapper w)).registrations = [] ∧ ∀ call, ¬ Owes (.ofWrapper w) earlier call

/-- In every run a close leaves no callbacks but those of releases that are going on. -/
theorem teardown_leaves_others (hs : Reachable rule s) (w : WrapperId) : Teardown w s := by
  constructor
  case own =>
    intro later x earlier hsplit native hclose
    obtain ⟨s', hs', rfl, hnext⟩ := hs.split hsplit
    exact hnext.not_owes hclose
  case drained =>
    intro later x earlier hsplit native hclose call howes
    obtain ⟨s', hs', rfl, hnext⟩ := hs.split hsplit
    exact hs'.not_returned_of_owes howes
  case registered =>
    intro later x earlier hsplit native hclose hsome
    obtain ⟨s', hs', rfl, hnext⟩ := hs.split hsplit
    exact hnext.marker_of_registrations hs' hclose hsome
  case complete =>
    intro later x earlier hsplit native hclose hothers
    obtain ⟨s', hs', rfl, hnext⟩ := hs.split hsplit
    constructor
    · refine Classical.byContradiction fun hsome => ?_
      obtain ⟨call, hne, _, ⟨y, hy, rfl, hop⟩, hrunning⟩ :=
        hnext.marker_of_registrations hs' hclose hsome
      exact hrunning (hothers y hy ((releases_ofWrapper hop).mpr rfl) hne)
    · intro call howes
      obtain ⟨y, hy, rfl, _, hop⟩ := hs'.releases_of_owes howes
      refine hs'.not_returned_of_owes howes (hothers y hy hop fun hsame => ?_)
      exact hnext.not_owes hclose (hsame ▸ howes)

/-- A run of one thread: an owned wrapper with two registrations is disposed of, and the hook disposes
of it again while it has the first callback; then the hook gets the second one. -/
def closeInsideHook : List Choice :=
  let w : WrapperId := ⟨0⟩
  let b := BridgeId.ofWrapper w
  let key : MemberKey := ⟨"value_changed", .int, .int⟩
  let attach := Operation.attach b key ⟨0⟩ (.client 0) (.client 1)
  let goOn := goOn 0 9
  .begin 0 (.makeWrapper .owned ⟨"Handle", 1⟩) :: goOn ++
  .begin 0 .makeFunction :: goOn ++
  .begin 0 (.registerMember b key (.client 7)) :: goOn ++
  .begin 0 attach :: goOn ++ .answer 0 (.ok ()) :: goOn ++
  .begin 0 attach :: goOn ++ .answer 0 (.ok ()) :: goOn ++
  .begin 0 (.dispose w) :: goOn ++
  .begin 0 (.dispose w) :: goOn

theorem teardown_leaves_others_inside_hook :
    let w : WrapperId := ⟨0⟩
    let b := BridgeId.ofWrapper w
    let s := State.initial.follow Rule.any closeInsideHook
    Reachable Rule.any s ∧ Teardown w s ∧
      (collect (attempted w) s.history).map (·.identity) = [1] ∧
      collect (owed b) s.history = [(.client 7, ⟨1⟩), (.client 7, ⟨2⟩)] ∧
      collect (given b) s.history = [(.client 7, ⟨1⟩)] ∧
      collect (disposers w) s.history = [5, 6] ∧ s.frames.map (·.call) = [6, 5] := by
  have hs : Reachable Rule.any (State.initial.follow Rule.any closeInsideHook) :=
    Reachable.initial.follow closeInsideHook
  refine ⟨hs, teardown_leaves_others hs _, ?_⟩
  decide +kernel

/-- A close asked for inside of a hook is not the last thing of a teardown. -/
theorem not_closesLast_inside_hook :
    let s := State.initial.follow Rule.any closeInsideHook
    Reachable Rule.any s ∧ ¬ ClosesLast ⟨0⟩ s := by
  intro s
  refine ⟨Reachable.initial.follow closeInsideHook, ?_⟩
  have hfirst : s.history.head?.map (·.attempted ⟨0⟩) = some [⟨"Handle", 1⟩] := by decide +kernel
  have howes : Owes (.ofWrapper ⟨0⟩) s.history.tail 5 := by decide +kernel
  obtain ⟨x, hx, hclose⟩ := Option.map_eq_some_iff.mp hfirst
  have hsplit : s.history = [] ++ x :: s.history.tail := (List.cons_head?_tail hx).symm
  intro hlast
  exact (hlast _ _ _ hsplit _ (hclose ▸ List.mem_singleton_self _)).2 5 howes

end Hostlink.Interleaving
