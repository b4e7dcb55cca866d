import Hostlink.Proofs.Bridge.Releasing

/-!
# Calls that dispose of a wrapper

`disposing` is the contract of disposing of a wrapper and of dropping it.  The first phase marks the
wrapper, and drains its bridge if the mark is new; the second phase asks for at most one close, under
the lock that guards the mark of a close.
-/

namespace Hostlink.Interleaving

/-! ## Ledgers -/

namespace Occurrence

/-- Whether the wrapper had been marked as disposed before, when it is marked. -/
def marked (w : WrapperId) (x : Occurrence) : List Bool :=
  match x.deed with
  | .did (.markDisposed w') =>
    if w' = w then [((x.objects.wrapper? w).map (·.disposed)).getD true] else []
  | _ => []

/-- The native object that a disposal of the wrapper asks to close. -/
def attempted (w : WrapperId) (x : Occurrence) : List Native :=
  match x.deed with
  | .asked (.close native) => if x.operation.Disposes w then [native] else []
  | _ => []

/-- The answer to a close that a disposal of the wrapper has asked for. -/
def settled (w : WrapperId) (x : Occurrence) : List (Except HostError Unit) :=
  match x.deed with
  | .answered (.close _) reply => if x.operation.Disposes w then [reply] else []
  | _ => []

end Occurrence

open Occurrence

/-! ## The contract -/

/-- Whether a call has seen the wrapper with an ownership. -/
def SawOwnership (w : WrapperId) (ownership : Ownership) (log : History) : Prop :=
  ∃ y ∈ log, ∃ wrapper, y.objects.wrapper? w = some wrapper ∧ wrapper.ownership = ownership

/-- Whether the first phase is over: the wrapper is marked, and drained if the mark was new. -/
def FirstPhase (w : WrapperId) (log : History) : Prop :=
  ∃ already, collect (marked w) log = [already] ∧
    (already = false → ∃ y ∈ log, y.Drains (.ofWrapper w))

/-- What the second phase comes to: nothing is to be closed, or the one close that was asked for
has been answered, or a close had succeeded before. -/
def SecondPhase (w : WrapperId) (log : History) (result : Except HostError Unit) : Prop :=
  (SawOwnership w .borrowed log ∧ collect (attempted w) log = [] ∧ result = .ok ()) ∨
  (SawOwnership w .owned log ∧ (collect (attempted w) log).length = 1 ∧
    collect (settled w) log = [result]) ∨
  (SawOwnership w .owned log ∧ collect (attempted w) log = [] ∧ result = .ok () ∧
    ∃ y ∈ log, y.objects.closed w = true)

/-- Whether the latest deeds are that the client was asked to unregister a callback and panicked. -/
def HookFailed (log : History) : Prop :=
  ∃ x y rest, log = x :: y :: rest ∧ (∃ message, x.deed = .failed message) ∧
    ∃ code native, y.deed = .asked (.unregister code native)

/-- The contract of disposing. -/
def disposing : Contract := fun x log =>
  ∀ w, x.operation.Disposes w →
    match x.deed with
    | .did (.markDisposed _) => collect (marked w) log = []
    | .did (.drain _) =>
      collect (marked w) log = [false] ∧ ∀ y ∈ log, ¬ y.Drains (.ofWrapper w)
    | .asked (.close native) =>
      FirstPhase w log ∧ collect (attempted w) log = [] ∧ collect (settled w) log = [] ∧
        .closing w ∈ held log ∧ x.objects.closed w = false ∧
        ∃ y ∈ log, ∃ wrapper, y.objects.wrapper? w = some wrapper ∧ wrapper.ownership = .owned ∧
          wrapper.native = native
    | .answered (.close _) _ =>
      collect (settled w) log = [] ∧ .closing w ∈ held log ∧ x.objects.closed w = false
    | .did (.markClosed _) => .ok () ∈ collect (settled w) log
    | .gave (.closing _) => .ok () ∈ collect (settled w) log → x.objects.closed w = true
    | .returned answer =>
      FirstPhase w log ∧ ∃ result, SecondPhase w log result ∧
        (x.operation = .dispose w → answer = .finished result)
    | .panicked _ =>
      FirstPhase w log ∧ collect (settled w) log = [] ∧
        ((collect (attempted w) log).length = 1 ∨
          collect (attempted w) log = [] ∧ HookFailed log)
    | _ => True

/-- An operation disposes of at most one wrapper. -/
theorem disposes_unique {op : Operation} {w w' : WrapperId} (h : op.Disposes w)
    (h' : op.Disposes w') : w = w' := by
  rcases h with rfl | rfl <;> rcases h' with h' | h' <;> cases h' <;> rfl

theorem exists_wrapper_of_disposes {op : Operation} {w : WrapperId} (h : op.Disposes w)
    {o : Objects} (hvalid : op.Valid o) : ∃ wrapper, o.wrapper? w = some wrapper := by
  refine Objects.exists_wrapper ?_
  rcases h with rfl | rfl <;> exact hvalid

/-- A disposal of a wrapper releases the bridge of that wrapper. -/
theorem releases_ofWrapper {op : Operation} {w : WrapperId} (h : op.Disposes w) {b : BridgeId} :
    op.Releases b ↔ b = .ofWrapper w := by
  constructor
  · intro hb
    exact releases_unique hb (Or.inr ⟨w, rfl, h⟩)
  · rintro rfl
    exact Or.inr ⟨w, rfl, h⟩

/-! ## Phases stay over -/

section

variable {w : WrapperId} {log : History} {x : Occurrence}

theorem SawOwnership.next {ownership : Ownership} (h : SawOwnership w ownership log) :
    SawOwnership w ownership (x :: log) := by
  obtain ⟨y, hy, hsaw⟩ := h
  exact ⟨y, List.mem_cons_of_mem _ hy, hsaw⟩

theorem FirstPhase.next (h : FirstPhase w log) (hmarked : x.marked w = []) :
    FirstPhase w (x :: log) := by
  obtain ⟨already, hold, hdrains⟩ := h
  refine ⟨already, by rw [collect_cons, hold, hmarked, List.append_nil], ?_⟩
  intro hnew
  obtain ⟨y, hy, hdrain⟩ := hdrains hnew
  exact ⟨y, List.mem_cons_of_mem _ hy, hdrain⟩

theorem SecondPhase.next {result : Except HostError Unit} (h : SecondPhase w log result)
    (hattempted : x.attempted w = []) (hsettled : x.settled w = []) :
    SecondPhase w (x :: log) result := by
  have hsame : collect (attempted w) (x :: log) = collect (attempted w) log := by
    rw [collect_cons, hattempted, List.append_nil]
  have hsame' : collect (settled w) (x :: log) = collect (settled w) log := by
    rw [collect_cons, hsettled, List.append_nil]
  rw [SecondPhase, hsame, hsame']
  rcases h with ⟨hsaw, hnone, hok⟩ | ⟨hsaw, hone, hanswer⟩ | ⟨hsaw, hnone, hok, y, hy, hclosed⟩
  · exact Or.inl ⟨hsaw.next, hnone, hok⟩
  · exact Or.inr (Or.inl ⟨hsaw.next, hone, hanswer⟩)
  · exact Or.inr (Or.inr ⟨hsaw.next, hnone, hok, y, List.mem_cons_of_mem _ hy, hclosed⟩)

end

/-! ## Disposals keep the contracts -/

/-- The contracts of releasing and disposing at once. -/
private def disposal : Contract := fun x log => releasing x log ∧ disposing x log

/-- Where a disposal stands between its phases. -/
private structure Between (w : WrapperId) (log : History) : Prop where
  phase : FirstPhase w log
  attempted : collect (attempted w) log = []
  settled : collect (settled w) log = []
  handed : collect handed log = collect (owed (.ofWrapper w)) log

/-- Where a disposal stands after its phases. -/
private structure Finished (w : WrapperId) (result : Except HostError Unit) (log : History) :
    Prop where
  phase : FirstPhase w log
  second : SecondPhase w log result
  handed : collect handed log = collect (owed (.ofWrapper w)) log

section

variable {w : WrapperId} {call : Nat} {op : Operation} {log : History}

private theorem Between.next (h : Between w log) {x : Occurrence} (hmarked : x.marked w = [])
    (hattempted : x.attempted w = []) (hsettled : x.settled w = []) (hhanded : x.handed = [])
    (howed : x.owed (.ofWrapper w) = []) : Between w (x :: log) where
  phase := h.phase.next hmarked
  attempted := by rw [collect_cons, h.attempted, hattempted, List.append_nil]
  settled := by rw [collect_cons, h.settled, hsettled, List.append_nil]
  handed := by rw [collect_cons, collect_cons, h.handed, hhanded, howed]

private theorem Finished.next {result : Except HostError Unit} (h : Finished w result log)
    {x : Occurrence} (hmarked : x.marked w = []) (hattempted : x.attempted w = [])
    (hsettled : x.settled w = []) (hhanded : x.handed = []) (howed : x.owed (.ofWrapper w) = []) :
    Finished w result (x :: log) where
  phase := h.phase.next hmarked
  second := h.second.next hattempted hsettled
  handed := by rw [collect_cons, collect_cons, h.handed, hhanded, howed]

/-- A deed that neither contract looks at. -/
private theorem disposal_plain {x : Occurrence}
    (hx : (∃ event, x.deed = .did (.report event)) ∨ x.deed = .did .look ∨
      ∃ lock, x.deed = .took lock) : disposal x log := by
  refine ⟨?_, ?_⟩
  · intro b _
    rcases hx with ⟨event, hx⟩ | hx | ⟨lock, hx⟩ <;> simp only [hx]
  · intro w _
    rcases hx with ⟨event, hx⟩ | hx | ⟨lock, hx⟩ <;> simp only [hx]

/-- What a call knows under the lock about the mark of a close is what it sees. -/
private theorem closed_of_known {o : Objects} {closed : Bool} (hsees : Sees op log o)
    (hknown : known (.closing w) log = some (.closed closed)) : o.closed w = closed := by
  have hclosed : Guarded.closed (o.closed w) = .closed closed := hsees.agrees (.closing w) _ hknown
  exact Guarded.closed.inj hclosed

/-- Leaving the section when no close of this call has succeeded. -/
private theorem conforms_leave (hop : op.Disposes w) {result : Except HostError Unit}
    (h : Finished w result log) (hnot : .ok () ∉ collect (settled w) log) :
    Conforms disposal call op (fun result => Finished w result)
      (do
        Activity.give (.closing w)
        return result) log := by
  intro o₁ h₁
  refine ⟨⟨fun _ _ => trivial, ?_⟩, h.next rfl rfl rfl rfl rfl⟩
  intro w' hw' hok
  rw [disposes_unique hw' hop] at hok
  exact absurd hok hnot

/-- Recording a close that has succeeded, and leaving the section. -/
private theorem conforms_record (hop : op.Disposes w) (h : Finished w (.ok ()) log)
    (hok : .ok () ∈ collect (settled w) log)
    (hknown : known (.closing w) log = some (.closed false)) :
    Conforms disposal call op (fun result => Finished w result)
      (do
        Activity.update (.markClosed w)
        Activity.give (.closing w)
        return .ok ()) log := by
  intro o₁ h₁
  refine ⟨⟨fun _ _ => trivial, ?_⟩, ?_⟩
  · intro w' hw'
    rw [disposes_unique hw' hop]
    exact hok
  intro o₂ h₂
  have hmarked : o₂.closed w = true := by
    obtain ⟨wrapper, hwrapper⟩ := exists_wrapper_of_disposes hop h₁.valid
    refine closed_of_known h₂ ?_
    simp [known, hknown, Lock.guarded, Effect.apply, Objects.closed,
      Objects.wrapper?_modifyWrapper_self, hwrapper]
  refine ⟨⟨fun _ _ => trivial, ?_⟩, (h.next rfl rfl rfl rfl rfl).next rfl rfl rfl rfl rfl⟩
  intro w' hw' _
  rw [disposes_unique hw' hop]
  exact hmarked

/-- Asking for a close, inside the section. -/
private theorem conforms_close (hop : op.Disposes w) {native : Native}
    {next : Except HostError Unit → Activity Unit (Except HostError Unit)}
    (hok : ∀ value, next (.ok value) = do
      Activity.update (.markClosed w)
      Activity.give (.closing w)
      return .ok ())
    (herror : ∀ e, next (.error e) = do
      Activity.give (.closing w)
      return .error e)
    (h : Between w log)
    (hheld : .closing w ∈ held log) (hknown : known (.closing w) log = some (.closed false))
    (hsaw : ∃ y ∈ log, ∃ wrapper, y.objects.wrapper? w = some wrapper ∧
      wrapper.ownership = .owned ∧ wrapper.native = native) :
    Conforms disposal call op (fun result => Finished w result) (.call (.close native) next)
      log := by
  have hreleases : ∀ {b}, op.Releases b → b = .ofWrapper w := (releases_ofWrapper hop).mp
  have hunique : ∀ {w'}, op.Disposes w' → w' = w := fun hw' => disposes_unique hw' hop
  have howned : SawOwnership w .owned log := by
    obtain ⟨y, hy, wrapper, hwrapper, howns, _⟩ := hsaw
    exact ⟨y, hy, wrapper, hwrapper, howns⟩
  intro o₁ h₁
  refine ⟨⟨?_, ?_⟩, ?_, ?_⟩
  · intro b hb
    rw [hreleases hb]
    exact h.handed
  · intro w' hw'
    rw [hunique hw']
    exact ⟨h.phase, h.attempted, h.settled, hheld, closed_of_known h₁ hknown, hsaw⟩
  · intro reply o₂ h₂
    refine ⟨⟨fun _ _ => trivial, ?_⟩, ?_⟩
    · intro w' hw'
      rw [hunique hw']
      refine ⟨?_, hheld, closed_of_known h₂ hknown⟩
      simp [Occurrence.settled, h.settled]
    have hsettled : collect (settled w) (⟨call, op, .answered (.close native) reply, o₂⟩
        :: ⟨call, op, .asked (.close native), o₁⟩ :: log) = [reply] := by
      rw [collect_cons, collect_cons, h.settled]
      exact if_pos hop
    have hanswered : Finished w reply (⟨call, op, .answered (.close native) reply, o₂⟩
        :: ⟨call, op, .asked (.close native), o₁⟩ :: log) := by
      refine ⟨(h.phase.next rfl).next rfl, Or.inr (Or.inl ⟨howned.next.next, ?_, hsettled⟩), ?_⟩
      · simp [Occurrence.attempted, h.attempted, hop]
      · simp [Occurrence.handed, Occurrence.owed, h.handed]
    cases (reply : Except HostError Unit) with
    | ok value =>
      show Conforms disposal call op _ (next (.ok value)) _
      rw [hok]
      refine conforms_record hop hanswered ?_ hknown
      rw [hsettled]
      exact List.mem_singleton_self _
    | error e =>
      show Conforms disposal call op _ (next (.error e)) _
      rw [herror]
      refine conforms_leave hop hanswered fun hmem => ?_
      rw [hsettled] at hmem
      cases List.mem_singleton.mp hmem
  · intro message o₂ h₂
    refine ⟨⟨fun _ _ => trivial, fun _ _ => trivial⟩, ?_⟩
    intro o₃
    refine ⟨?_, ?_⟩
    · intro b hb
      rw [hreleases hb]
      refine Or.inl ?_
      simp [Occurrence.handed, Occurrence.owed, h.handed]
    · intro w' hw'
      rw [hunique hw']
      refine ⟨(h.phase.next rfl).next rfl, ?_, Or.inl ?_⟩
      · simp [Occurrence.settled, h.settled]
      · simp [Occurrence.attempted, h.attempted, hop]

private theorem conforms_closeNative (hop : op.Disposes w) (h : Between w log) :
    Conforms disposal call op (fun result => Finished w result) w.closeNative log := by
  intro o₁ h₁
  refine ⟨disposal_plain (Or.inr (Or.inl rfl)), ?_⟩
  have hlog₁ := h.next (x := ⟨call, op, .did .look, o₁⟩) rfl rfl rfl rfl rfl
  obtain ⟨wrapper, hwrapper⟩ := exists_wrapper_of_disposes hop h₁.valid
  dsimp only
  rw [hwrapper]
  dsimp only [Activity.bind]
  cases howns : wrapper.ownership with
  | borrowed =>
    refine ⟨hlog₁.phase, Or.inl ⟨?_, hlog₁.attempted, rfl⟩, hlog₁.handed⟩
    exact ⟨_, List.mem_cons_self, wrapper, hwrapper, howns⟩
  | owned =>
    intro o₂ h₂
    refine ⟨disposal_plain (Or.inr (Or.inr ⟨_, rfl⟩)), ?_⟩
    have hlog₂ := hlog₁.next (x := ⟨call, op, .took (.closing w), o₂⟩) rfl rfl rfl rfl rfl
    intro o₃ h₃
    refine ⟨disposal_plain (Or.inr (Or.inl rfl)), ?_⟩
    have hlog₃ := hlog₂.next (x := ⟨call, op, .did .look, o₃⟩) rfl rfl rfl rfl rfl
    obtain ⟨wrapper', hwrapper'⟩ := exists_wrapper_of_disposes hop h₃.valid
    show Conforms disposal call op _ (if ((o₃.wrapper? w).map (·.closed)).getD true = true
      then _ else _) _
    rw [hwrapper']
    split
    next hclosed =>
      refine conforms_leave hop ⟨hlog₃.phase, Or.inr (Or.inr ⟨?_, hlog₃.attempted, rfl, ?_⟩),
        hlog₃.handed⟩ ?_
      · exact ⟨⟨call, op, .did .look, o₁⟩, by simp, wrapper, hwrapper, howns⟩
      · refine ⟨⟨call, op, .did .look, o₃⟩, by simp, ?_⟩
        rw [Objects.closed, hwrapper']
        exact hclosed
      · rw [hlog₃.settled]
        simp
    next hopen =>
      have hclosed : o₃.closed w = false := by
        rw [Objects.closed, hwrapper']
        simpa using hopen
      refine conforms_close hop (fun _ => rfl) (fun _ => rfl) hlog₃ ?_ ?_ ?_
      · simp [held]
      · simp [known, Lock.guarded, Effect.apply, hclosed]
      · exact ⟨⟨call, op, .did .look, o₁⟩, by simp, wrapper, hwrapper, howns, rfl⟩

/-- Unregistering is no concern of disposing. -/
private theorem disposing_of_unregisters {x : Occurrence} (log : History) (h : x.Unregisters) :
    disposing x log ∧ ∀ w, x.marked w = [] ∧ x.attempted w = [] ∧ x.settled w = [] := by
  simp only [disposing, marked, attempted, settled]
  rw [Occurrence.Unregisters] at h
  cases hdeed : x.deed with
  | begun | returned answer | panicked message => simp only [hdeed] at h
  | took lock => exact ⟨fun _ _ => trivial, fun _ => ⟨rfl, rfl, rfl⟩⟩
  | gave lock =>
    cases lock with
    | handlers e => exact ⟨fun _ _ => trivial, fun _ => ⟨rfl, rfl, rfl⟩⟩
    | table b | closing w => simp only [hdeed] at h
  | did effect =>
    cases effect
    case removeHandler | report => exact ⟨fun _ _ => trivial, fun _ => ⟨rfl, rfl, rfl⟩⟩
    all_goals simp only [hdeed] at h
  | asked upcall =>
    cases upcall with
    | unregister code native => exact ⟨fun _ _ => trivial, fun _ => ⟨rfl, rfl, rfl⟩⟩
    | invoke | convert | register | close => simp only [hdeed] at h
  | answered upcall reply =>
    cases upcall with
    | unregister code native => exact ⟨fun _ _ => trivial, fun _ => ⟨rfl, rfl, rfl⟩⟩
    | invoke | convert | register | close => simp only [hdeed] at h
  | failed message => exact ⟨fun _ _ => trivial, fun _ => ⟨rfl, rfl, rfl⟩⟩

/-- The first phase is over, and no close has been asked for. -/
private def Fresh (w : WrapperId) (log : History) : Prop :=
  FirstPhase w log ∧ collect (attempted w) log = [] ∧ collect (settled w) log = []

private theorem follows_disposal (hop : op.Disposes w) :
    Follows disposal (Fresh w) call op where
  next := by
    rintro x log _ _ hx hreleasing ⟨hphase, hattempted, hsettled⟩
    obtain ⟨hdisposing, hplain⟩ := disposing_of_unregisters log hx
    obtain ⟨hmarked', hattempted', hsettled'⟩ := hplain w
    refine ⟨⟨hreleasing, hdisposing⟩, hphase.next hmarked', ?_, ?_⟩
    · rw [collect_cons, hattempted, hattempted', List.append_nil]
    · rw [collect_cons, hsettled, hsettled', List.append_nil]
  panicked := by
    rintro x message o code native o' log _ hx hdeed ⟨hphase, hattempted, hsettled⟩ hreleasing
    refine ⟨hreleasing, ?_⟩
    intro w' hw'
    rw [hx] at hw'
    rw [disposes_unique hw' hop]
    simp only [hdeed]
    refine ⟨(hphase.next rfl).next rfl, ?_,
      Or.inr ⟨?_, _, _, log, rfl, ⟨message, rfl⟩, code, native, rfl⟩⟩
    · simp [Occurrence.settled, hsettled]
    · simp [Occurrence.attempted, hattempted]

private theorem conforms_dispose (hop : op.Disposes w) {o : Objects} :
    Conforms disposal call op (fun result => Finished w result) w.dispose
      [⟨call, op, .begun, o⟩] := by
  intro o₁ h₁
  refine ⟨⟨fun _ _ => trivial, fun _ _ => rfl⟩, ?_⟩
  have hmarked : collect (marked w) [⟨call, op, .did (.markDisposed w), o₁⟩, ⟨call, op, .begun, o⟩]
      = [((o₁.wrapper? w).map (·.disposed)).getD true] := by
    simp [marked]
  show Conforms disposal call op _
    (if (!((o₁.wrapper? w).map (·.disposed)).getD true) = true then _ else _) _
  cases halready : ((o₁.wrapper? w).map (·.disposed)).getD true with
  | true =>
    refine conforms_closeNative hop ⟨⟨true, ?_, by simp⟩, rfl, rfl, rfl⟩
    rw [hmarked, halready]
  | false =>
    have hfresh : collect (marked w)
        [⟨call, op, .did (.markDisposed w), o₁⟩, ⟨call, op, .begun, o⟩] = [false] := by
      rw [hmarked, halready]
    have hreleases : op.Releases (.ofWrapper w) := (releases_ofWrapper hop).mpr rfl
    refine Conforms.bind (Conforms.mono ?_ (Conforms.releaseAll (follows_disposal hop) hreleases
      ⟨rfl, rfl, rfl⟩ ?_ ?_ ?_))
    · rintro released log ⟨⟨t, hlog, _⟩, hphase, hattempted, hsettled⟩
      have hbetween : Between w log :=
        ⟨hphase, hattempted, hsettled, by rw [hlog.handed, hlog.owed]⟩
      intro o₂ h₂
      refine ⟨disposal_plain (Or.inr (Or.inl rfl)), ?_⟩
      have hlog₂ := hbetween.next (x := ⟨call, op, .did .look, o₂⟩) rfl rfl rfl rfl rfl
      dsimp only
      cases o₂.wrapper? w with
      | some wrapper =>
        intro o₃ h₃
        refine ⟨disposal_plain (Or.inl ⟨_, rfl⟩), conforms_closeNative hop ?_⟩
        exact hlog₂.next rfl rfl rfl rfl rfl
      | none => exact conforms_closeNative hop hlog₂
    · exact fun _ => disposal_plain (Or.inr (Or.inr ⟨_, rfl⟩))
    · intro o₂ o₃
      refine ⟨?_, ?_⟩
      · intro b hb
        refine ⟨(releases_unique hb hreleases).symm, ?_, rfl⟩
        simp [Occurrence.Drains]
      · intro w' hw'
        rw [disposes_unique hw' hop]
        refine ⟨by simpa [marked] using hfresh, ?_⟩
        simp [Occurrence.Drains]
    · intro o₂ o₃ o₄
      refine ⟨⟨fun _ _ => trivial, fun _ _ => trivial⟩, ⟨false, ?_, ?_⟩, rfl, rfl⟩
      · simpa [marked] using hfresh
      · exact fun _ => ⟨⟨call, op, .did (.drain (.ofWrapper w)), o₃⟩, by simp, rfl⟩

/-- A call that returns after its phases. -/
private theorem Finished.returns {result : Except HostError Unit} (hop : op.Disposes w)
    (h : Finished w result log) {answer : Answer}
    (hanswer : op = .dispose w → answer = .finished result) :
    Returns disposal call op answer log := by
  intro o ho
  refine ⟨?_, ?_⟩
  · intro b hb
    rw [(releases_ofWrapper hop).mp hb]
    refine ⟨h.handed, ?_⟩
    intro heq
    rcases hop with rfl | rfl <;> cases heq
  · intro w' hw'
    rw [disposes_unique hw' hop]
    exact ⟨h.phase, result, h.second, hanswer⟩

end

private theorem keeps_disposal {op : Operation} {w : WrapperId} (hop : op.Disposes w) :
    Keeps disposal op := by
  intro call o ho
  refine ⟨⟨fun _ _ => trivial, fun _ _ => trivial⟩, ?_⟩
  rcases hop with rfl | rfl
  · refine Conforms.bind (Conforms.mono ?_ (conforms_dispose (Or.inl rfl)))
    exact fun result log hlog => hlog.returns (Or.inl rfl) fun _ => rfl
  · refine Conforms.bind (Conforms.bind (Conforms.mono ?_ (conforms_dispose (Or.inr rfl))))
    intro result log hlog
    have hreturns : ∀ {log}, Finished w result log →
        Returns disposal call (.drop w) .nothing log :=
      fun hlog => hlog.returns (Or.inr rfl) fun heq => by cases heq
    cases result with
    | ok value => exact hreturns hlog
    | error e =>
      intro o₁ h₁
      refine ⟨disposal_plain (Or.inr (Or.inl rfl)), ?_⟩
      have hlog₁ := hlog.next (x := ⟨call, .drop w, .did .look, o₁⟩) rfl rfl rfl rfl rfl
      dsimp only
      cases o₁.wrapper? w with
      | some wrapper =>
        intro o₂ h₂
        refine ⟨disposal_plain (Or.inl ⟨_, rfl⟩), ?_⟩
        exact hreturns (hlog₁.next rfl rfl rfl rfl rfl)
      | none => exact hreturns hlog₁

/-- Every operation keeps the contract of disposing. -/
theorem keeps_disposing (op : Operation) : Keeps disposing op := by
  by_cases hop : ∃ w, op.Disposes w
  · obtain ⟨w, hop⟩ := hop
    exact (keeps_disposal hop).weaken fun x log _ h => h.2
  · refine (keeps_abiding op).weaken fun x log hx _ w hw => ?_
    exact absurd ⟨w, hx ▸ hw⟩ hop

/-- Every operation keeps the contract of releasing. -/
theorem keeps_releasing (op : Operation) : Keeps releasing op := by
  by_cases hop : ∃ w, op.Disposes w
  · obtain ⟨w, hop⟩ := hop
    exact (keeps_disposal hop).weaken fun x log _ h => h.1
  by_cases hrelease : ∃ b, op = .releaseAll b
  · obtain ⟨b, rfl⟩ := hrelease
    have hreleases : (Operation.releaseAll b).Releases b := Or.inl rfl
    have hfollows : ∀ call, Follows releasing (fun _ => True) call (.releaseAll b) :=
      fun call => ⟨fun _ _ _ _ _ h _ => ⟨h, trivial⟩, fun _ _ _ _ _ _ _ _ _ _ _ h => h⟩
    intro call o ho
    refine ⟨fun _ _ => trivial, Conforms.bind (Conforms.mono ?_
      (Conforms.releaseAll (hfollows call) hreleases ⟨rfl, rfl, rfl⟩ ?_ ?_ ?_))⟩
    · rintro released log ⟨⟨t, hlog, hcount⟩, _⟩ o₁ h₁ b' hb'
      rw [releases_unique hb' hreleases]
      refine ⟨by rw [hlog.handed, hlog.owed], fun _ => ⟨?_, hlog.drains⟩⟩
      rw [hlog.drained, hcount]
    · exact fun _ _ _ => trivial
    · intro o₁ o₂ b' hb'
      rw [releases_unique hb' hreleases]
      refine ⟨rfl, ?_, rfl⟩
      simp [Occurrence.Drains]
    · exact fun _ _ _ => ⟨fun _ _ => trivial, trivial⟩
  · refine (keeps_abiding op).weaken fun x log hx _ b hb => ?_
    rcases hb with hb | ⟨w, _, hb⟩
    · exact absurd ⟨b, hx ▸ hb⟩ hrelease
    · exact absurd ⟨w, hx ▸ hb⟩ hop

end Hostlink.Interleaving
