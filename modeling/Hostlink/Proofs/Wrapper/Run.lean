import Hostlink.Proofs.Bridge.Run
import Hostlink.Proofs.Wrapper.Disposing

/-!
# A wrapper during a run

A wrapper has two flags.  The first disposal to begin sets the mark of disposal and releases the
bridge; the mark of a close is set after a close has succeeded, by the call that asked for it.

Between the success and the mark the call has the lock of the close, so no other call takes the
object for open meanwhile (`Reachable.unsettled`).
-/

namespace Hostlink

/-- Whether disposal of a wrapper has begun. -/
def Objects.disposed (o : Objects) (w : WrapperId) : Bool :=
  ((o.wrapper? w).map (·.disposed)).getD false

theorem Effect.disposed_apply_of_ne {effect : Effect} {w : WrapperId} (h : effect ≠ .markDisposed w)
    (o : Objects) : (effect.apply o).disposed w = o.disposed w := by
  refine getD_wrapper?_apply (g := Wrapper.disposed) ?_ ?_ ?_ ?_
  · exact fun _ _ => rfl
  · exact fun heq => absurd heq h
  · exact fun _ _ => rfl
  · exact Or.inr fun _ _ => rfl

/-- A wrapper holds the same native object for its whole life, and in the same way. -/
theorem Effect.exists_wrapper_apply (effect : Effect) {o : Objects} {w : WrapperId}
    {wrapper : Wrapper} (h : o.wrapper? w = some wrapper) :
    ∃ wrapper', (effect.apply o).wrapper? w = some wrapper' ∧ wrapper'.native = wrapper.native ∧
      wrapper'.ownership = wrapper.ownership := by
  have hhas : o.HasWrapper w := by
    refine Nat.lt_of_not_le fun hle => ?_
    rw [Objects.wrapper?_eq_none (Nat.not_lt.mpr hle)] at h
    cases h
  have hhas' : (effect.apply o).HasWrapper w := hasWrapper hhas
  obtain ⟨wrapper', hwrapper'⟩ := Objects.exists_wrapper hhas'
  let identity (wrapper : Wrapper) : Native × Ownership := (wrapper.native, wrapper.ownership)
  have hsame : (((effect.apply o).wrapper? w).map identity).getD (identity wrapper)
      = ((o.wrapper? w).map identity).getD (identity wrapper) :=
    getD_wrapper?_apply (fun _ _ => rfl) (fun _ _ => rfl) (fun _ _ => rfl) (Or.inl hhas)
  rw [hwrapper', h] at hsame
  exact ⟨wrapper', hwrapper', congrArg Prod.fst hsame, congrArg Prod.snd hsame⟩

namespace Interleaving

open Occurrence

variable {rule : Rule} {s : State} {x : Occurrence} {w : WrapperId}

namespace Occurrence

/-- The call that begins to dispose of the wrapper. -/
def disposers (w : WrapperId) (x : Occurrence) : List Nat :=
  match x.deed with
  | .did (.markDisposed w') => if w' = w then [x.call] else []
  | _ => []

/-- The disposal that drains the bridge of the wrapper. -/
def releasers (w : WrapperId) (x : Occurrence) : List Nat :=
  match x.deed with
  | .did (.drain b) => if b = .ofWrapper w ∧ x.operation.Disposes w then [x.call] else []
  | _ => []

theorem deed_of_marked {already : Bool} (h : already ∈ x.marked w) :
    x.deed = .did (.markDisposed w) := by
  unfold marked at h
  split at h
  next hdeed =>
    split at h
    next heq => exact heq ▸ hdeed
    next => cases h
  next => cases h

theorem mem_attempted {native : Native} :
    native ∈ x.attempted w ↔ x.deed = .asked (.close native) ∧ x.operation.Disposes w := by
  unfold attempted
  constructor
  · intro hmem
    split at hmem
    next hdeed =>
      split at hmem
      next hop =>
        rw [List.mem_singleton.mp hmem]
        exact ⟨hdeed, hop⟩
      next => cases hmem
    next => cases hmem
  · rintro ⟨hdeed, hop⟩
    simp [hdeed, hop]

theorem mem_settled {result : Except HostError Unit} (h : result ∈ x.settled w) :
    (∃ native, x.deed = .answered (.close native) result) ∧ x.operation.Disposes w ∧
      x.settled w = [result] := by
  unfold settled at h ⊢
  split at h
  next native reply hdeed =>
    split at h
    next hop =>
      obtain rfl := List.mem_singleton.mp h
      exact ⟨⟨native, hdeed⟩, hop, if_pos hop⟩
    next => cases h
  next => cases h

theorem mem_disposers {call : Nat} :
    call ∈ x.disposers w ↔ x.deed = .did (.markDisposed w) ∧ call = x.call := by
  unfold disposers
  constructor
  · intro hmem
    split at hmem
    next hdeed =>
      split at hmem
      next heq => exact ⟨heq ▸ hdeed, List.mem_singleton.mp hmem⟩
      next => cases hmem
    next => cases hmem
  · rintro ⟨hdeed, rfl⟩
    simp [hdeed]

theorem disposers_eq_nil (h : x.deed ≠ .did (.markDisposed w)) : x.disposers w = [] :=
  List.eq_nil_iff_forall_not_mem.mpr fun _ hmem => h (mem_disposers.mp hmem).1

theorem mem_releasers {call : Nat} : call ∈ x.releasers w ↔
    x.Drains (.ofWrapper w) ∧ x.operation.Disposes w ∧ call = x.call := by
  unfold releasers Drains
  constructor
  · intro hmem
    split at hmem
    next hdeed =>
      split at hmem
      next h => exact ⟨h.1 ▸ hdeed, h.2, List.mem_singleton.mp hmem⟩
      next => cases hmem
    next => cases hmem
  · rintro ⟨hdeed, hop, rfl⟩
    simp [hdeed, hop]

end Occurrence

/-! ## The mark of disposal -/

/-- A wrapper that is marked as disposed exists, and so it shows the mark. -/
theorem Next.disposed_of_mark (h : Next rule s x) (hdeed : x.deed = .did (.markDisposed w)) :
    (x.deed.apply s.objects).disposed w = true ∧ x.marked w = [s.objects.disposed w] := by
  obtain ⟨wrapper, hwrapper⟩ := exists_wrapper_of_disposes (h.effects hdeed) h.valid
  constructor
  · simp [hdeed, Deed.apply, Effect.apply, Objects.disposed, Objects.wrapper?_modifyWrapper_self,
      hwrapper]
  · simp [marked, hdeed, h.objects, Objects.disposed, hwrapper]

/-- Other deeds leave the mark of disposal as it is. -/
theorem Deed.disposed_apply {deed : Deed} (h : deed ≠ .did (.markDisposed w)) (o : Objects) :
    (deed.apply o).disposed w = o.disposed w := by
  cases deed with
  | did effect => exact Effect.disposed_apply_of_ne (fun heq => h (by rw [heq])) o
  | begun | took | gave | asked | answered | failed | returned | panicked => rfl

/-- A wrapper shows the mark from the first disposal on. -/
theorem Reachable.disposed_iff (hs : Reachable rule s) (w : WrapperId) :
    s.objects.disposed w = true ↔ collect (disposers w) s.history ≠ [] := by
  refine hs.induct (I := fun o h => o.disposed w = true ↔ collect (disposers w) h ≠ []) ?_ ?_
  · simp [Objects.disposed, Objects.wrapper?, Objects.empty, Registry.get?, Registry.empty]
  intro s x _ hnext ih
  rw [collect_cons]
  by_cases hdeed : x.deed = .did (.markDisposed w)
  · have hmem : x.call ∈ x.disposers w := mem_disposers.mpr ⟨hdeed, rfl⟩
    refine iff_of_true (hnext.disposed_of_mark hdeed).1 fun hnil => ?_
    rw [(List.append_eq_nil_iff.mp hnil).2] at hmem
    cases hmem
  · rw [Deed.disposed_apply hdeed, disposers_eq_nil hdeed, List.append_nil]
    exact ih

/-- The disposal that finds the mark new is the first one. -/
theorem Reachable.first_disposer (hs : Reachable rule s) (w : WrapperId) :
    ∀ y ∈ s.history, false ∈ y.marked w →
      (collect (disposers w) s.history).head? = some y.call := by
  refine hs.induct (I := fun _ h => ∀ y ∈ h, false ∈ y.marked w →
    (collect (disposers w) h).head? = some y.call) (by simp) ?_
  intro s x hs hnext ih y hy hnew
  rw [collect_cons]
  rcases List.mem_cons.mp hy with rfl | hy
  · have hdeed := deed_of_marked hnew
    rw [(hnext.disposed_of_mark hdeed).2] at hnew
    have hnone : collect (disposers w) s.history = [] := by
      refine Classical.byContradiction fun hne => ?_
      rw [(hs.disposed_iff w).mpr hne] at hnew
      cases List.mem_singleton.mp hnew
    rw [hnone]
    simp [disposers, hdeed]
  · rw [List.head?_append, ih y hy hnew]
    rfl

/-- Only the first disposal releases the bridge, and only once. -/
theorem Reachable.releasers_prefix (hs : Reachable rule s) (w : WrapperId) :
    collect (releasers w) s.history <+: (collect (disposers w) s.history).take 1 := by
  refine hs.induct (I := fun _ h =>
    collect (releasers w) h <+: (collect (disposers w) h).take 1) (List.prefix_refl _) ?_
  intro s x hs hnext ih
  rw [collect_cons, collect_cons]
  by_cases hrelease : x.Drains (.ofWrapper w) ∧ x.operation.Disposes w
  · obtain ⟨hdrains, hop⟩ := hrelease
    have hlaw := hnext.obeys keeps_disposing w hop
    simp only [show x.deed = _ from hdrains] at hlaw
    obtain ⟨hmarked, hnot⟩ := hlaw
    obtain ⟨y, hy, hnew⟩ :=
      mem_collect.mp (hmarked ▸ List.mem_singleton_self false :
        false ∈ collect (marked w) (logOf s.history x.call))
    obtain ⟨hy, hcall⟩ := mem_logOf.mp hy
    have hfirst : (collect (disposers w) s.history).take 1 = [x.call] := by
      rw [List.take_one, hs.first_disposer w y hy hnew, hcall]
      rfl
    have hmine : x.releasers w = [x.call] := by
      simp [releasers, show x.deed = _ from hdrains, hop]
    have hnone : collect (releasers w) s.history = [] := by
      refine List.eq_nil_iff_forall_not_mem.mpr fun call hmem => ?_
      have hsame : call = x.call := by
        have hin := ih.subset hmem
        rw [hfirst] at hin
        exact List.mem_singleton.mp hin
      obtain ⟨z, hz, hreleases⟩ := mem_collect.mp hmem
      obtain ⟨hdrains', _, hcall'⟩ := mem_releasers.mp hreleases
      exact hnot z (mem_logOf.mpr ⟨hz, hcall' ▸ hsame⟩) hdrains'
    have hnomark : x.disposers w = [] := by
      refine disposers_eq_nil fun hdeed => ?_
      rw [show x.deed = _ from hdrains] at hdeed
      cases hdeed
    rw [hnone, hmine, hnomark, List.append_nil, hfirst]
    exact List.prefix_refl _
  · have hnone : x.releasers w = [] := by
      refine List.eq_nil_iff_forall_not_mem.mpr fun call hmem => ?_
      obtain ⟨hdrains, hop, _⟩ := mem_releasers.mp hmem
      exact hrelease ⟨hdrains, hop⟩
    rw [hnone, List.append_nil, List.take_append]
    exact ih.trans (List.prefix_append _ _)

/-! ## The mark of a close -/

/-- Other deeds leave the mark of a close as it is. -/
theorem Deed.closed_apply {deed : Deed} (h : deed ≠ .did (.markClosed w)) (o : Objects) :
    (deed.apply o).closed w = o.closed w := by
  cases deed with
  | did effect =>
    refine Effect.closed_apply_of_ne (fun heq => h ?_) o
    cases effect
    case markClosed w' =>
      cases heq
      rfl
    case setHook | push | detach | drain | addHandler | removeHandler | clearHandlers => cases heq
    all_goals cases heq
  | begun | took | gave | asked | answered | failed | returned | panicked => rfl

/-- A wrapper whose close is recorded exists, and so it shows the mark. -/
theorem Next.closed_of_mark (h : Next rule s x) (hdeed : x.deed = .did (.markClosed w)) :
    (x.deed.apply s.objects).closed w = true := by
  obtain ⟨wrapper, hwrapper⟩ := exists_wrapper_of_disposes (h.effects hdeed) h.valid
  simp [hdeed, Deed.apply, Effect.apply, Objects.closed, Objects.wrapper?_modifyWrapper_self,
    hwrapper]

/-- A close is recorded only after one has succeeded. -/
theorem Reachable.succeeded_of_closed (hs : Reachable rule s)
    (hclosed : s.objects.closed w = true) : ∃ y ∈ s.history, .ok () ∈ y.settled w := by
  revert hclosed
  refine hs.induct (I := fun o h => o.closed w = true → ∃ y ∈ h, .ok () ∈ y.settled w) ?_ ?_
  · simp [Objects.closed, Objects.wrapper?, Objects.empty, Registry.get?, Registry.empty]
  intro s x _ hnext ih hclosed
  by_cases hdeed : x.deed = .did (.markClosed w)
  · have hlaw := hnext.obeys keeps_disposing w (hnext.effects hdeed)
    simp only [hdeed] at hlaw
    obtain ⟨y, hy, hok⟩ := mem_collect.mp hlaw
    exact ⟨y, List.mem_cons_of_mem _ (mem_logOf.mp hy).1, hok⟩
  · rw [Deed.closed_apply hdeed] at hclosed
    obtain ⟨y, hy, hok⟩ := ih hclosed
    exact ⟨y, List.mem_cons_of_mem _ hy, hok⟩

/-- A close that has succeeded is recorded, or the call that asked for it still has the lock. -/
theorem Reachable.closed_of_succeeded (hs : Reachable rule s) (w : WrapperId) :
    ∀ y ∈ s.history, .ok () ∈ y.settled w →
      s.objects.closed w = true ∨ .closing w ∈ held (logOf s.history y.call) := by
  refine hs.induct (I := fun o h => ∀ y ∈ h, .ok () ∈ y.settled w →
    o.closed w = true ∨ .closing w ∈ held (logOf h y.call)) (by simp) ?_
  intro s x _ hnext ih y hy hok
  rcases List.mem_cons.mp hy with rfl | hy
  · obtain ⟨⟨native, hdeed⟩, hop, _⟩ := mem_settled hok
    have hlaw := hnext.obeys keeps_disposing w hop
    simp only [hdeed] at hlaw
    refine Or.inr ?_
    rw [logOf_cons_self rfl]
    exact mem_held_cons_of_mem hlaw.2.1 (by simp [hdeed]) (by simp [hdeed])
  by_cases hmark : x.deed = .did (.markClosed w)
  · exact Or.inl (hnext.closed_of_mark hmark)
  rw [Deed.closed_apply hmark]
  rcases ih y hy hok with hclosed | hheld
  · exact Or.inl hclosed
  by_cases hcall : x.call = y.call
  · -- the call has not given the lock before it recorded the close
    have hin : y ∈ logOf s.history x.call := mem_logOf.mpr ⟨hy, hcall.symm⟩
    have hop : x.operation.Disposes w := hnext.operation_eq hin ▸ (mem_settled hok).2.1
    have hlaw := hnext.obeys keeps_disposing w hop
    have hanswers : .ok () ∈ collect (settled w) (logOf s.history x.call) :=
      mem_collect.mpr ⟨y, hin, hok⟩
    by_cases hgave : x.deed = .gave (.closing w)
    · simp only [hgave] at hlaw
      rw [← hnext.objects]
      exact Or.inl (hlaw hanswers)
    · refine Or.inr ?_
      rw [logOf_cons_self hcall]
      refine mem_held_cons_of_mem hheld hgave fun message hdeed => ?_
      simp only [hdeed] at hlaw
      rw [hlaw.2.1] at hanswers
      cases hanswers
  · rw [logOf_cons_of_ne hcall]
    exact Or.inr hheld

/-- A call that has the lock of a close, finds it open and has no answer itself can be sure that no
close has succeeded. -/
theorem Reachable.unsettled (hs : Reachable rule s) {call : Nat}
    (hsettled : collect (settled w) (logOf s.history call) = [])
    (hheld : .closing w ∈ held (logOf s.history call)) (hopen : s.objects.closed w = false) :
    ∀ y ∈ s.history, .ok () ∉ y.settled w := by
  intro y hy hok
  rcases hs.closed_of_succeeded w y hy hok with hclosed | hother
  · rw [hopen] at hclosed
    cases hclosed
  · have hin : y ∈ logOf s.history call := mem_logOf.mpr ⟨hy, hs.exclusive hother hheld⟩
    have hanswers : .ok () ∈ collect (settled w) (logOf s.history call) :=
      mem_collect.mpr ⟨y, hin, hok⟩
    rw [hsettled] at hanswers
    cases hanswers

/-- A close is asked for, and is answered, only while none has succeeded. -/
theorem Next.unsettled (h : Next rule s x) (hs : Reachable rule s)
    (hclose : (∃ native, native ∈ x.attempted w) ∨ ∃ result, result ∈ x.settled w) :
    ∀ y ∈ s.history, .ok () ∉ y.settled w := by
  rcases hclose with ⟨native, hmem⟩ | ⟨result, hmem⟩
  · obtain ⟨hdeed, hop⟩ := mem_attempted.mp hmem
    have hlaw := h.obeys keeps_disposing w hop
    simp only [hdeed] at hlaw
    obtain ⟨_, _, hsettled, hheld, hopen, _⟩ := hlaw
    rw [h.objects] at hopen
    exact hs.unsettled hsettled hheld hopen
  · obtain ⟨⟨native, hdeed⟩, hop, _⟩ := mem_settled hmem
    have hlaw := h.obeys keeps_disposing w hop
    simp only [hdeed] at hlaw
    obtain ⟨hsettled, hheld, hopen⟩ := hlaw
    rw [h.objects] at hopen
    exact hs.unsettled hsettled hheld hopen

/-! ## The native object -/

theorem Deed.exists_wrapper_apply (deed : Deed) {o : Objects} {w : WrapperId} {wrapper : Wrapper}
    (h : o.wrapper? w = some wrapper) :
    ∃ wrapper', (deed.apply o).wrapper? w = some wrapper' ∧ wrapper'.native = wrapper.native ∧
      wrapper'.ownership = wrapper.ownership := by
  cases deed with
  | did effect => exact effect.exists_wrapper_apply h
  | begun | took | gave | asked | answered | failed | returned | panicked =>
    exact ⟨wrapper, h, rfl, rfl⟩

/-- Whatever a call has seen of a wrapper's native object and ownership is still so. -/
theorem Reachable.exists_wrapper (hs : Reachable rule s) (w : WrapperId) :
    ∀ y ∈ s.history, ∀ wrapper, y.objects.wrapper? w = some wrapper →
      ∃ wrapper', s.objects.wrapper? w = some wrapper' ∧ wrapper'.native = wrapper.native ∧
        wrapper'.ownership = wrapper.ownership := by
  refine hs.induct (I := fun o h => ∀ y ∈ h, ∀ wrapper, y.objects.wrapper? w = some wrapper →
    ∃ wrapper', o.wrapper? w = some wrapper' ∧ wrapper'.native = wrapper.native ∧
      wrapper'.ownership = wrapper.ownership) (by simp) ?_
  intro s x _ hnext ih y hy wrapper hwrapper
  rcases List.mem_cons.mp hy with rfl | hy
  · rw [hnext.objects] at hwrapper
    exact y.deed.exists_wrapper_apply hwrapper
  · obtain ⟨middle, hmiddle, hnative, hownership⟩ := ih y hy wrapper hwrapper
    obtain ⟨wrapper', hwrapper', hnative', hownership'⟩ := x.deed.exists_wrapper_apply hmiddle
    exact ⟨wrapper', hwrapper', hnative'.trans hnative, hownership'.trans hownership⟩

end Interleaving
end Hostlink
