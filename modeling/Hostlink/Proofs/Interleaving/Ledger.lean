import Hostlink.Proofs.Interleaving.Soundness

/-!
# Ledgers

A ledger lists what the deeds of a history yield, in the order of time: the callbacks made, those
handed to a hook, the closes asked for.  `collect` keeps one ledger; `collect_perm_calls` says that
a ledger of a whole run is made up of those of its calls.

`Reachable.split` goes back to the state in which a deed of the history was done.
-/

namespace Hostlink.Interleaving

variable {α β : Type}

/-! ## Collecting -/

/-- What the deeds of a history yield, in the order of time. -/
def collect (f : Occurrence → List α) : History → List α
  | [] => []
  | x :: h => collect f h ++ f x

section

variable (f : Occurrence → List α)

@[simp]
theorem collect_nil : collect f [] = [] := rfl

@[simp]
theorem collect_cons (x : Occurrence) (h : History) : collect f (x :: h) = collect f h ++ f x := rfl

theorem collect_append (later earlier : History) :
    collect f (later ++ earlier) = collect f earlier ++ collect f later := by
  induction later with
  | nil => simp
  | cons x later ih => simp [ih]

/-- Two ledgers kept as one. -/
theorem collect_append_perm (g : Occurrence → List α) (h : History) :
    (collect (fun x => f x ++ g x) h).Perm (collect f h ++ collect g h) := by
  induction h with
  | nil => exact List.Perm.refl _
  | cons x h ih =>
    rw [collect_cons, collect_cons, collect_cons]
    refine (ih.append_right _).trans ?_
    rw [List.append_assoc, List.append_assoc]
    refine List.Perm.append_left _ ?_
    rw [← List.append_assoc, ← List.append_assoc]
    exact List.Perm.append_right _ List.perm_append_comm

theorem collect_map (g : α → β) (h : History) :
    (collect f h).map g = collect (fun x => (f x).map g) h := by
  induction h with
  | nil => rfl
  | cons x h ih => simp [ih]

theorem collect_filter (p : α → Bool) (h : History) :
    (collect f h).filter p = collect (fun x => (f x).filter p) h := by
  induction h with
  | nil => rfl
  | cons x h ih => simp [ih]

variable {f}

theorem mem_collect {a : α} {h : History} : a ∈ collect f h ↔ ∃ x ∈ h, a ∈ f x := by
  induction h with
  | nil => simp
  | cons x h ih => simp [ih, or_comm]

theorem collect_eq_nil {h : History} : collect f h = [] ↔ ∀ x ∈ h, f x = [] := by
  induction h with
  | nil => simp
  | cons x h ih => simp [ih, and_comm]

theorem collect_congr {g : Occurrence → List α} {h : History} (hfg : ∀ x ∈ h, f x = g x) :
    collect f h = collect g h := by
  induction h with
  | nil => rfl
  | cons x h ih =>
    rw [collect_cons, collect_cons, hfg x List.mem_cons_self,
      ih fun y hy => hfg y (List.mem_cons_of_mem _ hy)]

/-- What one call yields comes in the same order in the run. -/
theorem collect_logOf_sublist (h : History) (call : Nat) :
    (collect f (logOf h call)).Sublist (collect f h) := by
  induction h with
  | nil => exact List.Sublist.refl _
  | cons x h ih =>
    by_cases hx : x.call = call
    · rw [logOf_cons_self hx]
      exact ih.append (List.Sublist.refl _)
    · rw [logOf_cons_of_ne hx]
      exact ih.trans (List.sublist_append_left _ _)

theorem mem_collect_of_logOf {a : α} {h : History} {call : Nat}
    (ha : a ∈ collect f (logOf h call)) : a ∈ collect f h :=
  (collect_logOf_sublist h call).subset ha

/-- Yielding something more in one of several calls. -/
private theorem flatMap_perm_update {g g' : Nat → List α} {extra : List α} {calls : List Nat}
    {call : Nat} (hnodup : calls.Nodup) (hmem : call ∈ calls) (hcall : g' call = g call ++ extra)
    (hother : ∀ c ∈ calls, c ≠ call → g' c = g c) :
    (calls.flatMap g').Perm (calls.flatMap g ++ extra) := by
  induction calls with
  | nil => cases hmem
  | cons c rest ih =>
    obtain ⟨hnot, hrest⟩ := List.nodup_cons.mp hnodup
    rw [List.flatMap_cons, List.flatMap_cons]
    by_cases hc : c = call
    · subst hc
      have hsame : rest.flatMap g' = rest.flatMap g := by
        rw [List.flatMap_def, List.flatMap_def]
        refine congrArg List.flatten (List.map_congr_left fun c' hc' => ?_)
        exact hother c' (List.mem_cons_of_mem _ hc') fun heq => hnot (heq ▸ hc')
      rw [hcall, hsame, List.append_assoc, List.append_assoc]
      exact List.Perm.append_left _ List.perm_append_comm
    · have hin : call ∈ rest := (List.mem_cons.mp hmem).resolve_left (Ne.symm hc)
      rw [hother c List.mem_cons_self hc, List.append_assoc]
      exact (ih hrest hin fun c' hc' => hother c' (List.mem_cons_of_mem _ hc')).append_left _

/-- The ledger of a run is made up of the ledgers of its calls. -/
theorem collect_perm_calls {h : History} {calls : Nat} (hcalls : ∀ x ∈ h, x.call < calls) :
    (collect f h).Perm ((List.range calls).flatMap fun c => collect f (logOf h c)) := by
  induction h with
  | nil =>
    have hnil : ((List.range calls).flatMap fun c => collect f (logOf [] c)) = [] := by
      simp [logOf]
    rw [hnil]
    exact List.Perm.refl _
  | cons x h ih =>
    have hrest := ih fun y hy => hcalls y (List.mem_cons_of_mem _ hy)
    have hupdate : ((List.range calls).flatMap fun c => collect f (logOf (x :: h) c)).Perm
        (((List.range calls).flatMap fun c => collect f (logOf h c)) ++ f x) := by
      refine flatMap_perm_update List.nodup_range
        (List.mem_range.mpr (hcalls x List.mem_cons_self)) ?_ ?_
      · rw [logOf_cons_self rfl, collect_cons]
      · intro c _ hc
        rw [logOf_cons_of_ne (Ne.symm hc)]
    exact (hrest.append_right (f x)).trans hupdate.symm

/-- What a run yields is told apart if what its calls yield comes from what is told apart. -/
theorem nodup_of_calls {g : Occurrence → List α} {h : History} {calls : Nat}
    (hcalls : ∀ x ∈ h, x.call < calls)
    (hsub : ∀ call, (collect f (logOf h call)).Sublist (collect g (logOf h call)))
    (hnodup : (collect g h).Nodup) : (collect f h).Nodup := by
  rw [(collect_perm_calls hcalls).nodup_iff] at hnodup ⊢
  refine hnodup.sublist ?_
  generalize List.range calls = numbers
  induction numbers with
  | nil => exact List.Sublist.refl _
  | cons c rest ih =>
    rw [List.flatMap_cons, List.flatMap_cons]
    exact (hsub c).append ih

end

/-! ## Adding up -/

/-- The sum of a number for each deed. -/
def tally (f : Occurrence → Nat) : History → Nat
  | [] => 0
  | x :: h => tally f h + f x

@[simp]
theorem tally_cons (f : Occurrence → Nat) (x : Occurrence) (h : History) :
    tally f (x :: h) = tally f h + f x := rfl

theorem tally_add (f g : Occurrence → Nat) (h : History) :
    tally (fun x => f x + g x) h = tally f h + tally g h := by
  induction h with
  | nil => rfl
  | cons x h ih =>
    rw [tally_cons, tally_cons, tally_cons, ih]
    omega

theorem tally_congr {f g : Occurrence → Nat} {h : History} (hfg : ∀ x ∈ h, f x = g x) :
    tally f h = tally g h := by
  induction h with
  | nil => rfl
  | cons x h ih =>
    rw [tally_cons, tally_cons, ih fun y hy => hfg y (List.mem_cons_of_mem _ hy),
      hfg x List.mem_cons_self]

theorem tally_eq_zero {f : Occurrence → Nat} {h : History} (hf : ∀ x ∈ h, f x = 0) :
    tally f h = 0 := by
  induction h with
  | nil => rfl
  | cons x h ih =>
    rw [tally_cons, ih fun y hy => hf y (List.mem_cons_of_mem _ hy), hf x List.mem_cons_self]

theorem tally_length (f : Occurrence → List α) (h : History) :
    tally (fun x => (f x).length) h = (collect f h).length := by
  induction h with
  | nil => rfl
  | cons x h ih => rw [tally_cons, collect_cons, List.length_append, ih]

/-- Two sums over a run agree if they agree for each of its calls. -/
theorem tally_eq_of_calls {f g : Occurrence → Nat} {h : History} {calls : Nat}
    (hcalls : ∀ x ∈ h, x.call < calls)
    (heq : ∀ call, tally f (logOf h call) = tally g (logOf h call)) : tally f h = tally g h := by
  have hlength : ∀ (f : Occurrence → Nat) (h : History),
      tally f h = (collect (fun x => List.replicate (f x) ()) h).length := by
    intro f h
    rw [← tally_length]
    simp only [List.length_replicate]
  rw [hlength, hlength, (collect_perm_calls hcalls).length_eq, (collect_perm_calls hcalls).length_eq]
  generalize List.range calls = numbers
  induction numbers with
  | nil => rfl
  | cons c rest ih =>
    rw [List.flatMap_cons, List.flatMap_cons, List.length_append, List.length_append, ih,
      ← hlength, ← hlength, heq c]

/-! ## Going back -/

variable {rule : Rule} {s : State}

theorem logOf_append (later earlier : History) (call : Nat) :
    logOf (later ++ earlier) call = logOf later call ++ logOf earlier call :=
  List.filter_append _ _

/-- What has happened in a call before a deed of a run has happened in the run. -/
theorem mem_of_split {h later earlier : History} {x : Occurrence} (hsplit : h = later ++ x :: earlier)
    {call : Nat} : ∀ y ∈ logOf earlier call, y ∈ h := by
  intro y hy
  rw [hsplit]
  exact List.mem_append_right _ (List.mem_cons_of_mem _ (mem_logOf.mp hy).1)

/-- What a call has yielded, it has yielded later on as well. -/
theorem mem_collect_of_split {f : Occurrence → List α} {h later earlier : History} {x : Occurrence}
    (hsplit : h = later ++ x :: earlier) {a : α} {call : Nat}
    (ha : a ∈ collect f (logOf earlier call)) : a ∈ collect f (logOf h call) := by
  rw [hsplit, List.append_cons, logOf_append, collect_append]
  exact List.mem_append_left _ ha

/-- Every deed of a run was done in a state that the run came to. -/
theorem Reachable.split (hs : Reachable rule s) {later earlier : History} {x : Occurrence}
    (h : s.history = later ++ x :: earlier) :
    ∃ s', Reachable rule s' ∧ s'.history = earlier ∧ Next rule s' x := by
  induction hs generalizing later with
  | initial => simp [State.initial] at h
  | @step s s' hs hstep ih =>
    obtain ⟨y, hnext, hhistory⟩ : ∃ y, Next rule s y ∧ s'.history = y :: s.history := by
      cases hstep with
      | begin thread turn valid allowed => exact ⟨_, .of_begin hs turn valid allowed, rfl⟩
      | move frames innermost does free =>
        exact ⟨_, .of_move hs frames innermost does free, rfl⟩
    rw [hhistory] at h
    cases later with
    | nil =>
      obtain ⟨rfl, rfl⟩ := List.cons.inj h
      exact ⟨s, hs, rfl, hnext⟩
    | cons z later =>
      obtain ⟨_, hrest⟩ := List.cons.inj h
      exact ih hrest

theorem Reachable.exists_next (hs : Reachable rule s) {x : Occurrence} (hx : x ∈ s.history) :
    ∃ later s', s.history = later ++ x :: s'.history ∧ Reachable rule s' ∧ Next rule s' x := by
  obtain ⟨later, earlier, hsplit⟩ := List.append_of_mem hx
  obtain ⟨s', hs', rfl, hnext⟩ := hs.split hsplit
  exact ⟨later, s', hsplit, hs', hnext⟩

/-- Every deed of a run obeys the contracts that all operations keep. -/
theorem Reachable.obeys_at {P : Contract} (hP : ∀ op, Keeps P op) (hs : Reachable rule s)
    {later earlier : History} {x : Occurrence} (h : s.history = later ++ x :: earlier) :
    P x (logOf earlier x.call) := by
  obtain ⟨s', _, rfl, hnext⟩ := hs.split h
  exact hnext.obeys hP

/-- Every deed of a call that goes on is of the same operation. -/
theorem Next.operation_eq {x y : Occurrence} (h : Next rule s x) (hy : y ∈ logOf s.history x.call) :
    y.operation = x.operation := by
  obtain ⟨p, htraced⟩ := h.traced
  exact htraced.operation_eq y (List.mem_cons_of_mem _ hy)

/-- The rule has allowed the operation of every call, in the state in which the call began. -/
theorem Reachable.allowed (hs : Reachable rule s) : ∀ x ∈ s.history, ∃ s', Reachable rule s' ∧
    s'.history <:+ s.history ∧ rule s'.objects s'.history x.operation := by
  refine hs.induct (I := fun _ h => ∀ x ∈ h, ∃ s', Reachable rule s' ∧ s'.history <:+ h ∧
    rule s'.objects s'.history x.operation) (by simp) ?_
  intro s x hs hnext ih y hy
  have hsuffix : s.history <:+ x :: s.history := List.suffix_cons x s.history
  have hold : ∀ z ∈ s.history, ∃ s', Reachable rule s' ∧ s'.history <:+ x :: s.history ∧
      rule s'.objects s'.history z.operation := by
    intro z hz
    obtain ⟨s', hs', hbefore, hallowed⟩ := ih z hz
    exact ⟨s', hs', hbefore.trans hsuffix, hallowed⟩
  rcases List.mem_cons.mp hy with rfl | hy
  · cases hlog : logOf s.history y.call with
    | nil => exact ⟨s, hs, hsuffix, (hnext.begun hlog).2⟩
    | cons z log =>
      have hz : z ∈ logOf s.history y.call := by rw [hlog]; exact List.mem_cons_self
      rw [← hnext.operation_eq hz]
      exact hold z (mem_logOf.mp hz).1
  · exact hold y hy

/-! ## Answers follow calls -/

/-- A call that waits has asked the client last. -/
theorem Traced.asked_of_waiting {call : Nat} {op : Operation} {log : History} {upcall : Upcall}
    {next : upcall.Reply → Activity Unit Answer} (h : Traced call op log (.waiting upcall next)) :
    ∃ o rest, log = ⟨call, op, .asked upcall, o⟩ :: rest := by
  generalize hp : Progress.waiting upcall next = p at h
  cases h with
  | begun => cases hp
  | deed _ does _ =>
    cases does with
    | ask => cases hp; exact ⟨_, _, rfl⟩
    | step | take | give | answer | fail | finish | panic => cases hp

/-- What the client answers, it has been asked right before. -/
theorem Traced.asked_of_answered {call : Nat} {op : Operation} {x : Occurrence} {log : History}
    {p : Progress} (h : Traced call op (x :: log) p) {upcall : Upcall} {reply : upcall.Reply}
    (hdeed : x.deed = .answered upcall reply) :
    ∃ o rest, log = ⟨call, op, .asked upcall, o⟩ :: rest := by
  generalize hlog : x :: log = log' at h
  cases h with
  | begun =>
    obtain ⟨rfl, _⟩ := List.cons.inj hlog
    cases hdeed
  | deed traced does _ =>
    obtain ⟨rfl, rfl⟩ := List.cons.inj hlog
    cases does with
    | answer reply =>
      cases hdeed
      exact traced.asked_of_waiting
    | step | take | give | ask | fail | finish | panic => cases hdeed

/-! ## Calls that have ended -/

/-- What ends a call. -/
def Deed.Ends : Deed → Prop
  | .returned _ | .panicked _ => True
  | _ => False

instance : (deed : Deed) → Decidable deed.Ends
  | .returned _ | .panicked _ => .isTrue trivial
  | .begun | .took _ | .gave _ | .did _ | .asked _ | .answered _ _ | .failed _ => .isFalse id

theorem Deed.ends_iff {deed : Deed} : deed.Ends ↔
    (∃ answer, deed = .returned answer) ∨ ∃ message, deed = .panicked message := by
  cases deed <;> simp [Ends]

/-- A call that returns has ended. -/
theorem Deed.ends_of_returned {deed : Deed} {answer : Answer} (h : deed = .returned answer) :
    deed.Ends := ends_iff.mpr (Or.inl ⟨answer, h⟩)

/-- The deed that ends a call is its last one. -/
theorem Traced.ends {call : Nat} {op : Operation} {log : History} {p : Progress}
    (h : Traced call op log p) :
    (p ≠ .ended ∧ ∀ x ∈ log, ¬ x.deed.Ends) ∨
      p = .ended ∧ ∃ x log', log = x :: log' ∧ x.deed.Ends ∧ ∀ y ∈ log', ¬ y.deed.Ends := by
  induction h with
  | begun valid =>
    refine Or.inl ⟨by simp, ?_⟩
    intro x hx
    rw [List.mem_singleton.mp hx]
    exact id
  | @deed log p p' deed o traced does _ ih =>
    have hbefore : ∀ x ∈ log, ¬ x.deed.Ends := by
      rcases ih with ⟨_, hall⟩ | ⟨rfl, _⟩
      · exact hall
      · cases does
    have hon : p' ≠ .ended → ¬ deed.Ends →
        p' ≠ .ended ∧ ∀ x ∈ (⟨call, op, deed, o⟩ :: log : History), ¬ x.deed.Ends := by
      refine fun hp hdeed => ⟨hp, ?_⟩
      intro x hx
      rcases List.mem_cons.mp hx with rfl | hx
      · exact hdeed
      · exact hbefore x hx
    cases does with
    | step | take | give | ask | answer | fail => exact Or.inl (hon (by simp) id)
    | finish | panic => exact Or.inr ⟨rfl, _, _, rfl, trivial, hbefore⟩

/-- Whether no call of an operation with a property is going on. -/
def State.Quiet (s : State) (P : Operation → Prop) : Prop :=
  ∀ f ∈ s.frames, ¬ P f.operation

/-- A call that is quiet has ended, unless it has not begun. -/
theorem Reachable.call_cases (hs : Reachable rule s) {P : Operation → Prop} (hquiet : s.Quiet P)
    (call : Nat) : logOf s.history call = [] ∨
      ∃ op p, Traced call op (logOf s.history call) p ∧ (P op → p = .ended) := by
  by_cases hlt : call < s.calls
  · refine Or.inr ?_
    by_cases hmem : call ∈ s.frames.map (·.call)
    · obtain ⟨f, hf, rfl⟩ := List.mem_map.mp hmem
      exact ⟨_, _, hs.sound.traced f hf, fun hP => absurd hP (hquiet f hf)⟩
    · obtain ⟨op, htraced⟩ := hs.sound.ended call hlt hmem
      exact ⟨op, _, htraced, fun _ => rfl⟩
  · exact Or.inl (hs.sound.logOf_eq_nil (Nat.le_of_not_lt hlt))

/-- A call of the history is going on or has ended. -/
theorem Reachable.running_or_ended (hs : Reachable rule s) {x : Occurrence} (hx : x ∈ s.history) :
    (∃ f ∈ s.frames, f.call = x.call) ∨ ∃ y ∈ s.history, y.call = x.call ∧ y.deed.Ends := by
  by_cases hmem : x.call ∈ s.frames.map (·.call)
  · exact Or.inl (List.mem_map.mp hmem)
  · obtain ⟨op, htraced⟩ := hs.sound.ended x.call (hs.sound.history_lt x hx) hmem
    rcases htraced.ends with ⟨hrunning, _⟩ | ⟨_, y, log, hlog, hends, _⟩
    · exact absurd rfl hrunning
    · obtain ⟨hy, hcall⟩ := mem_logOf.mp (hlog ▸ List.mem_cons_self : y ∈ logOf s.history x.call)
      exact Or.inr ⟨y, hy, hcall, hends⟩

/-- After the deed that ends a call there are no others. -/
theorem Reachable.log_of_ends (hs : Reachable rule s) {x : Occurrence} (hx : x ∈ s.history)
    (hends : x.deed.Ends) : ∃ log, logOf s.history x.call = x :: log := by
  have hin : x ∈ logOf s.history x.call := mem_logOf.mpr ⟨hx, rfl⟩
  rcases hs.exists_traced x.call with hnil | ⟨op, p, htraced⟩
  · rw [hnil] at hin
    cases hin
  · rcases htraced.ends with ⟨_, hnone⟩ | ⟨_, y, log, hlog, _, hbefore⟩
    · exact absurd hends (hnone x hin)
    · rw [hlog] at hin ⊢
      rcases List.mem_cons.mp hin with rfl | hin
      · exact ⟨log, rfl⟩
      · exact absurd hends (hbefore x hin)

/-- Nothing happens in a call after its end. -/
theorem Reachable.logOf_after_end (hs : Reachable rule s) {later earlier : History}
    {x : Occurrence} (hsplit : s.history = later ++ x :: earlier) (hends : x.deed.Ends) :
    logOf later x.call = [] := by
  refine List.eq_nil_iff_forall_not_mem.mpr fun y hy => ?_
  obtain ⟨hin, hcall⟩ := mem_logOf.mp hy
  obtain ⟨after, between, rfl⟩ := List.append_of_mem hin
  rw [List.append_assoc, List.cons_append] at hsplit
  obtain ⟨s', hs', hhistory, hnext⟩ := hs.split hsplit
  have hx : x ∈ logOf s'.history y.call := by
    rw [hhistory]
    exact mem_logOf.mpr ⟨by simp, hcall.symm⟩
  obtain ⟨p, htraced⟩ := hnext.traced
  rcases htraced.ends with ⟨_, hnone⟩ | ⟨_, z, log, hlog, _, hbefore⟩
  · exact hnone x (List.mem_cons_of_mem _ hx) hends
  · obtain ⟨_, rfl⟩ := List.cons.inj hlog
    exact hbefore x hx hends

/-- What a contract says about the end of a call. -/
theorem Reachable.law_of_ends {P : Contract} (hP : ∀ op, Keeps P op) (hs : Reachable rule s)
    {x : Occurrence} (hx : x ∈ s.history) (hends : x.deed.Ends) :
    ∃ log, logOf s.history x.call = x :: log ∧ P x log := by
  obtain ⟨log, hlog⟩ := hs.log_of_ends hx hends
  have hobeys := hs.obeys hP x.call
  rw [hlog] at hobeys
  exact ⟨log, hlog, hobeys.1⟩

/-- The deeds of a call are of one operation. -/
theorem Reachable.operation_eq (hs : Reachable rule s) {x y : Occurrence} (hx : x ∈ s.history)
    (hy : y ∈ s.history) (hcall : x.call = y.call) : x.operation = y.operation := by
  have hin : x ∈ logOf s.history y.call := mem_logOf.mpr ⟨hx, hcall⟩
  have hin' : y ∈ logOf s.history y.call := mem_logOf.mpr ⟨hy, rfl⟩
  rcases hs.exists_traced y.call with hnil | ⟨op, p, htraced⟩
  · rw [hnil] at hin
    cases hin
  · rw [htraced.operation_eq x hin, htraced.operation_eq y hin']

/-- Whatever a call did before is in the run, and for the same operation. -/
theorem Reachable.of_mem_log (hs : Reachable rule s) {x : Occurrence} (hx : x ∈ s.history)
    {log : History} (hlog : logOf s.history x.call = x :: log) :
    ∀ y ∈ log, y ∈ s.history ∧ y.operation = x.operation := by
  intro y hy
  obtain ⟨hy', hcall⟩ := mem_logOf.mp (hlog ▸ List.mem_cons_of_mem x hy)
  exact ⟨hy', hs.operation_eq hy' hx hcall⟩

/-- A deed of an earlier part of a call, with the state in which it was done. -/
theorem Reachable.split_of_mem_log (hs : Reachable rule s) {x : Occurrence} {log : History}
    (hlog : logOf s.history x.call = x :: log) {y : Occurrence} (hy : y ∈ log) :
    ∃ later s', s.history = later ++ y :: s'.history ∧ y.call = x.call ∧ Reachable rule s' ∧
      Next rule s' y := by
  obtain ⟨hin, hcall⟩ := mem_logOf.mp (hlog ▸ List.mem_cons_of_mem x hy)
  obtain ⟨later, s', hsplit, hs', hnext⟩ := hs.exists_next hin
  exact ⟨later, s', hsplit, hcall, hs', hnext⟩

/-- Once all calls of some operations have ended, what their deeds come to is what the calls have
answered. -/
theorem Reachable.tally_at_rest (hs : Reachable rule s) {P : Operation → Prop}
    (hquiet : s.Quiet P) {f g : Occurrence → Nat}
    (hother : ∀ x ∈ s.history, ¬ P x.operation → f x = g x)
    (hdeeds : ∀ x, x.deed.Ends → f x = 0) (hanswers : ∀ x, ¬ x.deed.Ends → g x = 0)
    (hends : ∀ x log, x ∈ s.history → P x.operation → x.deed.Ends →
      logOf s.history x.call = x :: log → tally f log = g x) :
    tally f s.history = tally g s.history := by
  refine tally_eq_of_calls hs.sound.history_lt fun call => ?_
  rcases hs.call_cases hquiet call with hnil | ⟨op, p, htraced, hended⟩
  · rw [hnil]
    rfl
  have hin : ∀ x ∈ logOf s.history call, x ∈ s.history ∧ x.call = call := fun x => mem_logOf.mp
  by_cases hP : P op
  · rcases htraced.ends with ⟨hrunning, _⟩ | ⟨_, x, log, hlog, hx, hbefore⟩
    · exact absurd (hended hP) hrunning
    have hmem : x ∈ logOf s.history call := by rw [hlog]; exact List.mem_cons_self
    obtain ⟨hx', rfl⟩ := hin x hmem
    have hop := htraced.operation_eq x hmem
    have hsum := hends x log hx' (hop ▸ hP) hx hlog
    rw [hlog, tally_cons, tally_cons, hdeeds x hx, hsum,
      tally_eq_zero fun y hy => hanswers y (hbefore y hy)]
    omega
  · refine tally_congr fun x hx => hother x (hin x hx).1 ?_
    rw [htraced.operation_eq x hx]
    exact hP

end Hostlink.Interleaving
