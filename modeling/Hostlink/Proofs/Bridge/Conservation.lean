import Hostlink.Proofs.Bridge.Detaching
import Hostlink.Proofs.Bridge.Performed
import Hostlink.Proofs.Bridge.Run
import Hostlink.Proofs.Interleaving.Schedule
import Hostlink.Proofs.Wrapper.Disposing

/-!
# Conservation of registrations

Whatever is recorded on a bridge is in one place at a time: in the table, taken back by one call, or
drained by one call.  A call that drains the table hands each native callback to the hook that was
set last for its key, once, and those of one key in the order of attachment, and answers how many
there were.  In which order the keys come is not told.
-/

namespace Hostlink

instance (op : Operation) : (b : BridgeId) → Decidable (op.Releases b)
  | .standalone index => decidable_of_iff (op = .releaseAll (.standalone index)) (by
    simp [Operation.Releases])
  | .ofWrapper w => decidable_of_iff (op = .releaseAll (.ofWrapper w) ∨ op.Disposes w) (by
    simp [Operation.Releases])

/-- The operations that answer what they have recorded on a bridge or taken from it. -/
def Operation.Accounts (b : BridgeId) (op : Operation) : Prop :=
  (∃ key callback converter registrar, op = .attach b key callback converter registrar) ∨
    (∃ key callback, op = .tryDetach b key callback) ∨ op = .releaseAll b

namespace Interleaving

/-! ## Answers -/

namespace Occurrence

/-- What a release of the bridge hands to a hook. -/
def given (b : BridgeId) (x : Occurrence) : List (Hook × FunctionId) :=
  if x.operation.Releases b then x.handed else []

/-- The native callback that an attachment answers. -/
def attachedAnswer (b : BridgeId) (x : Occurrence) : List FunctionId :=
  match x.operation, x.deed with
  | .attach b' _ _ _ _, .returned (.attached (.ok native)) => if b' = b then [native] else []
  | _, _ => []

/-- The native callback that a detachment answers. -/
def detachedAnswer (b : BridgeId) (x : Occurrence) : List FunctionId :=
  match x.operation, x.deed with
  | .tryDetach b' _ _, .returned (.detached (some native)) => if b' = b then [native] else []
  | _, _ => []

/-- The number that a release answers. -/
def releasedAnswer (b : BridgeId) (x : Occurrence) : Nat :=
  match x.operation, x.deed with
  | .releaseAll b', .returned (.number count) => if b' = b then count else 0
  | _, _ => 0

/-- What is taken from the table by an operation that answers something else. -/
def unanswered (b : BridgeId) (x : Occurrence) : List (MemberKey × Registration) :=
  match x.operation with
  | .tryDetach _ _ _ | .releaseAll _ => []
  | _ => x.detached b ++ x.drained b

end Occurrence

open Occurrence

/-! ## What a release hands over -/

section

variable {b : BridgeId} {op : Operation} {log : History} {x : Occurrence}

/-- Whatever a release hands over is in turn. -/
theorem inTurn_of_handed (hlaw : releasing x log) (hop : x.operation.Releases b)
    {next : Hook × FunctionId} (hnext : next ∈ x.handed) : InTurn b log next ∧ x.handed = [next] := by
  have hlaw := hlaw b hop
  unfold handed at hnext ⊢
  split at hnext
  next e handler hdeed =>
    simp only [hdeed] at hlaw ⊢
    rw [List.mem_singleton.mp hnext]
    exact ⟨hlaw, rfl⟩
  next code native hdeed =>
    simp only [hdeed] at hlaw ⊢
    rw [List.mem_singleton.mp hnext]
    exact ⟨hlaw, rfl⟩
  next => cases hnext

/-- What a release has handed over is the beginning of what it owes. -/
theorem handed_prefix_owed (hop : op.Releases b) (hlog : ∀ x ∈ log, x.operation = op)
    (h : Obeys releasing log) : collect handed log <+: collect (owed b) log := by
  induction log with
  | nil => exact List.nil_prefix
  | cons x log ih =>
    have hrest := ih (fun y hy => hlog y (List.mem_cons_of_mem _ hy)) h.2
    rw [collect_cons, collect_cons]
    cases hhanded : x.handed with
    | nil =>
      rw [List.append_nil]
      exact hrest.trans (List.prefix_append _ _)
    | cons next others =>
      have hx : x.operation.Releases b := by
        rw [hlog x List.mem_cons_self]
        exact hop
      obtain ⟨⟨rest, hturn⟩, hone⟩ :=
        inTurn_of_handed h.1 hx (by rw [hhanded]; exact List.mem_cons_self)
      rw [← hhanded, hone, hturn]
      exact ⟨rest ++ x.owed b, by simp⟩

/-- What a call owes to hooks is among what it has drained. -/
theorem owed_sublist_drained (log : History) : ((collect (owed b) log).map (·.2)).Sublist
    ((collect (drained b) log).map (·.2.native)) := by
  induction log with
  | nil => exact List.Sublist.refl _
  | cons x log ih =>
    rw [collect_cons, collect_cons, List.map_append, List.map_append]
    refine ih.append ?_
    by_cases hdrains : x.Drains b
    · obtain ⟨howed, hdrained⟩ := owed_of_drains hdrains
      rw [howed, hdrained]
      exact CallbackTable.owed_sublist _
    · obtain ⟨howed, hdrained⟩ := owed_of_not_drains hdrains
      rw [howed, hdrained]
      exact List.Sublist.refl _

/-- A call drains a table at most once, so it owes what that table owes. -/
theorem owed_of_mem_drains (hop : op.Releases b) (hlog : ∀ x ∈ log, x.operation = op)
    (h : Obeys releasing log) (hx : x ∈ log) (hdrains : x.Drains b) :
    collect (owed b) log = (x.objects.table b).owed ∧
      collect (drained b) log = (x.objects.table b).registrations := by
  induction log with
  | nil => cases hx
  | cons y log ih =>
    rw [collect_cons, collect_cons]
    have hlaw := h.1 b (by rw [hlog y List.mem_cons_self]; exact hop)
    rcases List.mem_cons.mp hx with rfl | hx
    · simp only [show x.deed = _ from hdrains] at hlaw
      obtain ⟨howed, hdrained⟩ := owed_of_drains hdrains
      rw [howed, hdrained, collect_eq_nil.mpr fun z hz => (owed_of_not_drains (hlaw.2.1 z hz)).1,
        collect_eq_nil.mpr fun z hz => (owed_of_not_drains (hlaw.2.1 z hz)).2]
      exact ⟨rfl, rfl⟩
    · have hnot : ¬ y.Drains b := by
        intro hy
        simp only [show y.deed = _ from hy] at hlaw
        exact hlaw.2.1 x hx hdrains
      obtain ⟨howed, hdrained⟩ := owed_of_not_drains hnot
      rw [howed, hdrained, List.append_nil, List.append_nil]
      exact ih (fun z hz => hlog z (List.mem_cons_of_mem _ hz)) h.2 hx

end

variable {rule : Rule} {s : State}

/-- The calls of a run that release a bridge obey their contract. -/
theorem Reachable.releasing_log (hs : Reachable rule s) {x : Occurrence} (hx : x ∈ s.history) :
    (∀ y ∈ logOf s.history x.call, y.operation = x.operation) ∧
      Obeys releasing (logOf s.history x.call) := by
  have hin : x ∈ logOf s.history x.call := mem_logOf.mpr ⟨hx, rfl⟩
  refine ⟨?_, hs.obeys keeps_releasing _⟩
  rcases hs.exists_traced x.call with hnil | ⟨op, p, htraced⟩
  · rw [hnil] at hin
    cases hin
  · intro y hy
    rw [htraced.operation_eq y hy, htraced.operation_eq x hin]

/-- In the log of a call that releases the bridge, everything handed to hooks is for the bridge. -/
theorem collect_given {b : BridgeId} {op : Operation} {log : History} (hop : op.Releases b)
    (hlog : ∀ x ∈ log, x.operation = op) : collect (given b) log = collect handed log := by
  refine collect_congr fun x hx => if_pos ?_
  rw [hlog x hx]
  exact hop

/-- A call hands over, in order, part of what it owes. -/
theorem Reachable.given_prefix (hs : Reachable rule s) (b : BridgeId) (call : Nat) :
    collect (given b) (logOf s.history call) <+: collect (owed b) (logOf s.history call) := by
  cases hlog : logOf s.history call with
  | nil => exact List.prefix_refl _
  | cons x rest =>
    obtain ⟨hx, rfl⟩ := mem_logOf.mp (hlog ▸ List.mem_cons_self : x ∈ logOf s.history call)
    obtain ⟨hop, hobeys⟩ := hs.releasing_log hx
    rw [← hlog]
    by_cases hreleases : x.operation.Releases b
    · rw [collect_given hreleases hop]
      exact handed_prefix_owed hreleases hop hobeys
    · have hnone : collect (given b) (logOf s.history x.call) = [] := by
        refine collect_eq_nil.mpr fun y hy => if_neg ?_
        rw [hop y hy]
        exact hreleases
      rw [hnone]
      exact List.nil_prefix

/-- No native callback is drained twice. -/
theorem Reachable.drained_nodup (hs : Reachable rule s) (b : BridgeId) :
    ((collect (drained b) s.history).map (·.2.native)).Nodup := by
  have hnodup := ((hs.places b).map (·.2.native)).nodup_iff.mp (hs.natives_nodup b)
  rw [List.map_append, List.map_append] at hnodup
  exact (List.nodup_append.mp (List.nodup_append.mp hnodup).2.1).2.1

/-- No native callback is handed over twice. -/
theorem Reachable.given_nodup (hs : Reachable rule s) (b : BridgeId) :
    ((collect (given b) s.history).map (·.2)).Nodup := by
  have hdrained := hs.drained_nodup b
  rw [collect_map] at hdrained ⊢
  refine nodup_of_calls hs.sound.history_lt ?_ hdrained
  intro call
  rw [← collect_map, ← collect_map]
  exact ((hs.given_prefix b call).sublist.map _).trans (owed_sublist_drained _)

/-! ## Answers of calls that have ended -/

/-- An attachment answers the native callback that it has recorded. -/
theorem Reachable.attached_answer (hs : Reachable rule s) {b : BridgeId} {x : Occurrence}
    (hx : x ∈ s.history) {key : MemberKey} {callback : FunctionId} {converter : Converter}
    {registrar : Registrar} {answer : Answer}
    (hop : x.operation = .attach b key callback converter registrar)
    (hdeed : x.deed = .returned answer) :
    (∃ native, answer = .attached (.ok native) ∧
      collect (pushed b) (logOf s.history x.call) = [(key, ⟨callback, native⟩)]) ∨
    ∃ error, answer = .attached (.error error) ∧
      collect (pushed b) (logOf s.history x.call) = [] := by
  obtain ⟨log, hlog, hattach⟩ := hs.law_of_ends keeps_attaching hx (Deed.ends_of_returned hdeed)
  simp only [attaching, hop, hdeed] at hattach
  have hpushed : x.pushed b = [] := by simp [pushed, hdeed]
  rw [hlog, collect_cons, hpushed, List.append_nil]
  rcases hattach with ⟨native, hanswer, _, _, hnew⟩ | ⟨hanswer, _, hnone, _⟩
  · exact Or.inl ⟨native, hanswer, hnew⟩
  · exact Or.inr ⟨_, hanswer, hnone⟩

/-- A detachment answers what it has taken back. -/
theorem Reachable.detached_answer (hs : Reachable rule s) {b : BridgeId} {x : Occurrence}
    (hx : x ∈ s.history) {key : MemberKey} {callback : FunctionId} {answer : Answer}
    (hop : x.operation = .tryDetach b key callback) (hdeed : x.deed = .returned answer) :
    ∃ found : Option FunctionId, answer = .detached found ∧
      (collect (detached b) (logOf s.history x.call)).map (·.2.native) = found.toList := by
  obtain ⟨log, hlog, hdetach⟩ := hs.law_of_ends keeps_detaching hx (Deed.ends_of_returned hdeed)
  simp only [detaching, hop, hdeed] at hdetach
  rw [hlog, collect_cons, detached_eq_nil (by simp [hdeed]), List.append_nil]
  exact hdetach

/-- A release answers how many registrations it has drained. -/
theorem Reachable.released_answer (hs : Reachable rule s) {b : BridgeId} {x : Occurrence}
    (hx : x ∈ s.history) {answer : Answer} (hop : x.operation = .releaseAll b)
    (hdeed : x.deed = .returned answer) :
    answer = .number (collect (drained b) (logOf s.history x.call)).length := by
  obtain ⟨log, hlog, hrelease⟩ := hs.law_of_ends keeps_releasing hx (Deed.ends_of_returned hdeed)
  have hrelease := hrelease b (Or.inl hop)
  simp only [hdeed] at hrelease
  rw [hlog, collect_cons, (owed_of_not_drains (by simp [Drains, hdeed])).2, List.append_nil]
  exact (hrelease.2 hop).1

/-! ## At rest -/

/-- The answers of attachments account for what was recorded. -/
theorem Reachable.pushed_at_rest (hs : Reachable rule s) {b : BridgeId}
    (hquiet : s.Quiet (·.Accounts b)) :
    (collect (pushed b) s.history).length = (collect (attachedAnswer b) s.history).length := by
  rw [← tally_length, ← tally_length]
  refine hs.tally_at_rest (P := fun op => ∃ key callback converter registrar,
    op = .attach b key callback converter registrar) ?_ ?_ ?_ ?_ ?_
  · exact fun f hf hop => hquiet f hf (Or.inl hop)
  · intro x hx hop
    have hpushed : x.pushed b = [] := by
      refine pushed_eq_nil fun key entry hdeed => hop ?_
      obtain ⟨converter, registrar, heq⟩ := hs.effects hx hdeed
      exact ⟨key, entry.caller, converter, registrar, heq⟩
    have hanswer : x.attachedAnswer b = [] := by
      unfold attachedAnswer
      split
      next hoperation _ => exact if_neg fun heq => hop ⟨_, _, _, _, heq ▸ hoperation⟩
      next => rfl
    rw [hpushed, hanswer]
    rfl
  · intro x hends
    have hpushed : x.pushed b = [] := pushed_eq_nil fun key entry hdeed => by
      simp [hdeed, Deed.Ends] at hends
    rw [hpushed, List.length_nil]
  · intro x hends
    have hanswer : x.attachedAnswer b = [] := by
      unfold attachedAnswer
      split
      next hdeed => simp [hdeed, Deed.Ends] at hends
      next => rfl
    rw [hanswer, List.length_nil]
  · rintro x log hx ⟨key, callback, converter, registrar, hop⟩ hends hlog
    have hlaw := hs.obeys keeps_attaching x.call
    rw [hlog] at hlaw
    have hlaw := hlaw.1
    rw [tally_length]
    rcases Deed.ends_iff.mp hends with ⟨answer, hdeed⟩ | ⟨message, hdeed⟩
    · simp only [attaching, hop, hdeed] at hlaw
      rcases hlaw with ⟨native, rfl, _, _, hpushed⟩ | ⟨rfl, _, hpushed, _⟩
      · simp [attachedAnswer, hop, hdeed, hpushed]
      · simp [attachedAnswer, hop, hdeed, hpushed]
    · simp only [attaching, hop, hdeed] at hlaw
      simp [attachedAnswer, hop, hdeed, hlaw.1]

/-- What an operation that answers what it takes takes from the table. -/
private def Occurrence.answerable (b : BridgeId) (x : Occurrence) : List (MemberKey × Registration) :=
  match x.operation with
  | .tryDetach _ _ _ | .releaseAll _ => x.detached b ++ x.drained b
  | _ => []

/-- A detachment drains nothing. -/
private theorem Reachable.drained_of_tryDetach (hs : Reachable rule s) {b b' : BridgeId}
    {key : MemberKey} {callback : FunctionId} {x : Occurrence} (hx : x ∈ s.history)
    (hop : x.operation = .tryDetach b' key callback) : x.drained b = [] := by
  refine (owed_of_not_drains fun hdrains => ?_).2
  have heffects := hs.effects hx hdrains
  rw [hop] at heffects
  rcases heffects with heq | ⟨w, _, heq | heq⟩ <;> cases heq

/-- A release takes nothing back. -/
private theorem Reachable.detached_of_releaseAll (hs : Reachable rule s) {b b' : BridgeId}
    {x : Occurrence} (hx : x ∈ s.history) (hop : x.operation = .releaseAll b') :
    x.detached b = [] := by
  refine detached_eq_nil fun key caller hdeed => ?_
  have heffects := hs.effects hx hdeed
  rw [hop] at heffects
  rcases heffects with heq | ⟨e, heq⟩ <;> cases heq

/-- Operations on other bridges take nothing from the bridge. -/
private theorem Reachable.answerable_eq_nil (hs : Reachable rule s) {b : BridgeId} {x : Occurrence}
    (hx : x ∈ s.history) (hop : ¬ ((∃ key callback, x.operation = .tryDetach b key callback) ∨
      x.operation = .releaseAll b)) : x.answerable b = [] := by
  unfold answerable
  split
  next b' key callback hoperation =>
    rw [hs.drained_of_tryDetach hx hoperation, List.append_nil]
    refine detached_eq_nil fun key' caller hdeed => ?_
    have heffects := hs.effects hx hdeed
    rw [hoperation] at heffects
    rcases heffects with heq | ⟨e, heq⟩
    · exact hop (Or.inl ⟨key', caller, hoperation.trans heq⟩)
    · cases heq
  next b' hoperation =>
    rw [hs.detached_of_releaseAll hx hoperation, List.nil_append]
    refine (owed_of_not_drains fun hdrains => ?_).2
    have heffects := hs.effects hx hdrains
    rw [hoperation] at heffects
    rcases heffects with heq | ⟨w, _, heq | heq⟩
    · exact hop (Or.inr (hoperation.trans heq))
    · cases heq
    · cases heq
  next => rfl

/-- An operation that is not on the bridge, or has not ended, answers nothing for it. -/
private theorem answers_eq_nil {b : BridgeId} {x : Occurrence}
    (h : ¬ x.deed.Ends ∨ ¬ ((∃ key callback, x.operation = .tryDetach b key callback) ∨
      x.operation = .releaseAll b)) : x.detachedAnswer b = [] ∧ x.releasedAnswer b = 0 := by
  constructor
  · unfold detachedAnswer
    split
    next hop hdeed =>
      refine if_neg fun heq => ?_
      rcases h with h | h
      · exact h (Deed.ends_of_returned hdeed)
      · exact h (Or.inl ⟨_, _, heq ▸ hop⟩)
    next => rfl
  · unfold releasedAnswer
    split
    next hop hdeed =>
      refine if_neg fun heq => ?_
      rcases h with h | h
      · exact h (Deed.ends_of_returned hdeed)
      · exact h (Or.inr (heq ▸ hop))
    next => rfl

/-- A detachment that has ended answers what it has taken. -/
private theorem Reachable.answerable_of_tryDetach (hs : Reachable rule s) {b : BridgeId}
    {key : MemberKey} {callback : FunctionId} {x : Occurrence} {log : History} (hx : x ∈ s.history)
    (hop : x.operation = .tryDetach b key callback) (hends : x.deed.Ends)
    (hlog : logOf s.history x.call = x :: log) :
    (collect (answerable b) log).length = (x.detachedAnswer b).length + x.releasedAnswer b := by
  have hanswerable : collect (answerable b) log = collect (detached b) log := by
    refine collect_congr fun y hy => ?_
    obtain ⟨hy', hop'⟩ := hs.of_mem_log hx hlog y hy
    rw [hop] at hop'
    simp only [answerable, hop', hs.drained_of_tryDetach hy' hop', List.append_nil]
  have hlaw := hs.obeys keeps_detaching x.call
  rw [hlog] at hlaw
  have hlaw := hlaw.1
  rw [hanswerable]
  rcases Deed.ends_iff.mp hends with ⟨answer, hdeed⟩ | ⟨message, hdeed⟩
  · simp only [detaching, hop, hdeed] at hlaw
    obtain ⟨found, rfl, hfound⟩ := hlaw
    have hcount := congrArg List.length hfound
    rw [List.length_map] at hcount
    rw [hcount]
    cases found <;> simp [detachedAnswer, releasedAnswer, hop, hdeed]
  · simp only [detaching, hop, hdeed] at hlaw

/-- A release that has returned answers how much it has taken. -/
private theorem Reachable.answerable_of_releaseAll (hs : Reachable rule s) {b : BridgeId}
    {x : Occurrence} {log : History} (hx : x ∈ s.history) (hop : x.operation = .releaseAll b)
    (hends : x.deed.Ends) (hpanic : ∀ message, x.deed ≠ .panicked message)
    (hlog : logOf s.history x.call = x :: log) :
    (collect (answerable b) log).length = (x.detachedAnswer b).length + x.releasedAnswer b := by
  have hanswerable : collect (answerable b) log = collect (drained b) log := by
    refine collect_congr fun y hy => ?_
    obtain ⟨hy', hop'⟩ := hs.of_mem_log hx hlog y hy
    rw [hop] at hop'
    simp only [answerable, hop', hs.detached_of_releaseAll hy' hop', List.nil_append]
  have hlaw := hs.obeys keeps_releasing x.call
  rw [hlog] at hlaw
  have hlaw := hlaw.1 b (Or.inl hop)
  rw [hanswerable]
  rcases Deed.ends_iff.mp hends with ⟨answer, hdeed⟩ | ⟨message, hdeed⟩
  · simp only [hdeed] at hlaw
    obtain ⟨rfl, _⟩ := hlaw.2 hop
    simp [detachedAnswer, releasedAnswer, hop, hdeed]
  · exact absurd hdeed (hpanic message)

/-- The answers of detachments and releases account for what they took. -/
theorem Reachable.taken_at_rest (hs : Reachable rule s) {b : BridgeId}
    (hquiet : s.Quiet (·.Accounts b))
    (hpanic : ∀ x ∈ s.history, x.operation = .releaseAll b → ∀ message, x.deed ≠ .panicked message) :
    (collect (detached b) s.history).length + (collect (drained b) s.history).length
      = (collect (detachedAnswer b) s.history).length + tally (releasedAnswer b) s.history
        + (collect (unanswered b) s.history).length := by
  have hsplit : tally (fun x => (x.detached b).length + (x.drained b).length) s.history
      = tally (fun x => (x.answerable b).length + (x.unanswered b).length) s.history := by
    refine tally_congr fun x _ => ?_
    unfold answerable unanswered
    split <;> simp
  have hanswers : tally (fun x => (x.answerable b).length) s.history
      = tally (fun x => (x.detachedAnswer b).length + x.releasedAnswer b) s.history := by
    refine hs.tally_at_rest (P := fun op => (∃ key callback, op = .tryDetach b key callback) ∨
      op = .releaseAll b) ?_ ?_ ?_ ?_ ?_
    · exact fun f hf hop => hquiet f hf (Or.inr hop)
    · intro x hx hop
      obtain ⟨hdetached, hreleased⟩ := answers_eq_nil (Or.inr hop)
      rw [hs.answerable_eq_nil hx hop, hdetached, hreleased]
      rfl
    · intro x hends
      have hdetached : x.detached b = [] := detached_eq_nil fun _ _ hdeed => by
        simp [hdeed, Deed.Ends] at hends
      have hdrained : x.drained b = [] := (owed_of_not_drains fun hdrains => by
        simp [show x.deed = _ from hdrains, Deed.Ends] at hends).2
      unfold answerable
      split <;> simp [hdetached, hdrained]
    · intro x hends
      obtain ⟨hdetached, hreleased⟩ := answers_eq_nil (b := b) (Or.inl hends)
      rw [hdetached, hreleased]
      rfl
    · intro x log hx hop hends hlog
      rw [tally_length]
      rcases hop with ⟨key, callback, hop⟩ | hop
      · exact hs.answerable_of_tryDetach hx hop hends hlog
      · exact hs.answerable_of_releaseAll hx hop hends (hpanic x hx hop) hlog
  simp only [tally_add, tally_length] at hsplit hanswers
  omega

/-! ## The result -/

/-- What a drain of the table hands over for one key: each native callback, in the order of
attachment, to the hook that was set last for the key in the history before, if there is one. -/
def dues (b : BridgeId) (t : CallbackTable) (before : History) (key : MemberKey) :
    List (Hook × FunctionId) :=
  (t.entries key).filterMap fun entry =>
    (collect (hooked b key) before).getLast?.map (·, entry.native)

/-- What a call that has drained the table owes is what is due, key by key. -/
theorem Reachable.owed_eq_dues (hs : Reachable rule s) {b : BridgeId} {later earlier : History}
    {x : Occurrence} (hsplit : s.history = later ++ x :: earlier) (hdrains : x.Drains b) :
    collect (owed b) (logOf s.history x.call)
      = (x.objects.table b).keys.flatMap (dues b (x.objects.table b) earlier) := by
  obtain ⟨s', hs', rfl, hnext⟩ := hs.split hsplit
  have hx : x ∈ s.history := by rw [hsplit]; simp
  obtain ⟨hop, hobeys⟩ := hs.releasing_log hx
  rw [(owed_of_mem_drains (hs.effects hx hdrains) hop hobeys (mem_logOf.mpr ⟨hx, rfl⟩) hdrains).1,
    CallbackTable.owed_eq_filterMap, CallbackTable.registrations_eq_flatMap, hnext.objects,
    List.filterMap_flatMap]
  simp only [hs'.hook? b, List.filterMap_map]
  rfl

/-- A release that returns has handed over everything that it owes. -/
theorem Reachable.given_of_returned (hs : Reachable rule s) {b : BridgeId} {x : Occurrence}
    (hx : x ∈ s.history) (hop : x.operation.Releases b) {answer : Answer}
    (hdeed : x.deed = .returned answer) :
    collect (given b) (logOf s.history x.call) = collect (owed b) (logOf s.history x.call) := by
  obtain ⟨log, hlog, hrelease⟩ := hs.law_of_ends keeps_releasing hx (Deed.ends_of_returned hdeed)
  have hrelease := hrelease b hop
  simp only [hdeed] at hrelease
  rw [collect_given hop (hs.releasing_log hx).1, hlog, collect_cons, collect_cons, hrelease.1]
  simp [handed, owed, hdeed]

/-- The registrations of a bridge are conserved. -/
structure Conserved (b : BridgeId) (s : State) : Prop where
  /-- No native callback is recorded twice. -/
  distinct : ((collect (pushed b) s.history).map (·.2.native)).Nodup
  /-- Every registration is in the table, has been taken back, or has been drained. -/
  places : (collect (pushed b) s.history).Perm ((s.objects.table b).registrations ++
    (collect (detached b) s.history ++ collect (drained b) s.history))
  /-- It is in one of these places only, and there once. -/
  place : ∀ key entry, (key, entry) ∈ collect (pushed b) s.history →
    ((s.objects.table b).registrations.map (·.2.native)).count entry.native
      + ((collect (detached b) s.history).map (·.2.native)).count entry.native
      + ((collect (drained b) s.history).map (·.2.native)).count entry.native = 1
  /-- An attachment that succeeds has recorded the native callback that it answers; one that fails
  has recorded nothing. -/
  attached : ∀ x ∈ s.history, ∀ key callback converter registrar answer,
    x.operation = .attach b key callback converter registrar → x.deed = .returned answer →
    (∃ native, answer = .attached (.ok native) ∧
      collect (pushed b) (logOf s.history x.call) = [(key, ⟨callback, native⟩)]) ∨
    ∃ error, answer = .attached (.error error) ∧ collect (pushed b) (logOf s.history x.call) = []
  /-- A detachment answers what it has taken back. -/
  detached : ∀ x ∈ s.history, ∀ key callback answer,
    x.operation = .tryDetach b key callback → x.deed = .returned answer →
    ∃ found : Option FunctionId, answer = .detached found ∧
      (collect (detached b) (logOf s.history x.call)).map (·.2.native) = found.toList
  /-- A release answers how many registrations it has drained. -/
  released : ∀ x ∈ s.history, ∀ answer, x.operation = .releaseAll b → x.deed = .returned answer →
    answer = .number (collect (drained b) (logOf s.history x.call)).length
  /-- A call that drains the table hands over what is due, one key after the other in some order of
  the keys, for each key from the first to the last, and all of it before it returns. -/
  handed : ∀ later x earlier, s.history = later ++ x :: earlier → x.Drains b →
    ∃ keys, (x.objects.table b).Lists keys ∧
      collect (given b) (logOf s.history x.call)
        <+: keys.flatMap (dues b (x.objects.table b) earlier) ∧
      ∀ y ∈ s.history, y.call = x.call → ∀ answer, y.deed = .returned answer →
        collect (given b) (logOf s.history x.call)
          = keys.flatMap (dues b (x.objects.table b) earlier)
  /-- Under each key it drains in the order of attachment. -/
  ordered : ∀ later x earlier, s.history = later ++ x :: earlier → x.Drains b → ∀ key,
    (((x.objects.table b).registrations.filter (·.1 = key)).map (·.2)).Sublist
      (((collect (pushed b) earlier).filter (·.1 = key)).map (·.2))
  /-- No native callback is handed over twice. -/
  handed_once : ((collect (given b) s.history).map (·.2)).Nodup
  /-- A release returns, with the number of registrations in the table, if unregistering does. -/
  returns : ∀ {σ : Type} (service : Service σ) (client : σ), service.Unregisters →
    b.releaseAll.ReturnsWith service [] ⟨s.objects, client⟩ (s.objects.table b).totalLen
  /-- At rest, if no hook has panicked, the successful attachments are as many as the registrations
  in the table, the successful detachments and what the releases have answered, together with what
  was taken inside other operations. -/
  balance : s.Quiet (·.Accounts b) →
    (∀ x ∈ s.history, x.operation = .releaseAll b → ∀ message, x.deed ≠ .panicked message) →
    (collect (attachedAnswer b) s.history).length
      = (s.objects.table b).totalLen + (collect (detachedAnswer b) s.history).length
        + tally (releasedAnswer b) s.history + (collect (unanswered b) s.history).length

/-- In every run the registrations of every bridge are conserved. -/
theorem registrations_conserved (hs : Reachable rule s) (b : BridgeId) : Conserved b s := by
  constructor
  case distinct => exact hs.natives_nodup b
  case places => exact hs.places b
  case place =>
    intro key entry hmem
    have hcount := ((hs.places b).map (·.2.native)).count_eq entry.native
    have hone : ((collect (pushed b) s.history).map (·.2.native)).count entry.native = 1 := by
      have hin := List.mem_map_of_mem (f := fun pair => pair.2.native) hmem
      rw [List.Nodup.count (hs.natives_nodup b), if_pos hin]
    rw [hone, List.map_append, List.map_append, List.count_append, List.count_append] at hcount
    omega
  case attached =>
    exact fun x hx key callback converter registrar answer hop hdeed =>
      hs.attached_answer hx hop hdeed
  case detached => exact fun x hx key callback answer hop hdeed => hs.detached_answer hx hop hdeed
  case released => exact fun x hx answer hop hdeed => hs.released_answer hx hop hdeed
  case handed =>
    intro later x earlier hsplit hdrains
    have hx : x ∈ s.history := by rw [hsplit]; simp
    have howed := hs.owed_eq_dues hsplit hdrains
    refine ⟨_, CallbackTable.lists_keys _, howed ▸ hs.given_prefix b x.call, ?_⟩
    intro y hy hcall answer hdeed
    have hop : y.operation.Releases b := hs.operation_eq hy hx hcall ▸ hs.effects hx hdrains
    rw [← howed, ← hcall]
    exact hs.given_of_returned hy hop hdeed
  case ordered =>
    intro later x earlier hsplit _ key
    obtain ⟨s', hs', rfl, hnext⟩ := hs.split hsplit
    rw [CallbackTable.registrations_filter, List.map_map, hnext.objects]
    simpa [Function.comp_def] using hs'.entries_sublist b key
  case handed_once => exact hs.given_nodup b
  case returns =>
    intro σ service client hservice
    exact BridgeId.releaseAll_returnsWith hservice (by simp) (by simp)
  case balance =>
    intro hquiet hpanic
    have hlength := (hs.places b).length_eq
    have hpushed := hs.pushed_at_rest hquiet
    have hanswerable := hs.taken_at_rest hquiet hpanic
    rw [List.length_append, List.length_append, ← CallbackTable.totalLen_eq_length] at hlength
    omega

/-- A run of one thread: two attachments, a detachment, and a release whose hook sets another hook
and tries to attach. -/
def nestedRelease : List Choice :=
  let b := BridgeId.standalone 0
  let key : MemberKey := ⟨"value_changed", .int, .int⟩
  let attach := Operation.attach b key ⟨0⟩ (.client 0) (.client 1)
  let goOn := goOn 0
  .begin 0 .makeBridge :: goOn 2 ++
  .begin 0 .makeFunction :: goOn 2 ++
  .begin 0 (.registerMember b key (.client 7)) :: goOn 4 ++
  .begin 0 attach :: goOn 4 ++ .answer 0 (.ok ()) :: goOn 5 ++
  .begin 0 attach :: goOn 4 ++ .answer 0 (.ok ()) :: goOn 5 ++
  .begin 0 (.tryDetach b key ⟨0⟩) :: goOn 5 ++
  .begin 0 (.releaseAll b) :: goOn 4 ++
  .begin 0 (.registerMember b key (.client 8)) :: goOn 4 ++
  .begin 0 attach :: goOn 6 ++
  .answer 0 (.ok ()) :: goOn 2

theorem registrations_conserved_nested :
    let b := BridgeId.standalone 0
    let s := State.initial.follow Rule.any nestedRelease
    Reachable Rule.any s ∧ Conserved b s ∧ collect (attachedAnswer b) s.history = [⟨1⟩, ⟨2⟩] ∧
      collect (detachedAnswer b) s.history = [⟨1⟩] ∧ tally (releasedAnswer b) s.history = 1 ∧
      collect (given b) s.history = [(.client 7, ⟨2⟩)] ∧ s.frames.length = 0 := by
  have hs : Reachable Rule.any (State.initial.follow Rule.any nestedRelease) :=
    Reachable.initial.follow nestedRelease
  refine ⟨hs, registrations_conserved hs _, ?_⟩
  decide +kernel

end Interleaving
end Hostlink
