import Mathlib.Data.List.Induction
import Hostlink.Proofs.Event.Run

/-!
# The edits of an event

The handlers of an event follow from its edits: what was added, removed and cleared, in the order of
time.  `Reachable.event_edited` says so for every run, and `Reachable.event_between` for two deeds
of a run.

A handler may occur several times, so `standing` keeps every addition with its time.  A removal
takes the latest addition of its handler that stands; `handlers_edited` says that the handlers are
those of the additions that stand.
-/

namespace Hostlink

/-- A change of the handlers of an event. -/
inductive Edit (α : Type) where
  | add (handler : α)
  | remove (handler : α)
  | clear
  deriving DecidableEq, Repr

/-- The last occurrence of `x` is the one that goes. -/
theorem eraseLast_append_cons {α : Type} [DecidableEq α] {x : α} {front back : List α}
    (hback : x ∉ back) : eraseLast x (front ++ x :: back) = front ++ back := by
  have hnot : x ∉ back.reverse := by simpa using hback
  rw [eraseLast, List.reverse_append, List.reverse_cons, List.append_assoc,
    List.erase_append_right _ hnot, List.singleton_append, List.erase_cons_head]
  simp

namespace Multicast

variable {α : Type} [DecidableEq α]

/-- The handlers after an edit. -/
def edit (m : Multicast α) : Edit α → Multicast α
  | .add handler => m.add handler
  | .remove handler => m.remove handler
  | .clear => .empty

/-- The handlers after edits, the first one first. -/
def edited (m : Multicast α) (edits : List (Edit α)) : Multicast α := edits.foldl edit m

@[simp]
theorem edited_nil (m : Multicast α) : m.edited [] = m := rfl

theorem edited_append (m : Multicast α) (earlier later : List (Edit α)) :
    m.edited (earlier ++ later) = (m.edited earlier).edited later :=
  List.foldl_append

theorem edited_concat (m : Multicast α) (edits : List (Edit α)) (edit : Edit α) :
    m.edited (edits ++ [edit]) = (m.edited edits).edit edit :=
  m.edited_append edits [edit]

end Multicast

/-! ## Additions that stand -/

/-- An addition of a handler, with its place among the edits. -/
structure Addition (α : Type) where
  time : Nat
  handler : α
  deriving DecidableEq, Repr

section

variable {α : Type} [DecidableEq α]

/-- Whether an addition is the latest one of a handler. -/
def Addition.IsLatest (x : Addition α) (handler : α) (present : List (Addition α)) : Prop :=
  x.handler = handler ∧ ∀ y ∈ present, y.handler = handler → y.time ≤ x.time

instance (x : Addition α) (handler : α) (present : List (Addition α)) :
    Decidable (x.IsLatest handler present) :=
  inferInstanceAs (Decidable (_ ∧ _))

/-- The additions that stand after an edit. -/
def Edit.stand (present : List (Addition α)) (time : Nat) : Edit α → List (Addition α)
  | .add handler => present ++ [⟨time, handler⟩]
  | .remove handler => present.filter fun x => ¬ x.IsLatest handler present
  | .clear => []

/-- The additions that stand after edits, the earliest one first. -/
def standing (edits : List (Edit α)) : List (Addition α) :=
  edits.zipIdx.foldl (fun present (edit, time) => edit.stand present time) []

theorem standing_concat (edits : List (Edit α)) (edit : Edit α) :
    standing (edits ++ [edit]) = edit.stand (standing edits) edits.length := by
  simp [standing, List.zipIdx_append]

/-- Whether the latest addition of a handler has been taken away, and no other. -/
def TakesLatest (handler : α) (before after : List (Addition α)) : Prop :=
  ∃ front last back, before = front ++ last :: back ∧ last.handler = handler ∧
    (∀ x ∈ back, x.handler ≠ handler) ∧ after = front ++ back

/-- The latest addition of a handler comes last of those of the handler. -/
theorem takesLatest_filter {present : List (Addition α)}
    (hordered : present.Pairwise (·.time < ·.time)) {handler : α}
    (hmem : handler ∈ present.map (·.handler)) :
    TakesLatest handler present (present.filter fun x => ¬ x.IsLatest handler present) := by
  obtain ⟨x, hx, hhandler⟩ := List.mem_map.mp hmem
  have hfound : (present.reverse.find? (·.handler = handler)).isSome :=
    List.find?_isSome.mpr ⟨x, List.mem_reverse.mpr hx, by simpa using hhandler⟩
  obtain ⟨last, hlast⟩ := Option.isSome_iff_exists.mp hfound
  obtain ⟨hself, back, front, hreverse, hback⟩ := List.find?_eq_some_iff_append.mp hlast
  have hself : last.handler = handler := by simpa using hself
  have hsplit : present = front.reverse ++ last :: back.reverse := by
    rw [← List.reverse_reverse present, hreverse]
    simp
  have hback : ∀ y ∈ back.reverse, y.handler ≠ handler := by simpa using hback
  generalize front.reverse = front, back.reverse = back at hsplit hback
  refine ⟨front, last, back, hsplit, hself, hback, ?_⟩
  subst hsplit
  obtain ⟨-, hbehind, hbefore⟩ := List.pairwise_append.mp hordered
  have hlt : ∀ y ∈ front, y.time < last.time := fun y hy => hbefore y hy last List.mem_cons_self
  -- what comes before is not the latest one, and what comes behind is of other handlers
  have hfront : ∀ y ∈ front, ¬ y.IsLatest handler (front ++ last :: back) :=
    fun y hy hlatest => absurd (hlatest.2 last (by simp) hself) (Nat.not_le_of_lt (hlt y hy))
  have hgone : last.IsLatest handler (front ++ last :: back) := by
    refine ⟨hself, fun y hy hhandler => ?_⟩
    rcases List.mem_append.mp hy with hy | hy
    · exact Nat.le_of_lt (hlt y hy)
    · rcases List.mem_cons.mp hy with rfl | hy
      · exact Nat.le_refl _
      · exact absurd hhandler (hback y hy)
  have hkept : ∀ y ∈ back, ¬ y.IsLatest handler (front ++ last :: back) :=
    fun y hy hlatest => hback y hy hlatest.1
  rw [List.filter_append, List.filter_cons_of_neg (by simpa using hgone),
    List.filter_eq_self.mpr (by simpa using hfront), List.filter_eq_self.mpr (by simpa using hkept)]

/-- Nothing is taken away of a handler that does not stand. -/
theorem filter_isLatest_eq_self {present : List (Addition α)} {handler : α}
    (hmem : handler ∉ present.map (·.handler)) :
    (present.filter fun x => ¬ x.IsLatest handler present) = present := by
  refine List.filter_eq_self.mpr fun x hx => ?_
  have hother : x.handler ≠ handler := fun heq => hmem (heq ▸ List.mem_map_of_mem hx)
  simpa using fun hlatest : x.IsLatest handler present => hother hlatest.1

/-- Without its latest addition a handler occurs once less, from the end. -/
theorem map_filter_isLatest {present : List (Addition α)}
    (hordered : present.Pairwise (·.time < ·.time)) (handler : α) :
    (present.filter fun x => ¬ x.IsLatest handler present).map (·.handler)
      = eraseLast handler (present.map (·.handler)) := by
  by_cases hmem : handler ∈ present.map (·.handler)
  · obtain ⟨front, last, back, hsplit, rfl, hback, hleft⟩ := takesLatest_filter hordered hmem
    have hnot : last.handler ∉ back.map (·.handler) := by simpa using hback
    rw [hleft, hsplit, List.map_append, List.map_append, List.map_cons,
      eraseLast_append_cons hnot]
  · rw [filter_isLatest_eq_self hmem, eraseLast_of_not_mem hmem]

/-- Additions stand in the order of time, each at its place among the edits. -/
theorem standing_ordered (edits : List (Edit α)) :
    (standing edits).Pairwise (·.time < ·.time) ∧
      ∀ x ∈ standing edits, edits[x.time]? = some (.add x.handler) := by
  induction edits using List.reverseRecOn with
  | nil => exact ⟨List.Pairwise.nil, fun x hx => nomatch hx⟩
  | append_singleton edits edit ih =>
    obtain ⟨hordered, hplaces⟩ := ih
    have hlt : ∀ x ∈ standing edits, x.time < edits.length :=
      fun x hx => (List.getElem?_eq_some_iff.mp (hplaces x hx)).1
    have hplaces' : ∀ x ∈ standing edits, (edits ++ [edit])[x.time]? = some (.add x.handler) :=
      fun x hx => (List.getElem?_append_left (hlt x hx)).trans (hplaces x hx)
    rw [standing_concat]
    cases edit with
    | add handler =>
      refine ⟨List.pairwise_append.mpr ⟨hordered, List.pairwise_singleton _ _, ?_⟩, ?_⟩
      · rintro x hx y hy
        rw [List.mem_singleton.mp hy]
        exact hlt x hx
      · intro x hx
        rcases List.mem_append.mp hx with hx | hx
        · exact hplaces' x hx
        · rw [List.mem_singleton.mp hx]
          simp
    | remove handler =>
      exact ⟨hordered.filter _, fun x hx => hplaces' x (List.mem_filter.mp hx).1⟩
    | clear => exact ⟨List.Pairwise.nil, fun x hx => nomatch hx⟩

/-- The handlers are those of the additions that stand. -/
theorem handlers_edited (edits : List (Edit α)) :
    (Multicast.empty.edited edits).handlers = (standing edits).map (·.handler) := by
  induction edits using List.reverseRecOn with
  | nil => rfl
  | append_singleton edits edit ih =>
    rw [Multicast.edited_concat, standing_concat]
    cases edit with
    | add handler => simp [Multicast.edit, Multicast.add, Edit.stand, ih]
    | remove handler =>
      rw [Edit.stand, map_filter_isLatest (standing_ordered edits).1, ← ih]
      rfl
    | clear => rfl

end

namespace Interleaving

open Occurrence

variable {rule : Rule} {s : State} {x : Occurrence} {e : EventId}

/-! ## The edits of a run -/

/-- What a deed does to the handlers of an event. -/
def Occurrence.edits (e : EventId) (x : Occurrence) : List (Edit FunctionId) :=
  match x.deed with
  | .did (.addHandler e' handler) => if e' = e then [.add handler] else []
  | .did (.removeHandler e' handler) => if e' = e then [.remove handler] else []
  | .did (.clearHandlers e') => if e' = e then [.clear] else []
  | _ => []

theorem edits_eq_nil (h : ∀ effect, x.deed = .did effect → effect.lock? ≠ some (.handlers e)) :
    x.edits e = [] := by
  unfold edits
  split
  next hdeed => exact if_neg fun heq => h _ hdeed (by rw [Effect.lock?, heq])
  next hdeed => exact if_neg fun heq => h _ hdeed (by rw [Effect.lock?, heq])
  next hdeed => exact if_neg fun heq => h _ hdeed (by rw [Effect.lock?, heq])
  next => rfl

/-- Every deed of a run edits the handlers as it says. -/
theorem Next.event_edited (h : Next rule s x) (e : EventId) :
    (x.deed.apply s.objects).event e = (s.objects.event e).edited (x.edits e) := by
  by_cases hlock : ∃ effect, x.deed = .did effect ∧ effect.lock? = some (.handlers e)
  · obtain ⟨effect, hdeed, hlock⟩ := hlock
    cases effect
    case addHandler e' handler =>
      cases hlock
      have hevent := hasEvent_of_addHandler h.valid (h.effects hdeed)
      rw [show x.edits e = [.add handler] by simp [edits, hdeed], hdeed]
      exact Objects.event_modifyEvent_self hevent (·.add handler)
    case removeHandler e' handler =>
      cases hlock
      rw [show x.edits e = [.remove handler] by simp [edits, hdeed], hdeed]
      exact s.objects.event_modifyEvent_of_empty e (f := (·.remove handler)) rfl
    case clearHandlers e' =>
      cases hlock
      rw [show x.edits e = [.clear] by simp [edits, hdeed], hdeed]
      exact s.objects.event_modifyEvent_of_empty e (f := fun _ => .empty) rfl
    all_goals cases hlock
  · have hno : ∀ effect, x.deed = .did effect → effect.lock? ≠ some (.handlers e) :=
      fun effect hdeed heq => hlock ⟨effect, hdeed, heq⟩
    rw [edits_eq_nil hno, Multicast.edited_nil]
    exact Deed.event_apply_of_ne hno s.objects

/-- The handlers of an event are what its edits have made of none. -/
theorem Reachable.event_edited (hs : Reachable rule s) (e : EventId) :
    s.objects.event e = Multicast.empty.edited (collect (edits e) s.history) := by
  refine hs.induct (I := fun o h => o.event e = Multicast.empty.edited (collect (edits e) h)) rfl ?_
  intro s x _ hnext ih
  rw [hnext.event_edited e, collect_cons, Multicast.edited_append, ih]

/-- Between two deeds of a run the handlers change by the edits in between, in their order. -/
theorem Reachable.event_between (hs : Reachable rule s) {later between earlier : History}
    {x y : Occurrence} (hsplit : s.history = later ++ y :: (between ++ x :: earlier))
    (e : EventId) :
    y.objects.event e = (x.objects.event e).edited (collect (edits e) (between ++ [x])) := by
  obtain ⟨sy, hsy, hhistory, hy⟩ := hs.split hsplit
  have hsplit' : s.history = (later ++ y :: between) ++ x :: earlier := by
    rw [hsplit, List.append_assoc, List.cons_append]
  obtain ⟨sx, hsx, hbefore, hx⟩ := hs.split hsplit'
  rw [hy.objects, hx.objects, hsy.event_edited e, hsx.event_edited e, hhistory, hbefore,
    ← Multicast.edited_append, ← collect_append, List.append_assoc, List.singleton_append]

end Interleaving
end Hostlink
