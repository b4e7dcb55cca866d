import Mathlib.Data.List.Basic
import Mathlib.Data.List.Infix
import Hostlink.Log.Session

/-!
# What the standard filter decides

Of the directives that decide about something the one with the longest target is chosen
(`deciding?_spec`).  The standard filter has directives for the workspace's own parts, for a few
libraries and for everything; no target of an own part is the beginning of one of a library or the
other way round, so that what it decides is a threshold that depends on whether the target belongs
to the workspace (`enabled_standard`).
-/

namespace Hostlink.Log

/-! ## The longest target decides -/

namespace Directive

/-- How long the target of a directive is; one for every target has the least length. -/
def reach (d : Directive) : Nat := (d.target.map (·.utf8ByteSize + 1)).getD 0

/-- The more specific one of the best directive so far and another. -/
def better (best : Option Directive) (d : Directive) : Option Directive :=
  match best with
  | none => some d
  | some b => if b.yieldsTo d then some d else some b

/-- A directive yields to one with a longer target, and of two with equally long targets their
fields decide. -/
theorem yieldsTo_eq (a b : Directive) : ∃ fields : Bool,
    a.yieldsTo b = (decide (a.reach < b.reach) || decide (a.reach = b.reach) && fields) := ⟨_, rfl⟩

/-- A directive yields only to one whose target is at least as long. -/
theorem reach_le_of_yieldsTo {a b : Directive} (h : a.yieldsTo b = true) : a.reach ≤ b.reach := by
  obtain ⟨fields, same⟩ := a.yieldsTo_eq b
  simp only [same, Bool.or_eq_true, Bool.and_eq_true, decide_eq_true_eq] at h
  omega

/-- A directive that does not yield has a target that is at least as long. -/
theorem reach_le_of_not_yieldsTo {a b : Directive} (h : a.yieldsTo b = false) :
    b.reach ≤ a.reach := by
  obtain ⟨fields, same⟩ := a.yieldsTo_eq b
  simp only [same, Bool.or_eq_false_iff, decide_eq_false_iff_not] at h
  omega

/-- The best of a directive and others is one of them, and none of them has a longer target. -/
theorem foldl_better_spec (ds : List Directive) (b : Directive) :
    ∃ d, ds.foldl better (some b) = some d ∧ d ∈ b :: ds ∧ ∀ d' ∈ b :: ds, d'.reach ≤ d.reach := by
  induction ds generalizing b with
  | nil => exact ⟨b, rfl, by simp, by simp⟩
  | cons d ds ih =>
    rw [List.foldl_cons, better]
    cases yields : b.yieldsTo d with
    | true =>
      obtain ⟨best, same, among, longest⟩ := ih d
      have shorter := reach_le_of_yieldsTo yields
      refine ⟨best, by simpa using same, List.mem_cons_of_mem b among, ?_⟩
      rw [List.forall_mem_cons]
      exact ⟨shorter.trans (longest d List.mem_cons_self), longest⟩
    | false =>
      obtain ⟨best, same, among, longest⟩ := ih b
      have shorter := reach_le_of_not_yieldsTo yields
      rw [List.forall_mem_cons] at longest
      refine ⟨best, by simpa using same, ?_, ?_⟩
      · rw [List.mem_cons] at among ⊢
        exact among.imp_right (List.mem_cons_of_mem d)
      · rw [List.forall_mem_cons, List.forall_mem_cons]
        exact ⟨longest.1, shorter.trans longest.1, longest.2⟩

end Directive

namespace Filter

/-- If there are directives that decide, one of these is chosen that has the longest target. -/
theorem deciding?_spec {f : Filter} {o : Occurrence} {d : Directive} (member : d ∈ f.static)
    (decides : d.decides o = true) :
    ∃ best, f.deciding? o = some best ∧ best ∈ f.static ∧ best.decides o = true ∧
      d.reach ≤ best.reach := by
  have candidate : d ∈ f.static.filter (·.decides o) := List.mem_filter.2 ⟨member, decides⟩
  have fold : f.deciding? o = (f.static.filter (·.decides o)).foldl Directive.better none := rfl
  cases candidates : f.static.filter (·.decides o) with
  | nil => simp [candidates] at candidate
  | cons first rest =>
    obtain ⟨best, same, among, longest⟩ := Directive.foldl_better_spec rest first
    rw [candidates] at candidate
    rw [← candidates, List.mem_filter] at among
    exact ⟨best, by rw [fold, candidates]; exact same, among.1, among.2, longest d candidate⟩

/-! ## The standard filter -/

/-- The text that the standard filter is read from. -/
def standardText (level : Level) : String :=
  ",".intercalate ("warn" :: (ownTargets.map (· ++ "=" ++ level.lowerName)
    ++ foreignTargets.map (· ++ "=warn")))

/-- The standard filter is what its text writes. -/
theorem ofString_standardText (level : Level) :
    ofString (standardText level) = .ok (standard level) := by
  cases level <;> decide +kernel

/-- Whether a target belongs to this workspace: it begins with the name of one of its parts. -/
def IsOwn (target : String) : Prop := ∃ start ∈ ownTargets, start.toList <+: target.toList

instance (target : String) : Decidable (IsOwn target) :=
  inferInstanceAs (Decidable (∃ start ∈ ownTargets, start.toList <+: target.toList))

/-- The least level that passes for a target: the given one inside of the workspace, and that of
warnings elsewhere. -/
def standardLeast (level : Level) (target : String) : Level := if IsOwn target then level else .warn

/-- No own target is the beginning of one of a library, or the other way round. -/
theorem own_apart_foreign : ∀ start ∈ ownTargets, ∀ other ∈ foreignTargets,
    ¬ start.toList <+: other.toList ∧ ¬ other.toList <+: start.toList := by
  decide

/-- The directives of the standard filter. -/
theorem mem_static_standard {level : Level} {d : Directive} :
    d ∈ (standard level).static ↔ d = ⟨none, none, none, some .warn⟩ ∨
      (∃ start ∈ ownTargets, .forTarget start level = d) ∨
        ∃ start ∈ foreignTargets, .forTarget start .warn = d := by
  have all : (standard level).static = ⟨none, none, none, some .warn⟩ ::
      (ownTargets.map (.forTarget · level) ++ foreignTargets.map (.forTarget · .warn)) := rfl
  rw [all, List.mem_cons, List.mem_append, List.mem_map, List.mem_map]

/-- A directive for targets alone decides about what has such a target. -/
theorem decides_forTarget {start : String} {level : Level} {o : Occurrence} :
    (Directive.forTarget start level).decides o = true ↔
      start.toList <+: o.source.target.toList := by
  simp [Directive.decides, Directive.appliesTo, Directive.forTarget]

/-- The standard filter has a directive that decides about anything, with the threshold for its
target. -/
theorem deciding?_standard (level : Level) (o : Occurrence) :
    ∃ d, (standard level).deciding? o = some d ∧
      d.threshold = some (standardLeast level o.source.target) := by
  unfold standardLeast
  split
  next own =>
    obtain ⟨start, own, begins⟩ := own
    obtain ⟨d, decided, member, decides, longest⟩ := deciding?_spec
      (mem_static_standard.2 (.inr (.inl ⟨start, own, rfl⟩))) (decides_forTarget.2 begins)
    refine ⟨d, decided, ?_⟩
    obtain rfl | ⟨_, _, rfl⟩ | ⟨other, foreign, rfl⟩ := mem_static_standard.1 member
    · simp [Directive.reach, Directive.forTarget] at longest
    · rfl
    · have apart := own_apart_foreign start own other foreign
      obtain shorter | longer :=
        List.prefix_or_prefix_of_prefix begins (decides_forTarget.1 decides)
      · exact absurd shorter apart.1
      · exact absurd longer apart.2
  next strange =>
    obtain ⟨d, decided, member, decides, -⟩ := deciding?_spec (o := o)
      (mem_static_standard.2 (.inl rfl)) (by simp [Directive.decides, Directive.appliesTo])
    refine ⟨d, decided, ?_⟩
    obtain rfl | ⟨start, own, rfl⟩ | ⟨_, _, rfl⟩ := mem_static_standard.1 member
    · rfl
    · exact absurd ⟨start, own, decides_forTarget.1 decides⟩ strange
    · rfl

/-- The standard filter lets pass what is at least as severe as its target asks for, whatever the
spans around it. -/
theorem enabled_standard (level : Level) (around : List Threshold) (o : Occurrence) :
    (standard level).enabled around o =
      decide (standardLeast level o.source.target ≤ o.source.level) := by
  obtain ⟨d, decided, threshold⟩ := deciding?_standard level o
  have closed : (standard level).opensUp around o = false := rfl
  rw [enabled, closed, decided, Bool.false_or, Option.any_some, threshold]
  rfl

end Filter
end Hostlink.Log
