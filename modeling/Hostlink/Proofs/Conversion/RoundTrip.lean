import Hostlink.Proofs.Conversion.Batch
import Hostlink.Proofs.Interleaving.Schedule
import Hostlink.Proofs.Registry
import Hostlink.Proofs.Wrapper.Run

/-!
# From native objects to wrappers and back

A native object comes back from its wrapper as it went in.  Wrappers are never kept for a second
use, so what tells them apart is the object that they hold and nothing else: neither who owns it,
nor whether the wrapper is disposed of.

`Objects.Holding` carries this through a run.  It says which objects the wrappers under some numbers
hold, and every step of a run keeps it (`Step.holding`), whatever is disposed of or wrapped anew.
-/

namespace Hostlink

/-! ## Wrappers among the live objects -/

namespace Objects

/-- Puts wrappers among the live objects; the gaps between them stay. -/
def addWrappers (o : Objects) : List (Option Wrapper) → List (Option WrapperId) × Objects
  | [] => ([], o)
  | none :: rest => ((none :: (o.addWrappers rest).1), (o.addWrappers rest).2)
  | some w :: rest =>
    let next := (o.addWrapper w).addWrappers rest
    (some o.nextWrapper :: next.1, next.2)

/-- The wrappers under some numbers, as they are now. -/
def wrappersAt (o : Objects) (ids : List (Option WrapperId)) : List (Option Wrapper) :=
  ids.map (·.bind o.wrapper?)

/-- Whether the wrappers under some numbers hold these native objects, each in its place. -/
def Holding (o : Objects) (ids : List (Option WrapperId)) (xs : List (Option Native)) : Prop :=
  List.Forall₂ (Option.Rel fun id native => ∃ w, o.wrapper? id = some w ∧ w.native = native) ids xs

theorem wrapper?_addWrappers {o : Objects} {id : WrapperId} {w : Wrapper}
    (h : o.wrapper? id = some w) (ws : List (Option Wrapper)) :
    (o.addWrappers ws).2.wrapper? id = some w := by
  induction ws generalizing o with
  | nil => exact h
  | cons v rest ih =>
    cases v with
    | none => exact ih h
    | some v => exact ih ((wrapper?_addWrapper_of_has (Registry.lt_next_of_get? h) v).trans h)

/-- Wrappers among the live objects hold what they held before. -/
theorem holding_addWrappers (o : Objects) (ws : List (Option Wrapper)) :
    (o.addWrappers ws).2.Holding (o.addWrappers ws).1 (ws.map (·.map (·.native))) := by
  induction ws generalizing o with
  | nil => exact .nil
  | cons w rest ih =>
    cases w with
    | none => exact .cons .none (ih o)
    | some w =>
      have hnew : (o.addWrapper w).wrapper? o.nextWrapper = some w :=
        o.wrappers.get?_insert_next w
      exact .cons (.some ⟨w, wrapper?_addWrappers hnew rest, rfl⟩) (ih (o.addWrapper w))

namespace Holding

variable {o o' : Objects} {ids : List (Option WrapperId)} {xs : List (Option Native)}

/-- Wrappers that keep their native objects go on holding them. -/
theorem mono (h : o.Holding ids xs) (hkeep : ∀ id w, o.wrapper? id = some w →
    ∃ w', o'.wrapper? id = some w' ∧ w'.native = w.native) : o'.Holding ids xs := by
  refine List.Forall₂.imp (fun id x hx => ?_) h
  cases hx with
  | none => exact .none
  | some hw =>
    obtain ⟨w, hw, rfl⟩ := hw
    exact .some (hkeep _ w hw)

theorem map_native_wrappersAt (h : o.Holding ids xs) :
    (o.wrappersAt ids).map (·.map (·.native)) = xs := by
  induction h with
  | nil => rfl
  | cons hx _ ih =>
    refine congrArg₂ List.cons ?_ ih
    cases hx with
    | none => rfl
    | some hw =>
      obtain ⟨w, hw, rfl⟩ := hw
      simp [hw]

end Holding
end Objects

namespace Interleaving

variable {rule : Rule} {s s' : State} {ids : List (Option WrapperId)} {xs : List (Option Native)}

theorem Step.holding (h : Step rule s s') (hs : s.objects.Holding ids xs) :
    s'.objects.Holding ids xs := by
  cases h with
  | begin => exact hs
  | move =>
    refine hs.mono fun id w hw => ?_
    obtain ⟨w', hw', hnative, _⟩ := Deed.exists_wrapper_apply _ hw
    exact ⟨w', hw', hnative⟩

/-- Whatever happens in a run, wrappers go on holding their native objects. -/
theorem Run.holding (h : Run rule s s') (hs : s.objects.Holding ids xs) :
    s'.objects.Holding ids xs := by
  induction h with
  | refl => exact hs
  | tail _ hstep ih => exact hstep.holding ih

end Interleaving

namespace Conversion

/-! ## What is answered about wrappers -/

/-- What is answered about the wrappers `ws` that stand for the native objects `xs` of a type. -/
structure StandsFor (target : String) (xs : List (Option Native)) (ws : List (Option Wrapper)) :
    Prop where
  /-- Each wrapper holds the very object of its place, and gaps are where they were. -/
  holds : ws.map (·.map (·.native)) = xs
  /-- Unwrapping gives the objects and the gaps back. -/
  unwrapped : (unwrapAll target (ws.map (·.map (·.adapter)))).result = .ok xs
  /-- Without gaps, so does unwrapping that allows none. -/
  unwrappedRequired : ∀ natives, xs = natives.map some →
    (unwrapAllRequired target (ws.map (·.map (·.adapter)))).result = .ok natives
  /-- Another wrapper of any kind is equal to one of these exactly if it holds the same object. -/
  equal : ∀ (i : Nat) (native : Native) (w : Wrapper),
    xs[i]? = some (some native) → ws[i]? = some (some w) →
    ∀ v : Wrapper, w.sameNative v = true ↔ v.native = native
  /-- Equal wrappers have equal hashes. -/
  hash : ∀ w, some w ∈ ws → ∀ v : Wrapper, w.sameNative v = true →
    ∀ {η : Type} (write : η → Nat → η) place state,
      w.hashInto write place state = v.hashInto write place state
  /-- No wrapper can be unwrapped at another type. -/
  foreign : ∀ other, other ≠ target → ∀ w, some w ∈ ws →
    unwrap other (some w.adapter) = .error (.unsupportedImplementation other)

section

variable {target : String} {xs : List (Option Native)} {ws : List (Option Wrapper)}

theorem unwrapAll_of_holds (typed : ∀ w, some w ∈ ws → w.native.typeName = target) :
    (unwrapAll target (ws.map (·.map (·.adapter)))).result = .ok (ws.map (·.map (·.native))) := by
  refine result_convertFrom_map (fun w hw _ => ?_) 0
  cases w with
  | none => rfl
  | some w => exact unwrap_of_exposes (w.exposes_iff.mpr ⟨rfl, typed w hw⟩)

theorem unwrapAllRequired_of_holds {vs : List Wrapper}
    (typed : ∀ w ∈ vs, w.native.typeName = target) :
    (unwrapAllRequired target ((vs.map some).map (·.map (·.adapter)))).result
      = .ok (vs.map (·.native)) := by
  rw [List.map_map]
  refine result_convertFrom_map (fun w hw _ => ?_) 0
  exact rawNative_eq_ok_iff.mpr (w.exposes_iff.mpr ⟨rfl, typed w hw⟩)

/-- Where no object is missing no wrapper is. -/
theorem exists_of_map_eq_map_some {natives : List Native}
    (h : ws.map (·.map (·.native)) = natives.map some) :
    ∃ vs : List Wrapper, ws = vs.map some ∧ natives = vs.map (·.native) := by
  induction natives generalizing ws with
  | nil => exact ⟨[], List.map_eq_nil_iff.mp h, rfl⟩
  | cons native natives ih =>
    obtain ⟨w, rest, rfl, hw, hrest⟩ := List.map_eq_cons_iff.mp h
    obtain ⟨v, rfl, rfl⟩ := Option.map_eq_some_iff.mp hw
    obtain ⟨vs, rfl, rfl⟩ := ih hrest
    exact ⟨v :: vs, rfl, rfl⟩

/-- All answers follow from which objects the wrappers hold. -/
theorem standsFor_of_holds (typed : ∀ native, some native ∈ xs → native.typeName = target)
    (h : ws.map (·.map (·.native)) = xs) : StandsFor target xs ws := by
  have htyped : ∀ w, some w ∈ ws → w.native.typeName = target := by
    intro w hw
    refine typed w.native ?_
    rw [← h]
    exact List.mem_map_of_mem (f := Option.map Wrapper.native) hw
  constructor
  case holds => exact h
  case unwrapped => exact h ▸ unwrapAll_of_holds htyped
  case unwrappedRequired =>
    intro natives hnatives
    obtain ⟨vs, rfl, rfl⟩ := exists_of_map_eq_map_some (h.trans hnatives)
    exact unwrapAllRequired_of_holds fun w hw => htyped w (List.mem_map_of_mem hw)
  case equal =>
    intro i native w hnative hw v
    have hheld : w.native = native := by
      rw [← h, List.getElem?_map, hw] at hnative
      simpa using hnative
    rw [Wrapper.sameNative, decide_eq_true_iff, hheld]
    exact eq_comm
  case hash =>
    intro w _ v hsame η write place state
    rw [Wrapper.hashInto, Wrapper.hashInto, of_decide_eq_true hsame]
  case foreign =>
    intro other hne w hw
    have hnone : ∀ native, ¬ w.adapter.Exposes other native := by
      intro native hexposes
      obtain ⟨rfl, htype⟩ := w.exposes_iff.mp hexposes
      exact hne (htype.symm.trans (htyped w hw))
    rw [unwrap, rawNative_of_unsupported hnone]
    rfl

end

/-! ## The round trip -/

open Interleaving

/-- Wrappers that stand for native objects now, and go on doing so once they are among the live
objects, whatever calls are interleaved: these may dispose of any of the wrappers, and wrap any of
the objects anew, as owned ones too. -/
structure Lasting (target : String) (xs : List (Option Native)) (ws : List (Option Wrapper)) :
    Prop where
  now : StandsFor target xs ws
  later : ∀ (o : Objects) (rule : Rule) (s s' : State), s.objects = (o.addWrappers ws).2 →
    Run rule s s' → StandsFor target xs (s'.objects.wrappersAt (o.addWrappers ws).1)

theorem lasting_of_holds {target : String} {xs : List (Option Native)}
    {ws : List (Option Wrapper)} (typed : ∀ native, some native ∈ xs → native.typeName = target)
    (h : ws.map (·.map (·.native)) = xs) : Lasting target xs ws := by
  constructor
  case now => exact standsFor_of_holds typed h
  case later =>
    intro o rule s s' hs hrun
    have hbefore : s.objects.Holding (o.addWrappers ws).1 xs := by
      rw [hs, ← h]
      exact o.holding_addWrappers ws
    exact standsFor_of_holds typed (hrun.holding hbefore).map_native_wrappersAt

/-- What wrapping the native objects `xs` of a type comes to. -/
structure RoundTrip (target : String) (xs : List (Option Native)) : Prop where
  /-- Wrapping succeeds, with wrappers that stand for the objects. -/
  wrapped : ∃ ws, (wrapAll xs).result = .ok ws ∧ Lasting target xs ws
  /-- Where no object is missing, so does wrapping that allows no gaps, with equal wrappers. -/
  wrappedRequired : ∀ natives : List Native, xs = natives.map some →
    ∃ ws vs, (wrapAll xs).result = .ok ws ∧ (wrapAllRequired xs).result = .ok vs ∧
      Lasting target xs (vs.map some) ∧
      List.Forall₂ (fun w v => ∃ u : Wrapper, w = some u ∧ u.sameNative v = true) ws vs

theorem result_wrapAll (xs : List (Option Native)) : (wrapAll xs).result = .ok (xs.map wrap) := by
  have h : (wrapAll (xs.map id)).result = .ok (xs.map wrap) := by
    refine result_convertFrom_map (fun x _ _ => ?_) 0
    rfl
  rwa [List.map_id] at h

theorem result_wrapAllRequired (natives : List Native) :
    (wrapAllRequired (natives.map some)).result = .ok (natives.map .borrowed) := by
  refine result_convertFrom_map (fun native _ _ => ?_) 0
  rfl

/-- Native objects of a type come back from their wrappers as they went in, at any later time. -/
theorem wrapped_comes_back {target : String} {xs : List (Option Native)}
    (typed : ∀ native, some native ∈ xs → native.typeName = target) : RoundTrip target xs := by
  constructor
  case wrapped =>
    refine ⟨xs.map wrap, result_wrapAll xs, lasting_of_holds typed ?_⟩
    rw [List.map_map]
    refine List.map_id'' (fun x => ?_) xs
    cases x <;> rfl
  case wrappedRequired =>
    rintro natives rfl
    refine ⟨_, _, result_wrapAll _, result_wrapAllRequired natives, lasting_of_holds typed ?_, ?_⟩
    · rw [List.map_map, List.map_map]
      rfl
    · rw [List.map_map, List.forall₂_map_left_iff, List.forall₂_map_right_iff, List.forall₂_same]
      intro native _
      exact ⟨.borrowed native, rfl, decide_eq_true rfl⟩

/-- A wrapper is disposed of, then its object is wrapped anew as an owned one and closed. -/
def disposedAndOwned : List Choice :=
  .begin 0 (.dispose ⟨0⟩) :: goOn 0 16 ++
  .begin 0 (.makeWrapper .owned ⟨"Counter", 1⟩) :: goOn 0 16 ++
  .begin 0 (.dispose ⟨3⟩) :: goOn 0 16 ++ .answer 0 (.ok ()) :: goOn 0 16

/-- An object that is there twice, a gap, and another object; later on a wrapper is disposed of and
the object closed. -/
theorem wrapped_comes_back_repeated :
    let xs : List (Option Native) :=
      [some ⟨"Counter", 1⟩, none, some ⟨"Counter", 2⟩, some ⟨"Counter", 1⟩]
    let ids := (Objects.empty.addWrappers (xs.map wrap)).1
    let s : State := ⟨(Objects.empty.addWrappers (xs.map wrap)).2, [], 0, []⟩
    let s' := s.follow Rule.any disposedAndOwned
    (∀ native, some native ∈ xs → native.typeName = "Counter") ∧ RoundTrip "Counter" xs ∧
      StandsFor "Counter" xs (s'.objects.wrappersAt ids) ∧
      (s'.objects.wrappersAt ids).map (·.map (·.disposed))
        = [some true, none, some false, some false] ∧
      (s'.objects.wrapper? ⟨3⟩).map (fun w => (w.ownership, w.closed)) = some (.owned, true) := by
  intro xs ids s s'
  have htyped : ∀ native, some native ∈ xs → native.typeName = "Counter" := by simp [xs]
  have hround : RoundTrip "Counter" xs := wrapped_comes_back htyped
  obtain ⟨ws, hws, hlasting⟩ := hround.wrapped
  obtain rfl := Except.ok.inj ((result_wrapAll xs).symm.trans hws)
  refine ⟨htyped, hround, hlasting.later .empty Rule.any s s' rfl (.follow s _), ?_⟩
  decide +kernel

end Conversion
end Hostlink
