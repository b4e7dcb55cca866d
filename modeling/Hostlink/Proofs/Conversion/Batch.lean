import Mathlib.Data.List.Forall2
import Hostlink.Conversion

/-!
# Conversion of sequences

A conversion of a sequence gives all results in order, or fails with the first element that cannot
be converted and leaves what comes after it alone.  `Batched.Law` says so for any notion of a bad
element; the conversions of this library differ in what is bad and in what is reported about it.
-/

namespace Hostlink

/-- Whether an adapter exposes a shared reference to a native object of a type. -/
def Adapter.Exposes (target : String) (adapter : Adapter) (native : Native) : Prop :=
  adapter.raw = some (.shared native) ∧ native.typeName = target

/-- A wrapper exposes its native object, whoever owns it and whether or not it is disposed of. -/
theorem Wrapper.exposes_iff {target : String} {w : Wrapper} {native : Native} :
    w.adapter.Exposes target native ↔ w.native = native ∧ native.typeName = target := by
  simp [adapter, Adapter.Exposes]

namespace Conversion

/-! ## The order of a conversion -/

section

variable {α β : Type} {convert : Nat → α → Except HostError β}

/-- Elements that can all be converted are. -/
theorem convertFrom_of_forall₂ {xs : List α} {ys : List β}
    (h : List.Forall₂ (fun x y => ∀ i, convert i x = .ok y) xs ys) (index : Nat) :
    convertFrom convert index xs = ⟨.ok ys, xs.length⟩ := by
  induction h generalizing index with
  | nil => rfl
  | cons hx _ ih =>
    simp only [convertFrom, hx index, ih (index + 1)]
    rfl

theorem result_convertFrom_map {ι : Type} {f : ι → α} {g : ι → β} {is : List ι}
    (h : ∀ x ∈ is, ∀ i, convert i (f x) = .ok (g x)) (index : Nat) :
    (convertFrom convert index (is.map f)).result = .ok (is.map g) := by
  have hconvert : List.Forall₂ (fun x y => ∀ i, convert i x = .ok y) (is.map f) (is.map g) := by
    rw [List.forall₂_map_left_iff, List.forall₂_map_right_iff, List.forall₂_same]
    exact h
  rw [convertFrom_of_forall₂ hconvert]

/-- The first element that cannot be converted ends the conversion. -/
theorem convertFrom_of_failed {earlier : List α} {ys : List β} {x : α} {e : HostError}
    (h : List.Forall₂ (fun x y => ∀ i, convert i x = .ok y) earlier ys) (index : Nat)
    (hx : convert (index + earlier.length) x = .error e) (later : List α) :
    convertFrom convert index (earlier ++ x :: later) = ⟨.error e, earlier.length + 1⟩ := by
  induction h generalizing index with
  | nil =>
    simp only [List.nil_append, convertFrom]
    rw [show convert index x = .error e from hx]
    rfl
  | @cons y _ rest _ hy _ ih =>
    have hrest := ih (index + 1) (by
      rwa [List.length_cons, Nat.add_comm _ 1, ← Nat.add_assoc] at hx)
    simp only [List.cons_append, convertFrom, hy index, hrest]
    rfl

/-- What has been converted as a whole has been converted element by element. -/
theorem forall₂_of_convertFrom {xs : List α} {ys : List β} {index : Nat}
    (h : (convertFrom convert index xs).result = .ok ys) :
    List.Forall₂ (fun x y => ∃ i, convert i x = .ok y) xs ys := by
  induction xs generalizing index ys with
  | nil =>
    obtain rfl := Except.ok.inj h
    exact .nil
  | cons x rest ih =>
    cases hx : convert index x with
    | error e => simp [convertFrom, hx] at h
    | ok y =>
      cases hrest : (convertFrom convert (index + 1) rest).result with
      | error e =>
        simp only [convertFrom, hx, hrest] at h
        cases h
      | ok zs =>
        simp only [convertFrom, hx, hrest] at h
        obtain rfl := Except.ok.inj h
        exact .cons ⟨index, hx⟩ (ih hrest)

/-- Two conversions agree where the first one succeeds if they do so for single elements. -/
theorem result_convertFrom_agree {γ : Type} {convert' : Nat → α → Except HostError γ} {f : β → γ}
    (h : ∀ i x y, convert i x = .ok y → ∀ j, convert' j x = .ok (f y)) {xs : List α} {ys : List β}
    {index : Nat} (hys : (convertFrom convert index xs).result = .ok ys) :
    (convertFrom convert' index xs).result = .ok (ys.map f) := by
  have hconvert : List.Forall₂ (fun x z => ∀ i, convert' i x = .ok z) xs (ys.map f) := by
    rw [List.forall₂_map_right_iff]
    refine (forall₂_of_convertFrom hys).imp ?_
    rintro x y ⟨i, hx⟩
    exact h i x y hx
  rw [convertFrom_of_forall₂ hconvert]

/-- What a conversion of a sequence comes to, with a notion of what is bad about an element, of what
is reported about a bad one at a position, and of what an element is converted to. -/
structure Batched.Law (bad : α → Prop) (fault : Nat → α → HostError) (good : α → β → Prop)
    (xs : List α) (b : Batched β) : Prop where
  /-- Without bad elements everything is taken and converted, each element in its place. -/
  whole : (∀ x ∈ xs, ¬ bad x) →
    b.consumed = xs.length ∧ ∃ ys, b.result = .ok ys ∧ List.Forall₂ good xs ys
  /-- The first bad element is reported, and nothing behind it is taken. -/
  stopped : ∀ earlier x later, xs = earlier ++ x :: later → (∀ y ∈ earlier, ¬ bad y) → bad x →
    b.result = .error (fault earlier.length x) ∧ b.consumed = earlier.length + 1

/-- A conversion keeps the law if it does so for single elements. -/
theorem law_convertFrom {bad : α → Prop} {fault : Nat → α → HostError} {good : α → β → Prop}
    (hgood : ∀ x, ¬ bad x → ∃ y, good x y ∧ ∀ i, convert i x = .ok y)
    (hbad : ∀ i x, bad x → convert i x = .error (fault i x)) (xs : List α) :
    (convertFrom convert 0 xs).Law bad fault good xs := by
  have hconverted : ∀ xs : List α, (∀ x ∈ xs, ¬ bad x) →
      ∃ ys, List.Forall₂ good xs ys ∧ List.Forall₂ (fun x y => ∀ i, convert i x = .ok y) xs ys := by
    intro xs hxs
    induction xs with
    | nil => exact ⟨[], .nil, .nil⟩
    | cons x rest ih =>
      obtain ⟨y, hy, hconvert⟩ := hgood x (hxs x List.mem_cons_self)
      obtain ⟨ys, hys, hrest⟩ := ih fun x hx => hxs x (List.mem_cons_of_mem _ hx)
      exact ⟨y :: ys, .cons hy hys, .cons hconvert hrest⟩
  constructor
  case whole =>
    intro hxs
    obtain ⟨ys, hys, hconvert⟩ := hconverted xs hxs
    rw [convertFrom_of_forall₂ hconvert]
    exact ⟨rfl, ys, rfl, hys⟩
  case stopped =>
    rintro earlier x later rfl hearlier hx
    obtain ⟨ys, _, hconvert⟩ := hconverted earlier hearlier
    rw [convertFrom_of_failed hconvert 0 (by rw [Nat.zero_add]; exact hbad _ x hx)]
    exact ⟨rfl, rfl⟩

end

/-! ## Gaps and strangers -/

/-- What cannot be unwrapped where gaps are allowed: an adapter that exposes no object of the wanted
type. -/
def Unsupported (target : String) (x : Option Adapter) : Prop :=
  ∃ adapter, x = some adapter ∧ ∀ native, ¬ adapter.Exposes target native

/-- What cannot be unwrapped where gaps are not allowed. -/
def MissingOrUnsupported (target : String) (x : Option Adapter) : Prop :=
  x = none ∨ Unsupported target x

/-- What is reported about an element that cannot be unwrapped. -/
def fault (target : String) (index : Nat) : Option Adapter → HostError
  | none => .nullElement index
  | some _ => .unsupportedImplementation target

section

variable {target : String} {adapter : Adapter} {native : Native}

theorem rawNative_eq_ok_iff :
    rawNative target adapter = .ok native ↔ adapter.Exposes target native := by
  obtain ⟨raw⟩ := adapter
  cases raw with
  | none => simp [rawNative, Adapter.Exposes]
  | some exposed =>
    cases exposed with
    | other typeName => simp [rawNative, Adapter.Exposes]
    | shared found =>
      by_cases htype : found.typeName = target
      · simp only [rawNative, htype, if_true, Adapter.Exposes, Except.ok.injEq, Option.some.injEq,
          Exposed.shared.injEq]
        exact ⟨fun heq => ⟨heq, heq ▸ htype⟩, And.left⟩
      · simp only [rawNative, htype, if_false, Adapter.Exposes, reduceCtorEq, Option.some.injEq,
          Exposed.shared.injEq, false_iff]
        exact fun heq => htype (heq.1 ▸ heq.2)

theorem rawNative_eq_error {e : HostError} (h : rawNative target adapter = .error e) :
    e = .unsupportedImplementation target := by
  unfold rawNative at h
  split at h
  next =>
    split at h
    next => cases h
    next => exact (Except.error.inj h).symm
  next => exact (Except.error.inj h).symm

theorem rawNative_of_unsupported (h : ∀ native, ¬ adapter.Exposes target native) :
    rawNative target adapter = .error (.unsupportedImplementation target) := by
  cases hraw : rawNative target adapter with
  | ok native => exact absurd (rawNative_eq_ok_iff.mp hraw) (h native)
  | error e => rw [rawNative_eq_error hraw]

theorem exists_exposes_of_supported (h : ¬ Unsupported target (some adapter)) :
    ∃ native, adapter.Exposes target native := by
  by_contra hnone
  exact h ⟨adapter, rfl, not_exists.mp hnone⟩

theorem unwrap_of_exposes (h : adapter.Exposes target native) :
    unwrap target (some adapter) = .ok (some native) := by
  rw [unwrap, rawNative_eq_ok_iff.mpr h]
  rfl

end

theorem law_unwrapAll (target : String) (xs : List (Option Adapter)) :
    (unwrapAll target xs).Law (Unsupported target) (fault target)
      (Option.Rel fun adapter native => adapter.Exposes target native) xs := by
  refine law_convertFrom (fun x hx => ?_) (fun i x hx => ?_) xs
  · cases x with
    | none => exact ⟨none, .none, fun _ => rfl⟩
    | some adapter =>
      obtain ⟨native, hnative⟩ := exists_exposes_of_supported hx
      exact ⟨some native, .some hnative, fun _ => unwrap_of_exposes hnative⟩
  · obtain ⟨adapter, rfl, hnone⟩ := hx
    rw [unwrap, rawNative_of_unsupported hnone]
    rfl

theorem law_unwrapAllRequired (target : String) (xs : List (Option Adapter)) :
    (unwrapAllRequired target xs).Law (MissingOrUnsupported target) (fault target)
      (fun x native => ∃ adapter, x = some adapter ∧ adapter.Exposes target native) xs := by
  refine law_convertFrom (fun x hx => ?_) (fun i x hx => ?_) xs
  · cases x with
    | none => exact absurd (Or.inl rfl) hx
    | some adapter =>
      obtain ⟨native, hnative⟩ := exists_exposes_of_supported fun h => hx (Or.inr h)
      exact ⟨native, ⟨adapter, rfl, hnative⟩, fun _ => rawNative_eq_ok_iff.mpr hnative⟩
  · rcases hx with rfl | ⟨adapter, rfl, hnone⟩
    · rfl
    · exact rawNative_of_unsupported hnone

theorem law_wrapAllRequired (xs : List (Option Native)) :
    (wrapAllRequired xs).Law (· = none) (fun i _ => .nullElement i)
      (fun x w => ∃ native, x = some native ∧ w = .borrowed native) xs := by
  refine law_convertFrom (fun x hx => ?_) (fun i x hx => ?_) xs
  · obtain ⟨native, rfl⟩ := Option.ne_none_iff_exists'.mp hx
    exact ⟨_, ⟨native, rfl, rfl⟩, fun _ => rfl⟩
  · rw [hx]
    rfl

/-! ## The law of batches -/

/-- How the conversions of sequences fail, and that they do not fail otherwise. -/
structure BatchLaw (target : String) : Prop where
  /-- Unwrapping with gaps stops at the first adapter that is not supported. -/
  unwrapping : ∀ xs, (unwrapAll target xs).Law (Unsupported target) (fault target)
    (Option.Rel fun adapter native => adapter.Exposes target native) xs
  /-- Unwrapping without gaps stops at the first gap or adapter that is not supported. -/
  unwrappingRequired : ∀ xs,
    (unwrapAllRequired target xs).Law (MissingOrUnsupported target) (fault target)
      (fun x native => ∃ adapter, x = some adapter ∧ adapter.Exposes target native) xs
  /-- Where unwrapping without gaps succeeds, unwrapping with gaps gives the same. -/
  unwrappedAlike : ∀ xs natives, (unwrapAllRequired target xs).result = .ok natives →
    (unwrapAll target xs).result = .ok (natives.map some)
  /-- Wrapping without gaps stops at the first gap. -/
  wrappingRequired : ∀ xs, (wrapAllRequired xs).Law (· = none) (fun i _ => .nullElement i)
    (fun x w => ∃ native, x = some native ∧ w = .borrowed native) xs
  /-- Where wrapping without gaps succeeds, wrapping with gaps gives the same. -/
  wrappedAlike : ∀ xs ws, (wrapAllRequired xs).result = .ok ws →
    (wrapAll xs).result = .ok (ws.map some)
  /-- Every wrapper over the wanted type is supported, and no other one is. -/
  wrappers : ∀ (w : Wrapper) native,
    w.adapter.Exposes target native ↔ w.native = native ∧ native.typeName = target

/-- A conversion of a sequence fails with its first bad element, and only with one. -/
theorem batches_stop_at_first (target : String) : BatchLaw target := by
  constructor
  case unwrapping => exact law_unwrapAll target
  case unwrappingRequired => exact law_unwrapAllRequired target
  case unwrappedAlike =>
    intro xs natives hnatives
    refine result_convertFrom_agree (fun i x native hx j => ?_) hnatives
    cases x with
    | none => cases hx
    | some adapter => exact unwrap_of_exposes (rawNative_eq_ok_iff.mp hx)
  case wrappingRequired => exact law_wrapAllRequired
  case wrappedAlike =>
    intro xs ws hws
    refine result_convertFrom_agree (fun i x w hx j => ?_) hws
    cases x with
    | none => cases hx
    | some native =>
      obtain rfl := Except.ok.inj hx
      rfl
  case wrappers => exact fun w native => w.exposes_iff

/-- A gap in front of an adapter that is not supported is reported, and the adapter is not looked
at. -/
example : unwrapAllRequired "i64" [some (Wrapper.owned ⟨"i64", 0⟩).adapter, none, some ⟨none⟩]
    = ⟨.error (.nullElement 1), 2⟩ := rfl

end Conversion
end Hostlink
