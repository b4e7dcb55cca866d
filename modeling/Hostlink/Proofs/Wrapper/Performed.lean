import Hostlink.Proofs.Bridge.Performed

/-!
# Wrappers disposed of without interruption

What single operations on a wrapper return.  Disposing and dropping return as long as the client's
code for unregistering and closing does.
-/

namespace Hostlink

open Activity

variable {σ : Type} {service : Service σ} {held : List Lock} {result : Except HostError Unit}

/-- Whether calls to close a native object return `result`, with the locks as they were. -/
def Service.Closes (service : Service σ) (result : Except HostError Unit) : Prop :=
  ∀ native held world, ∃ world', service (.close native) held world = ⟨.returned result, held, world'⟩

namespace WrapperId

variable {w : WrapperId}

/-- A view of a wrapper shows it as it is. -/
theorem view_returnsWith {α : Type} (default : α) (f : Wrapper → α) (world : World σ) :
    (w.view default f).ReturnsWith service held world
      (((world.objects.wrapper? w).map f).getD default) :=
  ⟨world, rfl⟩

/-- Closing returns what the close returns, unless there is nothing to close. -/
theorem closeNative_returnsWith (hclose : service.Closes result) (hlock : .closing w ∉ held)
    (world : World σ) :
    ∃ result', w.closeNative.ReturnsWith service held world result' ∧
      (result' = .ok () ∨ result' = result) := by
  unfold closeNative
  cases hw : world.objects.wrapper? w with
  | none =>
    refine ⟨.ok (), .bind ⟨world, rfl⟩ fun world' => ?_, Or.inl rfl⟩
    simp only [hw]
    exact ⟨world', rfl⟩
  | some wrapper =>
    cases howns : wrapper.ownership with
    | borrowed =>
      refine ⟨.ok (), .bind ⟨world, rfl⟩ fun world' => ?_, Or.inl rfl⟩
      simp only [hw, howns]
      exact ⟨world', rfl⟩
    | owned =>
      obtain ⟨world', hanswer⟩ := hclose wrapper.native (.closing w :: held) world
      cases hclosed : wrapper.closed with
      | true =>
        refine ⟨.ok (), ⟨world, ?_⟩, Or.inl rfl⟩
        simp [Bind.bind, Pure.pure, Activity.bind, inspect, take, give,
          run, view, Effect.apply, hw, howns, hclosed, hlock]
      | false =>
        refine ⟨result, ?_, Or.inr rfl⟩
        cases result with
        | ok value =>
          refine ⟨{ world' with objects := (Effect.markClosed w).apply world'.objects }, ?_⟩
          simp [Bind.bind, Pure.pure, Activity.bind, inspect, take,
            give, upcall, update, run, Ending.andThen, view,
            Effect.apply, hw, howns, hclosed, hlock, hanswer]
        | error e =>
          refine ⟨world', ?_⟩
          simp [Bind.bind, Pure.pure, Activity.bind, inspect, take,
            give, upcall, run, Ending.andThen, view, Effect.apply, hw,
            howns, hclosed, hlock, hanswer]

/-- Disposing returns what the close returns, unless there is nothing to close. -/
theorem dispose_returnsWith (hunregister : service.Unregisters) (hclose : service.Closes result)
    (world : World σ) :
    ∃ result', w.dispose.ReturnsWith service [] world result' ∧
      (result' = .ok () ∨ result' = result) := by
  have hcloses : ∀ world : World σ, ∃ result', w.closeNative.ReturnsWith service [] world result' ∧
      (result' = .ok () ∨ result' = result) :=
    fun world => closeNative_returnsWith hclose List.not_mem_nil world
  refine ReturnsWith.bind_exists (.exchange _ _ world) fun world₁ => ?_
  cases ((world.objects.wrapper? w).map (·.disposed)).getD true with
  | true => exact hcloses world₁
  | false =>
    refine ReturnsWith.bind_exists (BridgeId.releaseAll_returnsWith hunregister (by simp) (by simp))
      fun world₂ => ?_
    refine ReturnsWith.bind_exists (.inspect _ world₂) fun world₃ => ?_
    cases world₂.objects.wrapper? w with
    | some wrapper => exact ReturnsWith.bind_exists (.exchange _ _ world₃) hcloses
    | none => exact hcloses world₃

/-- Dropping returns. -/
theorem drop_returnsWith (hunregister : service.Unregisters) (hclose : service.Closes result)
    (world : World σ) : w.drop.ReturnsWith service [] world () := by
  obtain ⟨result', hdispose, _⟩ := dispose_returnsWith (w := w) hunregister hclose world
  refine .bind hdispose fun world₁ => ?_
  cases result' with
  | ok value => exact ⟨world₁, rfl⟩
  | error e =>
    refine .bind (.inspect _ world₁) fun world₂ => ?_
    cases world₁.objects.wrapper? w with
    | some wrapper => exact .exchange _ _ world₂
    | none => exact ⟨world₂, rfl⟩

end WrapperId
end Hostlink
