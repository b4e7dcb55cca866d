import Hostlink.Proofs.Event.Run
import Hostlink.Proofs.Notifying.Wiring

/-!
# Wiring by operations

The changes that attaching, detaching and disposing consist of.  Attaching makes the native callback
before the event gets it; detaching takes native callbacks from the event before their records go.
-/

namespace Hostlink.Notifying

variable {o : Objects} {s : SourceId} {a : NetworkAdapter} {f : FunctionId}

/-! ## Attaching -/

/-- Attaching on a live adapter links a native callback, and then the event gets it. -/
theorem changes_on {source : StatusSource} {entries : List Registration} (hw : Wired o)
    (hk : o.wrapper? a.wrapper = some (adapterWrapper a.source source.changed entries false))
    (hf : o.function f = ⟨f, []⟩) :
    Changes o (((o.addBridged f .availability).modifyEvent source.changed
      (·.add o.nextFunction)).modifyTable (.ofWrapper a.wrapper)
        (·.push NetworkAdapter.availabilityChanged ⟨f, o.nextFunction⟩)) := by
  let push := fun found : Wrapper => { found with
    callbacks := found.callbacks.push NetworkAdapter.availabilityChanged ⟨f, o.nextFunction⟩ }
  have hg : push (adapterWrapper a.source source.changed entries false) =
      adapterWrapper a.source source.changed (entries ++ [⟨f, o.nextFunction⟩]) false :=
    congrArg (fun callbacks => { adapterWrapper a.source source.changed entries false with callbacks })
      (CallbackTable.modifyMember_sole _)
  let linked := (o.addBridged f .availability).modifyWrapper a.wrapper push
  have hlink : Change o linked := .link hk hf hg
  have hattached : Attached linked a.wrapper source.changed o.nextFunction := by
    refine ⟨a.source, entries ++ [⟨f, o.nextFunction⟩], false, ?_, by simp⟩
    rw [Objects.wrapper?_modifyWrapper_self]
    exact (congrArg (Option.map push) hk).trans (congrArg some hg)
  have hfresh : o.nextFunction ∉ (o.event source.changed).handlers :=
    fun hmem => Nat.lt_irrefl _ (hw.handlers _ _ hmem).1
  exact .tail (.single hlink)
    (.add (hasFunction_addBridged_next o f _) (Or.inr ⟨⟨_, hattached⟩, hfresh⟩))

/-! ## Detaching -/

/-- What an event has of a native callback after it has been removed. -/
theorem count_foldl_remove (natives : List FunctionId) (m : Multicast FunctionId) (f : FunctionId) :
    (natives.foldl Multicast.remove m).handlers.count f = m.handlers.count f - natives.count f := by
  induction natives generalizing m with
  | nil => rfl
  | cons native rest ih =>
    rw [List.foldl_cons, ih, Multicast.remove, count_eraseLast, List.count_cons]
    by_cases h : native = f
    · simp [h, Nat.sub_sub, Nat.add_comm]
    · simp [h]

theorem foldl_remove_sublist (natives : List FunctionId) (m : Multicast FunctionId) :
    (natives.foldl Multicast.remove m).handlers.Sublist m.handlers := by
  induction natives generalizing m with
  | nil => exact .refl _
  | cons native rest ih => exact (ih _).trans (eraseLast_sublist _ _)

/-- An event does not have the native callbacks any more that have been removed from it. -/
theorem not_mem_of_removed {k : WrapperId} {e : EventId} {natives : List FunctionId} (hw : Wired o)
    (hf : Attached o k e f) (hmem : f ∈ natives) :
    f ∉ ((o.modifyEvent e (natives.foldl Multicast.remove)).event e).handlers := by
  have hempty : natives.foldl Multicast.remove .empty = .empty := by
    have hsub := foldl_remove_sublist natives .empty
    exact congrArg Multicast.mk (List.sublist_nil.mp hsub)
  rw [Objects.event_modifyEvent_of_empty o e hempty, ← List.count_eq_zero, count_foldl_remove]
  have honce := hw.once e f (hw.attached _ e f hf).2
  have hpos := List.count_pos_iff.mpr hmem
  omega

/-- Handlers are removed first, and then the records of them. -/
theorem changes_unlink {k : WrapperId} {e : EventId} {entries entries' : List Registration}
    {disposed disposed' : Bool} {g : Wrapper → Wrapper} (natives : List FunctionId) (hw : Wired o)
    (hk : o.wrapper? k = some (adapterWrapper s e entries disposed))
    (hg : g (adapterWrapper s e entries disposed) = adapterWrapper s e entries' disposed')
    (stays : disposed = true → disposed' = true) (ended : disposed' = true → entries' = [])
    (sub : entries' ⊆ entries) (gone : ∀ x ∈ entries, x ∈ entries' ∨ x.native ∈ natives) :
    Changes o ((o.modifyWrapper k g).modifyEvent e (natives.foldl Multicast.remove)) := by
  let removed := o.modifyEvent e (natives.foldl Multicast.remove)
  have hremove : Change o removed := .remove (foldl_remove_sublist natives _)
  have hk' : removed.wrapper? k = some (adapterWrapper s e entries disposed) := hk
  refine .tail (.single hremove) (.unlink hk' hg stays ended sub fun x hx => ?_)
  have hattached : Attached o k e x.native := ⟨s, entries, disposed, hk, List.mem_map_of_mem hx⟩
  exact (gone x hx).imp id fun hmem => not_mem_of_removed hw hattached hmem

/-- What is erased is what was found. -/
theorem mem_eraseP_or_eq {γ : Type} {p : γ → Bool} {x y : γ} {xs : List γ}
    (hfound : xs.find? p = some y) (hx : x ∈ xs) : x ∈ xs.eraseP p ∨ x = y := by
  induction xs with
  | nil => cases hx
  | cons z zs ih =>
    cases hp : p z with
    | true =>
      obtain rfl : z = y := by simpa [List.find?_cons, hp] using hfound
      rw [List.eraseP_cons_of_pos hp]
      exact (List.mem_cons.mp hx).symm
    | false =>
      rw [List.eraseP_cons_of_neg (by simp [hp])]
      rcases List.mem_cons.mp hx with rfl | hx
      · exact Or.inl List.mem_cons_self
      · exact (ih (by simpa [List.find?_cons, hp] using hfound) hx).imp (List.mem_cons_of_mem _) id

/-- Detaching. -/
theorem changes_off {source : StatusSource} {entries : List Registration} {disposed : Bool}
    {entry : Registration} (hw : Wired o)
    (hk : o.wrapper? a.wrapper = some (adapterWrapper a.source source.changed entries disposed))
    (hend : disposed = true → entries = [])
    (hfound : (o.table a.bridge).first? NetworkAdapter.availabilityChanged f = some entry) :
    Changes o ((o.modifyTable (.ofWrapper a.wrapper)
      (·.detach NetworkAdapter.availabilityChanged f)).modifyEvent source.changed
        (·.remove entry.native)) := by
  let table := (adapterWrapper a.source source.changed entries disposed).callbacks
  have htable : o.table a.bridge = table := by
    rw [NetworkAdapter.bridge, Objects.table, hk]
    rfl
  rw [htable] at hfound
  have hfind : entries.find? (·.caller = f) = some entry := by
    have hentries : table.entries NetworkAdapter.availabilityChanged = entries :=
      CallbackTable.entries_sole
    rw [← hfound, CallbackTable.first?, hentries]
  have hdetach : table.detach NetworkAdapter.availabilityChanged f =
      (adapterWrapper a.source source.changed (entries.eraseP (·.caller = f)) disposed).callbacks := by
    rw [CallbackTable.detach, hfound]
    exact CallbackTable.modifyMember_sole _
  refine changes_unlink [entry.native] hw hk
    (congrArg (fun callbacks => { adapterWrapper a.source source.changed entries disposed with
      callbacks }) hdetach) id ?_ List.eraseP_subset ?_
  · intro hdisposed
    rw [hend hdisposed]
    rfl
  · intro x hx
    refine (mem_eraseP_or_eq hfind hx).imp id ?_
    rintro rfl
    exact List.mem_singleton.mpr rfl

/-- Disposing for the first time. -/
theorem changes_dispose {source : StatusSource} {entries : List Registration} (hw : Wired o)
    (hk : o.wrapper? a.wrapper = some (adapterWrapper a.source source.changed entries false)) :
    Changes o ((o.modifyWrapper a.wrapper fun found =>
      { found with disposed := true, callbacks := found.callbacks.drained }).modifyEvent
        source.changed ((entries.map (·.native)).foldl Multicast.remove)) := by
  let close := fun found : Wrapper =>
    { found with disposed := true, callbacks := found.callbacks.drained }
  have hg : close (adapterWrapper a.source source.changed entries false) =
      adapterWrapper a.source source.changed [] true := rfl
  exact changes_unlink (entries.map (·.native)) hw hk hg (fun _ => rfl) (fun _ => rfl)
    (List.nil_subset _) fun x hx => Or.inr (List.mem_map_of_mem hx)

end Hostlink.Notifying
