import Hostlink.Proofs.Bridge.Table
import Hostlink.Proofs.Interleaving.Guarded

/-!
# Operations performed without interruption

What single operations on a bridge return, whatever the client does when it is called.  A release
returns as long as the client's code for unregistering does; on a released bridge attaching and
detaching return without any call of the client.
-/

namespace Hostlink

variable {σ α : Type} {service : Service σ} {held : List Lock}

/-- Whether calls to unregister a callback return, with the locks as they were. -/
def Service.Unregisters (service : Service σ) : Prop :=
  ∀ code native held w, ∃ w', service (.unregister code native) held w = ⟨.returned (), held, w'⟩

/-- Whether calls to register a callback return, with the locks as they were. -/
def Service.Registers (service : Service σ) : Prop :=
  ∀ code native held w, ∃ w', service (.register code native) held w = ⟨.returned (), held, w'⟩

/-- A section under a lock that is not had. -/
theorem Activity.run_locked {lock : Lock} (hlock : lock ∉ held) (f : Objects → α) (effect : Effect)
    (w : World σ) : (Activity.locked lock f effect).run service held w
      = ⟨.returned (f w.objects), held, { w with objects := effect.apply w.objects }⟩ := by
  simp [Activity.locked, Activity.run, hlock]

/-- Whether an activity returns a result, with the locks as they were. -/
def Activity.ReturnsWith (a : Activity σ α) (service : Service σ) (held : List Lock) (w : World σ)
    (result : α) : Prop :=
  ∃ w', a.run service held w = ⟨.returned result, held, w'⟩

namespace Activity.ReturnsWith

theorem bind {β : Type} {a : Activity σ α} {f : α → Activity σ β} {w : World σ} {result : α}
    {result' : β} (h : a.ReturnsWith service held w result)
    (h' : ∀ w', (f result).ReturnsWith service held w' result') :
    (a.bind f).ReturnsWith service held w result' := by
  obtain ⟨w', hrun⟩ := h
  rw [Activity.ReturnsWith, Activity.run_bind, hrun]
  exact h' w'

/-- What follows may return one of several results. -/
theorem bind_exists {β : Type} {a : Activity σ α} {f : α → Activity σ β} {w : World σ} {result : α}
    {P : β → Prop} (h : a.ReturnsWith service held w result)
    (h' : ∀ w', ∃ result', (f result).ReturnsWith service held w' result' ∧ P result') :
    ∃ result', (a.bind f).ReturnsWith service held w result' ∧ P result' := by
  obtain ⟨w', hrun⟩ := h
  obtain ⟨result', hreturns, hP⟩ := h' w'
  refine ⟨result', ?_, hP⟩
  rw [Activity.ReturnsWith, Activity.run_bind, hrun]
  exact hreturns

theorem forEach {xs : List α} {f : α → Activity σ Unit}
    (h : ∀ x ∈ xs, ∀ w, (f x).ReturnsWith service held w ()) (w : World σ) :
    (Activity.forEach xs f).ReturnsWith service held w () := by
  induction xs generalizing w with
  | nil => exact ⟨w, rfl⟩
  | cons x rest ih =>
    refine bind (h x List.mem_cons_self w) fun w' => ?_
    exact ih (fun y hy => h y (List.mem_cons_of_mem _ hy)) w'

theorem inspect (f : Objects → α) (w : World σ) :
    (Activity.inspect f).ReturnsWith service held w (f w.objects) :=
  ⟨w, rfl⟩

theorem exchange (f : Objects → α) (effect : Effect) (w : World σ) :
    (Activity.exchange f effect).ReturnsWith service held w (f w.objects) :=
  ⟨{ w with objects := effect.apply w.objects }, rfl⟩

theorem locked {lock : Lock} (hlock : lock ∉ held) (f : Objects → α) (effect : Effect)
    (w : World σ) : (Activity.locked lock f effect).ReturnsWith service held w (f w.objects) :=
  ⟨_, Activity.run_locked hlock f effect w⟩

theorem answering {a : Activity σ α} {w : World σ} {result : α} (f : α → Answer)
    (h : a.ReturnsWith service held w result) :
    (a.answering f).ReturnsWith service held w (f result) :=
  h.bind fun w' => ⟨w', rfl⟩

end Activity.ReturnsWith

theorem Registrar.returnsWith (hservice : service.Registers) (hheld : ∀ e, .handlers e ∉ held)
    (registrar : Registrar) (native : FunctionId) (w : World σ) :
    (registrar.run native).ReturnsWith service held w () := by
  cases registrar with
  | addTo e => exact .locked (hheld e) _ _ w
  | client code =>
    obtain ⟨w', hanswer⟩ := hservice code native held w
    refine ⟨w', ?_⟩
    simp [Registrar.run, Activity.upcall, Activity.run, hanswer, Ending.andThen]

theorem Hook.returnsWith (hservice : service.Unregisters) (hheld : ∀ e, .handlers e ∉ held)
    (hook : Hook) (native : FunctionId) (w : World σ) :
    (hook.run native).ReturnsWith service held w () := by
  cases hook with
  | removeFrom e => exact .bind (.locked (hheld e) _ _ w) fun w' => ⟨w', rfl⟩
  | client code =>
    obtain ⟨w', hanswer⟩ := hservice code native held w
    refine ⟨w', ?_⟩
    simp [Hook.run, Activity.upcall, Activity.run, hanswer, Ending.andThen]

theorem Batch.returnsWith (hservice : service.Unregisters) (hheld : ∀ e, .handlers e ∉ held)
    (batch : Batch) (w : World σ) : batch.unregister.ReturnsWith service held w () := by
  unfold Batch.unregister
  split
  · exact ⟨w, rfl⟩
  · exact .forEach (fun native _ w => Hook.returnsWith hservice hheld _ native w) w

namespace BridgeId

variable {b : BridgeId} {w : World σ}

/-- A release returns the number of registrations if each batch is unregistered. -/
private theorem releaseAll_returnsWith_aux (htable : .table b ∉ held)
    (hbatches : ∀ batch ∈ (w.objects.table b).batches, ∀ w' : World σ,
      batch.unregister.ReturnsWith service held w' ()) :
    b.releaseAll.ReturnsWith service held w (w.objects.table b).totalLen := by
  have hcount : ((w.objects.table b).batches.flatMap (·.natives)).length
      = (w.objects.table b).totalLen := by
    rw [CallbackTable.natives_batches, List.length_map, CallbackTable.totalLen_eq_length]
  refine .bind (.locked htable _ _ w) fun w' => ?_
  refine .bind (.forEach hbatches w') fun w' => ?_
  dsimp only
  split
  · exact ⟨_, by rw [hcount]; rfl⟩
  · exact ⟨_, by rw [hcount]; rfl⟩

/-- A release returns the number of registrations if unregistering returns. -/
theorem releaseAll_returnsWith (hservice : service.Unregisters) (hheld : ∀ e, .handlers e ∉ held)
    (htable : .table b ∉ held) :
    b.releaseAll.ReturnsWith service held w (w.objects.table b).totalLen :=
  releaseAll_returnsWith_aux htable fun batch _ w => batch.returnsWith hservice hheld w

/-- Without registrations a release returns zero, whatever calls of the client would do. -/
theorem releaseAll_returnsWith_zero (hnone : (w.objects.table b).registrations = [])
    (htable : .table b ∉ held) : b.releaseAll.ReturnsWith service held w 0 := by
  have hzero : (w.objects.table b).totalLen = 0 := by
    rw [CallbackTable.totalLen_eq_length, hnone]
    rfl
  rw [← hzero]
  refine releaseAll_returnsWith_aux htable fun batch hbatch w' => ?_
  have hnatives : batch.natives = [] := by
    have hall := CallbackTable.natives_batches (w.objects.table b)
    rw [hnone, List.map_nil] at hall
    exact List.flatMap_eq_nil_iff.mp hall batch hbatch
  unfold Batch.unregister
  rw [hnatives]
  split
  · exact ⟨w', rfl⟩
  · exact ⟨w', rfl⟩

/-- On a released bridge attaching fails, whatever calls of the client would do. -/
theorem attach_returnsWith (hreleased : (w.objects.table b).released = true)
    (htable : .table b ∉ held) (key : MemberKey) (callback : FunctionId) (converter : Converter)
    (registrar : Registrar) :
    (b.attach key callback converter registrar).ReturnsWith service held w
      (.error (.objectDisposed "CallbackBridge")) := by
  let w₁ : World σ := { w with objects := (Effect.addBridged callback converter).apply w.objects }
  have hreleased₁ : (w₁.objects.table b).released = true := by
    rw [show w₁.objects.table b = w.objects.table b from
      Effect.table_apply_of_ne (by simp [Effect.lock?]) w.objects]
    exact hreleased
  refine ⟨{ w₁ with objects := w₁.objects.report (bridgeNotice "Attach rejected on released bridge"
    [⟨"member", .text key.name⟩]) }, ?_⟩
  show (if .table b ∈ held then _ else Activity.run service
    (if (w₁.objects.table b).released = true then _ else _) (.table b :: held) w₁) = _
  rw [if_neg htable, if_pos hreleased₁]
  exact congrArg (Ending.mk _ · _) (List.erase_cons_head _ _)

/-- Before the release attaching returns a new native callback if registering returns. -/
theorem attach_returnsWith_ok (hservice : service.Registers) (hheld : ∀ e, .handlers e ∉ held)
    (htable : .table b ∉ held) (hfree : (w.objects.table b).released = false) (key : MemberKey)
    (callback : FunctionId) (converter : Converter) (registrar : Registrar) :
    (b.attach key callback converter registrar).ReturnsWith service held w
      (.ok w.objects.nextFunction) := by
  let w₁ : World σ := { w with objects := (Effect.addBridged callback converter).apply w.objects }
  have hfree₁ : ¬ (w₁.objects.table b).released = true := by
    rw [show w₁.objects.table b = w.objects.table b from
      Effect.table_apply_of_ne (by simp [Effect.lock?]) w.objects]
    simp [hfree]
  have hheld₁ : ∀ e, .handlers e ∉ Lock.table b :: held := by simpa using hheld
  obtain ⟨w₂, hregister⟩ := registrar.returnsWith hservice hheld₁ w.objects.nextFunction w₁
  let o := (Effect.push b key ⟨callback, w.objects.nextFunction⟩).apply w₂.objects
  refine ⟨{ w₂ with objects := o.report (bridgeNotice "Attached callback"
    [⟨"member", .text key.name⟩, ⟨"registrations", .int ((o.table b).entries key).length⟩]) }, ?_⟩
  show (if .table b ∈ held then _ else Activity.run service
    (if (w₁.objects.table b).released = true then _ else Activity.bind _ _) (.table b :: held) w₁)
      = _
  rw [if_neg htable, if_neg hfree₁, Activity.run_bind]
  show Ending.andThen (Activity.run service (registrar.run w.objects.nextFunction) _ w₁) _ = _
  rw [hregister]
  exact congrArg (Ending.mk _ · _) (List.erase_cons_head _ _)

/-- Without registrations under the key detaching finds none. -/
theorem tryDetach_returnsWith {key : MemberKey} (hentries : (w.objects.table b).entries key = [])
    (htable : .table b ∉ held) (callback : FunctionId) :
    (b.tryDetach key callback).ReturnsWith service held w none := by
  have hfound : (w.objects.table b).first? key callback = none := by
    rw [CallbackTable.first?, hentries]
    rfl
  refine .bind (.locked htable _ _ w) fun w' => ?_
  simp only [hfound]
  split
  · exact ⟨_, rfl⟩
  · exact ⟨_, rfl⟩

/-- A view of the table shows it as it is. -/
theorem view_returnsWith (htable : .table b ∉ held) (f : CallbackTable → α) :
    (b.view f).ReturnsWith service held w (f (w.objects.table b)) :=
  .locked htable _ _ w

end BridgeId
end Hostlink
