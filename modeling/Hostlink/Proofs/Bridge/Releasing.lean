import Hostlink.Proofs.Bridge.Deeds

/-!
# Calls that release

`releasing` is the contract of the operations that release a bridge: releasing it itself, and
disposing of the wrapper it belongs to.  What was drained is handed to hooks one callback after the
other, in the order in which it is owed, and all of it before the call goes on.

`Conforms.releaseAll` follows a release for any other contract as well.
-/

namespace Hostlink.Interleaving

open Occurrence

/-- Whether a call that hands `next` to its hook does so in turn. -/
def InTurn (b : BridgeId) (log : History) (next : Hook × FunctionId) : Prop :=
  ∃ rest, collect (owed b) log = collect handed log ++ next :: rest

/-- The contract of releasing.  A call drains its table at most once, hands over what it drained in
turn, and has handed over everything when it closes the native object or returns; it can only
panic where it calls the client. -/
def releasing : Contract := fun x log =>
  ∀ b, x.operation.Releases b →
    match x.deed with
    | .did (.drain b') => b' = b ∧ (∀ y ∈ log, ¬ y.Drains b) ∧ collect handed log = []
    | .did (.removeHandler e native) => InTurn b log (.removeFrom e, native)
    | .asked (.unregister code native) => InTurn b log (.client code, native)
    | .asked (.close _) => collect handed log = collect (owed b) log
    | .returned answer =>
      collect handed log = collect (owed b) log ∧
        (x.operation = .releaseAll b →
          answer = .number (collect (drained b) log).length ∧ ∃ y ∈ log, y.Drains b)
    | .panicked _ =>
      collect handed log = collect (owed b) log ∨
        ∃ code native, (.client code, native) ∈ collect handed log
    | _ => True

/-- An operation releases at most one bridge. -/
theorem releases_unique {op : Operation} {b b' : BridgeId} (h : op.Releases b)
    (h' : op.Releases b') : b = b' := by
  rcases h with rfl | ⟨w, rfl, rfl | rfl⟩ <;> rcases h' with h' | ⟨w', rfl, h' | h'⟩ <;> cases h' <;>
    rfl

/-- Where a release stands after its drain: what it drained, and what it has handed over. -/
structure Released (b : BridgeId) (t : CallbackTable) (done : List (Hook × FunctionId))
    (log : History) : Prop where
  owed : collect (owed b) log = t.owed
  drained : collect (drained b) log = t.registrations
  drains : ∃ y ∈ log, y.Drains b
  handed : collect handed log = done

/-- The deeds of a release after its section on the table. -/
def Occurrence.Unregisters (x : Occurrence) : Prop :=
  match x.deed with
  | .took (.handlers _) | .gave (.handlers _) | .did (.removeHandler _ _) | .did (.report _)
  | .asked (.unregister _ _) | .answered (.unregister _ _) _ | .failed _ => True
  | _ => False

theorem Released.next {b : BridgeId} {t : CallbackTable} {done : List (Hook × FunctionId)}
    {log : History} (h : Released b t done log) {x : Occurrence} (howed : x.owed b = [])
    (hdrained : x.drained b = []) : Released b t (done ++ x.handed) (x :: log) where
  owed := by rw [collect_cons, h.owed, howed, List.append_nil]
  drained := by rw [collect_cons, h.drained, hdrained, List.append_nil]
  drains := by
    obtain ⟨y, hy, hdrains⟩ := h.drains
    exact ⟨y, List.mem_cons_of_mem _ hy, hdrains⟩
  handed := by rw [collect_cons, h.handed]

section

variable {P : Contract} {I : History → Prop} {call : Nat} {op : Operation} {b : BridgeId}
  {t : CallbackTable}

/-- What has to be known of a contract and an invariant to follow a release with them. -/
structure Follows (P : Contract) (I : History → Prop) (call : Nat) (op : Operation) : Prop where
  next : ∀ x log, x.call = call → x.operation = op → x.Unregisters → releasing x log → I log →
    P x log ∧ I (x :: log)
  panicked : ∀ x message o code native o' log, x.call = call → x.operation = op →
    x.deed = .panicked message → I log →
    releasing x (⟨call, op, .failed message, o⟩ ::
      ⟨call, op, .asked (.unregister code native), o'⟩ :: log) →
    P x (⟨call, op, .failed message, o⟩ ::
      ⟨call, op, .asked (.unregister code native), o'⟩ :: log)

/-- Handing one callback to its hook. -/
theorem Follows.hook (h : Follows P I call op) (hop : op.Releases b) {hook : Hook}
    {native : FunctionId} {done rest : List (Hook × FunctionId)} {log : History}
    (howed : t.owed = done ++ (hook, native) :: rest) (hlog : Released b t done log) (hI : I log) :
    Conforms P call op
      (fun _ log => Released b t (done ++ [(hook, native)]) log ∧ I log) (hook.run native) log := by
  have hturn : ∀ {done' log'}, Released b t done' log' → done' = done →
      ∀ b', op.Releases b' → InTurn b' log' (hook, native) := by
    intro done' log' hlog' hdone b' hb'
    rw [releases_unique hb' hop]
    exact ⟨rest, by rw [hlog'.owed, hlog'.handed, howed, hdone]⟩
  cases hook with
  | removeFrom e =>
    intro o₁ h₁
    obtain ⟨hP₁, hI₁⟩ := h.next ⟨call, op, .took (.handlers e), o₁⟩ log rfl rfl trivial
      (fun _ _ => trivial) hI
    have hlog₁ := hlog.next (x := ⟨call, op, .took (.handlers e), o₁⟩) rfl rfl
    refine ⟨hP₁, ?_⟩
    intro o₂ h₂
    obtain ⟨hP₂, hI₂⟩ := h.next ⟨call, op, .did (.removeHandler e native), o₂⟩ _ rfl rfl trivial
      (hturn hlog₁ (List.append_nil done)) hI₁
    have hlog₂ := hlog₁.next (x := ⟨call, op, .did (.removeHandler e native), o₂⟩) rfl rfl
    refine ⟨hP₂, ?_⟩
    intro o₃ h₃
    obtain ⟨hP₃, hI₃⟩ := h.next ⟨call, op, .gave (.handlers e), o₃⟩ _ rfl rfl trivial
      (fun _ _ => trivial) hI₂
    have hlog₃ := hlog₂.next (x := ⟨call, op, .gave (.handlers e), o₃⟩) rfl rfl
    refine ⟨hP₃, ?_, hI₃⟩
    simpa [Occurrence.handed] using hlog₃
  | client code =>
    intro o₁ h₁
    obtain ⟨hP₁, hI₁⟩ := h.next ⟨call, op, .asked (.unregister code native), o₁⟩ log rfl rfl trivial
      (hturn hlog rfl) hI
    have hlog₁ := hlog.next (x := ⟨call, op, .asked (.unregister code native), o₁⟩) rfl rfl
    refine ⟨hP₁, ?_, ?_⟩
    · intro reply o₂ h₂
      obtain ⟨hP₂, hI₂⟩ := h.next ⟨call, op, .answered (.unregister code native) reply, o₂⟩ _
        rfl rfl trivial (fun _ _ => trivial) hI₁
      have hlog₂ :=
        hlog₁.next (x := ⟨call, op, .answered (.unregister code native) reply, o₂⟩) rfl rfl
      refine ⟨hP₂, ?_, hI₂⟩
      simpa [Occurrence.handed] using hlog₂
    · intro message o₂ h₂
      refine ⟨(h.next ⟨call, op, .failed message, o₂⟩ _ rfl rfl trivial (fun _ _ => trivial) hI₁).1,
        ?_⟩
      intro o₃
      refine h.panicked _ message _ _ _ _ _ rfl rfl rfl hI ?_
      intro b' _
      exact Or.inr ⟨code, native, by simp [Occurrence.handed]⟩

/-- Handing over all that was drained, one batch after the other. -/
theorem Follows.batches (h : Follows P I call op) (hop : op.Releases b) {log : History}
    (hlog : Released b t [] log) (hI : I log) :
    Conforms P call op (fun _ log => Released b t t.owed log ∧ I log)
      (Activity.forEach t.batches fun batch => batch.unregister) log := by
  refine Conforms.forEach (I := fun (done : List Batch) log =>
    Released b t (done.flatMap (·.owed)) log ∧ I log)
    ?_ ⟨hlog, hI⟩
  rintro done batch rest log hbatches ⟨hlog, hI⟩
  cases hhook : batch.hook with
  | none =>
    have howed : batch.owed = [] := by rw [Batch.owed, hhook]
    rw [Batch.unregister, hhook]
    refine ⟨?_, hI⟩
    rw [List.flatMap_append, List.flatMap_singleton, howed, List.append_nil]
    exact hlog
  | some hook =>
    have howed : batch.owed = batch.natives.map (hook, ·) := by rw [Batch.owed, hhook]
    rw [Batch.unregister, hhook]
    refine Conforms.mono ?_ (Conforms.forEach (I := fun natives log =>
      Released b t (done.flatMap (·.owed) ++ natives.map (hook, ·)) log ∧ I log) ?_ ?_)
    · intro _ log hlog
      rw [List.flatMap_append, List.flatMap_singleton, howed]
      exact hlog
    · rintro natives native rest' log hnatives ⟨hlog, hI⟩
      have hturn : t.owed = done.flatMap (·.owed) ++ natives.map (hook, ·) ++
          (hook, native) :: (rest'.map (hook, ·) ++ rest.flatMap (·.owed)) := by
        rw [CallbackTable.owed, hbatches, List.flatMap_append, List.flatMap_cons, howed, hnatives]
        simp
      refine Conforms.mono ?_ (h.hook hop hturn hlog hI)
      intro _ log hlog
      rw [List.map_append, List.map_singleton, ← List.append_assoc]
      exact hlog
    · exact ⟨by simpa using hlog, hI⟩

/-- A release hands over what its drain owes and answers how many registrations it drained. -/
theorem Conforms.releaseAll (h : Follows P I call op) (hop : op.Releases b) {log : History}
    (hstart : collect (owed b) log = [] ∧ collect (drained b) log = [] ∧ collect handed log = [])
    (htook : ∀ o, P ⟨call, op, .took (.table b), o⟩ log)
    (hdrain : ∀ o o', P ⟨call, op, .did (.drain b), o⟩ (⟨call, op, .took (.table b), o'⟩ :: log))
    (hgave : ∀ o o' o'', P ⟨call, op, .gave (.table b), o⟩
      (⟨call, op, .did (.drain b), o'⟩ :: ⟨call, op, .took (.table b), o''⟩ :: log) ∧
      I (⟨call, op, .gave (.table b), o⟩ :: ⟨call, op, .did (.drain b), o'⟩
        :: ⟨call, op, .took (.table b), o''⟩ :: log)) :
    Conforms P call op
      (fun released log => (∃ t, Released b t t.owed log ∧ released = t.registrations.length) ∧
        I log) b.releaseAll log := by
  intro o₁ h₁
  refine ⟨htook o₁, ?_⟩
  intro o₂ h₂
  refine ⟨hdrain o₂ o₁, ?_⟩
  intro o₃ h₃
  obtain ⟨hgave, hI⟩ := hgave o₃ o₂ o₁
  refine ⟨hgave, ?_⟩
  have hlog : Released b (o₂.table b) [] (⟨call, op, .gave (.table b), o₃⟩
      :: ⟨call, op, .did (.drain b), o₂⟩ :: ⟨call, op, .took (.table b), o₁⟩ :: log) := by
    obtain ⟨howed, hdrained, hhanded⟩ := hstart
    constructor
    · simp [Occurrence.owed, howed]
    · simp [Occurrence.drained, hdrained]
    · exact ⟨⟨call, op, .did (.drain b), o₂⟩, by simp, rfl⟩
    · simp [Occurrence.handed, hhanded]
  show Conforms P call op _
    (Activity.bind (Activity.forEach (o₂.table b).batches fun batch => batch.unregister) _) _
  refine Conforms.bind (Conforms.mono ?_ (h.batches hop hlog hI))
  rintro _ log ⟨hlog, hI⟩
  have hcount : ((o₂.table b).batches.flatMap (·.natives)).length
      = (o₂.table b).registrations.length := by
    rw [CallbackTable.natives_batches, List.length_map]
  dsimp only
  split
  · intro o₄ h₄
    have hreport : ∀ event, P ⟨call, op, .did (.report event), o₄⟩ log ∧
        I (⟨call, op, .did (.report event), o₄⟩ :: log) :=
      fun event => h.next _ log rfl rfl trivial (fun _ _ => trivial) hI
    refine ⟨(hreport _).1, ⟨o₂.table b, ?_, hcount⟩, (hreport _).2⟩
    simpa [Occurrence.handed] using hlog.next (x := ⟨call, op, .did (.report _), o₄⟩) rfl rfl
  · exact ⟨⟨o₂.table b, hlog, hcount⟩, hI⟩

end

end Hostlink.Interleaving
