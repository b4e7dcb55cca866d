import Hostlink.Proofs.Bridge.Deeds

/-!
# Calls that attach

`attaching` is the contract of attaching: in which order a call makes, registers and records a
native callback, and what it answers.
-/

namespace Hostlink.Interleaving

open Occurrence

/-- The contract of attaching.  A native callback is made, registered and recorded at most once,
in this order and in one section under the lock of a table that has not been released; the call
fails if it finds the table released. -/
def attaching : Contract := fun x log =>
  match x.operation with
  | .attach b key callback _ registrar =>
    let registers (native : FunctionId) : Prop :=
      collect made log = [native] ∧ collect registered log = [] ∧ collect (pushed b) log = [] ∧
        .table b ∈ held log ∧ (x.objects.table b).released = false
    match x.deed with
    | .did (.addBridged _ _) => collect made log = []
    | .did (.addHandler e native) => registrar = .addTo e ∧ registers native
    | .asked (.register code native) => registrar = .client code ∧ registers native
    | .did (.push b' key' entry) =>
      b' = b ∧ key' = key ∧ entry.caller = callback ∧ collect made log = [entry.native] ∧
        collect registered log = [(registrar, entry.native)] ∧ collect (pushed b) log = [] ∧
        .table b ∈ held log ∧ (x.objects.table b).released = false
    | .gave (.table _) =>
      (collect registered log).map (·.2) = (collect (pushed b) log).map (·.2.native)
    | .returned answer =>
      (∃ native, answer = .attached (.ok native) ∧ collect made log = [native] ∧
        collect registered log = [(registrar, native)] ∧
        collect (pushed b) log = [(key, ⟨callback, native⟩)]) ∨
      answer = .attached (.error (.objectDisposed "CallbackBridge")) ∧
        collect registered log = [] ∧ collect (pushed b) log = [] ∧
        ∃ y ∈ log, (y.objects.table b).released = true
    | .failed _ => (x.objects.table b).released = false
    | .panicked _ =>
      collect (pushed b) log = [] ∧ ∃ code native, collect registered log = [(.client code, native)]
    | _ => True
  | _ => True

/-- Where an attachment stands inside its section: what it has registered and recorded so far. -/
private structure InSection (b : BridgeId) (native : FunctionId)
    (registrations : List (Registrar × FunctionId)) (pushes : List (MemberKey × Registration))
    (log : History) : Prop where
  hmade : collect made log = [native]
  hregistered : collect registered log = registrations
  hpushed : collect (pushed b) log = pushes
  hheld : held log = [.table b]
  hknown : ∃ t, known (.table b) log = some (.table t) ∧ t.released = false

section

variable {b : BridgeId} {key : MemberKey} {callback : FunctionId} {converter : Converter}
  {registrar : Registrar} {native : FunctionId} {call : Nat} {log : History}

private theorem InSection.released {registrations : List (Registrar × FunctionId)}
    {pushes : List (MemberKey × Registration)} (h : InSection b native registrations pushes log)
    {op : Operation} {o : Objects} (hsees : Sees op log o) : (o.table b).released = false := by
  obtain ⟨t, hknown, hreleased⟩ := h.hknown
  have htable : Guarded.table (o.table b) = .table t := hsees.agrees (.table b) _ hknown
  rw [Guarded.table.inj htable, hreleased]

/-- Registering by adding to an event, inside the section. -/
private theorem attaching_addTo (h : InSection b native [] [] log) {e : EventId} :
    Conforms attaching call (.attach b key callback converter (.addTo e))
      (fun _ => InSection b native [(.addTo e, native)] []) ((Registrar.addTo e).run native) log := by
  obtain ⟨t, hknown, hreleased⟩ := h.hknown
  intro o₁ h₁
  refine ⟨trivial, ?_⟩
  intro o₂ h₂
  have hfree : (o₂.table b).released = false := by
    have htable : Guarded.table (o₂.table b) = .table t :=
      h₂.agrees (.table b) _ (by simp [known, hknown])
    rw [Guarded.table.inj htable, hreleased]
  refine ⟨⟨rfl, ?_⟩, ?_⟩
  · refine ⟨?_, ?_, ?_, ?_, hfree⟩
    · simp [made, h.hmade]
    · simp [registered, h.hregistered]
    · simp [pushed, h.hpushed]
    · simp [held, h.hheld]
  intro o₃ h₃
  refine ⟨trivial, ?_⟩
  have htable : ((Effect.addHandler e native).apply o₂).table b = o₂.table b :=
    Effect.table_apply_of_ne (by simp [Effect.lock?]) o₂
  constructor
  · simp [made, h.hmade]
  · simp [registered, h.hregistered]
  · simp [pushed, h.hpushed]
  · simp [held, h.hheld]
  · exact ⟨o₂.table b, by simp [known, hknown, Lock.guarded, htable], hfree⟩

/-- Registering through the client, inside the section. -/
private theorem attaching_client (h : InSection b native [] [] log) {code : Nat} :
    Conforms attaching call (.attach b key callback converter (.client code))
      (fun _ => InSection b native [(.client code, native)] [])
      ((Registrar.client code).run native) log := by
  intro o₁ h₁
  have hheld : Lock.table b ∈ held log := by rw [h.hheld]; exact List.mem_singleton_self _
  have hasked : InSection b native [(.client code, native)] []
      (⟨call, .attach b key callback converter (.client code), .asked (.register code native), o₁⟩
        :: log) := by
    constructor
    · simp [made, h.hmade]
    · simp [registered, h.hregistered]
    · simp [pushed, h.hpushed]
    · simp [held, h.hheld]
    · exact h.hknown
  refine ⟨⟨rfl, h.hmade, h.hregistered, h.hpushed, hheld, h.released h₁⟩, ?_, ?_⟩
  · intro reply o₂ h₂
    refine ⟨trivial, ?_⟩
    constructor
    · simpa [made] using hasked.hmade
    · simpa [registered] using hasked.hregistered
    · simpa [pushed] using hasked.hpushed
    · exact hasked.hheld
    · exact hasked.hknown
  · intro message o₂ h₂
    refine ⟨hasked.released h₂, ?_⟩
    intro o₃
    refine ⟨?_, code, native, ?_⟩
    · simpa [pushed] using hasked.hpushed
    · simpa [registered] using hasked.hregistered

/-- Registering, inside the section. -/
private theorem attaching_register (h : InSection b native [] [] log) :
    Conforms attaching call (.attach b key callback converter registrar)
      (fun _ => InSection b native [(registrar, native)] []) (registrar.run native) log := by
  cases registrar with
  | addTo e => exact attaching_addTo h
  | client code => exact attaching_client h

/-- Recording and giving the lock free, after the registration. -/
private theorem attaching_record (h : InSection b native [(registrar, native)] [] log) :
    Conforms attaching call (.attach b key callback converter registrar)
      (fun result => Returns attaching call (.attach b key callback converter registrar)
        (.attached result))
      (do
        Activity.update (.push b key ⟨callback, native⟩)
        let registrations ← Activity.inspect fun o => ((o.table b).entries key).length
        Activity.report (bridgeNotice "Attached callback"
          [⟨"member", .text key.name⟩, ⟨"registrations", .int registrations⟩])
        Activity.give (.table b)
        return .ok native) log := by
  intro o₁ h₁
  have hheld : Lock.table b ∈ held log := by rw [h.hheld]; exact List.mem_singleton_self _
  refine ⟨⟨rfl, rfl, rfl, h.hmade, h.hregistered, h.hpushed, hheld, h.released h₁⟩, ?_⟩
  intro o₂ h₂
  refine ⟨trivial, ?_⟩
  intro o₃ h₃
  refine ⟨trivial, ?_⟩
  intro o₄ h₄
  refine ⟨?_, ?_⟩
  · simp [attaching, registered, pushed, h.hregistered, h.hpushed]
  intro o₅ h₅
  refine Or.inl ⟨native, rfl, ?_, ?_, ?_⟩
  · simp [made, h.hmade]
  · simp [registered, h.hregistered]
  · simp [pushed, h.hpushed]

end

/-- Every operation keeps the contract of attaching. -/
theorem keeps_attaching (op : Operation) : Keeps attaching op := by
  cases op
  case attach b key callback converter registrar =>
    intro call o ho
    refine ⟨trivial, ?_⟩
    intro o₁ h₁
    refine ⟨rfl, ?_⟩
    intro o₂ h₂
    refine ⟨trivial, ?_⟩
    intro o₃ h₃
    refine ⟨trivial, ?_⟩
    show Conforms attaching call _ _
      (Activity.bind (if (o₃.table b).released = true then _ else _) _) _
    split
    next hreleased =>
      intro o₄ h₄
      refine ⟨trivial, ?_⟩
      intro o₅ h₅
      refine ⟨rfl, ?_⟩
      intro o₆ h₆
      refine Or.inr ⟨rfl, rfl, rfl, ?_⟩
      exact ⟨⟨call, .attach b key callback converter registrar, .did .look, o₃⟩, by simp, hreleased⟩
    next hreleased =>
      refine Conforms.bind (Conforms.bind (Conforms.mono ?_ (attaching_register ?_)))
      · exact fun _ log hlog => attaching_record hlog
      · have hfree : (o₃.table b).released = false := by simpa using hreleased
        constructor
        · rfl
        · rfl
        · rfl
        · rfl
        · exact ⟨o₃.table b, by simp [known, Lock.guarded, Effect.apply], hfree⟩
  all_goals exact (keeps_abiding _).weaken fun x log hop _ => by simp only [attaching, hop]

end Hostlink.Interleaving
