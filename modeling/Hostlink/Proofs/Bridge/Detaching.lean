import Hostlink.Proofs.Bridge.Deeds

/-!
# Calls that detach

`detaching` is the contract of the two operations that take one registration back.
-/

namespace Hostlink.Interleaving

open Occurrence

/-- The contract of detaching.  At most one registration is taken back; plain detaching answers
its native callback, and the other operation removes it from the event before it returns, and
answers whether the event had it. -/
def detaching : Contract := fun x log =>
  match x.operation with
  | .tryDetach b _ _ =>
    match x.deed with
    | .did (.detach _ _ _) => collect (detached b) log = []
    | .returned answer =>
      ∃ found : Option FunctionId, answer = .detached found ∧
        (collect (detached b) log).map (·.2.native) = found.toList
    | .panicked _ => False
    | _ => True
  | .detachFrom b _ _ e =>
    match x.deed with
    | .did (.detach _ _ _) => collect (detached b) log = []
    | .did (.removeHandler _ handler) =>
      collect handed log = [] ∧ (collect (detached b) log).map (·.2.native) = [handler]
    | .returned answer =>
      (∃ y ∈ log, ∃ native, y.deed = .did (.removeHandler e native) ∧
        collect handed log = [(.removeFrom e, native)] ∧
        (collect (detached b) log).map (·.2.native) = [native] ∧
        answer = .flag ((y.objects.event e).contains native)) ∨
      collect (detached b) log = [] ∧ answer = .flag false
    | .panicked _ => False
    | _ => True
  | _ => True

/-- Taking a registration back obeys every contract that does not forbid it. -/
private theorem conforms_tryDetach {P : Contract} {b : BridgeId} {key : MemberKey}
    {callback : FunctionId} {call : Nat} {op : Operation} {o : Objects}
    (htook : ∀ o' log, P ⟨call, op, .took (.table b), o'⟩ log)
    (hgave : ∀ o' log, P ⟨call, op, .gave (.table b), o'⟩ log)
    (hreport : ∀ event o' log, P ⟨call, op, .did (.report event), o'⟩ log)
    (hdetach : ∀ o' log, collect (detached b) log = [] →
      P ⟨call, op, .did (.detach b key callback), o'⟩ log) :
    Conforms P call op
      (fun found log => collect handed log = [] ∧
        (collect (detached b) log).map (·.2.native) = found.toList)
      (b.tryDetach key callback) [⟨call, op, .begun, o⟩] := by
  intro o₁ h₁
  refine ⟨htook _ _, ?_⟩
  intro o₂ h₂
  refine ⟨hdetach _ _ rfl, ?_⟩
  intro o₃ h₃
  refine ⟨hgave _ _, ?_⟩
  dsimp only
  cases hfound : (o₂.table b).first? key callback with
  | some entry =>
    intro o₄ h₄
    refine ⟨hreport _ _ _, rfl, ?_⟩
    simp [detached, hfound]
  | none =>
    show Conforms P call op _ (if ((o₂.table b).member? key).isSome = true then _ else _) _
    split
    · intro o₄ h₄
      refine ⟨hreport _ _ _, rfl, ?_⟩
      simp [detached, hfound]
    · refine ⟨rfl, ?_⟩
      simp [detached, hfound]

/-- Every operation keeps the contract of detaching. -/
theorem keeps_detaching (op : Operation) : Keeps detaching op := by
  cases op
  case tryDetach b key callback =>
    intro call o ho
    refine ⟨trivial, Conforms.bind (Conforms.mono ?_ (conforms_tryDetach ?_ ?_ ?_ ?_))⟩
    · exact fun found log hlog o' ho' => ⟨found, rfl, hlog.2⟩
    · exact fun _ _ => trivial
    · exact fun _ _ => trivial
    · exact fun _ _ _ => trivial
    · exact fun _ _ hlog => hlog
  case detachFrom b key callback e =>
    intro call o ho
    refine ⟨trivial,
      Conforms.bind (Conforms.bind (Conforms.mono ?_ (conforms_tryDetach ?_ ?_ ?_ ?_)))⟩
    · intro found log hlog
      cases found with
      | none =>
        intro o₁ h₁
        exact Or.inr ⟨List.map_eq_nil_iff.mp hlog.2, rfl⟩
      | some native =>
        intro o₁ h₁
        refine ⟨trivial, ?_⟩
        intro o₂ h₂
        refine ⟨⟨?_, ?_⟩, ?_⟩
        · simpa [handed] using hlog.1
        · simpa [detached] using hlog.2
        intro o₃ h₃
        refine ⟨trivial, ?_⟩
        intro o₄ h₄
        refine Or.inl ⟨⟨call, .detachFrom b key callback e, .did (.removeHandler e native), o₂⟩,
          by simp, native, rfl, ?_, ?_, rfl⟩
        · simp [handed, hlog.1]
        · simp [detached, hlog.2]
    · exact fun _ _ => trivial
    · exact fun _ _ => trivial
    · exact fun _ _ _ => trivial
    · exact fun _ _ hlog => hlog
  all_goals exact (keeps_abiding _).weaken fun x log hop _ => by simp only [detaching, hop]

end Hostlink.Interleaving
