import Hostlink.Proofs.Interleaving.Basic

/-!
# Contracts of operations

A contract says what may happen next in a call after what has happened in it.  `Conforms` checks a
contract against an activity, node by node, for all objects that the call can meet; `Keeps` does so
for a whole operation.  `Traced.obeys` is the result: a log of an operation that keeps a contract
obeys it at every deed.

What a call can meet is limited in two ways.  The objects named by its operation exist, and while
it has a lock, the part guarded by the lock is as the call itself has left it (`Sees`).  That the
second is so in every run is shown in `Hostlink.Proofs.Interleaving.Soundness`.
-/

namespace Hostlink.Interleaving

variable {α β : Type}

/-! ## What a call knows -/

/-- What a call knows about the part that a lock guards, by its log: nothing while it does not have
the lock. -/
def known (lock : Lock) : History → Option Guarded
  | [] => none
  | x :: log =>
    match x.deed with
    | .took other => if other = lock then some (lock.guarded x.objects) else known lock log
    | .gave other => if other = lock then none else known lock log
    | .did effect => (known lock log).map fun _ => lock.guarded (effect.apply x.objects)
    | .panicked _ => none
    | _ => known lock log

/-- Whether the objects are as a call with this log knows them. -/
def Agrees (log : History) (o : Objects) : Prop :=
  ∀ lock part, known lock log = some part → lock.guarded o = part

/-- A call knows something only about what it has locked. -/
theorem mem_held_of_known {lock : Lock} {log : History} {part : Guarded}
    (h : known lock log = some part) : lock ∈ held log := by
  induction log generalizing part with
  | nil => cases h
  | cons x log ih =>
    rw [known] at h
    rw [held]
    cases hdeed : x.deed with
    | took other =>
      simp only [hdeed] at h ⊢
      split at h
      next heq => exact heq ▸ List.mem_cons_self
      next => exact List.mem_cons_of_mem _ (ih h)
    | gave other =>
      simp only [hdeed] at h ⊢
      split at h
      next => cases h
      next hne => exact (List.mem_erase_of_ne (Ne.symm hne)).mpr (ih h)
    | did effect =>
      simp only [hdeed] at h ⊢
      obtain ⟨part', hpart', _⟩ := Option.map_eq_some_iff.mp h
      exact ih hpart'
    | panicked message => simp only [hdeed] at h; cases h
    | begun | asked | answered | failed | returned => simp only [hdeed] at h ⊢; exact ih h

/-- The objects that a call can meet. -/
structure Sees (op : Operation) (log : History) (o : Objects) : Prop where
  valid : op.Valid o
  agrees : Agrees log o

/-! ## Contracts -/

/-- Whether something may happen after what has happened in the call. -/
abbrev Contract := Occurrence → History → Prop

/-- Whether a log obeys a contract at every deed. -/
def Obeys (P : Contract) : History → Prop
  | [] => True
  | x :: log => P x log ∧ Obeys P log

/-- What a contract demands of the deeds that follow a call of the client. -/
def Replies (P : Contract) (call : Nat) (op : Operation) (upcall : Upcall)
    (next : upcall.Reply → History → Prop) (log : History) : Prop :=
  (∀ reply o, Sees op log o → P ⟨call, op, .answered upcall reply, o⟩ log ∧
    next reply (⟨call, op, .answered upcall reply, o⟩ :: log)) ∧
  ∀ message o, Sees op log o → P ⟨call, op, .failed message, o⟩ log ∧
    ∀ o', P ⟨call, op, .panicked message, o'⟩ (⟨call, op, .failed message, o⟩ :: log)

/-- Whether an activity, performed in a call with this log, obeys a contract and ends with `Q`. -/
def Conforms (P : Contract) (call : Nat) (op : Operation) (Q : α → History → Prop) :
    Activity Unit α → History → Prop
  | .done result, log => Q result log
  | .panicked message, log => ∀ o, P ⟨call, op, .panicked message, o⟩ log
  | .step effect next, log => ∀ o, Sees op log o → P ⟨call, op, .did effect, o⟩ log ∧
    Conforms P call op Q (next o) (⟨call, op, .did effect, o⟩ :: log)
  | .own _ _, _ => False
  | .acquire lock next, log => ∀ o, Sees op log o → P ⟨call, op, .took lock, o⟩ log ∧
    Conforms P call op Q next (⟨call, op, .took lock, o⟩ :: log)
  | .release lock next, log => ∀ o, Sees op log o → P ⟨call, op, .gave lock, o⟩ log ∧
    Conforms P call op Q next (⟨call, op, .gave lock, o⟩ :: log)
  | .call upcall next, log => ∀ o, Sees op log o → P ⟨call, op, .asked upcall, o⟩ log ∧
    Replies P call op upcall (fun reply => Conforms P call op Q (next reply))
      (⟨call, op, .asked upcall, o⟩ :: log)

/-- What a contract demands of the return of a call. -/
def Returns (P : Contract) (call : Nat) (op : Operation) (answer : Answer) (log : History) : Prop :=
  ∀ o, Sees op log o → P ⟨call, op, .returned answer, o⟩ log

/-- Whether an operation keeps a contract. -/
def Keeps (P : Contract) (op : Operation) : Prop :=
  ∀ call o, op.Valid o → P ⟨call, op, .begun, o⟩ [] ∧
    Conforms P call op (Returns P call op) op.activity [⟨call, op, .begun, o⟩]

/-! ## Composing activities -/

section

variable {P : Contract} {call : Nat} {op : Operation}

/-- A contract may be weakened for the operation, and the end of the activity as well. -/
theorem Conforms.weaken {P' : Contract} (hP : ∀ x log, x.operation = op → P x log → P' x log)
    {Q Q' : α → History → Prop} (hQ : ∀ result log, Q result log → Q' result log)
    {a : Activity Unit α} {log : History} (h : Conforms P call op Q a log) :
    Conforms P' call op Q' a log := by
  induction a generalizing log with
  | done result => exact hQ _ _ h
  | panicked message => exact fun o => hP _ _ rfl (h o)
  | step effect next ih => exact fun o ho => ⟨hP _ _ rfl (h o ho).1, ih o (h o ho).2⟩
  | own change next ih => exact h
  | acquire lock next ih => exact fun o ho => ⟨hP _ _ rfl (h o ho).1, ih (h o ho).2⟩
  | release lock next ih => exact fun o ho => ⟨hP _ _ rfl (h o ho).1, ih (h o ho).2⟩
  | call upcall next ih =>
    intro o ho
    obtain ⟨hasked, hreply, hfail⟩ := h o ho
    refine ⟨hP _ _ rfl hasked, ?_, ?_⟩
    · intro reply o' ho'
      exact ⟨hP _ _ rfl (hreply reply o' ho').1, ih reply (hreply reply o' ho').2⟩
    · intro message o' ho'
      exact ⟨hP _ _ rfl (hfail message o' ho').1, fun o'' => hP _ _ rfl ((hfail message o' ho').2 o'')⟩

theorem Conforms.mono {Q Q' : α → History → Prop} (hQ : ∀ result log, Q result log → Q' result log)
    {a : Activity Unit α} {log : History} (h : Conforms P call op Q a log) :
    Conforms P call op Q' a log :=
  h.weaken (fun _ _ _ hx => hx) hQ

/-- An operation keeps every contract that is weaker for it. -/
theorem Keeps.weaken {P' : Contract} (hP : ∀ x log, x.operation = op → P x log → P' x log)
    (h : Keeps P op) : Keeps P' op := by
  refine fun call o ho => ⟨hP _ _ rfl (h call o ho).1, (h call o ho).2.weaken hP ?_⟩
  exact fun answer log hreturns o' ho' => hP _ _ rfl (hreturns o' ho')

theorem Conforms.bind {Q : β → History → Prop} {f : α → Activity Unit β} {a : Activity Unit α}
    {log : History} (h : Conforms P call op (fun result => Conforms P call op Q (f result)) a log) :
    Conforms P call op Q (a.bind f) log := by
  induction a generalizing log with
  | done result => exact h
  | panicked message => exact h
  | step effect next ih => exact fun o ho => ⟨(h o ho).1, ih o (h o ho).2⟩
  | own change next ih => exact h
  | acquire lock next ih => exact fun o ho => ⟨(h o ho).1, ih (h o ho).2⟩
  | release lock next ih => exact fun o ho => ⟨(h o ho).1, ih (h o ho).2⟩
  | call upcall next ih =>
    intro o ho
    obtain ⟨hasked, hreply, hfail⟩ := h o ho
    refine ⟨hasked, ?_, hfail⟩
    intro reply o' ho'
    exact ⟨(hreply reply o' ho').1, ih reply (hreply reply o' ho').2⟩

/-- A loop conforms if each round carries `I` on, from the elements before it to one more. -/
theorem Conforms.forEach {I : List α → History → Prop} {f : α → Activity Unit Unit} {xs : List α}
    (hround : ∀ done x rest log, xs = done ++ x :: rest → I done log →
      Conforms P call op (fun _ => I (done ++ [x])) (f x) log)
    {log : History} (h : I [] log) :
    Conforms P call op (fun _ => I xs) (Activity.forEach xs f) log := by
  suffices hsuffix : ∀ rest done log, xs = done ++ rest → I done log →
      Conforms P call op (fun _ => I xs) (Activity.forEach rest f) log from
    hsuffix xs [] log rfl h
  intro rest
  induction rest with
  | nil =>
    intro done log hxs hdone
    rw [hxs, List.append_nil]
    exact hdone
  | cons x rest ih =>
    intro done log hxs hdone
    refine Conforms.bind (Conforms.mono ?_ (hround done x rest log hxs hdone))
    intro _ log' hlog'
    exact ih (done ++ [x]) log' (by rw [hxs, List.append_assoc]; rfl) hlog'

end

/-- An operation that is one section under a lock keeps a contract that holds of its few deeds.
While the operation has the lock, what the lock guards is as the operation has left it. -/
theorem keeps_section {P : Contract} {op : Operation} {lock : Lock} {f : Objects → α}
    {effect : Effect} {g : α → Answer}
    (hactivity : (op.activity : Activity Unit Answer) = (Activity.locked lock f effect).answering g)
    (hbefore : ∀ x log, x.operation = op →
      (x.deed = .begun ∨ x.deed = .took lock ∨ x.deed = .did effect) → P x log)
    (hgave : ∀ call o₀ o₁ o₂ o₃, op.Valid o₀ → lock.guarded o₂ = lock.guarded o₁ →
      lock.guarded o₃ = lock.guarded (effect.apply o₂) →
      P ⟨call, op, .gave lock, o₃⟩
        [⟨call, op, .did effect, o₂⟩, ⟨call, op, .took lock, o₁⟩, ⟨call, op, .begun, o₀⟩])
    (hreturns : ∀ call o₀ o₁ o₂ o₃ o₄, lock.guarded o₂ = lock.guarded o₁ →
      P ⟨call, op, .returned (g (f o₂)), o₄⟩ [⟨call, op, .gave lock, o₃⟩,
        ⟨call, op, .did effect, o₂⟩, ⟨call, op, .took lock, o₁⟩, ⟨call, op, .begun, o₀⟩]) :
    Keeps P op := by
  intro call o₀ h₀
  refine ⟨hbefore _ _ rfl (Or.inl rfl), ?_⟩
  rw [hactivity]
  intro o₁ _
  refine ⟨hbefore _ _ rfl (Or.inr (Or.inl rfl)), ?_⟩
  intro o₂ h₂
  refine ⟨hbefore _ _ rfl (Or.inr (Or.inr rfl)), ?_⟩
  have hseen : lock.guarded o₂ = lock.guarded o₁ := h₂.agrees lock _ (by simp [known])
  intro o₃ h₃
  have hleft : lock.guarded o₃ = lock.guarded (effect.apply o₂) :=
    h₃.agrees lock _ (by simp [known])
  refine ⟨hgave call o₀ o₁ o₂ o₃ h₀ hseen hleft, ?_⟩
  exact fun o₄ _ => hreturns call o₀ o₁ o₂ o₃ o₄ hseen

/-! ## Logs of operations -/

/-- The logs of calls of an operation, with how far each has come. -/
inductive Traced (call : Nat) (op : Operation) : History → Progress → Prop
  | begun {o : Objects} (valid : op.Valid o) :
    Traced call op [⟨call, op, .begun, o⟩] (.running op.activity)
  | deed {log : History} {p p' : Progress} {deed : Deed} {o : Objects} (traced : Traced call op log p)
    (does : p.Does o deed p') (sees : Sees op log o) :
    Traced call op (⟨call, op, deed, o⟩ :: log) p'

/-- What is left of a call conforms to a contract. -/
def Progress.Conforms (P : Contract) (call : Nat) (op : Operation) : Progress → History → Prop
  | .running rest => Interleaving.Conforms P call op (Returns P call op) rest
  | .waiting upcall next =>
    Replies P call op upcall fun reply =>
      Interleaving.Conforms P call op (Returns P call op) (next reply)
  | .ended => fun _ => True

/-- A deed of what conforms obeys the contract, and what is left conforms again. -/
theorem Progress.Conforms.does {P : Contract} {call : Nat} {op : Operation} {p p' : Progress}
    {log : History} {deed : Deed} {o : Objects} (h : p.Conforms P call op log)
    (hdoes : p.Does o deed p') (hsees : Sees op log o) :
    P ⟨call, op, deed, o⟩ log ∧ p'.Conforms P call op (⟨call, op, deed, o⟩ :: log) := by
  cases hdoes with
  | step => exact h o hsees
  | take => exact h o hsees
  | give => exact h o hsees
  | ask => exact h o hsees
  | answer reply => exact h.1 reply o hsees
  | fail message => exact h.2 message o hsees
  | finish => exact ⟨h o hsees, trivial⟩
  | panic => exact ⟨h o, trivial⟩

/-- The log of an operation that keeps a contract obeys it. -/
theorem Traced.obeys {P : Contract} {call : Nat} {op : Operation} {log : History} {p : Progress}
    (hP : Keeps P op) (h : Traced call op log p) : Obeys P log ∧ p.Conforms P call op log := by
  induction h with
  | begun valid => exact ⟨⟨(hP call _ valid).1, trivial⟩, (hP call _ valid).2⟩
  | deed _ does sees ih =>
    obtain ⟨hdeed, hrest⟩ := ih.2.does does sees
    exact ⟨⟨hdeed, ih.1⟩, hrest⟩

/-- The objects named by an operation exist whenever a call of it does something. -/
theorem Traced.valid {call : Nat} {op : Operation} {x : Occurrence} {log : History} {p : Progress}
    (h : Traced call op (x :: log) p) : op.Valid x.objects := by
  generalize hxs : x :: log = xs at h
  cases h with
  | begun valid => obtain ⟨rfl, rfl⟩ := List.cons.inj hxs; exact valid
  | deed _ _ sees => obtain ⟨rfl, rfl⟩ := List.cons.inj hxs; exact sees.valid

/-- Everything in a log is of one operation. -/
theorem Traced.operation_eq {call : Nat} {op : Operation} {log : History} {p : Progress}
    (h : Traced call op log p) : ∀ x ∈ log, x.operation = op := by
  induction h with
  | begun valid => simp
  | deed _ _ _ ih => simpa using ih

end Hostlink.Interleaving
