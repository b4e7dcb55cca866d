import Mathlib.Data.List.Forall2
import Hostlink.Proofs.Event.Removal

/-!
# Raising an event

A raise calls the handlers that the event has at that time, each as often as it is there, in order,
whatever these do to the event while they are called: they may add and remove handlers, clear the
event and raise it again.

What a raise asks the client for follows from the functions that the handlers are: `Converts` is the
conversion of the argument, `Calls` a whole call.  `raising` is the contract; `raise_calls_snapshot`
says what it means for runs, in which any client and any number of threads use the event.
-/

namespace Hostlink

/-! ## Functions stay as they are -/

theorem Effect.function_apply {effect : Effect} {o : Objects} {f : FunctionId}
    (h : o.HasFunction f) : (effect.apply o).function f = o.function f := by
  cases effect
  case addFunction =>
    exact congrArg (fun function? => function?.getD ⟨f, []⟩)
      (Registry.get?_insert_of_ne _ _ (Nat.ne_of_lt h))
  case addBridged =>
    exact congrArg (fun function? => function?.getD ⟨f, []⟩)
      (Registry.get?_insert_of_ne _ _ (Nat.ne_of_lt h))
  case setHook b _ _ | push b _ _ | detach b _ _ | drain b => cases b <;> rfl
  all_goals rfl

/-! ## Raising without interruption -/

/-- Handlers that are called one after the other and return, each in the world that the one before
has left. -/
inductive CalledInTurn {σ : Type} (service : Service σ) (held : List Lock) (argument : Payload) :
    List FunctionId → World σ → World σ → Prop
  | none {w : World σ} : CalledInTurn service held argument [] w w
  | next {handler : FunctionId} {rest : List FunctionId} {w w' w'' : World σ}
    (returns : (handler.invoke argument).run service held w = ⟨.returned (), held, w'⟩)
    (others : CalledInTurn service held argument rest w' w'') :
    CalledInTurn service held argument (handler :: rest) w w''

theorem CalledInTurn.run_forEach {σ : Type} {service : Service σ} {held : List Lock}
    {argument : Payload} {handlers : List FunctionId} {w w' : World σ}
    (h : CalledInTurn service held argument handlers w w') :
    (Activity.forEach handlers fun handler => handler.invoke argument).run service held w
      = ⟨.returned (), held, w'⟩ := by
  induction h with
  | none => rfl
  | next returns _ ih =>
    rw [Activity.forEach, Activity.run_bind, returns]
    exact ih

/-- A raise returns if the handlers of the moment do. -/
theorem EventId.run_raise {σ : Type} {service : Service σ} {held : List Lock} {argument : Payload}
    {e : EventId} {w w' : World σ} (hlock : .handlers e ∉ held)
    (h : CalledInTurn service held argument (w.objects.event e).handlers w w') :
    (e.raise argument).run service held w
      = ⟨.returned (w.objects.event e).handlers.length, held, w'⟩ := by
  show (Activity.bind (Activity.locked _ _ _) _).run service held w = _
  rw [Activity.run_bind, Activity.run_locked hlock]
  show (Activity.bind (Activity.forEach (w.objects.event e).handlers _) _).run service held _ = _
  rw [Activity.run_bind, show Effect.look.apply w.objects = w.objects from rfl, h.run_forEach]
  rfl

namespace Interleaving

open Occurrence

variable {rule : Rule} {s : State} {x : Occurrence} {e : EventId}

/-! ## Functions in a run -/

theorem Deed.function_apply {deed : Deed} {o : Objects} {f : FunctionId} (h : o.HasFunction f) :
    (deed.apply o).function f = o.function f := by
  cases deed with
  | did effect => exact Effect.function_apply h
  | begun | took | gave | asked | answered | failed | returned | panicked => rfl

/-- A function that exists at a deed of a run stays the same. -/
theorem Reachable.function_eq (hs : Reachable rule s) {f : FunctionId} :
    ∀ y ∈ s.history, y.objects.HasFunction f →
      s.objects.HasFunction f ∧ s.objects.function f = y.objects.function f := by
  refine hs.induct (I := fun o h => ∀ y ∈ h, y.objects.HasFunction f →
    o.HasFunction f ∧ o.function f = y.objects.function f) (by simp) ?_
  intro s x _ hnext ih y hy hf
  have hkept : s.objects.HasFunction f ∧ s.objects.function f = y.objects.function f := by
    rcases List.mem_cons.mp hy with rfl | hy
    · exact ⟨hnext.objects ▸ hf, by rw [hnext.objects]⟩
    · exact ih y hy hf
  exact ⟨Deed.hasFunction hkept.1, (Deed.function_apply hkept.1).trans hkept.2⟩

/-! ## What a call asks the client for -/

/-- A call of the client, and its answer. -/
structure Exchange where
  upcall : Upcall
  reply : upcall.Reply

/-- Some conversions of an argument: what the client has been asked for, the converters that are
left, and the argument that they get. -/
inductive Converts (converters : List Converter) (argument : Payload) :
    List Exchange → List Converter → Payload → Prop
  | start : Converts converters argument [] converters argument
  | client {exchanges : List Exchange} {code : Nat} {rest : List Converter} {current : Payload}
    (before : Converts converters argument exchanges (.client code :: rest) current)
    (reply : Payload) :
    Converts converters argument (exchanges ++ [⟨.convert code current, reply⟩]) rest reply
  | availability {exchanges : List Exchange} {rest : List Converter} {current result : Payload}
    (before : Converts converters argument exchanges (.availability :: rest) current)
    (converted : (Converter.availability.apply current : Activity Unit Payload) = .done result) :
    Converts converters argument exchanges rest result

/-- A call of a function: the conversions, and then the client's own code. -/
def Calls (function : Function) (argument : Payload) (exchanges : List Exchange) : Prop :=
  ∃ conversions converted, Converts function.converters argument conversions [] converted ∧
    exchanges = conversions ++ [⟨.invoke function.endpoint converted, ()⟩]

/-- What a call of a function asks the client for next. -/
inductive AsksNext (function : Function) (argument : Payload) : List Exchange → Upcall → Prop
  | convert {exchanges : List Exchange} {code : Nat} {rest : List Converter} {current : Payload}
    (before : Converts function.converters argument exchanges (.client code :: rest) current) :
    AsksNext function argument exchanges (.convert code current)
  | invoke {exchanges : List Exchange} {converted : Payload}
    (before : Converts function.converters argument exchanges [] converted) :
    AsksNext function argument exchanges (.invoke function.endpoint converted)

/-- Calls of handlers with one argument, each once, in order. -/
def CallsAll (is : FunctionId → Function → Prop) (argument : Payload) (handlers : List FunctionId)
    (exchanges : List Exchange) : Prop :=
  ∃ parts, List.Forall₂ (fun f part => ∃ function, is f function ∧ Calls function argument part)
    handlers parts ∧ exchanges = parts.flatten

theorem CallsAll.nil {is : FunctionId → Function → Prop} {argument : Payload} :
    CallsAll is argument [] [] :=
  ⟨[], .nil, rfl⟩

theorem CallsAll.concat {is : FunctionId → Function → Prop} {argument : Payload}
    {handlers : List FunctionId} {exchanges part : List Exchange} {f : FunctionId}
    {function : Function} (h : CallsAll is argument handlers exchanges) (hf : is f function)
    (hpart : Calls function argument part) :
    CallsAll is argument (handlers ++ [f]) (exchanges ++ part) := by
  obtain ⟨parts, hparts, rfl⟩ := h
  refine ⟨parts ++ [part], ?_, by simp⟩
  exact List.rel_append hparts (.cons ⟨function, hf, hpart⟩ .nil)

theorem CallsAll.mono {is is' : FunctionId → Function → Prop} {argument : Payload}
    {handlers : List FunctionId} {exchanges : List Exchange}
    (h : CallsAll is argument handlers exchanges)
    (his : ∀ f ∈ handlers, ∀ function, is f function → is' f function) :
    CallsAll is' argument handlers exchanges := by
  obtain ⟨parts, hparts, rfl⟩ := h
  refine ⟨parts, ?_, rfl⟩
  induction hparts with
  | nil => exact .nil
  | cons hhead _ ih =>
    obtain ⟨function, hf, hpart⟩ := hhead
    refine .cons ⟨function, his _ List.mem_cons_self _ hf, hpart⟩ ?_
    exact ih fun f hmem => his f (List.mem_cons_of_mem _ hmem)

/-! ## The contract of raising -/

/-- What the client has answered. -/
def Occurrence.exchanged (x : Occurrence) : List Exchange :=
  match x.deed with
  | .answered upcall reply => [⟨upcall, reply⟩]
  | _ => []

/-- The handlers of an event when its lock is taken. -/
def Occurrence.listed (e : EventId) (x : Occurrence) : List (List FunctionId) :=
  match x.deed with
  | .took lock => if lock = .handlers e then [(x.objects.event e).handlers] else []
  | _ => []

/-- The functions as a call has looked at them. -/
def met (log : History) (f : FunctionId) (function : Function) : Prop :=
  ∃ y ∈ log, y.deed = .did .look ∧ y.objects.function f = function

/-- Whether a raise of these handlers has called some of them and is in a call of the next one, in
which the client has answered `part`. -/
structure Calling (e : EventId) (argument : Payload) (handlers called : List FunctionId)
    (handler : FunctionId) (function : Function) (part : List Exchange) (log : History) : Prop where
  listed : collect (listed e) log = [handlers]
  next : ∃ waiting, handlers = called ++ handler :: waiting
  called : ∃ exchanges, CallsAll (met log) argument called exchanges ∧
    collect exchanged log = exchanges ++ part
  met : met log handler function

/-- The contract of raising.  The handlers are listed once, before the raise looks at anything; the
client is asked for what is next in the call of the next handler; a raise that returns has called
all of them and answers their number.  The raise itself changes nothing. -/
def raising : Contract := fun x log =>
  match x.operation with
  | .raise e argument =>
    match x.deed with
    | .did effect => effect = .look ∧ ∃ handlers, handlers ∈ collect (listed e) log
    | .asked upcall => ∃ handlers called handler function part,
      Calling e argument handlers called handler function part log ∧
        AsksNext function argument part upcall
    | .returned answer => ∃ handlers, collect (listed e) log = [handlers] ∧
      CallsAll (met log) argument handlers (collect exchanged log) ∧
      answer = .number handlers.length
    | _ => True
  | _ => True

section

variable {argument : Payload} {handlers called : List FunctionId} {handler : FunctionId}
  {function : Function} {part : List Exchange} {log : History}

theorem met.cons {f : FunctionId} (h : met log f function) : met (x :: log) f function := by
  obtain ⟨y, hy, hlook⟩ := h
  exact ⟨y, List.mem_cons_of_mem _ hy, hlook⟩

/-- What the client answers belongs to the call of the handler that is being called. -/
theorem Calling.cons (h : Calling e argument handlers called handler function part log)
    (hlisted : x.listed e = []) :
    Calling e argument handlers called handler function (part ++ x.exchanged) (x :: log) := by
  obtain ⟨exchanges, hcalled, hexchanged⟩ := h.called
  constructor
  case listed => rw [collect_cons, h.listed, hlisted, List.append_nil]
  case next => exact h.next
  case called =>
    refine ⟨exchanges, hcalled.mono fun f _ function hf => hf.cons, ?_⟩
    rw [collect_cons, hexchanged, List.append_assoc]
  case met => exact h.met.cons

theorem Calling.answered (h : Calling e argument handlers called handler function part log)
    (call : Nat) (op : Operation) (upcall : Upcall) (reply : upcall.Reply) (o o' : Objects) :
    Calling e argument handlers called handler function (part ++ [⟨upcall, reply⟩])
      (⟨call, op, .answered upcall reply, o'⟩ :: ⟨call, op, .asked upcall, o⟩ :: log) := by
  have hasked := h.cons (x := ⟨call, op, .asked upcall, o⟩) rfl
  simp only [exchanged, List.append_nil] at hasked
  exact hasked.cons (x := ⟨call, op, .answered upcall reply, o'⟩) rfl

/-- An observation is converted, or there is no such local time. -/
theorem apply_availability_cases (current : Payload) :
    (∃ result, (Converter.availability.apply current : Activity Unit Payload) = .done result) ∨
      ∃ message, (Converter.availability.apply current : Activity Unit Payload)
        = .panicked message := by
  cases current with
  | status value =>
    unfold Converter.apply
    dsimp only
    split
    · split
      · exact Or.inl ⟨_, rfl⟩
      · exact Or.inr ⟨_, rfl⟩
    · exact Or.inl ⟨_, rfl⟩
  | int | text | change => exact Or.inl ⟨_, rfl⟩

variable {call : Nat}

/-- The conversions that are left. -/
private theorem raising_convert {rest : List Converter} {current : Payload}
    (h : Calling e argument handlers called handler function part log)
    (hconverts : Converts function.converters argument part rest current) :
    Conforms raising call (.raise e argument)
      (fun result log => ∃ part, Calling e argument handlers called handler function part log ∧
        Converts function.converters argument part [] result)
      (convertThrough rest current) log := by
  induction rest generalizing part current log with
  | nil => exact ⟨part, h, hconverts⟩
  | cons converter rest ih =>
    cases converter with
    | client code =>
      intro o₁ h₁
      refine ⟨⟨handlers, called, handler, function, part, h, .convert hconverts⟩, ?_, ?_⟩
      · intro reply o₂ h₂
        exact ⟨trivial, ih (h.answered _ _ _ _ _ _) (hconverts.client reply)⟩
      · exact fun message o₂ h₂ => ⟨trivial, fun o₃ => trivial⟩
    | availability =>
      rcases apply_availability_cases current with ⟨result, hresult⟩ | ⟨message, hpanic⟩
      · rw [convertThrough, hresult]
        exact ih h (hconverts.availability hresult)
      · rw [convertThrough, hpanic]
        exact fun o => trivial

/-- The call of one handler. -/
private theorem raising_invoke {waiting : List FunctionId}
    (hsplit : handlers = called ++ handler :: waiting)
    (hlisted : collect (listed e) log = [handlers])
    (hcalled : CallsAll (met log) argument called (collect exchanged log)) :
    Conforms raising call (.raise e argument)
      (fun _ log => collect (listed e) log = [handlers] ∧
        CallsAll (met log) argument (called ++ [handler]) (collect exchanged log))
      (handler.invoke argument) log := by
  intro o₁ h₁
  refine ⟨⟨rfl, handlers, hlisted ▸ List.mem_singleton_self _⟩, ?_⟩
  have hcalling : Calling e argument handlers called handler (o₁.function handler) []
      (⟨call, .raise e argument, .did .look, o₁⟩ :: log) := by
    constructor
    case listed => rw [collect_cons, hlisted]; rfl
    case next => exact ⟨waiting, hsplit⟩
    case called => exact ⟨_, hcalled.mono fun f _ function hf => hf.cons, rfl⟩
    case met => exact ⟨_, List.mem_cons_self, rfl, rfl⟩
  show Conforms raising call _ _
    (Activity.bind (convertThrough (o₁.function handler).converters argument) _) _
  refine Conforms.bind (Conforms.mono ?_ (raising_convert hcalling .start))
  rintro converted log' ⟨part, hpart, hconverts⟩
  intro o₂ h₂
  refine ⟨⟨handlers, called, handler, _, part, hpart, .invoke hconverts⟩, ?_, ?_⟩
  · intro reply o₃ h₃
    refine ⟨trivial, ?_⟩
    have hdone := hpart.answered call (.raise e argument)
      (.invoke (o₁.function handler).endpoint converted) reply o₂ o₃
    obtain ⟨exchanges, hcalled', hexchanged⟩ := hdone.called
    refine ⟨hdone.listed, ?_⟩
    rw [hexchanged]
    exact hcalled'.concat hdone.met ⟨part, converted, hconverts, rfl⟩
  · exact fun message o₃ h₃ => ⟨trivial, fun o₄ => trivial⟩

end

/-- Every operation keeps the contract of raising. -/
theorem keeps_raising (op : Operation) : Keeps raising op := by
  cases op
  case raise e argument =>
    intro call o₀ h₀
    refine ⟨trivial, ?_⟩
    intro o₁ h₁
    refine ⟨trivial, ?_⟩
    intro o₂ h₂
    refine ⟨⟨rfl, (o₁.event e).handlers, by simp [listed]⟩, ?_⟩
    intro o₃ h₃
    refine ⟨trivial, ?_⟩
    -- what is looked at is what was there when the lock was taken
    have hsame : o₂.event e = o₁.event e :=
      Guarded.handlers.inj (h₂.agrees (.handlers e) _ (by simp [known, Lock.guarded]))
    show Conforms raising call _ _
      (Activity.bind (Activity.bind (Activity.forEach (o₂.event e).handlers _) _) _) _
    refine Conforms.bind (Conforms.bind (Conforms.mono ?_ (Conforms.forEach
      (I := fun called log => collect (listed e) log = [(o₂.event e).handlers] ∧
        CallsAll (met log) argument called (collect exchanged log)) ?_ ?_)))
    · rintro _ log ⟨hlisted, hcalled⟩
      exact fun o _ => ⟨_, hlisted, hcalled, rfl⟩
    · rintro called handler waiting log hsplit ⟨hlisted, hcalled⟩
      exact raising_invoke hsplit hlisted hcalled
    · exact ⟨by simp [listed, hsame], .nil⟩
  all_goals exact (keeps_abiding _).weaken fun x log hop _ => by simp only [raising, hop]

/-! ## What raises do in a run -/

theorem mem_listed {handlers : List FunctionId} :
    handlers ∈ x.listed e ↔
      x.deed = .took (.handlers e) ∧ (x.objects.event e).handlers = handlers := by
  unfold listed
  split
  next lock hdeed =>
    split
    next hlock => simp [hdeed, hlock, eq_comm]
    next hlock => simp [hdeed, hlock]
  next hother =>
    constructor
    · exact fun hmem => absurd hmem List.not_mem_nil
    · exact fun ⟨hdeed, _⟩ => absurd hdeed (hother _)

/-- The one deed of a raise in which it lists the handlers. -/
structure Lists (e : EventId) (log : History) (y : Occurrence) : Prop where
  mem : y ∈ log
  deed : y.deed = .took (.handlers e)
  once : collect (listed e) log = [(y.objects.event e).handlers]

theorem exists_lists {log : History} {handlers : List FunctionId}
    (h : collect (listed e) log = [handlers]) :
    ∃ y, Lists e log y ∧ (y.objects.event e).handlers = handlers := by
  obtain ⟨y, hy, hmem⟩ := mem_collect.mp (h ▸ List.mem_singleton_self handlers)
  obtain ⟨hdeed, hhandlers⟩ := mem_listed.mp hmem
  exact ⟨y, ⟨hy, hdeed, hhandlers ▸ h⟩, hhandlers⟩

/-- The handlers of an event are functions that exist. -/
theorem Reachable.hasFunction_of_handler (hs : Reachable rule s) {f : FunctionId}
    (hf : f ∈ (s.objects.event e).handlers) : s.objects.HasFunction f :=
  hs.hasFunction_of_added e f ((hs.handlers_sublist e).subset hf)

/-- A handler that a raise has listed and then looked at is the same function from then on. -/
theorem Reachable.function_of_met (hs : Reachable rule s) {call : Nat} {argument : Payload}
    {handlers : List FunctionId} {f : FunctionId} {function : Function}
    (hop : ∀ y ∈ logOf s.history call, y.operation = .raise e argument)
    (hlisted : collect (listed e) (logOf s.history call) = [handlers]) (hf : f ∈ handlers)
    (hmet : met (logOf s.history call) f function) : s.objects.function f = function := by
  obtain ⟨z, hz, hlook, rfl⟩ := hmet
  obtain ⟨hin, rfl⟩ := mem_logOf.mp hz
  obtain ⟨later, s', hsplit, hs', hnext⟩ := hs.exists_next hin
  refine (hs.function_eq z hin ?_).2
  -- the handlers were listed before, and they existed then
  have hlaw := hnext.obeys keeps_raising
  simp only [raising, hop z hz, hlook] at hlaw
  obtain ⟨_, handlers', hmem⟩ := hlaw
  obtain ⟨y, hy, hmem⟩ := mem_collect.mp hmem
  obtain ⟨hy', hcall⟩ := mem_logOf.mp hy
  have hmem' : handlers' ∈ collect (listed e) (logOf s.history z.call) :=
    mem_collect.mpr ⟨y, mem_logOf.mpr ⟨mem_of_split hsplit y hy, hcall⟩, hmem⟩
  rw [hlisted, List.mem_singleton] at hmem'
  obtain ⟨_, hhandlers⟩ := mem_listed.mp hmem
  obtain ⟨_, s'', _, hs'', hnext'⟩ := hs'.exists_next hy'
  have hexists : y.objects.HasFunction f := by
    rw [hnext'.objects] at hhandlers ⊢
    exact hs''.hasFunction_of_handler (by rw [hhandlers, hmem']; exact hf)
  rw [hnext.objects]
  exact (hs'.function_eq y hy' hexists).1

/-- What raises of an event do, in a run that has come to `s`. -/
structure RaisesSnapshot (e : EventId) (s : State) : Prop where
  /-- A raise that calls the client calls the next one of the handlers that it has listed, after it
  has called those before, each once and with its own argument. -/
  asked : ∀ {later x earlier argument upcall}, s.history = later ++ x :: earlier →
    x.operation = .raise e argument → x.deed = .asked upcall →
    ∃ y called handler waiting exchanges part, Lists e (logOf earlier x.call) y ∧
      (y.objects.event e).handlers = called ++ handler :: waiting ∧
      collect exchanged (logOf earlier x.call) = exchanges ++ part ∧
      CallsAll (x.objects.function · = ·) argument called exchanges ∧
      AsksNext (x.objects.function handler) argument part upcall
  /-- A raise that returns has called all the handlers that it has listed, each once, in order and
  with its own argument, and answers their number. -/
  returned : ∀ {later x earlier argument answer}, s.history = later ++ x :: earlier →
    x.operation = .raise e argument → x.deed = .returned answer →
    ∃ y, Lists e (logOf earlier x.call) y ∧
      CallsAll (x.objects.function · = ·) argument (y.objects.event e).handlers
        (collect exchanged (logOf earlier x.call)) ∧
      answer = .number (y.objects.event e).handlers.length
  /-- What it has listed is what was there when it was called, but for what others did meanwhile. -/
  moment : ∀ {later y between x earlier}, s.history = later ++ y :: (between ++ x :: earlier) →
    x.call = y.call → x.deed = .begun → y.deed = .took (.handlers e) →
    (y.objects.event e) = (x.objects.event e).edited (collect (edits e) between)
  /-- Raising edits no handlers itself. -/
  own : ∀ x ∈ s.history, ∀ e' argument, x.operation = .raise e' argument → x.edits e = []
  /-- From any deed to a later one the handlers change by the edits in between, in their order. -/
  edited : ∀ {later y between x earlier}, s.history = later ++ y :: (between ++ x :: earlier) →
    y.objects.event e = (x.objects.event e).edited (collect (edits e) (between ++ [x]))
  /-- Each call that edits makes its own edit and no other. -/
  performed : ∀ x ∈ s.history, ∀ edit answer, x.operation = Edit.operation e edit →
    x.deed = .returned answer → collect (edits e) (logOf s.history x.call) = [edit]
  /-- A raise returns the number of the handlers of the moment if these return, whatever they do. -/
  returns : ∀ {σ : Type} (service : Service σ) (held : List Lock) (w w' : World σ) argument,
    .handlers e ∉ held → CalledInTurn service held argument (w.objects.event e).handlers w w' →
    (e.raise argument).run service held w
      = ⟨.returned (w.objects.event e).handlers.length, held, w'⟩

/-- In every run a raise calls the handlers of the moment, whatever happens meanwhile. -/
theorem raise_calls_snapshot (hs : Reachable rule s) (e : EventId) : RaisesSnapshot e s := by
  constructor
  case asked =>
    intro later x earlier argument upcall hsplit hop hdeed
    obtain ⟨s', hs', rfl, hnext⟩ := hs.split hsplit
    have hlaw := hnext.obeys keeps_raising
    simp only [raising, hop, hdeed] at hlaw
    obtain ⟨handlers, called, handler, function, part, hcalling, hasks⟩ := hlaw
    obtain ⟨y, hlists, rfl⟩ := exists_lists hcalling.listed
    obtain ⟨waiting, hsplit'⟩ := hcalling.next
    obtain ⟨exchanges, hcalled, hexchanged⟩ := hcalling.called
    have hsame : ∀ f ∈ (y.objects.event e).handlers, ∀ function,
        met (logOf s'.history x.call) f function → x.objects.function f = function := by
      intro f hf function hmet
      rw [hnext.objects]
      exact hs'.function_of_met (fun z hz => (hnext.operation_eq hz).trans hop) hlists.once hf hmet
    refine ⟨y, called, handler, waiting, exchanges, part, hlists, hsplit', hexchanged, ?_, ?_⟩
    · exact hcalled.mono fun f hf => hsame f (by rw [hsplit']; exact List.mem_append_left _ hf)
    · rw [hsame handler (by rw [hsplit']; simp) function hcalling.met]
      exact hasks
  case returned =>
    intro later x earlier argument answer hsplit hop hdeed
    obtain ⟨s', hs', rfl, hnext⟩ := hs.split hsplit
    have hlaw := hnext.obeys keeps_raising
    simp only [raising, hop, hdeed] at hlaw
    obtain ⟨handlers, hlisted, hcalled, hanswer⟩ := hlaw
    obtain ⟨y, hlists, rfl⟩ := exists_lists hlisted
    refine ⟨y, hlists, hcalled.mono fun f hf function hmet => ?_, hanswer⟩
    rw [hnext.objects]
    exact hs'.function_of_met (fun z hz => (hnext.operation_eq hz).trans hop) hlists.once hf hmet
  case moment =>
    intro later y between x earlier hsplit _ hbegun _
    rw [hs.event_between hsplit e, collect_append, collect_cons, collect_nil, List.nil_append,
      show x.edits e = [] by simp [edits, hbegun], List.nil_append]
  case own =>
    intro x hx e' argument hop
    refine edits_eq_nil fun effect hdeed => ?_
    obtain ⟨_, s', _, _, hnext⟩ := hs.exists_next hx
    have hlaw := hnext.obeys keeps_raising
    simp only [raising, hop, hdeed] at hlaw
    rw [hlaw.1]
    simp [Effect.lock?]
  case edited => exact fun hsplit => hs.event_between hsplit e
  case performed => exact fun x hx edit answer hop hdeed => hs.edits_of_returned hx hop hdeed
  case returns => exact fun service held w w' argument hlock h => EventId.run_raise hlock h

/-- Three handlers are there, the first one twice.  When it is called the first one removes its
other occurrence, adds a new handler and raises the event again with another argument; in that raise
it clears the event, and a handler that is called later adds itself twice.  Another thread adds a
handler meanwhile. -/
def reentrantRaises : List Choice :=
  let e : EventId := ⟨0⟩
  let f : FunctionId := ⟨0⟩
  let g : FunctionId := ⟨1⟩
  let new : FunctionId := ⟨2⟩
  .begin 0 .makeEvent :: goOn 0 2 ++ .begin 0 .makeFunction :: goOn 0 2 ++
  .begin 0 .makeFunction :: goOn 0 2 ++ .begin 0 .makeFunction :: goOn 0 2 ++
  .begin 0 (.add e f) :: goOn 0 4 ++ .begin 0 (.add e g) :: goOn 0 4 ++
  .begin 0 (.add e f) :: goOn 0 4 ++
  .begin 0 (.raise e (.int 1)) :: goOn 0 5 ++
  .begin 0 (.remove e f) :: goOn 0 4 ++ .begin 0 (.add e new) :: goOn 0 4 ++
  .begin 0 (.raise e (.int 2)) :: goOn 0 5 ++
  .begin 0 (.clear e) :: goOn 0 4 ++ .answer 0 (.ok ()) :: goOn 0 2 ++
  .begin 1 (.add e new) :: goOn 1 4 ++ .answer 0 (.ok ()) :: goOn 0 2 ++
  .begin 0 (.add e new) :: goOn 0 4 ++ .begin 0 (.add e new) :: goOn 0 4 ++
  .answer 0 (.ok ()) :: goOn 0 1 ++
  .answer 0 (.ok ()) :: goOn 0 2 ++ .answer 0 (.ok ()) :: goOn 0 2 ++ .answer 0 (.ok ()) :: goOn 0 1

theorem raise_calls_snapshot_reentrant :
    let s := State.initial.follow Rule.any reentrantRaises
    let invoked (call : Nat) := (collect exchanged (logOf s.history call)).map (·.upcall)
    Reachable Rule.any s ∧ RaisesSnapshot ⟨0⟩ s ∧
      invoked 7 = [.invoke ⟨0⟩ (.int 1), .invoke ⟨1⟩ (.int 1), .invoke ⟨0⟩ (.int 1)] ∧
      invoked 10 = [.invoke ⟨0⟩ (.int 2), .invoke ⟨1⟩ (.int 2), .invoke ⟨2⟩ (.int 2)] ∧
      (s.objects.event ⟨0⟩).handlers = [⟨2⟩, ⟨2⟩, ⟨2⟩] ∧ s.frames.length = 0 := by
  have hs : Reachable Rule.any (State.initial.follow Rule.any reentrantRaises) :=
    Reachable.initial.follow reentrantRaises
  refine ⟨hs, raise_calls_snapshot hs _, ?_⟩
  decide +kernel

end Interleaving
end Hostlink
