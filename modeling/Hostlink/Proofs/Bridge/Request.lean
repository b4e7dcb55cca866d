import Mathlib.Logic.Function.Defs
import Hostlink.Proofs.Bridge.Table
import Hostlink.Proofs.Interleaving.Operation

/-!
# Requests to a table

What the operations on a bridge ask of its table, how the table serves it, and what it answers.

The table does not care which numbers functions have: if functions and hooks are renamed, and
different functions stay different, it serves and answers the same (`Renaming.table_serve`,
`Renaming.answer_table`).
-/

namespace Hostlink

/-- What is asked of the table of a bridge. -/
inductive TableRequest where
  | setHook (key : MemberKey) (hook : Hook)
  | attach (key : MemberKey) (caller native : FunctionId)
  | detach (key : MemberKey) (caller : FunctionId)
  | release
  | len (name : String)
  | totalLen
  | isEmpty
  | isReleased
  | shown
  deriving DecidableEq, Repr

namespace CallbackTable

/-- The table after a request. -/
def serve (t : CallbackTable) : TableRequest → CallbackTable
  | .setHook key hook => t.setHook key hook
  | .attach key caller native => if t.released then t else t.push key ⟨caller, native⟩
  | .detach key caller => t.detach key caller
  | .release => t.drained
  | .len _ | .totalLen | .isEmpty | .isReleased | .shown => t

/-- The table after requests, the first one first. -/
def served (requests : List TableRequest) : CallbackTable := requests.foldl serve .empty

theorem served_append (earlier later : List TableRequest) :
    served (earlier ++ later) = later.foldl serve (served earlier) :=
  List.foldl_append

/-- The request if it leaves its mark; one that only looks does not, nor does a refused one. -/
def recorded (t : CallbackTable) (request : TableRequest) : List TableRequest :=
  match request with
  | .attach _ _ _ => if t.released then [] else [request]
  | .setHook _ _ | .detach _ _ | .release => [request]
  | .len _ | .totalLen | .isEmpty | .isReleased | .shown => []

/-- What the table answers to a request. -/
def answer (t : CallbackTable) : TableRequest → Answer
  | .setHook _ _ => .nothing
  | .attach _ _ native =>
    .attached (if t.released then .error (.objectDisposed "CallbackBridge") else .ok native)
  | .detach key caller => .detached ((t.first? key caller).map (·.native))
  | .release => .number t.totalLen
  | .len name => .number (t.len name)
  | .totalLen => .number t.totalLen
  | .isEmpty => .flag (t.totalLen = 0)
  | .isReleased => .flag t.released
  | .shown => .shown t.shown

end CallbackTable

/-- What an operation asks of the table of a bridge.  Attaching asks with a native callback of its
own. -/
def Operation.Requests (b : BridgeId) (op : Operation) : TableRequest → Prop
  | .setHook key hook => op = .registerMember b key hook
  | .attach key caller _ => ∃ converter registrar, op = .attach b key caller converter registrar
  | .detach key caller => op = .tryDetach b key caller
  | .release => op = .releaseAll b
  | .len name => op = .len b name
  | .totalLen => op = .totalLen b
  | .isEmpty => op = .isEmpty b
  | .isReleased => op = .isReleased b
  | .shown => op = .showBridge b

/-! ## Renaming -/

/-- A change of every value commutes with a change of one. -/
theorem map_modifySorted {κ α β : Type} [KeyOrder κ] {key : κ} {f : Option α → α}
    {f' : Option β → β} {g : α → β} (h : ∀ value?, g (f value?) = f' (value?.map g))
    (pairs : List (κ × α)) :
    (modifySorted key f pairs).map (fun (key, value) => (key, g value))
      = modifySorted key f' (pairs.map fun (key, value) => (key, g value)) := by
  induction pairs with
  | nil => simp [modifySorted, h]
  | cons head rest ih =>
    obtain ⟨k, value⟩ := head
    rw [List.map_cons, modifySorted, modifySorted]
    split
    · simp [h]
    · split
      · rw [List.map_cons, ih]
      · simp [h]

theorem SortedMap.mapValues_modify {κ α β : Type} [KeyOrder κ] (m : SortedMap κ α) (key : κ)
    {f : Option α → α} {f' : Option β → β} {g : α → β}
    (h : ∀ value?, g (f value?) = f' (value?.map g)) :
    (m.modify key f).mapValues g = (m.mapValues g).modify key f' := by
  simp only [modify, mapValues, map_modifySorted h]

/-- Other numbers for functions, and other hooks. -/
structure Renaming where
  function : FunctionId → FunctionId
  injective : Function.Injective function
  hook : Hook → Hook

namespace Renaming

variable (ρ : Renaming)

def registration (entry : Registration) : Registration :=
  ⟨ρ.function entry.caller, ρ.function entry.native⟩

def member (m : Member) : Member := ⟨m.entries.map ρ.registration, m.hook.map ρ.hook⟩

def table (t : CallbackTable) : CallbackTable := { t with members := t.members.mapValues ρ.member }

def request : TableRequest → TableRequest
  | .setHook key hook => .setHook key (ρ.hook hook)
  | .attach key caller native => .attach key (ρ.function caller) (ρ.function native)
  | .detach key caller => .detach key (ρ.function caller)
  | request => request

def answer : Answer → Answer
  | .attached (.ok native) => .attached (.ok (ρ.function native))
  | .detached native? => .detached (native?.map ρ.function)
  | answer => answer

variable (t : CallbackTable) (key : MemberKey)

@[simp]
theorem released_table : (ρ.table t).released = t.released := rfl

theorem entries_table : (ρ.table t).entries key = (t.entries key).map ρ.registration := by
  simp only [CallbackTable.entries, CallbackTable.member?, table, SortedMap.get?_mapValues]
  cases t.members.get? key <;> rfl

/-- Different callers stay different, so the first registration of a caller stays the first. -/
theorem first?_table (caller : FunctionId) :
    (ρ.table t).first? key (ρ.function caller) = (t.first? key caller).map ρ.registration := by
  rw [CallbackTable.first?, CallbackTable.first?, entries_table, List.find?_map]
  congr 2
  funext entry
  simp [registration, ρ.injective.eq_iff]

theorem table_modifyMember {f f' : Member → Member} (h : ∀ m, ρ.member (f m) = f' (ρ.member m)) :
    ρ.table (t.modifyMember key f) = (ρ.table t).modifyMember key f' := by
  have hvalue : ∀ m? : Option Member,
      ρ.member (f (m?.getD default)) = f' ((m?.map ρ.member).getD default) := by
    intro m?
    rw [h]
    cases m? <;> rfl
  exact congrArg (CallbackTable.mk · t.released) (t.members.mapValues_modify key hvalue)

theorem table_setHook (hook : Hook) :
    ρ.table (t.setHook key hook) = (ρ.table t).setHook key (ρ.hook hook) :=
  ρ.table_modifyMember t key fun _ => rfl

theorem table_push (entry : Registration) :
    ρ.table (t.push key entry) = (ρ.table t).push key (ρ.registration entry) :=
  ρ.table_modifyMember t key fun m => by simp [member]

theorem table_detach (caller : FunctionId) :
    ρ.table (t.detach key caller) = (ρ.table t).detach key (ρ.function caller) := by
  rw [CallbackTable.detach, CallbackTable.detach, first?_table]
  cases t.first? key caller with
  | none => rfl
  | some entry =>
    refine ρ.table_modifyMember t key fun m => ?_
    have hsame : (fun x : Registration => decide (x.caller = ρ.function caller)) ∘ ρ.registration
        = fun x => decide (x.caller = caller) := by
      funext x
      simp [registration, ρ.injective.eq_iff]
    rw [member, member, List.eraseP_map, hsame]

theorem table_drained : ρ.table t.drained = (ρ.table t).drained := by
  simp [table, CallbackTable.drained, SortedMap.mapValues, member]

/-- The table serves renamed requests as it serves those with the old names. -/
theorem table_serve (request : TableRequest) :
    ρ.table (t.serve request) = (ρ.table t).serve (ρ.request request) := by
  cases request with
  | setHook key hook => exact ρ.table_setHook t key hook
  | attach key caller native =>
    rw [Renaming.request, CallbackTable.serve, CallbackTable.serve, released_table,
      apply_ite ρ.table, table_push]
    rfl
  | detach key caller => exact ρ.table_detach t key caller
  | release => exact ρ.table_drained t
  | len | totalLen | isEmpty | isReleased | shown => rfl

/-- It records them under their new names. -/
theorem recorded_table (request : TableRequest) :
    (ρ.table t).recorded (ρ.request request) = (t.recorded request).map ρ.request := by
  cases request with
  | attach key caller native =>
    rw [Renaming.request, CallbackTable.recorded, CallbackTable.recorded, released_table,
      apply_ite (List.map ρ.request)]
    rfl
  | setHook | detach | release | len | totalLen | isEmpty | isReleased | shown => rfl

theorem table_served (requests : List TableRequest) :
    ρ.table (.served requests) = .served (requests.map ρ.request) := by
  suffices h : ∀ t : CallbackTable, ρ.table (requests.foldl CallbackTable.serve t)
      = (requests.map ρ.request).foldl CallbackTable.serve (ρ.table t) from h .empty
  induction requests with
  | nil => exact fun t => rfl
  | cons request rest ih =>
    intro t
    rw [List.foldl_cons, ih, table_serve]
    rfl

theorem totalLen_table : (ρ.table t).totalLen = t.totalLen := by
  simp [CallbackTable.totalLen, SortedMap.values, SortedMap.mapValues, table, member,
    List.length_flatMap, Function.comp_def]

theorem len_table (name : String) : (ρ.table t).len name = t.len name := by
  simp [CallbackTable.len, SortedMap.mapValues, table, member, List.filter_map,
    List.length_flatMap, Function.comp_def]

theorem shown_table : (ρ.table t).shown = t.shown := by
  simp [CallbackTable.shown, SortedMap.mapValues, table, member, Function.comp_def]

/-- The table answers renamed requests as it answers those with the old names. -/
theorem answer_table (request : TableRequest) :
    (ρ.table t).answer (ρ.request request) = ρ.answer (t.answer request) := by
  cases request with
  | setHook | isReleased => rfl
  | attach key caller native =>
    rw [Renaming.request, CallbackTable.answer, CallbackTable.answer, released_table]
    cases t.released <;> rfl
  | detach key caller =>
    simp only [CallbackTable.answer, Renaming.request, first?_table, Renaming.answer,
      Option.map_map]
    rfl
  | release | totalLen => exact congrArg Answer.number (ρ.totalLen_table t)
  | len name => exact congrArg Answer.number (ρ.len_table t name)
  | isEmpty => simp only [CallbackTable.answer, Renaming.request, Renaming.answer, totalLen_table]
  | shown => exact congrArg Answer.shown (ρ.shown_table t)

end Renaming
end Hostlink
