import Hostlink.Proofs.Storage.Traffic

/-!
# What traffic does to handles

Each action has one of a few effects on the streams, the handles and the tasks.  The invariant that
all effects keep: every stream owns a handle, and a handle is busy exactly while one task has its
slot.
-/

namespace Hostlink.Storage

/-! ## What one action does to streams, handles and tasks -/

/-- Whether an action disposes of a stream or drops it. -/
def Action.ends : Action → StreamId → Bool
  | .dispose other, id | .drop other, id => other = id
  | _, _ => false

namespace Traffic

/-- What an action leaves of the streams, the handles and the tasks. -/
inductive Effect (t t' : Traffic) : Action → Prop where
  | plain {a : Action} (idle : ∀ id, a.ends id = true → t.session.stream? id = none)
      (streams : t'.session.streams = t.session.streams)
      (handles : t'.session.handles = t.session.handles) (tasks : t'.tasks = t.tasks) :
      Effect t t' a
  | opened (mode : Mode) (path : String) (file : OpenFile)
      (streams : t'.session.streams =
        t.session.streams.insert (.owned ⟨FileHandle.typeName, t.session.handles.next⟩))
      (handles : t'.session.handles = t.session.handles.insert (.make path file))
      (tasks : t'.tasks = t.tasks) : Effect t t' (.obtain mode path)
  | shared (id : StreamId) (wrapper : Wrapper) (found : t.session.stream? id = some wrapper)
      (streams : t'.session.streams = t.session.streams.insert (.owned wrapper.native))
      (handles : t'.session.handles = t.session.handles) (tasks : t'.tasks = t.tasks) :
      Effect t t' (.share id)
  | queued (id : StreamId) (work : Work) (wrapper : Wrapper)
      (found : t.session.stream? id = some wrapper) (session : t'.session = t.session)
      (tasks : t'.tasks = t.tasks.insert ⟨id, work, .waiting⟩) : Effect t t' (.begin id work)
  | took (n : Nat) (id : StreamId) (work : Work) (wrapper : Wrapper)
      (task : t.tasks.get? n = some ⟨id, work, .waiting⟩)
      (found : t.session.stream? id = some wrapper) (free : t.session.isFree id = true)
      (streams : t'.session.streams = t.session.streams)
      (handles : t'.session.handles =
        t.session.handles.modify wrapper.native.identity ({ · with busy := true }))
      (tasks : t'.tasks = t.tasks.modify n ({ · with phase := .holding })) : Effect t t' (.take n)
  | finished (n : Nat) (id : StreamId) (work : Work) (wrapper : Wrapper) (handle : FileHandle)
      (slot : Option OpenFile) (task : t.tasks.get? n = some ⟨id, work, .holding⟩)
      (found : t.session.stream? id = some wrapper)
      (under : t.session.handles.get? wrapper.native.identity = some handle)
      (empty : handle.slot = none → slot = none) (streams : t'.session.streams = t.session.streams)
      (handles : t'.session.handles =
        t.session.handles.modify wrapper.native.identity ({ · with slot, busy := false }))
      (tasks : t'.tasks = t.tasks.modify n ({ · with phase := .finished })) :
      Effect t t' (.finish n)
  /-- A stream that has closed its handle, or cannot close it, is disposed of or dropped. -/
  | marked {a : Action} (id : StreamId) (wrapper : Wrapper)
      (ends : ∀ other, a.ends other = (id = other : Bool))
      (found : t.session.stream? id = some wrapper)
      (stays : wrapper.closed = true ∨ t.session.isFree id = false)
      (streams : t'.session.streams =
        t.session.streams.modify id.index ({ · with disposed := true }))
      (handles : t'.session.handles = t.session.handles) (tasks : t'.tasks = t.tasks) :
      Effect t t' a
  /-- A stream is disposed of or dropped and closes its handle. -/
  | closed {a : Action} (id : StreamId) (wrapper : Wrapper)
      (ends : ∀ other, a.ends other = (id = other : Bool))
      (found : t.session.stream? id = some wrapper) (free : t.session.isFree id = true)
      (streams : t'.session.streams =
        t.session.streams.modify id.index ({ · with disposed := true, closed := true }))
      (handles : t'.session.handles =
        t.session.handles.modify wrapper.native.identity ({ · with slot := none }))
      (tasks : t'.tasks = t.tasks) : Effect t t' a
  /-- Somebody else closes a handle. -/
  | shut (id : StreamId) (wrapper : Wrapper) (found : t.session.stream? id = some wrapper)
      (free : t.session.isFree id = true) (streams : t'.session.streams = t.session.streams)
      (handles : t'.session.handles =
        t.session.handles.modify wrapper.native.identity ({ · with slot := none }))
      (tasks : t'.tasks = t.tasks) : Effect t t' (.close id)

variable {t : Traffic}

/-- A disposal marks the stream and may close its handle. -/
theorem effect_ending (backed : t.session.Backed) (a : Action) (id : StreamId)
    (ends : ∀ other, a.ends other = (id = other : Bool)) {s' : Session} {notices : List Log.Event}
    (ending : s' = (Session.dispose id t.session).2.noticing notices) :
    Effect t { t with session := s' } a := by
  subst ending
  cases hw : t.session.stream? id with
  | none =>
    rw [Session.dispose_of_missing hw]
    refine .plain (fun other h => ?_) rfl rfl rfl
    rw [ends, decide_eq_true_eq] at h
    rw [← h, hw]
  | some wrapper =>
    obtain ⟨owned, handle, hh, -⟩ := backed id wrapper hw
    have free := Session.isFree_eq hw hh
    rw [Session.dispose_eq hw hh]
    cases hc : wrapper.closed with
    | true =>
      have done : wrapper.needsClose = false := by simp [Wrapper.needsClose, hc]
      rw [if_pos done]
      exact .marked id wrapper ends hw (.inl hc) rfl rfl rfl
    | false =>
      have needed : ¬ wrapper.needsClose = false := by simp [Wrapper.needsClose, owned, hc]
      rw [if_neg needed]
      cases hb : handle.busy with
      | true => exact .marked id wrapper ends hw (.inr (by simp [free, hb])) rfl rfl rfl
      | false =>
        refine .closed id wrapper ends hw (by simp [free, hb]) ?_ rfl rfl
        exact Registry.modify_modify _ _ _ _

/-- Each action has such an effect. -/
theorem effect (backed : t.session.Backed)
    (placed : ∀ n task, t.tasks.get? n = some task → ∃ w, t.session.stream? task.id = some w)
    (a : Action) : Effect t (t.step a).2 a := by
  cases a with
  | obtain mode path =>
    obtain ⟨fault, tree, h⟩ | ⟨tree, entry, h⟩ := Session.obtain_cases mode path t.session
    · simp only [step, lift, h]
      exact .plain (by simp [Action.ends]) rfl rfl rfl
    · simp only [step, lift, h]
      exact .opened mode path _ rfl rfl rfl
  | share id =>
    cases hw : t.session.stream? id with
    | none =>
      simp only [step, lift, Session.share_of_missing hw]
      exact .plain (by simp [Action.ends]) rfl rfl rfl
    | some wrapper =>
      simp only [step, lift, Session.share_eq hw]
      exact .shared id wrapper hw rfl rfl rfl
  | lookUp path => exact .plain (by simp [Action.ends]) rfl rfl rfl
  | list path =>
    obtain ⟨fault, h⟩ | ⟨entries, h⟩ := Session.list_cases path t.session <;>
      simp only [step, lift, h] <;> exact .plain (by simp [Action.ends]) rfl rfl rfl
  | delete path =>
    obtain ⟨fault, h⟩ | ⟨tree, h⟩ := Session.delete_cases path t.session <;>
      simp only [step, lift, h] <;> exact .plain (by simp [Action.ends]) rfl rfl rfl
  | dropEntry index => exact .plain (by simp [Action.ends]) rfl rfl rfl
  | begin id work =>
    cases hw : t.session.stream? id with
    | none =>
      have same : (t.step (.begin id work)).2 = t := by
        cases work <;> simp [step, begin, Session.ensureLive, hw]
      rw [same]
      exact .plain (by simp [Action.ends]) rfl rfl rfl
    | some wrapper =>
      by_cases refused : (t.step (.begin id work)).2 = t
      · rw [refused]
        exact .plain (by simp [Action.ends]) rfl rfl rfl
      · have queued : t.step (.begin id work) = t.queue id work := by
          cases work with
          | other use => simp [step, begin, hw]
          | call c =>
            cases hd : wrapper.disposed <;>
              simp [step, begin, Session.ensureLive, Wrapper.ensureLive, hw, hd] at refused ⊢
        rw [queued]
        exact .queued id work wrapper hw rfl rfl
  | take n =>
    by_cases waits : ∃ id work, t.tasks.get? n = some ⟨id, work, .waiting⟩ ∧ t.session.isFree id
    · obtain ⟨id, work, task, free⟩ := waits
      obtain ⟨wrapper, hw⟩ := placed n _ task
      have taken : t.step (.take n) = (.taken, t.advance n .holding true id t.session) := by
        simp only [step, task, free, if_true]
      rw [taken, advance, Session.setBusy_eq hw]
      exact .took n id work wrapper task hw free rfl rfl rfl
    · have same : (t.step (.take n)).2 = t := by
        simp only [step]
        split
        next id work task =>
          rw [if_neg fun free => waits ⟨id, work, task, free⟩]
        next => rfl
      rw [same]
      exact .plain (by simp [Action.ends]) rfl rfl rfl
  | finish n =>
    by_cases holds : ∃ id work, t.tasks.get? n = some ⟨id, work, .holding⟩
    · obtain ⟨id, work, task⟩ := holds
      obtain ⟨wrapper, hw⟩ := placed n _ task
      obtain ⟨-, handle, hh, -⟩ := backed id wrapper hw
      obtain ⟨slot, tree, notices, empty, done⟩ := work.carryOut_cases hw hh
      have finished : (t.step (.finish n)).2 =
          t.advance n .finished false id (work.carryOut id t.session).2 := by
        simp only [step, task]
        rfl
      have stays : (({ t.session with tree }.putSlot wrapper.native.identity slot).noticing
          notices).stream? id = some wrapper := hw
      rw [finished, advance, done, Session.setBusy_eq stays]
      refine .finished n id work wrapper handle slot task hw hh empty rfl ?_ rfl
      exact Registry.modify_modify _ _ _ _
    · have same : (t.step (.finish n)).2 = t := by
        simp only [step]
        split
        next id work task => exact absurd ⟨id, work, task⟩ holds
        next => rfl
      rw [same]
      exact .plain (by simp [Action.ends]) rfl rfl rfl
  | dispose id =>
    have same : (Session.dispose id t.session).2 =
        (Session.dispose id t.session).2.noticing [] := rfl
    exact effect_ending backed _ id (fun _ => rfl) same
  | drop id =>
    obtain ⟨notices, h⟩ := Session.drop_frame t.session id
    exact effect_ending backed _ id (fun _ => rfl) h
  | close id =>
    cases hw : t.session.stream? id with
    | none =>
      simp only [step, lift, Session.closeHandle_of_missing hw]
      exact .plain (by simp [Action.ends]) rfl rfl rfl
    | some wrapper =>
      obtain ⟨-, handle, hh, -⟩ := backed id wrapper hw
      simp only [step, lift, Session.closeHandle_eq hw hh]
      cases hb : handle.busy with
      | true => exact .plain (by simp [Action.ends]) rfl rfl rfl
      | false =>
        exact .shut id wrapper hw (by simp [Session.isFree_eq hw hh, hb]) rfl rfl rfl

/-! ## What holds between the actions -/

/-- Whether a stream is over the handle with this number. -/
def Over (t : Traffic) (id : StreamId) (index : Nat) : Prop :=
  ∃ wrapper, t.session.stream? id = some wrapper ∧ wrapper.native.identity = index

/-- Whether a task has the slot of a handle. -/
def Holds (t : Traffic) (n index : Nat) : Prop :=
  ∃ task, t.tasks.get? n = some task ∧ task.phase = .holding ∧ t.Over task.id index

/-- The invariant: each stream owns a handle, each task is for a stream, and exactly the busy
handles have a task that holds them, and only one. -/
structure Valid (t : Traffic) : Prop where
  backed : t.session.Backed
  placed : ∀ n task, t.tasks.get? n = some task →
    ∃ wrapper, t.session.stream? task.id = some wrapper
  held : ∀ index handle, t.session.handles.get? index = some handle →
    (handle.busy = true ↔ ∃ n, t.Holds n index)
  alone : ∀ n m index, t.Holds n index → t.Holds m index → n = m

/-- What an action makes of a handle: it may close it while nobody has the slot, give the slot to a
task, or take it back from the task that has it. -/
inductive Handled (t t' : Traffic) (index : Nat) (handle : FileHandle) :
    Action → FileHandle → Prop where
  | kept {a : Action} (holders : ∀ n, t'.Holds n index ↔ t.Holds n index) :
      Handled t t' index handle a handle
  | closed {a : Action} (free : handle.busy = false)
      (holders : ∀ n, t'.Holds n index ↔ t.Holds n index) :
      Handled t t' index handle a { handle with slot := none }
  | taken (n : Nat) (free : handle.busy = false)
      (holders : ∀ m, t'.Holds m index ↔ m = n ∨ t.Holds m index) :
      Handled t t' index handle (.take n) { handle with busy := true }
  | finished (n : Nat) (slot : Option OpenFile) (held : t.Holds n index)
      (empty : handle.slot = none → slot = none)
      (holders : ∀ m, t'.Holds m index ↔ m ≠ n ∧ t.Holds m index) :
      Handled t t' index handle (.finish n) { handle with slot, busy := false }

namespace Effect

variable {t' : Traffic} {a : Action} {id : StreamId} {wrapper wrapper' : Wrapper} {index : Nat}
  {handle : FileHandle}

/-- A stream is marked by its own end, and has closed its handle then if nobody had the slot. -/
theorem stream (e : Effect t t' a) (hw : t.session.stream? id = some wrapper) :
    t'.session.stream? id = some { wrapper with
      disposed := wrapper.disposed || a.ends id
      closed := wrapper.closed || a.ends id && t.session.isFree id } := by
  have found : t.session.streams.get? id.index = some wrapper := hw
  unfold Session.stream?
  cases e with
  | plain idle streams handles tasks =>
    have still : a.ends id = false := by
      by_contra ends
      have missing := idle id (by simpa using ends)
      rw [hw] at missing
      cases missing
    simp [streams, found, still]
  | opened mode path file streams handles tasks =>
    rw [streams, Registry.get?_insert_of_some _ found]
    simp [Action.ends]
  | shared id wrapper there streams handles tasks =>
    rw [streams, Registry.get?_insert_of_some _ found]
    simp [Action.ends]
  | queued id work wrapper there session tasks => simp [session, found, Action.ends]
  | took n id work wrapper task there free streams handles tasks =>
    simp [streams, found, Action.ends]
  | finished n id work wrapper handle slot task there under empty streams handles tasks =>
    simp [streams, found, Action.ends]
  | marked other wrapper₀ ends there stays streams handles tasks =>
    rw [streams, ends, Session.get?_modify_stream found]
    by_cases same : other = id
    · subst same
      obtain rfl : wrapper = wrapper₀ := Option.some.inj (hw.symm.trans there)
      obtain closed | busy := stays
      · simp [closed]
      · simp [busy]
    · simp [same]
  | closed other wrapper₀ ends there free streams handles tasks =>
    rw [streams, ends, Session.get?_modify_stream found]
    by_cases same : other = id
    · subst same
      simp [free]
    · simp [same]
  | shut id wrapper there free streams handles tasks => simp [streams, found, Action.ends]

/-- A new stream owns a handle and has not been disposed of. -/
theorem fresh (e : Effect t t' a) (missing : t.session.stream? id = none)
    (hw : t'.session.stream? id = some wrapper') (backed : t.session.Backed) :
    ∃ native handle, wrapper' = .owned native ∧
      t'.session.handles.get? native.identity = some handle := by
  have none : t.session.streams.get? id.index = none := missing
  have found : t'.session.streams.get? id.index = some wrapper' := hw
  cases e with
  | opened mode path file streams handles tasks =>
    rw [streams, Registry.get?_insert_eq_some, none] at found
    obtain there | ⟨-, rfl⟩ := found
    · cases there
    · exact ⟨_, .make path file, rfl, by simp [handles]⟩
  | shared other wrapper there streams handles tasks =>
    rw [streams, Registry.get?_insert_eq_some, none] at found
    obtain there | ⟨-, rfl⟩ := found
    · cases there
    · obtain ⟨-, handle, hh, -⟩ := backed other wrapper there
      exact ⟨_, handle, rfl, by rw [handles, hh]⟩
  | plain idle streams | took n other work wrapper task there free streams
  | finished n other work wrapper handle slot task there under empty streams
  | shut other wrapper there free streams =>
    rw [streams, none] at found
    cases found
  | queued other work wrapper there session tasks =>
    rw [session, none] at found
    cases found
  | marked other wrapper ends there stays streams | closed other wrapper ends there free streams =>
    rw [streams, Registry.get?_modify_of_none _ none] at found
    cases found

/-- A stream stays over its handle. -/
theorem over_iff (e : Effect t t' a) (hw : t.session.stream? id = some wrapper) (index : Nat) :
    t'.Over id index ↔ t.Over id index := by
  simp [Over, e.stream hw, hw]

theorem over_task (e : Effect t t' a) (valid : t.Valid) {n : Nat} {task : Task}
    (there : t.tasks.get? n = some task) (index : Nat) :
    t'.Over task.id index ↔ t.Over task.id index := by
  obtain ⟨wrapper, hw⟩ := valid.placed n task there
  exact e.over_iff hw index

/-- While no task goes on, the same tasks hold the handle. -/
theorem holders (e : Effect t t' a) (valid : t.Valid) (tasks : t'.tasks = t.tasks) (n : Nat) :
    t'.Holds n index ↔ t.Holds n index := by
  unfold Holds
  rw [tasks]
  exact exists_congr fun task => and_congr_right fun there =>
    and_congr_right fun _ => e.over_task valid there index

/-- A new task waits. -/
theorem holders_insert (e : Effect t t' a) (valid : t.Valid) {task : Task}
    (waits : task.phase = .waiting) (tasks : t'.tasks = t.tasks.insert task) (n : Nat) :
    t'.Holds n index ↔ t.Holds n index := by
  unfold Holds
  rw [tasks]
  constructor
  · rintro ⟨found, there, holding, hover⟩
    rw [Registry.get?_insert_eq_some] at there
    obtain there | ⟨-, rfl⟩ := there
    · exact ⟨found, there, holding, (e.over_task valid there index).1 hover⟩
    · rw [waits] at holding
      cases holding
  · rintro ⟨found, there, holding, hover⟩
    exact ⟨found, Registry.get?_insert_of_some _ there, holding,
      (e.over_task valid there index).2 hover⟩

/-- When a task goes on, the others hold what they held. -/
theorem holders_modify (e : Effect t t' a) (valid : t.Valid) {n : Nat} {task : Task} {phase : Phase}
    (there : t.tasks.get? n = some task)
    (tasks : t'.tasks = t.tasks.modify n ({ · with phase })) (m : Nat) :
    t'.Holds m index ↔
      m = n ∧ phase = .holding ∧ t.Over task.id index ∨ m ≠ n ∧ t.Holds m index := by
  unfold Holds
  rw [tasks]
  by_cases same : m = n
  · subst same
    simp [there, e.over_task valid there index]
  · rw [Registry.get?_modify_other _ _ (Ne.symm same)]
    simp only [same, false_and, ne_eq, not_false_eq_true, true_and, false_or]
    exact exists_congr fun task => and_congr_right fun there =>
      and_congr_right fun _ => e.over_task valid there index

/-- A task for another handle changes nothing about who holds this one. -/
theorem holders_elsewhere (e : Effect t t' a) (valid : t.Valid) {n : Nat} {task : Task}
    {phase : Phase} (there : t.tasks.get? n = some task) (apart : ¬ t.Over task.id index)
    (tasks : t'.tasks = t.tasks.modify n ({ · with phase })) (m : Nat) :
    t'.Holds m index ↔ t.Holds m index := by
  rw [e.holders_modify valid there tasks m]
  by_cases same : m = n
  · subst same
    simp [Holds, there, apart]
  · simp [same]

/-- What an action makes of a handle that is there. -/
theorem handled (e : Effect t t' a) (valid : t.Valid)
    (hh : t.session.handles.get? index = some handle) :
    ∃ handle', t'.session.handles.get? index = some handle' ∧
      Handled t t' index handle a handle' := by
  have whole := e
  cases e with
  | plain idle streams handles tasks | shared id wrapper there streams handles tasks
  | marked id wrapper ends there stays streams handles tasks =>
    exact ⟨handle, by rw [handles, hh], .kept (whole.holders valid tasks)⟩
  | opened mode path file streams handles tasks =>
    exact ⟨handle, by rw [handles, Registry.get?_insert_of_some _ hh],
      .kept (whole.holders valid tasks)⟩
  | queued id work wrapper there session tasks =>
    exact ⟨handle, by rw [session, hh], .kept (whole.holders_insert valid rfl tasks)⟩
  | took n id work wrapper task there free streams handles tasks =>
    by_cases same : wrapper.native.identity = index
    · subst same
      have hover : t.Over id wrapper.native.identity := ⟨wrapper, there, rfl⟩
      refine ⟨{ handle with busy := true }, by simp [handles, hh], .taken n ?_ fun m => ?_⟩
      · simpa [Session.isFree_eq there hh] using free
      · rw [whole.holders_modify valid task tasks m]
        by_cases hm : m = n <;> simp [hm, hover]
    · have apart : ¬ t.Over id index := by simp [Over, there, same]
      exact ⟨handle, by rw [handles, Registry.get?_modify_other _ _ same, hh],
        .kept (whole.holders_elsewhere valid task apart tasks)⟩
  | finished n id work wrapper handle₀ slot task there under empty streams handles tasks =>
    by_cases same : wrapper.native.identity = index
    · subst same
      obtain rfl : handle = handle₀ := Option.some.inj (hh.symm.trans under)
      have held : t.Holds n wrapper.native.identity := ⟨_, task, rfl, wrapper, there, rfl⟩
      refine ⟨{ handle with slot, busy := false }, by simp [handles, hh],
        .finished n slot held empty fun m => ?_⟩
      rw [whole.holders_modify valid task tasks m]
      simp
    · have apart : ¬ t.Over id index := by simp [Over, there, same]
      exact ⟨handle, by rw [handles, Registry.get?_modify_other _ _ same, hh],
        .kept (whole.holders_elsewhere valid task apart tasks)⟩
  | closed id wrapper ends there free streams handles tasks
  | shut id wrapper there free streams handles tasks =>
    by_cases same : wrapper.native.identity = index
    · subst same
      refine ⟨{ handle with slot := none }, by simp [handles, hh],
        .closed ?_ (whole.holders valid tasks)⟩
      simpa [Session.isFree_eq there hh] using free
    · exact ⟨handle, by rw [handles, Registry.get?_modify_other _ _ same, hh],
        .kept (whole.holders valid tasks)⟩

/-- A stream that ends while nobody has the slot leaves it empty. -/
theorem empties (e : Effect t t' a) (valid : t.Valid) (hw : t.session.stream? id = some wrapper)
    (ends : a.ends id = true) (free : t.session.isFree id = true)
    (hh : t'.session.handles.get? wrapper.native.identity = some handle) : handle.slot = none := by
  obtain ⟨-, handle₀, hh₀, done⟩ := valid.backed id wrapper hw
  cases e with
  | plain idle streams handles tasks =>
    rw [idle id ends] at hw
    cases hw
  | marked other wrapper₀ ends₀ there stays streams handles tasks =>
    obtain rfl : other = id := by simpa [ends₀] using ends
    obtain rfl : wrapper = wrapper₀ := Option.some.inj (hw.symm.trans there)
    rw [handles, hh₀] at hh
    obtain rfl := Option.some.inj hh
    obtain closed | busy := stays
    · exact done closed
    · rw [busy] at free
      cases free
  | closed other wrapper₀ ends₀ there free streams handles tasks =>
    obtain rfl : other = id := by simpa [ends₀] using ends
    obtain rfl : wrapper = wrapper₀ := Option.some.inj (hw.symm.trans there)
    rw [handles, Registry.get?_modify_index, hh₀] at hh
    obtain rfl := Option.some.inj hh
    rfl
  | _ => cases ends

/-- A task that has the slot of a handle was for that handle before. -/
theorem over_of_holds (e : Effect t t' a) (valid : t.Valid) {n : Nat} (h : t'.Holds n index) :
    ∃ task, t.tasks.get? n = some task ∧ t.Over task.id index := by
  have whole := e
  have before : t.Holds n index → ∃ task, t.tasks.get? n = some task ∧ t.Over task.id index := by
    rintro ⟨task, there, -, hover⟩
    exact ⟨task, there, hover⟩
  cases e with
  | queued id work wrapper there session tasks =>
    exact before ((whole.holders_insert valid rfl tasks n).1 h)
  | took m id work wrapper task there free streams handles tasks
  | finished m id work wrapper handle slot task there under empty streams handles tasks =>
    obtain ⟨rfl, -, hover⟩ | ⟨-, held⟩ := (whole.holders_modify valid task tasks n).1 h
    · exact ⟨_, task, hover⟩
    · exact before held
  | plain idle streams handles tasks | opened mode path file streams handles tasks
  | shared id wrapper there streams handles tasks
  | marked id wrapper ends there stays streams handles tasks
  | closed id wrapper ends there free streams handles tasks
  | shut id wrapper there free streams handles tasks =>
    exact before ((whole.holders valid tasks n).1 h)

/-- A handle that was not there is new, and nobody has its slot. -/
theorem fresh_handle (e : Effect t t' a) (missing : t.session.handles.get? index = none)
    (hh : t'.session.handles.get? index = some handle) : handle.busy = false := by
  cases e with
  | opened mode path file streams handles tasks =>
    rw [handles, Registry.get?_insert_eq_some, missing] at hh
    obtain there | ⟨-, rfl⟩ := hh
    · cases there
    · rfl
  | plain idle streams handles tasks | shared id wrapper there streams handles tasks
  | marked id wrapper ends there stays streams handles tasks =>
    rw [handles, missing] at hh
    cases hh
  | queued id work wrapper there session tasks =>
    rw [session, missing] at hh
    cases hh
  | took m id work wrapper task there free streams handles tasks
  | finished m id work wrapper handle slot task there under empty streams handles tasks
  | closed id wrapper ends there free streams handles tasks
  | shut id wrapper there free streams handles tasks =>
    rw [handles, Registry.get?_modify_of_none _ missing] at hh
    cases hh

/-- Each task is for a stream. -/
theorem placed (e : Effect t t' a) (valid : t.Valid) {n : Nat} {task : Task}
    (there : t'.tasks.get? n = some task) :
    ∃ wrapper, t'.session.stream? task.id = some wrapper := by
  have still {id : StreamId} (h : ∃ wrapper, t.session.stream? id = some wrapper) :
      ∃ wrapper, t'.session.stream? id = some wrapper := by
    obtain ⟨wrapper, hw⟩ := h
    exact ⟨_, e.stream hw⟩
  cases e with
  | queued id work wrapper found session tasks =>
    rw [tasks, Registry.get?_insert_eq_some] at there
    obtain there | ⟨-, rfl⟩ := there
    · exact still (valid.placed n task there)
    · exact still ⟨wrapper, found⟩
  | took m id work wrapper task found free streams handles tasks
  | finished m id work wrapper handle slot task found under empty streams handles tasks =>
    rw [tasks, Registry.get?_modify_eq_some] at there
    obtain ⟨before, there, same⟩ := there
    have kept := still (valid.placed n before there)
    rw [same]
    split <;> exact kept
  | plain idle streams handles tasks | opened mode path file streams handles tasks
  | shared id wrapper found streams handles tasks
  | marked id wrapper ends found stays streams handles tasks
  | closed id wrapper ends found free streams handles tasks
  | shut id wrapper found free streams handles tasks =>
    rw [tasks] at there
    exact still (valid.placed n task there)

/-- Each action keeps the invariant. -/
theorem valid (e : Effect t t' a) (valid : t.Valid) : t'.Valid where
  backed := by
    intro id wrapper' hw'
    cases hw : t.session.stream? id with
    | none =>
      obtain ⟨native, handle, rfl, hh⟩ := e.fresh hw hw' valid.backed
      exact ⟨rfl, handle, hh, by simp [Wrapper.owned, Wrapper.make]⟩
    | some wrapper =>
      obtain rfl := Option.some.inj ((e.stream hw).symm.trans hw')
      obtain ⟨owned, handle, hh, done⟩ := valid.backed id wrapper hw
      obtain ⟨handle', hh', change⟩ := e.handled valid hh
      refine ⟨owned, handle', hh', fun closed => ?_⟩
      by_cases before : wrapper.closed = true
      · cases change with
        | kept | taken => exact done before
        | closed => rfl
        | finished n slot held empty => exact empty (done before)
      · obtain ⟨ends, free⟩ : a.ends id = true ∧ t.session.isFree id = true := by
          simpa [before] using closed
        exact e.empties valid hw ends free hh'
  placed n task there := e.placed valid there
  held := by
    intro index handle' hh'
    cases hh : t.session.handles.get? index with
    | none =>
      have free := e.fresh_handle hh hh'
      refine ⟨by simp [free], ?_⟩
      rintro ⟨n, holds⟩
      obtain ⟨task, -, wrapper, hw, rfl⟩ := e.over_of_holds valid holds
      obtain ⟨-, handle, there, -⟩ := valid.backed _ wrapper hw
      rw [hh] at there
      cases there
    | some handle =>
      obtain ⟨handle'', hh'', change⟩ := e.handled valid hh
      obtain rfl := Option.some.inj (hh''.symm.trans hh')
      have before := valid.held index handle hh
      cases change with
      | kept holders | closed free holders => simpa only [holders] using before
      | taken n free holders => simp [holders]
      | finished n slot held empty holders =>
        simp only [holders, Bool.false_eq_true, false_iff, not_exists, not_and]
        intro m other holds
        exact other (valid.alone m n index holds held)
  alone := by
    intro n m index hn hm
    obtain ⟨task, -, wrapper, hw, rfl⟩ := e.over_of_holds valid hn
    obtain ⟨-, handle, hh, -⟩ := valid.backed _ wrapper hw
    obtain ⟨handle', -, change⟩ := e.handled valid hh
    cases change with
    | kept holders | closed _ holders =>
      exact valid.alone n m _ ((holders n).1 hn) ((holders m).1 hm)
    | taken k free holders =>
      have nobody (j : Nat) : ¬ t.Holds j wrapper.native.identity := by
        intro holds
        have busy := (valid.held _ handle hh).2 ⟨j, holds⟩
        rw [free] at busy
        cases busy
      simp only [holders, nobody, or_false] at hn hm
      rw [hn, hm]
    | finished k slot held empty holders =>
      exact valid.alone n m _ ((holders n).1 hn).2 ((holders m).1 hm).2

end Effect

/-- The invariant holds at first. -/
theorem valid_start (tree : Tree) (directory : Location) : (start tree directory).Valid where
  backed id wrapper hw := by cases hw
  placed n task there := by cases there
  held index handle hh := by cases hh
  alone n m index hn hm := by
    obtain ⟨task, there, -⟩ := hn
    cases there

/-- Each action keeps the invariant and has its effect. -/
theorem Valid.effect (valid : t.Valid) (a : Action) : Effect t (t.step a).2 a :=
  Traffic.effect valid.backed valid.placed a

theorem Valid.after (valid : t.Valid) (actions : List Action) : (t.after actions).Valid := by
  induction actions generalizing t with
  | nil => exact valid
  | cons a actions ih => exact ih ((valid.effect a).valid valid)

end Traffic
end Hostlink.Storage
