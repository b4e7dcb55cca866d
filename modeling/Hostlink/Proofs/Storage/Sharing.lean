import Hostlink.Proofs.Storage.Handling

/-!
# Streams that share a handle

Three states disagree on purpose while a close is pending: a stream may have been disposed of, it
may have closed the handle, and the slot may be empty.  The first two are read off the history: a
stream has been disposed of if an action ended it, and has closed the handle if a disposal of it
went well or a drop of it found the slot free.  From this follows what the streams over one handle
get to see of each other.
-/

namespace Hostlink.Storage.Traffic

variable {t t₀ : Traffic} {actions : List Action} {id : StreamId} {index : Nat} {wrapper : Wrapper}
  {handle : FileHandle} {P : Traffic → Action → Prop}

/-! ## Histories -/

/-- An action that disposes of a stream or drops it. -/
def Ends (id : StreamId) (t : Traffic) (a : Action) : Prop :=
  (∃ index, t.Over id index) ∧ a.ends id = true

/-- A disposal of a stream that goes well, or a drop of it that finds the slot free. -/
def Closes (id : StreamId) (t : Traffic) (a : Action) : Prop :=
  (∃ index, t.Over id index) ∧ (a = .dispose id ∧ (t.step a).1 = .ended (.ok ()) ∨
    a = .drop id ∧ t.session.isFree id = true)

/-- A stream that was there at some time stays over its handle. -/
theorem Valid.over_after (valid : t.Valid) (hover : t.Over id index) (actions : List Action) :
    (t.after actions).Over id index := by
  induction actions generalizing t with
  | nil => exact hover
  | cons a actions ih =>
    have effect := valid.effect a
    obtain ⟨wrapper, hw, same⟩ := hover
    exact ih (effect.valid valid) ((effect.over_iff hw index).2 ⟨wrapper, hw, same⟩)

/-- What a stream has once done it has done as a stream that is still there. -/
theorem Valid.over_of_once (valid : t₀.Valid) (needs : ∀ t a, P t a → ∃ index, t.Over id index)
    (once : t₀.Once P actions) : ∃ index, (t₀.after actions).Over id index := by
  obtain ⟨before, a, later, rfl, holds⟩ := once
  obtain ⟨index, hover⟩ := needs _ _ holds
  refine ⟨index, ?_⟩
  rw [after_append]
  exact (valid.after before).over_after hover _

/-! ## What the history says -/

/-- How a disposal ends. -/
theorem Valid.dispose_answer (valid : t.Valid) (hw : t.session.stream? id = some wrapper)
    (hh : t.session.handles.get? wrapper.native.identity = some handle) :
    (t.step (.dispose id)).1 = .ended
      (if wrapper.closed = false ∧ handle.busy = true then .error handle.busyError else .ok ()) := by
  obtain ⟨owned, -⟩ := valid.backed id wrapper hw
  have needs : wrapper.needsClose = !wrapper.closed := by simp [Wrapper.needsClose, owned]
  simp only [step, lift, Session.dispose_eq hw hh, needs]
  cases wrapper.closed <;> cases handle.busy <;> simp

/-- A stream closes its handle, if it has not done so before, by ending while nobody has the
slot. -/
theorem Valid.closes_iff (valid : t.Valid) (hw : t.session.stream? id = some wrapper)
    (a : Action) : wrapper.closed = true ∨ Closes id t a ↔
      wrapper.closed = true ∨ a.ends id = true ∧ t.session.isFree id = true := by
  obtain ⟨-, handle, hh, -⟩ := valid.backed id wrapper hw
  have hover : ∃ index, t.Over id index := ⟨_, wrapper, hw, rfl⟩
  have free := Session.isFree_eq hw hh
  cases hc : wrapper.closed with
  | true => simp
  | false =>
    simp only [Bool.false_eq_true, false_or, Closes, hover, true_and]
    constructor
    · rintro (⟨rfl, ok⟩ | ⟨rfl, ok⟩)
      · rw [valid.dispose_answer hw hh] at ok
        cases hb : handle.busy with
        | true => simp [hc, hb] at ok
        | false => simp [Action.ends, free, hb]
      · simp [Action.ends, ok]
    · rintro ⟨ends, ok⟩
      cases a with
      | dispose other =>
        obtain rfl : other = id := by simpa [Action.ends] using ends
        refine .inl ⟨rfl, ?_⟩
        have open_slot : handle.busy = false := by simpa [free] using ok
        rw [valid.dispose_answer hw hh, if_neg (by simp [open_slot])]
      | drop other =>
        obtain rfl : other = id := by simpa [Action.ends] using ends
        exact .inr ⟨rfl, ok⟩
      | _ => cases ends

/-- The marks of a stream are the record of its history. -/
theorem recorded (tree : Tree) (directory : Location) (actions : List Action)
    (hw : ((start tree directory).after actions).session.stream? id = some wrapper) :
    (wrapper.disposed = true ↔ (start tree directory).Once (Ends id) actions) ∧
      (wrapper.closed = true ↔ (start tree directory).Once (Closes id) actions) := by
  have valid := valid_start tree directory
  induction actions using List.reverseRecOn generalizing wrapper with
  | nil => cases hw
  | append_singleton actions a ih =>
    have before := valid.after actions
    have effect := before.effect a
    simp only [once_append_singleton]
    rw [after_append] at hw
    cases hw₀ : ((start tree directory).after actions).session.stream? id with
    | none =>
      obtain ⟨native, -, rfl, -⟩ := effect.fresh hw₀ hw before.backed
      have absent (P : Traffic → Action → Prop) (needs : ∀ t a, P t a → ∃ index, t.Over id index) :
          ¬ ((start tree directory).Once P actions ∨ P ((start tree directory).after actions) a) := by
        rintro (once | now)
        · obtain ⟨_, _, there, -⟩ := valid.over_of_once needs once
          rw [hw₀] at there
          cases there
        · obtain ⟨_, _, there, -⟩ := needs _ _ now
          rw [hw₀] at there
          cases there
      exact ⟨by simp [absent (Ends id) fun _ _ h => h.1, Wrapper.owned, Wrapper.make],
        by simp [absent (Closes id) fun _ _ h => h.1, Wrapper.owned, Wrapper.make]⟩
    | some wrapper₀ =>
      obtain ⟨disposed, closed⟩ := ih hw₀
      obtain rfl := Option.some.inj ((effect.stream hw₀).symm.trans hw)
      have hover : ∃ index, ((start tree directory).after actions).Over id index :=
        ⟨_, wrapper₀, hw₀, rfl⟩
      constructor
      · simp [← disposed, Ends, hover]
      · rw [← closed, before.closes_iff hw₀]
        simp

/-! ## What a stream sees -/

/-- Whether a call on a stream is refused at once, and changes nothing. -/
def Refuses (t : Traffic) (id : StreamId) (c : Call) : Prop :=
  ∃ typeName, t.step (.begin id (.call c)) = (.returned (.error (.objectDisposed typeName)), t) ∧
    c.perform id t.session = (.error (.objectDisposed typeName), t.session)

/-- A closed handle, as a stream over it sees it. -/
structure Shut (t : Traffic) (id : StreamId) (handle : FileHandle) : Prop where
  empty : handle.slot = none
  /-- A call that is carried out in one go is refused and changes nothing. -/
  fails : ∀ c : Call, ∃ typeName,
    c.perform id t.session = (.error (.objectDisposed typeName), t.session)
  /-- A call that begins is refused at once, or waits for the slot. -/
  begins : ∀ c : Call,
    t.Refuses id c ∨ t.step (.begin id (.call c)) = t.queue id (.call c)
  /-- A call that has got the slot fails and leaves the files alone. -/
  finishes : ∀ n c, t.tasks.get? n = some ⟨id, .call c, .holding⟩ →
    (t.step (.finish n)).1 = .returned (.error (.objectDisposed Session.streamTypeName)) ∧
      (t.step (.finish n)).2.session.tree = t.session.tree

/-- An open handle, as a stream over it sees it that has not been disposed of. -/
structure Live (t : Traffic) (id : StreamId) (index : Nat) (handle : FileHandle)
    (file : OpenFile) : Prop where
  /-- A call that is carried out in one go does what it does to the file. -/
  works : ∀ c : Call, c.perform id t.session =
    ((c.onFile file t.session.tree).1.mapError .io, t.session.after c index handle.path file)
  /-- A call that begins waits for the slot. -/
  begins : ∀ c : Call, t.step (.begin id (.call c)) = t.queue id (.call c)

/-- What a stream over a handle goes through, whatever the streams and others do. -/
structure Shares (t₀ : Traffic) (actions : List Action) (id : StreamId) (index : Nat)
    (handle : FileHandle) : Prop where
  /-- Once any stream has closed the handle it is closed for all streams over it. -/
  closed : (∃ other, (t₀.after actions).Over other index ∧ t₀.Once (Closes other) actions) →
    (t₀.after actions).Shut id handle
  /-- While nobody has the slot a disposal goes well and leaves the slot empty. -/
  free : handle.busy = false → ((t₀.after actions).step (.dispose id)).1 = .ended (.ok ()) ∧
    ((t₀.after actions).step (.dispose id)).2.session.handles.get? index =
      some { handle with slot := none }
  /-- While somebody has the slot the disposal of a stream that has not closed the handle fails,
  leaves the slot as it is and stays pending. -/
  busy : handle.busy = true → ¬ t₀.Once (Closes id) actions →
    ((t₀.after actions).step (.dispose id)).1 = .ended (.error handle.busyError) ∧
      ((t₀.after actions).step (.dispose id)).2.session.handles.get? index = some handle ∧
      ¬ t₀.Once (Closes id) (actions ++ [.dispose id])
  /-- A stream that has been disposed of refuses all calls, however the disposal ended. -/
  ended : t₀.Once (Ends id) actions → ∀ c, (t₀.after actions).Refuses id c
  /-- Any other stream works while the handle is open. -/
  live : ¬ t₀.Once (Ends id) actions → ∀ file, handle.slot = some file →
    (t₀.after actions).Live id index handle file
  /-- What waits gets the slot when nobody else has it. -/
  takes : ∀ n work, (t₀.after actions).tasks.get? n = some ⟨id, work, .waiting⟩ →
    handle.busy = false → ((t₀.after actions).step (.take n)).1 = .taken
  /-- What has the slot keeps it, and nobody else touches the handle. -/
  keeps : ∀ n, (t₀.after actions).Holds n index → ∀ more, Action.finish n ∉ more →
    (t₀.after (actions ++ more)).tasks.get? n = (t₀.after actions).tasks.get? n ∧
      (t₀.after (actions ++ more)).session.handles.get? index = some handle
  /-- A call that has the slot of an open handle does what it does to the file. -/
  finishes : ∀ n c file, (t₀.after actions).tasks.get? n = some ⟨id, .call c, .holding⟩ →
    handle.slot = some file →
    ((t₀.after actions).step (.finish n)).1 =
        .returned ((c.onFile file (t₀.after actions).session.tree).1.mapError .io) ∧
      ((t₀.after actions).step (.finish n)).2.session.tree =
        (c.onFile file (t₀.after actions).session.tree).2.2 ∧
      ((t₀.after actions).step (.finish n)).2.session.handles.get? index =
        some ⟨handle.path, some (c.onFile file (t₀.after actions).session.tree).2.1, false⟩

/-! ## How it comes about -/

/-- While a task has the slot an action that does not finish it leaves the task and the handle
alone. -/
theorem Valid.keeps_step {n : Nat} {a : Action} (valid : t.Valid) (holds : t.Holds n index)
    (hh : t.session.handles.get? index = some handle) (other : a ≠ .finish n) :
    (t.step a).2.tasks.get? n = t.tasks.get? n ∧
      (t.step a).2.session.handles.get? index = some handle := by
  have effect := valid.effect a
  have busy : handle.busy = true := (valid.held index handle hh).2 ⟨n, holds⟩
  constructor
  · obtain ⟨task, there, holding, -⟩ := holds
    cases effect with
    | queued id work wrapper found session tasks =>
      rw [tasks, there, Registry.get?_insert_of_some _ there]
    | took m id work wrapper waiting found free streams handles tasks =>
      have apart : m ≠ n := by
        rintro rfl
        rw [there] at waiting
        obtain rfl := Option.some.inj waiting
        cases holding
      rw [tasks, Registry.get?_modify_other _ _ apart]
    | finished m id work wrapper handle slot waiting found under empty streams handles tasks =>
      have apart : m ≠ n := by
        rintro rfl
        exact other rfl
      rw [tasks, Registry.get?_modify_other _ _ apart]
    | plain idle streams handles tasks | opened mode path file streams handles tasks
    | shared id wrapper found streams handles tasks
    | marked id wrapper ends found stays streams handles tasks
    | closed id wrapper ends found free streams handles tasks
    | shut id wrapper found free streams handles tasks => rw [tasks]
  · obtain ⟨handle', hh', change⟩ := effect.handled valid hh
    cases change with
    | kept => exact hh'
    | closed free | taken m free =>
      rw [busy] at free
      cases free
    | finished m slot held =>
      obtain rfl := valid.alone m n index held holds
      exact absurd rfl other

theorem Valid.keeps {n : Nat} {more : List Action} (valid : t.Valid) (holds : t.Holds n index)
    (hh : t.session.handles.get? index = some handle) (others : Action.finish n ∉ more) :
    (t.after more).tasks.get? n = t.tasks.get? n ∧
      (t.after more).session.handles.get? index = some handle := by
  induction more generalizing t with
  | nil => exact ⟨rfl, hh⟩
  | cons a more ih =>
    rw [List.mem_cons, not_or] at others
    obtain ⟨task, same⟩ := valid.keeps_step holds hh (Ne.symm others.1)
    have effect := valid.effect a
    have still : (t.step a).2.Holds n index := by
      obtain ⟨found, there, holding, hover⟩ := holds
      exact ⟨found, task.trans there, holding, (effect.over_task valid there index).2 hover⟩
    obtain ⟨task', same'⟩ := ih (effect.valid valid) still same others.2
    exact ⟨task'.trans task, same'⟩

/-- A call on a stream that has been disposed of is refused. -/
theorem refuses (hw : t.session.stream? id = some wrapper) (disposed : wrapper.disposed = true)
    (c : Call) : t.Refuses id c := by
  refine ⟨wrapper.native.typeName, ?_, ?_⟩
  · simp [step, begin, Session.ensureLive, Wrapper.ensureLive, hw, disposed]
  · rw [c.perform_eq hw, if_pos disposed]

/-- A handle with an empty slot is closed for the streams over it. -/
theorem shut_of_empty (hw : t.session.stream? id = some wrapper)
    (hh : t.session.handles.get? wrapper.native.identity = some handle)
    (empty : handle.slot = none) : t.Shut id handle where
  empty := empty
  fails c := by
    have handled : t.session.handleOf? id = some handle := by rw [Session.handleOf?_eq hw, hh]
    rw [c.perform_eq hw]
    split
    · exact ⟨_, rfl⟩
    · exact ⟨_, c.inSlot_of_closed handled empty⟩
  begins c := by
    cases disposed : wrapper.disposed with
    | true => exact .inl (refuses hw disposed c)
    | false => exact .inr (begin_live hw disposed c)
  finishes n c task := by
    rw [finish_eq task, Work.carryOut_of_closed _ hw hh empty, advance, Session.setBusy_eq hw]
    exact ⟨rfl, rfl⟩

/-- A disposal while nobody has the slot leaves it empty. -/
theorem Valid.dispose_free (valid : t.Valid) (hw : t.session.stream? id = some wrapper)
    (hh : t.session.handles.get? wrapper.native.identity = some handle)
    (free : handle.busy = false) : (t.step (.dispose id)).1 = .ended (.ok ()) ∧
      (t.step (.dispose id)).2.session.handles.get? wrapper.native.identity =
        some { handle with slot := none } := by
  refine ⟨by rw [valid.dispose_answer hw hh, if_neg (by simp [free])], ?_⟩
  have effect := valid.effect (.dispose id)
  obtain ⟨handle', hh', change⟩ := effect.handled valid hh
  have empty : handle'.slot = none :=
    effect.empties valid hw (by simp [Action.ends]) (by simp [Session.isFree_eq hw hh, free]) hh'
  rw [hh']
  cases change with
  | kept | closed => rw [← empty]

/-- A disposal while somebody has the slot leaves the handle alone. -/
theorem Valid.dispose_busy (valid : t.Valid) (hh : t.session.handles.get? index = some handle)
    (busy : handle.busy = true) :
    (t.step (.dispose id)).2.session.handles.get? index = some handle := by
  obtain ⟨handle', hh', change⟩ := (valid.effect (.dispose id)).handled valid hh
  cases change with
  | kept => exact hh'
  | closed free =>
    rw [busy] at free
    cases free

/-- A call that has the slot of an open handle is carried out on the file. -/
theorem finish_open {n : Nat} {c : Call} {file : OpenFile}
    (hw : t.session.stream? id = some wrapper)
    (hh : t.session.handles.get? wrapper.native.identity = some handle)
    (hs : handle.slot = some file) (task : t.tasks.get? n = some ⟨id, .call c, .holding⟩) :
    (t.step (.finish n)).1 = .returned ((c.onFile file t.session.tree).1.mapError .io) ∧
      (t.step (.finish n)).2.session.tree = (c.onFile file t.session.tree).2.2 ∧
      (t.step (.finish n)).2.session.handles.get? wrapper.native.identity =
        some ⟨handle.path, some (c.onFile file t.session.tree).2.1, false⟩ := by
  have stays : (t.session.after c wrapper.native.identity handle.path file).stream? id =
      some wrapper := hw
  rw [finish_eq task, Work.carryOut_call c hw hh hs, advance, Session.setBusy_eq stays]
  refine ⟨rfl, rfl, ?_⟩
  simp [Session.putBusy, Session.after, Session.noticing, Session.putSlot, hh]

/-- For any run, streams over a handle share its closing: it is closed once for all of them. -/
theorem closing_shared (tree : Tree) (directory : Location) (actions : List Action)
    (hover : ((start tree directory).after actions).Over id index)
    (hh : ((start tree directory).after actions).session.handles.get? index = some handle) :
    Shares (start tree directory) actions id index handle := by
  have valid := (valid_start tree directory).after actions
  obtain ⟨wrapper, hw, rfl⟩ := hover
  obtain ⟨disposed, closed⟩ := recorded tree directory actions hw
  exact {
    closed := by
      rintro ⟨other, ⟨wrapper', hw', same⟩, once⟩
      have done := (recorded tree directory actions hw').2.2 once
      obtain ⟨-, handle', hh', empty⟩ := valid.backed other wrapper' hw'
      rw [same, hh] at hh'
      obtain rfl := Option.some.inj hh'
      exact shut_of_empty hw hh (empty done)
    free := valid.dispose_free hw hh
    busy := fun busy pending => by
      have answer := valid.dispose_answer hw hh
      rw [← closed] at pending
      rw [if_pos ⟨by simpa using pending, busy⟩] at answer
      refine ⟨answer, valid.dispose_busy hh busy, ?_⟩
      rw [once_append_singleton, not_or, ← closed]
      refine ⟨pending, ?_⟩
      rintro ⟨-, ⟨-, ok⟩ | ⟨drops, -⟩⟩
      · rw [answer] at ok
        cases ok
      · cases drops
    ended := fun once c => refuses hw (disposed.2 once) c
    live := fun live file hs => by
      rw [← disposed, Bool.not_eq_true] at live
      exact {
        works := fun c => by
          rw [c.perform_eq hw, live, if_neg (by simp), c.inSlot_of_open hw hh hs]
        begins := begin_live hw live }
    takes := fun n work task free => by
      simp [step, task, Session.isFree_eq hw hh, free]
    keeps := fun n holds more others => by
      rw [after_append]
      exact valid.keeps holds hh others
    finishes := fun n c file task hs => finish_open hw hh hs task }

/-! Three streams over one file.  The first is disposed of while a call of the second has the slot,
and the third closes the handle when the call is over. -/

/-- A call of the second stream has the slot, and the first stream has been disposed of. -/
def pendingClose : List Action :=
  [.obtain .writing "a", .share ⟨0⟩, .share ⟨0⟩, .begin ⟨1⟩ (.call (.write [1])), .take 0,
    .dispose ⟨0⟩]

/-- The call is over, and the third stream has been dropped. -/
def thirdDropped : List Action := pendingClose ++ [.finish 0, .drop ⟨2⟩]

/-- The file while the call has the slot. -/
def openFile : OpenFile := ⟨.file 0, .writing, 0, none⟩

/-- The handle while the call has the slot. -/
def busyHandle : FileHandle := ⟨"a", some openFile, true⟩

/-- The handle in the end. -/
def closedHandle : FileHandle := ⟨"a", none, false⟩

/-- The traffic begins in an empty tree. -/
def quiet : Traffic := start .empty []

theorem closing_shared_by_three :
    Shares quiet pendingClose ⟨0⟩ 0 busyHandle ∧ Shares quiet pendingClose ⟨1⟩ 0 busyHandle ∧
      -- the first stream refuses calls, and its disposal stays pending
      (quiet.after pendingClose).Refuses ⟨0⟩ .length ∧
      ((quiet.after pendingClose).step (.dispose ⟨0⟩)).1 = .ended (.error busyHandle.busyError) ∧
      -- the call of the second stream goes well, and later ones find the handle closed
      ((quiet.after pendingClose).step (.finish 0)).1 = .returned (.ok .done) ∧
      (quiet.after thirdDropped).Shut ⟨1⟩ closedHandle := by
  have first : (quiet.after pendingClose).session.stream? ⟨0⟩ =
      some ⟨⟨FileHandle.typeName, 0⟩, .owned, .empty, true, false⟩ := by decide +kernel
  have second : (quiet.after pendingClose).session.stream? ⟨1⟩ =
      some (.owned ⟨FileHandle.typeName, 0⟩) := by decide +kernel
  have hh : (quiet.after pendingClose).session.handles.get? 0 = some busyHandle := by
    decide +kernel
  have task : (quiet.after pendingClose).tasks.get? 0 =
      some ⟨⟨1⟩, .call (.write [1]), .holding⟩ := by decide +kernel
  have shares := closing_shared .empty [] pendingClose ⟨_, first, rfl⟩ hh
  have shares' := closing_shared .empty [] pendingClose ⟨_, second, rfl⟩ hh
  obtain ⟨ended, closed⟩ := recorded .empty [] pendingClose first
  have pending := shares.busy rfl fun once => absurd (closed.2 once) (by decide)
  obtain ⟨written, -⟩ := shares'.finishes 0 (.write [1]) openFile task rfl
  -- in the end the third stream has closed the handle, and the second has not been disposed of
  have still : (quiet.after thirdDropped).session.stream? ⟨1⟩ =
      some (.owned ⟨FileHandle.typeName, 0⟩) := by decide +kernel
  have third : (quiet.after thirdDropped).session.stream? ⟨2⟩ =
      some ⟨⟨FileHandle.typeName, 0⟩, .owned, .empty, true, true⟩ := by decide +kernel
  have gone : (quiet.after thirdDropped).session.handles.get? 0 = some closedHandle := by
    decide +kernel
  have last := closing_shared .empty [] thirdDropped ⟨_, still, rfl⟩ gone
  have dropped := (recorded .empty [] thirdDropped third).2.1 rfl
  exact ⟨shares, shares', shares.ended (ended.1 rfl) .length, pending.1,
    written.trans (by decide +kernel), last.closed ⟨⟨2⟩, ⟨_, third, rfl⟩, dropped⟩⟩

end Hostlink.Storage.Traffic
