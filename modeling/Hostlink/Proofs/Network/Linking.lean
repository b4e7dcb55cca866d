import Mathlib.Data.List.Nodup
import Hostlink.Proofs.Bridge.FirstInFirstOut
import Hostlink.Proofs.Network.Shown

/-!
# Links that come and go

Attaching puts one link at the end.  Detaching takes the first link of an adapter and a callback:
the table of the adapter gives its earliest registration away, and as native callbacks are never
used twice, the event loses the same one although it searches from its end.  Disposing takes all
links of an adapter.
-/

namespace Hostlink

/-! ## Removal from lists -/

/-- Without repetitions the last occurrence is the first one. -/
theorem eraseLast_of_nodup {α : Type} [DecidableEq α] {xs : List α} (h : xs.Nodup) (x : α) :
    eraseLast x xs = xs.filter (· ≠ x) := by
  rw [eraseLast, (List.nodup_reverse.mpr h).erase_eq_filter, List.filter_reverse,
    List.reverse_reverse]
  exact List.filter_congr fun y _ => by simp [bne, beq_eq_decide]

/-- Without repetitions, removing one after the other is removing all at once. -/
theorem Multicast.foldl_remove {α : Type} [DecidableEq α] {xs : List α} (h : xs.Nodup)
    (gone : List α) :
    gone.foldl Multicast.remove ⟨xs⟩ = ⟨xs.filter (· ∉ gone)⟩ := by
  induction gone generalizing xs with
  | nil => simp
  | cons x rest ih =>
    rw [List.foldl_cons, remove, eraseLast_of_nodup h, ih (h.filter _), List.filter_filter]
    refine congrArg Multicast.mk (List.filter_congr fun y _ => ?_)
    simp [not_or, Bool.and_comm]

/-- Under a key without repetitions the first element found is removed by its key. -/
theorem map_eraseP_of_nodup {α β : Type} [DecidableEq β] {g : α → β} {p : α → Bool} {x : α}
    {xs : List α} (hfound : xs.find? p = some x) (h : (xs.map g).Nodup) :
    (xs.eraseP p).map g = (xs.map g).filter (· ≠ g x) := by
  induction xs with
  | nil => cases hfound
  | cons y ys ih =>
    obtain ⟨hy, hys⟩ := List.nodup_cons.mp h
    cases hp : p y with
    | true =>
      obtain rfl : y = x := by simpa [List.find?_cons, hp] using hfound
      rw [List.eraseP_cons_of_pos hp, List.map_cons, List.filter_cons_of_neg (by simp)]
      refine (List.filter_eq_self.mpr fun z hz => ?_).symm
      simpa using fun heq : z = g y => hy (heq ▸ hz)
    | false =>
      have hfound' : ys.find? p = some x := by simpa [List.find?_cons, hp] using hfound
      have hne : g y ≠ g x := fun heq =>
        hy (heq ▸ List.mem_map_of_mem (List.mem_of_find?_eq_some hfound'))
      rw [List.eraseP_cons_of_neg (by simp [hp]), List.map_cons, ih hfound' hys, List.map_cons,
        List.filter_cons_of_pos (by simpa using hne)]

/-- Removing the first element of a part removes it from the whole. -/
theorem filter_eraseP_and {α : Type} (p q : α → Bool) (xs : List α) :
    (xs.eraseP fun x => p x && q x).filter p = (xs.filter p).eraseP q := by
  induction xs with
  | nil => rfl
  | cons x xs ih =>
    cases hp : p x <;> cases hq : q x <;> simp [hp, hq, ih]

/-- A number belongs to one element. -/
theorem idxOf_eq_iff {α : Type} [DecidableEq α] {xs : List α} {x : α} {n : Nat} (h : xs.Nodup)
    (hx : xs[n]? = some x) (y : α) : xs.idxOf y = n ↔ y = x := by
  obtain ⟨hn, rfl⟩ := List.getElem?_eq_some_iff.mp hx
  constructor
  · rintro rfl
    exact (List.getElem_idxOf hn).symm
  · rintro rfl
    exact h.idxOf_getElem n hn

namespace Network.Picture

variable {p : Picture} {o : Objects} {k c : Nat} {a : Machine.Adapter} {s : Source} {f : FunctionId}

/-! ## Links of a callback -/

/-- Whether a link attaches a callback to an adapter. -/
def Attaches (k : Nat) (f : FunctionId) (l : Link) : Bool := l.adapter = k && l.callback = f

/-- The table of an adapter finds the first link. -/
theorem first?_wrapper (k : Nat) (a : Machine.Adapter) (links : List Link) (f : FunctionId) :
    (wrapper k a links).callbacks.first? NetworkAdapter.availabilityChanged f =
      (links.find? (Attaches k f)).map (·.registration) := by
  rw [CallbackTable.first?, wrapper, CallbackTable.entries_sole, List.find?_map, List.find?_filter]
  refine congrArg (fun p : Link → Bool => (links.find? p).map (·.registration)) (funext fun l => ?_)
  simp [Attaches, Link.registration]

/-- The machine knows a link by the numbers of its adapter and its callback. -/
theorem listener_eq_iff (h : p.callbacks.Nodup) (hf : p.callbacks[c]? = some f) (l : Link) :
    (l.listener p.callbacks == (k, c)) = Attaches k f l := by
  rw [Attaches, Bool.eq_iff_iff]
  simp [Link.listener, idxOf_eq_iff h hf]

/-- The machine erases the first link. -/
theorem erase_listener (h : p.callbacks.Nodup) (hf : p.callbacks[c]? = some f) (links : List Link) :
    (links.map (·.listener p.callbacks)).erase (k, c) =
      (links.eraseP (Attaches k f)).map (·.listener p.callbacks) := by
  rw [List.erase_eq_eraseP', List.eraseP_map]
  refine congrArg (fun p' : Link → Bool => (links.eraseP p').map (·.listener p.callbacks))
    (funext fun l => listener_eq_iff h hf l)

/-- The machine finds a link if there is one. -/
theorem contains_listener (h : p.callbacks.Nodup) (hf : p.callbacks[c]? = some f)
    (links : List Link) : (links.map (·.listener p.callbacks)).contains (k, c) =
      (links.find? (Attaches k f)).isSome := by
  rw [Bool.eq_iff_iff, List.contains_iff_mem, List.mem_map, List.find?_isSome]
  refine exists_congr fun l => and_congr_right fun _ => ?_
  rw [← listener_eq_iff h hf, beq_iff_eq]

/-- An adapter that stays as it is. -/
theorem modifyAdapter_self {f : Machine.Adapter → Machine.Adapter} (ha : p.adapters[k]? = some a)
    (hf : f a = a) : p.modifyAdapter k f = p := by
  refine congrArg (Picture.mk _ _) (modify_eq_of_fixed fun found hfound => ?_)
  rw [Option.some_inj.mp (hfound.symm.trans ha), hf]

/-- Links that stay as they are. -/
theorem setLinks_self {i : Nat} (hs : p.sources[i]? = some s) : p.setLinks i s.links = p := by
  refine congrArg (Picture.mk _ · _) (modify_eq_of_fixed fun found hfound => ?_)
  rw [Option.some_inj.mp (hfound.symm.trans hs)]

/-! ## Changes of links -/

namespace Shows

/-- Attaching a callback. -/
theorem link (h : p.Shows o) (ha : p.adapters[k]? = some a) (shown : AdapterShown p o k a s)
    (hlive : a.disposed = false) (hf : f ∈ p.callbacks) :
    (p.setLinks a.source (s.links ++ [⟨k, f, o.nextFunction⟩])).Shows
      (((o.addBridged f .availability).modifyEvent ⟨a.source⟩ (·.add o.nextFunction)).modifyTable
        (.ofWrapper ⟨k⟩)
          (·.push NetworkAdapter.availabilityChanged ⟨f, o.nextFunction⟩)) := by
  have hshown := h.sources _ _ shown.source
  have hbridged := h.addBridged f .availability
  have hkept : FunctionsKept o (o.addBridged f .availability) := functionsKept_insert _ rfl
  have hfresh : o.nextFunction ∉ s.links.map (·.native) := by
    intro hmem
    obtain ⟨l, hl, hnext⟩ := List.mem_map.mp hmem
    exact not_hasFunction_next (hnext ▸ (hshown.links l hl).native)
  rw [← modifyAdapter_self (p := p.setLinks _ _) (f := id) ha rfl]
  refine hbridged.relink ha shown.source rfl rfl rfl rfl rfl ?_ (by simp [Multicast.add]) ?_ ?_ ?_
    (by simp [hlive])
  · have hpush : (wrapper k a s.links).callbacks.push NetworkAdapter.availabilityChanged
        ⟨f, o.nextFunction⟩ = (wrapper k a (s.links ++ [⟨k, f, o.nextFunction⟩])).callbacks := by
      rw [wrapper, CallbackTable.push, CallbackTable.modifyMember_sole, wrapper, List.filter_append,
        List.filter_cons_of_pos (by simp), List.map_append]
      rfl
    exact congrArg (fun callbacks => { wrapper k a s.links with callbacks }) hpush
  · intro j hj
    rw [List.filter_append, List.filter_cons_of_neg (by simpa using Ne.symm hj), List.filter_nil,
      List.append_nil]
  · intro l hl
    rcases List.mem_append.mp hl with hl | hl
    · exact (hshown.links l hl).mono hkept (fun _ hf => hf) (Nat.le_refl _)
    · obtain rfl := List.mem_singleton.mp hl
      refine ⟨hf, (List.getElem?_eq_some_iff.mp ha).1, ?_, ?_⟩
      · simp [Objects.HasFunction, Objects.addBridged, Objects.nextFunction]
      · show ((o.functions.insert _).get? o.functions.next).getD _ = _
        rw [Registry.get?_insert_next, (h.callbacks f hf).2]
        rfl
  · rw [List.map_append, List.nodup_append]
    refine ⟨hshown.nodup, by simp, ?_⟩
    rintro native hnative _ hnext rfl
    obtain rfl : native = o.nextFunction := List.mem_singleton.mp hnext
    exact hfresh hnative

/-- Detaching a callback. -/
theorem unlink (h : p.Shows o) (ha : p.adapters[k]? = some a) (shown : AdapterShown p o k a s)
    {l : Link} (hl : s.links.find? (Attaches k f) = some l) :
    (p.setLinks a.source (s.links.eraseP (Attaches k f))).Shows
      ((o.modifyTable (.ofWrapper ⟨k⟩) (·.detach NetworkAdapter.availabilityChanged f)).modifyEvent
        ⟨a.source⟩ (·.remove l.native)) := by
  have hshown := h.sources _ _ shown.source
  have hsub : ∀ l' ∈ s.links.eraseP (Attaches k f), l' ∈ s.links := fun _ =>
    List.mem_of_mem_eraseP
  rw [← modifyAdapter_self (p := p.setLinks _ _) (f := id) ha rfl]
  refine h.relink ha shown.source rfl rfl rfl rfl rfl ?_ ?_ ?_
    (fun l' hl' => hshown.links l' (hsub l' hl')) ?_
    fun hdisposed l' hl' => shown.unlinked hdisposed l' (hsub l' hl')
  · -- What is first in the table is first of the links of the adapter.
    have hentries : ((s.links.filter (·.adapter = k)).map (·.registration)).eraseP (·.caller = f) =
        ((s.links.eraseP (Attaches k f)).filter (·.adapter = k)).map (·.registration) := by
      rw [List.eraseP_map, ← filter_eraseP_and]
      rfl
    have hdetach : (wrapper k a s.links).callbacks.detach NetworkAdapter.availabilityChanged f =
        (wrapper k a (s.links.eraseP (Attaches k f))).callbacks := by
      rw [CallbackTable.detach, first?_wrapper, hl]
      show CallbackTable.modifyMember (.sole ..) _ _ = _
      rw [CallbackTable.modifyMember_sole, hentries]
      rfl
    exact congrArg (fun callbacks => { wrapper k a s.links with callbacks }) hdetach
  · rw [Multicast.remove, eraseLast_of_nodup hshown.nodup, map_eraseP_of_nodup hl hshown.nodup]
  · intro j hj
    refine CallbackTable.filter_eraseP_of_not (fun l' hl' => ?_) _
    have hadapter : l'.adapter = k := by
      rw [Attaches, Bool.and_eq_true] at hl'
      simpa using hl'.1
    simpa [hadapter] using Ne.symm hj
  · exact hshown.nodup.sublist (List.eraseP_sublist.map _)

/-- Disposing of an adapter. -/
theorem unlinkAll (h : p.Shows o) (ha : p.adapters[k]? = some a) (shown : AdapterShown p o k a s) :
    ((p.setLinks a.source (s.links.filter (·.adapter ≠ k))).modifyAdapter k
      ({ · with disposed := true })).Shows
      ((o.modifyWrapper ⟨k⟩ fun wrapper =>
        { wrapper with disposed := true, callbacks := wrapper.callbacks.drained }).modifyEvent
          ⟨a.source⟩
            (((s.links.filter (·.adapter = k)).map (·.native)).foldl Multicast.remove)) := by
  have hshown := h.sources _ _ shown.source
  refine h.relink ha shown.source rfl rfl rfl rfl rfl ?_ ?_ ?_
    (fun l hl => hshown.links l (List.mem_filter.mp hl).1) ?_ ?_
  · have hnone : (s.links.filter (·.adapter ≠ k)).filter (·.adapter = k) = [] := by
      rw [List.filter_eq_nil_iff]
      intro l hl
      simpa using (List.mem_filter.mp hl).2
    rw [wrapper, wrapper, hnone]
    rfl
  · -- A native callback is that of one link only, so none of another adapter is removed.
    rw [Multicast.foldl_remove hshown.nodup, List.filter_map]
    refine congrArg (fun links : List Link => Multicast.mk (links.map (·.native)))
      (List.filter_congr fun l hl => decide_eq_decide.mpr (not_congr ⟨?_, ?_⟩))
    · intro hmem
      obtain ⟨l', hl', hnative⟩ := List.mem_map.mp hmem
      obtain ⟨hl', hadapter⟩ := List.mem_filter.mp hl'
      obtain rfl := List.inj_on_of_nodup_map hshown.nodup hl' hl hnative
      simpa using hadapter
    · intro hadapter
      exact List.mem_map_of_mem (List.mem_filter.mpr ⟨hl, by simpa using hadapter⟩)
  · intro j hj
    rw [List.filter_filter]
    refine List.filter_congr fun l _ => ?_
    grind
  · exact hshown.nodup.sublist (List.filter_sublist.map _)
  · intro _ l hl
    simpa using (List.mem_filter.mp hl).2

end Shows
end Network.Picture
end Hostlink
