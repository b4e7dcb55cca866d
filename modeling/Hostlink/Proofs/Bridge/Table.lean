import Hostlink.CallbackTable

/-!
# Registrations of a table

All registrations of a table with their keys, and what each operation on the table does to them.
The registrations under one key come in the order of attachment.
-/

namespace Hostlink

/-- What is owed for a batch: each native callback to the hook, if there is one. -/
def Batch.owed (batch : Batch) : List (Hook × FunctionId) :=
  match batch.hook with
  | none => []
  | some hook => batch.natives.map (hook, ·)

namespace CallbackTable

/-- All registrations with the keys of their members. -/
def registrations (t : CallbackTable) : List (MemberKey × Registration) :=
  t.members.toList.flatMap fun (key, m) => m.entries.map (key, ·)

/-- The keys of the members. -/
def keys (t : CallbackTable) : List MemberKey := t.members.toList.map (·.1)

/-- Whether a list has every key under which something is registered, and has it once; it can have
the keys in any order. -/
structure Lists (t : CallbackTable) (keys : List MemberKey) : Prop where
  once : keys.Nodup
  all : ∀ key, t.entries key ≠ [] → key ∈ keys

/-- The hook of a member. -/
def hook? (t : CallbackTable) (key : MemberKey) : Option Hook :=
  (t.member? key).bind (·.hook)

/-- What a release owes to hooks. -/
def owed (t : CallbackTable) : List (Hook × FunctionId) := t.batches.flatMap (·.owed)

/-! ## One key after the other -/

/-- The registrations come by their keys. -/
theorem registrations_eq_flatMap (t : CallbackTable) :
    t.registrations = t.keys.flatMap fun key => (t.entries key).map (key, ·) := by
  have member : ∀ pair ∈ t.members.toList,
      pair.2.entries.map (pair.1, ·) = (t.entries pair.1).map (pair.1, ·) := by
    intro pair hpair
    rw [entries, member?, SortedMap.get?_of_mem hpair]
    rfl
  rw [registrations, keys, List.flatMap_map, List.flatMap_def, List.flatMap_def]
  exact congrArg List.flatten (List.map_congr_left member)

/-- Every registration has its key among the keys of the table. -/
theorem lists_keys (t : CallbackTable) : t.Lists t.keys where
  once := t.members.nodup_keys
  all := by
    intro key some_entry
    rw [entries, member?] at some_entry
    cases found : t.members.toList.find? (·.1 = key) with
    | none => simp [SortedMap.get?, found] at some_entry
    | some pair =>
      have same : pair.1 = key := by simpa using List.find?_some found
      exact List.mem_map.mpr ⟨pair, List.mem_of_find?_eq_some found, same⟩

/-! ## Counting -/

theorem totalLen_eq_length (t : CallbackTable) : t.totalLen = t.registrations.length := by
  simp [totalLen, registrations, SortedMap.values, List.flatMap_map, List.length_flatMap]

theorem natives_batches (t : CallbackTable) :
    t.batches.flatMap (·.natives) = t.registrations.map (·.2.native) := by
  simp [batches, registrations, SortedMap.values, List.flatMap_map, List.map_flatMap,
    Function.comp_def]

/-! ## What the operations do to the registrations -/

/-- A change of one member replaces the registrations of that member. -/
theorem registrations_modifyMember (t : CallbackTable) (key : MemberKey) (f : Member → Member) :
    ∃ front back, t.registrations = front ++ (t.entries key).map (key, ·) ++ back ∧
      (t.modifyMember key f).registrations
        = front ++ (f ((t.member? key).getD default)).entries.map (key, ·) ++ back ∧
      ∀ pair ∈ front ++ back, pair.1 ≠ key := by
  obtain ⟨front, back, hold, hnew, hothers⟩ :=
    t.members.toList_modify key fun m => f (m.getD default)
  refine ⟨front.flatMap fun (key, m) => m.entries.map (key, ·),
    back.flatMap fun (key, m) => m.entries.map (key, ·), ?_, ?_, ?_⟩
  · rw [registrations, hold, entries, member?]
    cases t.members.get? key <;> simp
  · simp [registrations, modifyMember, hnew, member?]
  · intro pair hpair
    rw [← List.flatMap_append] at hpair
    obtain ⟨member, hmember, hpair⟩ := List.mem_flatMap.mp hpair
    obtain ⟨entry, _, rfl⟩ := List.mem_map.mp hpair
    exact hothers member hmember

/-- The registrations of one member. -/
theorem registrations_filter (t : CallbackTable) (key : MemberKey) :
    t.registrations.filter (·.1 = key) = (t.entries key).map (key, ·) := by
  obtain ⟨front, back, hold, _, hothers⟩ := t.registrations_modifyMember key id
  have hfront : front.filter (·.1 = key) = [] := by
    refine List.filter_eq_nil_iff.mpr fun pair hpair => ?_
    simpa using hothers pair (List.mem_append_left _ hpair)
  have hback : back.filter (·.1 = key) = [] := by
    refine List.filter_eq_nil_iff.mpr fun pair hpair => ?_
    simpa using hothers pair (List.mem_append_right _ hpair)
  rw [hold, List.filter_append, List.filter_append, hfront, hback, List.nil_append,
    List.append_nil]
  exact List.filter_eq_self.mpr (by simp)

theorem mem_registrations {t : CallbackTable} {key : MemberKey} {entry : Registration} :
    (key, entry) ∈ t.registrations ↔ entry ∈ t.entries key := by
  have hfilter := congrArg ((key, entry) ∈ ·) (t.registrations_filter key)
  simpa using hfilter

/-- A release owes each native callback to the hook of its member, if there is one. -/
theorem owed_eq_filterMap (t : CallbackTable) :
    t.owed = t.registrations.filterMap fun (key, entry) =>
      (t.hook? key).map (·, entry.native) := by
  have hmember : ∀ pair ∈ t.members.toList,
      Batch.owed ⟨pair.2.hook, pair.2.entries.map (·.native)⟩
        = (pair.2.entries.map (pair.1, ·)).filterMap fun (key, entry) =>
            (t.hook? key).map (·, entry.native) := by
    intro (key, m) hpair
    have hhook : t.hook? key = m.hook := by
      rw [hook?, member?, SortedMap.get?_of_mem hpair]
      rfl
    rw [List.filterMap_map]
    cases hm : m.hook with
    | none => simp [Batch.owed, hhook, hm]
    | some hook => simp [Batch.owed, Function.comp_def, hhook, hm, List.filterMap_eq_map']
  rw [owed, batches, registrations, SortedMap.values, List.map_map, List.flatMap_map,
    List.filterMap_flatMap, List.flatMap_def, List.flatMap_def]
  exact congrArg List.flatten (List.map_congr_left hmember)

theorem mem_owed {t : CallbackTable} {hook : Hook} {native : FunctionId} :
    (hook, native) ∈ t.owed ↔ ∃ key entry, (key, entry) ∈ t.registrations ∧
      t.hook? key = some hook ∧ entry.native = native := by
  rw [owed_eq_filterMap, List.mem_filterMap]
  constructor
  · rintro ⟨⟨key, entry⟩, hmem, hsome⟩
    obtain ⟨hook', hhook, heq⟩ := Option.map_eq_some_iff.mp hsome
    obtain ⟨rfl, hnative⟩ := Prod.mk.inj heq
    exact ⟨key, entry, hmem, hhook, hnative⟩
  · rintro ⟨key, entry, hmem, hhook, rfl⟩
    exact ⟨(key, entry), hmem, by simp [hhook]⟩

/-- Nothing is owed twice, and nothing but what was registered. -/
theorem owed_sublist (t : CallbackTable) :
    (t.owed.map (·.2)).Sublist (t.registrations.map (·.2.native)) := by
  rw [owed_eq_filterMap, List.map_filterMap]
  generalize t.registrations = pairs
  induction pairs with
  | nil => exact List.Sublist.refl _
  | cons pair rest ih =>
    obtain ⟨key, entry⟩ := pair
    rw [List.filterMap_cons, List.map_cons]
    cases hhook : t.hook? key with
    | none =>
      simp only [hhook, Option.map_none]
      exact ih.cons entry.native
    | some hook =>
      simp only [hhook, Option.map_some]
      exact ih.cons_cons entry.native

theorem registrations_setHook (t : CallbackTable) (key : MemberKey) (hook : Hook) :
    (t.setHook key hook).registrations = t.registrations := by
  obtain ⟨front, back, hold, hnew, _⟩ :=
    t.registrations_modifyMember key fun m => { m with hook := some hook }
  rw [setHook, hnew, hold, entries]
  cases t.member? key <;> rfl

theorem registrations_push (t : CallbackTable) (key : MemberKey) (entry : Registration) :
    (t.push key entry).registrations.Perm ((key, entry) :: t.registrations) := by
  obtain ⟨front, back, hold, hnew, _⟩ :=
    t.registrations_modifyMember key fun m => { m with entries := m.entries ++ [entry] }
  have hentries : ((t.member? key).getD default).entries = t.entries key := by
    rw [entries]
    cases t.member? key <;> rfl
  rw [push, hnew, hold, hentries, List.map_append, List.map_singleton]
  have hmiddle : (front ++ (t.entries key).map (key, ·) ++ (key, entry) :: back).Perm
      ((key, entry) :: (front ++ (t.entries key).map (key, ·) ++ back)) := List.perm_middle
  simpa [List.append_assoc] using hmiddle

theorem registrations_detach {t : CallbackTable} {key : MemberKey} {caller : FunctionId}
    {entry : Registration} (h : t.first? key caller = some entry) :
    ((key, entry) :: (t.detach key caller).registrations).Perm t.registrations := by
  obtain ⟨front, back, hold, hnew, _⟩ := t.registrations_modifyMember key
    fun m => { m with entries := m.entries.eraseP (·.caller = caller) }
  have hentries : ((t.member? key).getD default).entries = t.entries key := by
    rw [entries]
    cases t.member? key <;> rfl
  -- the entry that is found first is the one that is erased
  obtain ⟨hcaller, before, after, hsplit, hbefore⟩ := List.find?_eq_some_iff_append.mp h
  have herase : (t.entries key).eraseP (·.caller = caller) = before ++ after := by
    rw [hsplit, List.eraseP_append_right _ (by simpa using hbefore)]
    simp [hcaller]
  simp only [detach, h]
  rw [hnew, hold, hentries, herase, hsplit]
  have hmiddle : (front ++ before.map (key, ·) ++ (key, entry) :: (after.map (key, ·) ++ back)).Perm
      ((key, entry) :: (front ++ before.map (key, ·) ++ (after.map (key, ·) ++ back))) :=
    List.perm_middle
  simpa [List.append_assoc] using hmiddle.symm

theorem registrations_drained (t : CallbackTable) : t.drained.registrations = [] := by
  rw [registrations, List.flatMap_eq_nil_iff]
  intro pair hpair
  obtain ⟨old, _, rfl⟩ := List.mem_map.mp hpair
  rfl

/-! ## Hooks and the mark of release -/

theorem hook?_modifyMember_self (t : CallbackTable) (key : MemberKey) (f : Member → Member) :
    (t.modifyMember key f).hook? key = (f ((t.member? key).getD default)).hook := by
  simp [hook?, member?, modifyMember, SortedMap.get?_modify_self]

theorem hook?_modifyMember_of_ne (t : CallbackTable) {key other : MemberKey} (hne : other ≠ key)
    (f : Member → Member) : (t.modifyMember key f).hook? other = t.hook? other := by
  simp [hook?, member?, modifyMember, SortedMap.get?_modify_of_ne _ hne]

theorem hook?_setHook_self (t : CallbackTable) (key : MemberKey) (hook : Hook) :
    (t.setHook key hook).hook? key = some hook :=
  hook?_modifyMember_self t key _

theorem hook?_setHook_of_ne (t : CallbackTable) {key other : MemberKey} (hne : other ≠ key)
    (hook : Hook) : (t.setHook key hook).hook? other = t.hook? other :=
  hook?_modifyMember_of_ne t hne _

/-- A change of registrations alone keeps the hooks. -/
theorem hook?_modifyMember (t : CallbackTable) (key other : MemberKey) {f : Member → Member}
    (hf : ∀ m, (f m).hook = m.hook) : (t.modifyMember key f).hook? other = t.hook? other := by
  by_cases h : other = key
  · subst h
    rw [hook?_modifyMember_self, hf, hook?]
    cases t.member? other <;> rfl
  · exact hook?_modifyMember_of_ne t h f

theorem hook?_push (t : CallbackTable) (key other : MemberKey) (entry : Registration) :
    (t.push key entry).hook? other = t.hook? other :=
  hook?_modifyMember t key other fun _ => rfl

theorem hook?_detach (t : CallbackTable) (key other : MemberKey) (caller : FunctionId) :
    (t.detach key caller).hook? other = t.hook? other := by
  unfold detach
  split
  · rfl
  · exact hook?_modifyMember t key other fun _ => rfl

theorem hook?_drained (t : CallbackTable) (key : MemberKey) :
    t.drained.hook? key = t.hook? key := by
  cases hm : t.members.get? key <;>
    simp [hook?, drained, member?, SortedMap.get?_mapValues, hm]

theorem released_detach (t : CallbackTable) (key : MemberKey) (caller : FunctionId) :
    (t.detach key caller).released = t.released := by
  unfold detach
  split <;> rfl

/-! ## Tables without registrations -/

theorem registrations_eq_nil_iff {t : CallbackTable} :
    t.registrations = [] ↔ ∀ key, t.entries key = [] := by
  constructor
  · intro h key
    have hfilter := t.registrations_filter key
    rw [h, List.filter_nil] at hfilter
    exact List.map_eq_nil_iff.mp hfilter.symm
  · intro h
    refine List.eq_nil_iff_forall_not_mem.mpr ?_
    rintro ⟨key, entry⟩ hmem
    rw [mem_registrations, h key] at hmem
    cases hmem

/-- Without registrations there is nothing to find. -/
theorem first?_eq_none {t : CallbackTable} (h : t.registrations = []) (key : MemberKey)
    (caller : FunctionId) : t.first? key caller = none := by
  rw [first?, registrations_eq_nil_iff.mp h key]
  rfl

/-- Without registrations nothing is owed. -/
theorem owed_eq_nil {t : CallbackTable} (h : t.registrations = []) : t.owed = [] := by
  rw [owed_eq_filterMap, h]
  rfl

end CallbackTable
end Hostlink
