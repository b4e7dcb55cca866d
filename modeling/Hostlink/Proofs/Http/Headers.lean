import Mathlib.Data.List.Induction
import Mathlib.Data.List.Nodup
import Hostlink.Http.Response

/-!
# Look-ups of headers

A header map tells the spellings of a name apart, and a look-up does not.  What a look-up finds is
therefore the same in every order of the map exactly if all the spellings of the name have one value
(`header_found`).  A map that is filled from lines has each spelling once, with the value of its last
line (`Headers.mem_ofLines`).
-/

namespace Hostlink.Http

variable {headers headers' : Headers} {lines : List (String × String)}
  {name other value value' : String}

/-! ## Names -/

theorem sameName_iff {a b : String} : sameName a b = true ↔ foldName a = foldName b :=
  decide_eq_true_iff

theorem sameName_self (name : String) : sameName name name = true := sameName_iff.2 rfl

/-- Spellings of one name are the same to every third name. -/
theorem sameName_congr {a b : String} (same : foldName a = foldName b) (name : String) :
    sameName name a = sameName name b := by
  rw [Bool.eq_iff_iff, sameName_iff, sameName_iff, same]

/-! ## Filling a map -/

/-- Whether no spelling comes twice, as in a map. -/
def Headers.Distinct (headers : Headers) : Prop := (headers.map (·.1)).Nodup

namespace Headers

/-- The spellings of a map stay, and a new one is added. -/
theorem mem_keys_set :
    other ∈ (headers.set name value).map (·.1) ↔ other = name ∨ other ∈ headers.map (·.1) := by
  induction headers with
  | nil => simp [set]
  | cons header rest ih =>
    obtain ⟨n, v⟩ := header
    rw [set]
    split
    next here =>
      subst here
      simp
    next =>
      rw [List.map_cons, List.mem_cons, ih, List.map_cons, List.mem_cons]
      tauto

theorem Distinct.set (distinct : headers.Distinct) (name value : String) :
    (headers.set name value).Distinct := by
  induction headers with
  | nil => simp [Headers.set, Distinct]
  | cons header rest ih =>
    obtain ⟨n, v⟩ := header
    obtain ⟨fresh, others⟩ := List.nodup_cons.1 distinct
    rw [Headers.set]
    split
    next => exact List.nodup_cons.2 ⟨fresh, others⟩
    next apart =>
      refine List.nodup_cons.2 ⟨?_, ih others⟩
      rw [mem_keys_set]
      rintro (same | there)
      · exact apart same
      · exact fresh there

/-- Under the spelling that is set there is the new value alone, and the others keep theirs. -/
theorem Distinct.mem_set (distinct : headers.Distinct) :
    (other, value') ∈ headers.set name value ↔
      if other = name then value' = value else (other, value') ∈ headers := by
  induction headers with
  | nil => simp [Headers.set]
  | cons header rest ih =>
    obtain ⟨n, v⟩ := header
    obtain ⟨fresh, others⟩ := List.nodup_cons.1 distinct
    have absent : ∀ v', (n, v') ∉ rest :=
      fun v' there => fresh (List.mem_map.2 ⟨(n, v'), there, rfl⟩)
    rw [Headers.set]
    split
    next here =>
      subst here
      rw [List.mem_cons, Prod.mk.injEq]
      split
      next same =>
        subst same
        simp [absent]
      next apart => simp [apart]
    next =>
      rw [List.mem_cons, ih others, List.mem_cons, Prod.mk.injEq]
      grind

theorem ofLines_concat (lines : List (String × String)) (line : String × String) :
    ofLines (lines ++ [line]) = (ofLines lines).set line.1 line.2 := by
  simp [ofLines]

theorem distinct_ofLines (lines : List (String × String)) : (ofLines lines).Distinct := by
  induction lines using List.reverseRecOn with
  | nil => exact List.nodup_nil
  | append_singleton lines line ih =>
    rw [ofLines_concat]
    exact ih.set line.1 line.2

end Headers

/-- The value on the last line with a name of exactly this spelling. -/
def lastValue? {α : Type} (lines : List (String × α)) (name : String) : Option α :=
  ((lines.filter (·.1 = name)).getLast?).map (·.2)

section

variable {α : Type} {v : α} {pairs : List (String × α)}

@[simp]
theorem lastValue?_append (pairs more : List (String × α)) (name : String) :
    lastValue? (pairs ++ more) name = (lastValue? more name).or (lastValue? pairs name) := by
  rw [lastValue?, List.filter_append, List.getLast?_append, Option.map_or]
  rfl

@[simp]
theorem lastValue?_singleton (pair : String × α) (name : String) :
    lastValue? [pair] name = if pair.1 = name then some pair.2 else none := by
  by_cases here : pair.1 = name <;> simp [lastValue?, here]

theorem mem_of_lastValue? (h : lastValue? pairs name = some v) : (name, v) ∈ pairs := by
  obtain ⟨⟨n, v'⟩, last, rfl⟩ := Option.map_eq_some_iff.1 h
  obtain ⟨there, here⟩ := List.mem_filter.1 (List.mem_of_getLast? last)
  rwa [← of_decide_eq_true here]

theorem lastValue?_eq_none_iff : lastValue? pairs name = none ↔ ∀ pair ∈ pairs, pair.1 ≠ name := by
  simp [lastValue?]

end

/-- Each spelling has the value of its last line. -/
theorem Headers.mem_ofLines :
    (name, value) ∈ Headers.ofLines lines ↔ lastValue? lines name = some value := by
  induction lines using List.reverseRecOn with
  | nil => simp [Headers.ofLines, lastValue?]
  | append_singleton lines line ih =>
    rw [ofLines_concat, (distinct_ofLines lines).mem_set, lastValue?_append, lastValue?_singleton, ih]
    by_cases here : name = line.1
    · simp [here, eq_comm]
    · simp [here, Ne.symm here]

/-! ## Looking up -/

namespace Headers

/-- A look-up is the same for all spellings of a name. -/
theorem find?_congr (headers : Headers) (same : foldName other = foldName name) :
    headers.find? other = headers.find? name := by
  simp only [find?, sameName_congr same]

theorem exists_of_find? (h : headers.find? name = some value) :
    ∃ spelled, (spelled, value) ∈ headers ∧ sameName spelled name = true := by
  obtain ⟨⟨spelled, v⟩, found, rfl⟩ := Option.map_eq_some_iff.1 h
  exact ⟨spelled, List.mem_of_find?_eq_some found, by simpa using List.find?_some found⟩

theorem find?_eq_none_iff :
    headers.find? name = none ↔ ∀ header ∈ headers, sameName header.1 name = false := by
  simp [find?]

/-- Whether all spellings of a name have one value. -/
def Agree (headers : Headers) (name : String) : Prop :=
  ∀ header ∈ headers, ∀ header' ∈ headers, sameName header.1 name = true →
    sameName header'.1 name = true → header.2 = header'.2

/-- Where all spellings of a name have one value a look-up finds that one. -/
theorem Agree.find?_eq_some_iff (agree : headers.Agree name) :
    headers.find? name = some value ↔
      ∃ spelled, (spelled, value) ∈ headers ∧ sameName spelled name = true := by
  refine ⟨exists_of_find?, ?_⟩
  rintro ⟨spelled, there, same⟩
  cases found : headers.find? name with
  | none =>
    have missing := find?_eq_none_iff.1 found (spelled, value) there
    rw [missing] at same
    exact absurd same Bool.false_ne_true
  | some value' =>
    obtain ⟨spelled', there', same'⟩ := exists_of_find? found
    exact congrArg some (agree _ there' _ there same' same)

theorem Agree.perm (agree : headers.Agree name) (order : headers'.Perm headers) :
    headers'.Agree name := by
  intro header there header' there'
  exact agree header (order.mem_iff.1 there) header' (order.mem_iff.1 there')

/-- What is found is the same in every order exactly if all spellings have one value. -/
theorem find?_perm_iff (headers : Headers) (name : String) :
    (∀ headers' : Headers, headers'.Perm headers → headers'.find? name = headers.find? name) ↔
      headers.Agree name := by
  constructor
  · -- each spelling of the name comes first in some order
    have comes_first : ∀ header ∈ headers, sameName header.1 name = true →
        ∃ headers' : Headers, headers'.Perm headers ∧ headers'.find? name = some header.2 := by
      intro header there same
      obtain ⟨front, back, rfl⟩ := List.append_of_mem there
      exact ⟨header :: (front ++ back), List.perm_middle.symm, by simp [find?, same]⟩
    intro alike header there header' there' same same'
    obtain ⟨order, perm, first⟩ := comes_first header there same
    obtain ⟨order', perm', first'⟩ := comes_first header' there' same'
    have both : some header.2 = some header'.2 := by
      rw [← first, ← first', alike order perm, alike order' perm']
    exact Option.some.inj both
  · intro agree headers' order
    refine Option.ext fun value => ?_
    rw [(agree.perm order).find?_eq_some_iff, agree.find?_eq_some_iff]
    simp only [order.mem_iff]

end Headers

/-! ## The law -/

/-- What looking up a name in a response comes to. -/
structure Response.LookupLaw (r : Response) (name : String) : Prop where
  /-- The letter case of the name does not matter. -/
  anyCase : ∀ other, foldName other = foldName name → r.header other = r.header name
  /-- What is found is the value of a header of this name. -/
  found : ∀ value, r.header name = some value →
    ∃ spelled, (spelled, value) ∈ r.headers ∧ sameName spelled name = true
  /-- Nothing is found exactly if there is no such header. -/
  missing : r.header name = none ↔ ∀ header ∈ r.headers, sameName header.1 name = false
  /-- The order of the headers does not matter exactly if all headers of this name have one
  value. -/
  anyOrder : (∀ headers : Headers, headers.Perm r.headers →
    ({ r with headers } : Response).header name = r.header name) ↔ r.headers.Agree name

/-- A look-up finds a header of the name, if there is any, and which one is a matter of the order
only where spellings of the name differ in their values. -/
theorem header_found (r : Response) (name : String) : r.LookupLaw name where
  anyCase := fun _ same => r.headers.find?_congr same
  found := fun _ => Headers.exists_of_find?
  missing := Headers.find?_eq_none_iff
  anyOrder := r.headers.find?_perm_iff name

/-- Whether looking up a name gives the same in every order of the headers. -/
def Response.OrderFree (r : Response) (name : String) : Prop :=
  ∀ headers : Headers, headers.Perm r.headers →
    ({ r with headers } : Response).header name = r.header name

/-- Two spellings of one name make a map, and what is found is a matter of the order. -/
theorem spellings_not_orderFree :
    Headers.Distinct [("ETag", "1"), ("etag", "2")] ∧
      ¬ Response.OrderFree ⟨200, [("ETag", "1"), ("etag", "2")], []⟩ "etag" := by
  refine ⟨by simp [Headers.Distinct], fun orderFree => ?_⟩
  have swapped := orderFree [("etag", "2"), ("ETag", "1")] (List.Perm.swap _ _ _)
  revert swapped
  decide

end Hostlink.Http
