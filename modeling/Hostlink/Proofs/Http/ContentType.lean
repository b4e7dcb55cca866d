import Mathlib.Data.List.Nodup
import Hostlink.Http.Desktop
import Hostlink.Proofs.Http.Headers

/-!
# How a request tells the type of its body

A JSON body is marked by one spelling of the header for the type.  Whatever has been set under that
spelling before is replaced, and what has been set under another spelling stays beside it
(`json_marked`).
-/

namespace Hostlink.Http

/-! ## Building a request -/

namespace Request

/-- The header that a call sets. -/
def Call.line? : Call → Option (String × String)
  | .header name value => some (name, value)
  | .json (.ok _) => some (contentType, jsonType)
  | .json (.error _) | .body _ | .timeout _ => none

/-- The request built by calls.  A call that fails has built nothing, and who has kept a copy goes on
with that. -/
def built (r : Request) (calls : List Call) : Request :=
  calls.foldl (fun r call => (r.apply call).toOption.getD r) r

variable {r r' : Request} {call : Call} {calls before after : List Call} {method : Method}
  {url : String} {value : Json.Value}

/-- Whether a call cannot fail: it asks for no body that has no JSON text. -/
def Call.Succeeds (call : Call) : Prop := ∀ reason, call ≠ .json (.error reason)

theorem Call.succeeds_iff : call.Succeeds ↔ ∃ next, r.apply call = .ok next := by
  cases call with
  | header name value => simp [Succeeds, apply]
  | json value => cases value <;> simp [Succeeds, apply, Request.json]
  | body bytes => simp [Succeeds, apply]
  | timeout timeout => simp [Succeeds, apply]

/-- Calls that all succeed, and only these, give the request that they have built. -/
theorem applyAll_eq_ok_iff :
    r.applyAll calls = .ok r' ↔ (∀ call ∈ calls, call.Succeeds) ∧ r' = r.built calls := by
  induction calls generalizing r with
  | nil => simp [applyAll, built, eq_comm]
  | cons call rest ih =>
    rw [applyAll, List.forall_mem_cons, Call.succeeds_iff (r := r)]
    cases made : r.apply call with
    | error e => simp
    | ok next => simp [ih, built, made, Except.toOption]

/-- A call sets its header, if it sets any. -/
theorem headers_apply (r : Request) (call : Call) :
    ((r.apply call).toOption.getD r).headers =
      call.line?.toList.foldl (fun headers line => headers.set line.1 line.2) r.headers := by
  cases call with
  | header name value => rfl
  | json value => cases value <;> rfl
  | body bytes => rfl
  | timeout timeout => rfl

/-- The headers of a request are what its calls have set. -/
theorem headers_built (method : Method) (url : String) (calls : List Call) :
    ((make method url).built calls).headers = Headers.ofLines (calls.filterMap Call.line?) := by
  induction calls using List.reverseRecOn with
  | nil => rfl
  | append_singleton calls call ih =>
    have step := headers_apply ((make method url).built calls) call
    rw [ih] at step
    rw [built, List.foldl_concat, ← built, step]
    cases line : call.line? <;> simp [line, Headers.ofLines_concat]

/-! ## Marking a body -/

/-- Whether no call sets the type of the body, under any spelling. -/
def Quiet (calls : List Call) : Prop :=
  ∀ call ∈ calls, ∀ line ∈ call.line?, sameName line.1 contentType = false

/-- What marks a request, given the calls before the last one that made its body JSON. -/
structure Marked (before : List Call) (r : Request) : Prop where
  /-- No spelling of a name comes twice. -/
  distinct : r.headers.Distinct
  /-- Under one spelling the body is JSON and nothing else. -/
  json : ∀ value, (contentType, value) ∈ r.headers ↔ value = jsonType
  /-- Every other spelling has what it was set to last, before the body was marked. -/
  others : ∀ name value, sameName name contentType = true → name ≠ contentType →
    ((name, value) ∈ r.headers ↔ lastValue? (before.filterMap Call.line?) name = some value)
  /-- So the body is JSON and nothing else exactly if no call before has used another spelling. -/
  once : r.headers.filter (sameName ·.1 contentType) = [(contentType, jsonType)] ↔
    ∀ name value, .header name value ∈ before → sameName name contentType = true →
      name = contentType
  /-- All headers are sent. -/
  sent : ∀ wire, r.prepare = .ok wire → wire.headers = r.headers

/-- A request is sent with the headers that it has. -/
theorem headers_prepare {wire : WireRequest} (h : r.prepare = .ok wire) :
    wire.headers = r.headers := by
  unfold prepare at h
  split at h
  · cases h
  · split at h
    · cases h
    · dsimp only at h
      split at h
      · cases h
      · split at h
        · cases h
        · rw [← Except.ok.inj h]

/-- Calls that do not set the type of the body give no value to any spelling of its name. -/
theorem Quiet.lastValue?_eq_none (quiet : Quiet after) {name : String}
    (same : sameName name contentType = true) :
    lastValue? (after.filterMap Call.line?) name = none := by
  rw [lastValue?_eq_none_iff]
  rintro line there rfl
  obtain ⟨call, mem, set⟩ := List.mem_filterMap.1 there
  rw [quiet call mem line set] at same
  exact Bool.false_ne_true same

/-- What the spellings of the name have been set to last. -/
theorem lastValue?_marked (quiet : Quiet after) {name : String}
    (same : sameName name contentType = true) :
    lastValue? ((before ++ .json (.ok value) :: after).filterMap Call.line?) name =
      if name = contentType then some jsonType else lastValue? (before.filterMap Call.line?) name := by
  have lines : (before ++ .json (.ok value) :: after).filterMap Call.line? =
      before.filterMap Call.line? ++ ([(contentType, jsonType)] ++ after.filterMap Call.line?) := by
    simp [Call.line?]
  rw [lines, lastValue?_append, lastValue?_append, quiet.lastValue?_eq_none same, Option.none_or,
    lastValue?_singleton]
  by_cases here : name = contentType
  · simp [here]
  · simp [here, Ne.symm here]

/-- A header under another spelling has been set as such. -/
theorem mem_of_mem_lines {name text : String} (other : name ≠ contentType)
    (h : (name, text) ∈ calls.filterMap Call.line?) : .header name text ∈ calls := by
  obtain ⟨call, mem, set⟩ := List.mem_filterMap.1 h
  cases call with
  | header n t =>
    obtain ⟨rfl, rfl⟩ := Prod.mk.inj (Option.some.inj set)
    exact mem
  | json value =>
    cases value with
    | ok value => exact absurd (Prod.mk.inj (Option.some.inj set)).1.symm other
    | error reason => cases set
  | body bytes => cases set
  | timeout timeout => cases set

theorem mem_lines {name text : String} (h : .header name text ∈ calls) :
    (name, text) ∈ calls.filterMap Call.line? :=
  List.mem_filterMap.2 ⟨_, h, rfl⟩

end Request

/-- The elements of a list without repetitions that have a property are one exactly if it is there
and has the property alone. -/
theorem filter_eq_singleton_iff {α : Type} {p : α → Bool} {xs : List α} {x : α} (nodup : xs.Nodup) :
    xs.filter p = [x] ↔ (x ∈ xs ∧ p x = true) ∧ ∀ y ∈ xs, p y = true → y = x := by
  rw [← List.perm_singleton, List.perm_ext_iff_of_nodup (nodup.filter p) (List.nodup_singleton x)]
  simp only [List.mem_filter, List.mem_singleton]
  constructor
  · intro only
    exact ⟨(only x).2 rfl, fun y there has => (only y).1 ⟨there, has⟩⟩
  · rintro ⟨there, alone⟩ y
    exact ⟨fun has => alone y has.1 has.2, fun same => same ▸ there⟩

open Request

/-- A request whose body has been made JSON, and whose type has not been set after that, is marked:
the one spelling says JSON, and another spelling says what it said before. -/
theorem json_marked {method : Method} {url : String} {calls before after : List Call}
    {value : Json.Value} (split : calls = before ++ .json (.ok value) :: after)
    (quiet : Quiet after) :
    ((make method url).built calls).Marked before ∧
      ∀ r, (make method url).applyAll calls = .ok r ↔
        (∀ call ∈ calls, call.Succeeds) ∧ r = (make method url).built calls := by
  refine ⟨?_, fun _ => applyAll_eq_ok_iff⟩
  generalize made : (make method url).built calls = r
  have headers : r.headers = Headers.ofLines (calls.filterMap Call.line?) := by
    rw [← made, headers_built]
  have last : ∀ name text, sameName name contentType = true → ((name, text) ∈ r.headers ↔
      (if name = contentType then some jsonType else lastValue? (before.filterMap Call.line?) name) =
        some text) := by
    intro name text same
    rw [headers, Headers.mem_ofLines, split, lastValue?_marked quiet same]
  have json : ∀ text, (contentType, text) ∈ r.headers ↔ text = jsonType := by
    intro text
    rw [last _ _ (sameName_self _), if_pos rfl, Option.some.injEq, eq_comm]
  have others : ∀ name text, sameName name contentType = true → name ≠ contentType →
      ((name, text) ∈ r.headers ↔ lastValue? (before.filterMap Call.line?) name = some text) := by
    intro name text same other
    rw [last _ _ same, if_neg other]
  have distinct : r.headers.Distinct := headers ▸ Headers.distinct_ofLines _
  refine ⟨distinct, json, others, ?_, fun _ => headers_prepare⟩
  rw [filter_eq_singleton_iff (distinct.of_map _)]
  constructor
  · rintro ⟨-, alone⟩ name text set same
    by_contra other
    -- the call has left a header behind
    cases kept : lastValue? (before.filterMap Call.line?) name with
    | none => exact lastValue?_eq_none_iff.1 kept _ (mem_lines set) rfl
    | some text' =>
      have there := (others name text' same other).2 kept
      exact other (Prod.mk.inj (alone _ there same)).1
  · intro spelled
    refine ⟨⟨(json _).2 rfl, sameName_self _⟩, ?_⟩
    rintro ⟨name, text⟩ there same
    by_cases here : name = contentType
    · subst here
      rw [(json text).1 there]
    · have kept := mem_of_lastValue? ((others name text same here).1 there)
      exact absurd (spelled name text (mem_of_mem_lines here kept) same) here

/-- Calls that set the type under two spellings, one of them twice, and a body that cannot be made. -/
def earlierCalls : List Call :=
  [.header "content-type" "text/html", .header contentType "text/html",
    .json (.error "key must be a string"), .header "content-type" "text/plain"]

theorem json_marked_other_spelling :
    earlierCalls ++ [.json (.ok .null), .header "Accept" "*/*", .body [0x31]] =
        earlierCalls ++ .json (.ok .null) :: [.header "Accept" "*/*", .body [0x31]] ∧
      Quiet [.header "Accept" "*/*", .body [0x31]] ∧
      ((make .post "http://h/").built
        (earlierCalls ++ [.json (.ok .null), .header "Accept" "*/*", .body [0x31]])).headers =
          [("content-type", "text/plain"), (contentType, jsonType), ("Accept", "*/*")] ∧
      ((make .post "http://h/").built
        (earlierCalls ++ [.json (.ok .null), .header "Accept" "*/*", .body [0x31]])).Marked
          earlierCalls := by
  have quiet : Quiet [.header "Accept" "*/*", .body [0x31]] := by
    simp [Quiet, Call.line?, sameName, foldName, contentType]
  exact ⟨rfl, quiet, by decide, (json_marked rfl quiet).1⟩

/-- Whether a request says once and in one spelling that its body is JSON, when calls have made it
so and have not set the type after that. -/
def MarkedOnce (calls : List Call) : Prop :=
  ∀ before value after, calls = before ++ .json (.ok value) :: after → Quiet after →
    ∀ method url r, (make method url).applyAll calls = .ok r →
      ∃ spelled, r.headers.filter (sameName ·.1 contentType) = [(spelled, jsonType)]

/-- The type that has been set in lower case stays. -/
theorem lower_case_kept :
    ¬ MarkedOnce [.header "content-type" "text/plain", .json (.ok (.object []))] := by
  intro once
  obtain ⟨spelled, only⟩ := once [_] (.object []) [] rfl (by simp [Quiet]) .post "http://h/" _ rfl
  have two := congrArg List.length only
  rw [List.length_singleton] at two
  revert two
  decide

end Hostlink.Http
