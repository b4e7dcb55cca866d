import Hostlink.Http.Desktop
import Hostlink.Proofs.Http.Headers
import Hostlink.Proofs.Text.Encoding

/-!
# What comes of a reply

A reply whose body has come as a whole is a response, whatever its status.  Looking up a header gives
the last of the values that came under its name and are plain text (`replies_become_responses`):
names come in lower case, so there is no second spelling that a look-up could find instead.
-/

namespace Hostlink.Http

variable {arrived reported : List (String × Bytes)} {lines : List (String × String)} {name : String}

/-! ## Names in lower case -/

/-- Whether all names are in lower case. -/
def LowerCase {α : Type} (lines : List (String × α)) : Prop :=
  ∀ line ∈ lines, line.1.toList = foldName line.1

/-- A name in lower case. -/
def lowerName (name : String) : String := String.ofList (foldName name)

/-- In lower case a name has one spelling. -/
theorem eq_lowerName {spelled : String} (lower : spelled.toList = foldName spelled)
    (same : sameName spelled name = true) : spelled = lowerName name := by
  rw [lowerName, ← sameName_iff.1 same, ← lower, String.ofList_toList]

theorem LowerCase.ofLines (lower : LowerCase lines) : LowerCase (Headers.ofLines lines) := by
  rintro ⟨spelled, value⟩ there
  exact lower _ (mem_of_lastValue? (Headers.mem_ofLines.1 there))

/-- So the spellings of a name cannot differ in their values. -/
theorem LowerCase.agree (lower : LowerCase lines) (name : String) :
    (Headers.ofLines lines).Agree name := by
  rintro ⟨spelled, value⟩ there ⟨spelled', value'⟩ there' same same'
  obtain rfl := eq_lowerName (lower.ofLines _ there) same
  obtain rfl := eq_lowerName (lower.ofLines _ there') same'
  rw [Headers.mem_ofLines] at there there'
  exact Option.some.inj (there.symm.trans there')

/-- Of lines with names in lower case a look-up finds the last one. -/
theorem find?_ofLines (lower : LowerCase lines) (name : String) :
    (Headers.ofLines lines).find? name = lastValue? lines (lowerName name) := by
  refine Option.ext fun value => ?_
  rw [(lower.agree name).find?_eq_some_iff, ← Headers.mem_ofLines]
  constructor
  · rintro ⟨spelled, there, same⟩
    rwa [← eq_lowerName (lower.ofLines _ there) same]
  · intro there
    refine ⟨lowerName name, there, sameName_iff.2 ?_⟩
    rw [← lower.ofLines _ there, lowerName, String.toList_ofList]

/-! ## Values that are text -/

/-- The values on the lines with a name, in order, letter case aside. -/
def valuesOf (lines : List (String × Bytes)) (name : String) : List Bytes :=
  (lines.filter (sameName ·.1 name)).map (·.2)

/-- Whether a value has visible characters, spaces and tabs only. -/
def isPlain (value : Bytes) : Bool := value.all isPlainByte

theorem toNat_lt_of_isPlainByte {b : UInt8} (h : isPlainByte b = true) : b.toNat < 128 := by
  simp only [isPlainByte, Bool.or_eq_true, Bool.and_eq_true, decide_eq_true_eq,
    UInt8.lt_iff_toNat_lt] at h
  obtain ⟨-, below⟩ | rfl := h
  · exact Nat.lt_trans below (by decide)
  · decide

/-- The texts of values are written as the plain ones. -/
theorem map_encodeUtf8_filterMap (values : List Bytes) :
    (values.filterMap valueText?).map Text.encodeUtf8 = values.filter isPlain := by
  induction values with
  | nil => rfl
  | cons value rest ih =>
    by_cases plain : isPlain value = true
    · have text : valueText? value = some (String.ofList (value.map fun b => Char.ofNat b.toNat)) :=
        if_pos plain
      have small : ∀ b ∈ value, b.toNat < 128 := fun b there =>
        toNat_lt_of_isPlainByte (List.all_eq_true.1 plain b there)
      rw [List.filterMap_cons_some text, List.map_cons, Text.encodeUtf8_small small, ih,
        List.filter_cons_of_pos plain]
    · have none : valueText? value = none := if_neg plain
      rw [List.filterMap_cons_none none, ih, List.filter_cons_of_neg plain]

/-- The lines with names in lower case that have a name are those of one spelling. -/
theorem valuesOf_eq (lower : LowerCase reported) (name : String) :
    valuesOf reported name = (reported.filter (·.1 = lowerName name)).map (·.2) := by
  refine congrArg (List.map _) (List.filter_congr fun line there => ?_)
  rw [Bool.eq_iff_iff, decide_eq_true_iff]
  constructor
  · exact eq_lowerName (lower line there)
  · intro here
    rw [sameName_iff, ← lower line there, here, lowerName, String.toList_ofList]

/-- The last text of a spelling is that of its values. -/
theorem lastValue?_filterMap (lines : List (String × Bytes)) (name : String) :
    lastValue? (lines.filterMap fun (n, value) => (valueText? value).map (n, ·)) name =
      (((lines.filter (·.1 = name)).map (·.2)).filterMap valueText?).getLast? := by
  rw [lastValue?, ← List.getLast?_map]
  congr 1
  induction lines with
  | nil => rfl
  | cons line rest ih =>
    obtain ⟨n, value⟩ := line
    by_cases here : n = name <;> cases text : valueText? value <;>
      simp [here, text, ih]

theorem LowerCase.texts (lower : LowerCase reported) :
    LowerCase (reported.filterMap fun (n, value) => (valueText? value).map (n, ·)) := by
  intro line there
  obtain ⟨⟨n, value⟩, mem, text⟩ := List.mem_filterMap.1 there
  obtain ⟨_, _, rfl⟩ := Option.map_eq_some_iff.1 text
  exact lower _ mem

/-- Looking up a name gives the last plain value among the lines that have it. -/
theorem find?_collectHeaders (lower : LowerCase reported) (name : String) :
    ((collectHeaders reported).find? name).map Text.encodeUtf8 =
      ((valuesOf reported name).filter isPlain).getLast? := by
  rw [collectHeaders, find?_ofLines lower.texts, lastValue?_filterMap, ← List.getLast?_map,
    map_encodeUtf8_filterMap, valuesOf_eq lower]

/-! ## The law -/

/-- How the lines that have arrived are reported: with names in lower case, and the values of each
name in the order in which they came.  Lines of different names may change places. -/
structure Reports (arrived reported : List (String × Bytes)) : Prop where
  lower : LowerCase reported
  inOrder : ∀ name, valuesOf reported name = valuesOf arrived name

/-- Whether a response gives for each name, in any letter case and in every order of its headers,
the last of the plain values that have arrived under the name, and nothing if there is none. -/
def Response.GivesLast (r : Response) (arrived : List (String × Bytes)) : Prop :=
  ∀ headers : Headers, headers.Perm r.headers → ∀ name,
    (({ r with headers } : Response).header name).map Text.encodeUtf8 =
      ((valuesOf arrived name).filter isPlain).getLast?

/-- What the caller of the client gets for a reply. -/
def Desktop.answer (wire : WireRequest) : Option Reply → Except HostError Response
  | none => .error (SendFault.undelivered wire.url).error
  | some reply => reply.toResponse

/-- What executing requests over a transport comes to. -/
structure Desktop.ExecuteLaw {m : Type → Type} [Monad m] (transport : Transport m) : Prop where
  /-- A request that can be sent is answered for the reply that it gets. -/
  executed : ∀ request notices,
    Prod.fst <$> ((client transport).execute request).run notices =
      match request.prepare with
      | .error fault => pure (.error fault.error)
      | .ok wire => answer wire <$> transport wire
  /-- A reply whose body has come as a whole is a response with this status and this body. -/
  complete : ∀ (reply : Reply) (body : Bytes), reply.body = .ok body →
    ∃ response, reply.toResponse = .ok response ∧
      response.status = reply.status ∧ response.body = body ∧
      ∀ arrived, Reports arrived reply.headers → response.GivesLast arrived

/-- Executing a request gives the status and the body of the reply as they are, and for each name
the last plain value that came under it. -/
theorem replies_become_responses {m : Type → Type} [Monad m] [LawfulMonad m]
    (transport : Transport m) : Desktop.ExecuteLaw transport := by
  constructor
  case executed =>
    intro request notices
    cases prepared : request.prepare with
    | error fault => simp [Desktop.client, prepared]
    | ok wire =>
      have sent : Prod.fst <$> ((Desktop.client transport).execute request).run notices =
          transport wire >>= fun reply => pure (Desktop.answer wire reply) := by
        simp only [Desktop.client, prepared, StateT.run_bind, StateT.run_monadLift, monadLift_self,
          map_bind, bind_assoc, pure_bind]
        refine bind_congr fun reply => ?_
        cases reply with
        | none => simp [Desktop.answer]
        | some reply => cases response : reply.toResponse <;> simp [Desktop.answer, response]
      rw [sent, bind_pure_comp]
  case complete =>
    intro reply body whole
    refine ⟨⟨reply.status, collectHeaders reply.headers, body⟩, ?_, rfl, rfl, ?_⟩
    · simp [Reply.toResponse, whole]
    · intro arrived reports headers order name
      have same := (Headers.find?_perm_iff (collectHeaders reply.headers) name).2
        (reports.lower.texts.agree name) headers order
      rw [← reports.inOrder name, ← find?_collectHeaders reports.lower name, ← same]
      rfl

/-! A reply with three values under one name, the last of them no text: -/

/-- The lines as they arrive. -/
def tracedLines : List (String × Bytes) :=
  [("X-Trace", [0x61]), ("ETag", [0x80]), ("x-TRACE", [0x62, 0x09, 0x63]), ("X-trace", [0xe9])]

/-- The reply as it is reported. -/
def tracedReply : Reply :=
  ⟨503, [("etag", [0x80]), ("x-trace", [0x61]), ("x-trace", [0x62, 0x09, 0x63]),
    ("x-trace", [0xe9])], .ok [0x31]⟩

/-- A transport that always brings this reply. -/
def tracedTransport : Transport Id := fun _ => some tracedReply

/-- The response. -/
def tracedResponse : Response := ⟨503, [("x-trace", "b\tc")], [0x31]⟩

theorem replies_become_responses_traced :
    Desktop.ExecuteLaw tracedTransport ∧ Reports tracedLines tracedReply.headers ∧
      (((Desktop.client tracedTransport).execute (.make .get "http://127.0.0.1/")).run []).1 =
        .ok tracedResponse ∧
      tracedResponse.GivesLast tracedLines ∧ tracedResponse.header "X-TRACE" = some "b\tc" ∧
      tracedResponse.header "etag" = none := by
  have law : Desktop.ExecuteLaw tracedTransport := replies_become_responses tracedTransport
  have reports : Reports tracedLines tracedReply.headers := by
    refine ⟨by unfold LowerCase; decide, fun name => ?_⟩
    have trace : foldName "X-Trace" = foldName "x-trace" := by decide
    have trace' : foldName "x-TRACE" = foldName "x-trace" := by decide
    have trace'' : foldName "X-trace" = foldName "x-trace" := by decide
    have etag : foldName "ETag" = foldName "etag" := by decide
    have apart : foldName "x-trace" ≠ foldName "etag" := by decide
    simp only [valuesOf, tracedLines, tracedReply, sameName, List.filter_cons, List.filter_nil,
      trace, trace', trace'', etag]
    by_cases here : foldName "x-trace" = foldName name
    · have other : foldName "etag" ≠ foldName name := fun same => apart (here.trans same.symm)
      simp [here, other]
    · by_cases there : foldName "etag" = foldName name <;> simp [here, there]
  obtain ⟨response, made, -, -, gives⟩ := law.complete tracedReply [0x31] rfl
  obtain rfl : tracedResponse = response := Except.ok.inj ((by decide +kernel :
    tracedReply.toResponse = .ok tracedResponse).symm.trans made)
  exact ⟨law, reports, by decide +kernel, gives tracedLines reports, by decide +kernel,
    by decide +kernel⟩

end Hostlink.Http
