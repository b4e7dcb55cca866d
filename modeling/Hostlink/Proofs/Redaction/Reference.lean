import Hostlink.Proofs.Redaction.Scrubbed
import Hostlink.Proofs.Redaction.Slicing

/-!
# Any text as a reference

Every text is a reference: the parts that scrubbing tells apart put together, with a scheme or
without one.  What scrubbing leaves is read off the parts, whether it goes through the characters
or slices the text in memory, and it is again the text of a reference, with nothing more to lose.
-/

namespace Hostlink.Redaction

open Text (encodedLength cutAt?)

/-- The part of a text that a mark ends, with the mark, if there is one. -/
def endedBy (mark : List Char) (part : Option (List Char)) : List Char :=
  (part.map (· ++ mark)).getD []

@[simp] theorem endedBy_none (mark : List Char) : endedBy mark none = [] := rfl

@[simp] theorem endedBy_some (mark part : List Char) :
    endedBy mark (some part) = part ++ mark := rfl

/-- Any text, in the parts that scrubbing tells apart.  Without a scheme there is no mark of one in
front of the query and the fragment. -/
structure Reference where
  scheme : Option (List Char)
  userinfo : Option (List Char)
  host : List Char
  path : List Char
  /-- Query and fragment. -/
  extras : List Char
  scheme_ends : ∀ s ∈ scheme, ¬ schemeMark <:+: s
  unmarked : scheme = none → ¬ schemeMark <:+: endedBy ['@'] userinfo ++ (host ++ path)
  userinfo_plain : ∀ info ∈ userinfo, ∀ c ∈ info, c ≠ '/'
  host_plain : ∀ c ∈ host, c ≠ '/' ∧ c ≠ '@'
  path_rooted : ∀ c ∈ path.head?, c = '/'
  base_plain : ∀ c ∈ endedBy schemeMark scheme ++ (endedBy ['@'] userinfo ++ (host ++ path)),
    endsHierarchy c = false
  extras_marked : ∀ c ∈ extras.head?, endsHierarchy c = true

namespace Reference

/-- What a reference has in front of the query and the fragment. -/
def base (r : Reference) : List Char :=
  endedBy schemeMark r.scheme ++ (endedBy ['@'] r.userinfo ++ (r.host ++ r.path))

/-- The text of a reference. -/
def text (r : Reference) : List Char := r.base ++ r.extras

/-- What a reference shows to everyone. -/
def face (r : Reference) : List Char := endedBy schemeMark r.scheme ++ (r.host ++ r.path)

end Reference

/-! ## Every text is the text of a reference -/

/-- Every text is an authority, with or without userinfo, and a path. -/
theorem exists_authority (cs : List Char) :
    ∃ (userinfo : Option (List Char)) (host path : List Char),
      cs = endedBy ['@'] userinfo ++ (host ++ path) ∧ (∀ info ∈ userinfo, ∀ c ∈ info, c ≠ '/') ∧
        (∀ c ∈ host, c ≠ '/' ∧ c ≠ '@') ∧ ∀ c ∈ path.head?, c = '/' := by
  obtain ⟨authority, path, rfl, run, rooted⟩ := exists_append_of_first (· = '/') cs
  obtain ⟨front, whole, ends, plain⟩ := exists_append_afterLast (· = '@') authority
  generalize afterLast (· = '@') authority = host at whole plain
  subst whole
  rw [List.forall_mem_append] at run
  have rooted : ∀ c ∈ path.head?, c = '/' := by simpa using rooted
  have host_plain : ∀ c ∈ host, c ≠ '/' ∧ c ≠ '@' :=
    fun c hc => ⟨by simpa using run.2 c hc, by simpa using plain c hc⟩
  rcases List.eq_nil_or_concat front with rfl | ⟨info, mark, rfl⟩
  · exact ⟨none, host, path, rfl, by simp, host_plain, rooted⟩
  · obtain rfl : mark = '@' := by simpa using ends mark (by simp)
    refine ⟨some info, host, path, by simp [endedBy], ?_, host_plain, rooted⟩
    rintro _ ⟨⟩ c hc
    simpa using run.1 c (by simp [hc])

/-- Every text is the text of a reference. -/
theorem exists_reference (cs : List Char) : ∃ r : Reference, r.text = cs := by
  obtain ⟨base, extras, rfl, base_plain, extras_marked⟩ := exists_append_of_first endsHierarchy cs
  cases h : splitScheme? base with
  | none =>
    have unmarked := splitScheme?_eq_none_iff.1 h
    obtain ⟨userinfo, host, path, rfl, info_plain, host_plain, rooted⟩ := exists_authority base
    exact ⟨⟨none, userinfo, host, path, extras, by simp, fun _ => unmarked, info_plain, host_plain,
      rooted, base_plain, extras_marked⟩, rfl⟩
  | some parts =>
    obtain ⟨front, lead, rfl, ends⟩ := exists_of_splitScheme? h
    obtain ⟨userinfo, host, path, same, info_plain, host_plain, rooted⟩ := exists_authority parts.2
    rw [same] at base_plain
    refine ⟨⟨some front, userinfo, host, path, extras, ?_, by simp, info_plain, host_plain,
      rooted, by simpa [endedBy] using base_plain, extras_marked⟩, ?_⟩
    · rintro _ ⟨⟩
      exact ends
    · simp [Reference.text, Reference.base, endedBy, same]

namespace Reference

variable (r : Reference)

/-! ## What scrubbing leaves -/

/-- The scheme ends at the first mark. -/
theorem splitScheme?_base : splitScheme? r.base = r.scheme.map fun scheme =>
    (scheme ++ schemeMark, endedBy ['@'] r.userinfo ++ (r.host ++ r.path)) := by
  have ends := r.scheme_ends
  have unmarked := r.unmarked
  unfold base
  cases h : r.scheme with
  | none => simpa using splitScheme?_eq_none_iff.2 (unmarked h)
  | some scheme => simpa using splitScheme?_append (ends scheme h) _

/-- The authority loses its userinfo. -/
theorem dropUserinfo_authority :
    dropUserinfo (endedBy ['@'] r.userinfo ++ (r.host ++ r.path)) = r.host ++ r.path := by
  have plain := r.userinfo_plain
  cases h : r.userinfo with
  | none => simpa using dropUserinfo_of_host r.host_plain r.path_rooted
  | some info => simpa using dropUserinfo_of_userinfo (plain info h) r.host_plain r.path_rooted

/-- Scrubbing leaves what a reference shows. -/
theorem scrubChars_text : scrubChars r.text = r.face := by
  have cut : r.text.takeWhile (!endsHierarchy ·) = r.base :=
    takeWhile_append_of_stop (by simpa [base] using r.base_plain) (by simpa using r.extras_marked)
  have kept := r.dropUserinfo_authority
  rw [scrubChars_eq, cut, dropCredentials, r.splitScheme?_base, face]
  cases h : r.scheme with
  | none => simpa [base, h] using kept
  | some scheme => simpa using kept

/-! ## Once is enough -/

/-- What a reference shows begins neither a query nor a fragment. -/
theorem face_plain : ∀ c ∈ r.face, endsHierarchy c = false := by
  have plain := r.base_plain
  simp only [List.forall_mem_append] at plain
  simp only [face, List.forall_mem_append]
  exact ⟨plain.1, plain.2.2⟩

/-- A reference with nothing but what it shows to everyone. -/
def bare : Reference where
  scheme := r.scheme
  userinfo := none
  host := r.host
  path := r.path
  extras := []
  scheme_ends := r.scheme_ends
  unmarked none marked := r.unmarked none (marked.trans (List.suffix_append _ _).isInfix)
  userinfo_plain := by simp
  host_plain := r.host_plain
  path_rooted := r.path_rooted
  base_plain := r.face_plain
  extras_marked := by simp

theorem text_bare : r.bare.text = r.face := List.append_nil _

theorem face_bare : r.bare.face = r.face := rfl

/-- What a reference shows has nothing to lose. -/
theorem scrubChars_face : scrubChars r.face = r.face :=
  calc scrubChars r.face = scrubChars r.bare.text := by rw [r.text_bare]
    _ = r.bare.face := r.bare.scrubChars_text
    _ = r.face := r.face_bare

/-! ## The slices -/

/-- Query and fragment are sliced off where they begin. -/
theorem sliceAt?_text : sliceAt? endsHierarchy r.text = some (r.base, r.extras) :=
  sliceAt?_append r.base_plain r.extras_marked

/-- The scheme is sliced off behind its mark. -/
theorem sliceScheme?_base : sliceScheme? r.base =
    some (endedBy schemeMark r.scheme, endedBy ['@'] r.userinfo ++ (r.host ++ r.path)) := by
  have ends := r.scheme_ends
  have unmarked := r.unmarked
  unfold base sliceScheme?
  cases h : r.scheme with
  | none => simp [wordPlace?_of_unmarked (unmarked h)]
  | some scheme =>
    rw [endedBy_some, List.append_assoc, wordPlace?_append (ends scheme h)]
    exact cutAt?_behind scheme schemeMark _

/-- The authority is sliced off where the path begins. -/
theorem sliceAt?_authority :
    sliceAt? (· = '/') (endedBy ['@'] r.userinfo ++ (r.host ++ r.path)) =
      some (endedBy ['@'] r.userinfo ++ r.host, r.path) := by
  have plain := r.userinfo_plain
  rw [← List.append_assoc]
  refine sliceAt?_append ?_ (by simpa using r.path_rooted)
  rw [List.forall_mem_append]
  refine ⟨?_, by simpa using fun c hc => (r.host_plain c hc).1⟩
  cases h : r.userinfo with
  | none => simp
  | some info => simpa [or_imp, forall_and] using plain info h

/-- No slice that scrubbing takes is at fault, and together they are what a reference shows. -/
theorem sliceChars?_text : sliceChars? r.text = some r.face := by
  have host_plain : ∀ c ∈ r.host, decide (c = '@') = false :=
    by simpa using fun c hc => (r.host_plain c hc).2
  unfold sliceChars?
  simp only [sliceAt?_text, sliceScheme?_base, sliceAt?_authority, Option.bind_eq_bind,
    Option.bind_some]
  cases h : r.userinfo with
  | none => simp [lastPlace?_of_no_mark host_plain, base, face, h]
  | some info =>
    have place : lastPlace? (· = '@') (info ++ '@' :: r.host) = some (encodedLength info) :=
      lastPlace?_append host_plain rfl
    have cut : cutAt? (encodedLength info + 1) (info ++ '@' :: (r.host ++ r.path)) =
        some (info ++ ['@'], r.host ++ r.path) := cutAt?_behind info ['@'] (r.host ++ r.path)
    simp [place, cut, face]

end Reference

/-- Whatever a text is, no slice that scrubbing takes of it is at fault; what is left has neither
query nor fragment, is the text without one part and without an end, and is scrubbed already. -/
theorem scrubUrl_settled (url : String) :
    sliceUrl? url = some (scrubUrl url) ∧
      (∀ c ∈ (scrubUrl url).toList, c ≠ '?' ∧ c ≠ '#') ∧
      (∃ front dropped back rest, url = front ++ dropped ++ back ++ rest ∧
        scrubUrl url = front ++ back) ∧
      scrubUrl (scrubUrl url) = scrubUrl url := by
  obtain ⟨r, text⟩ := exists_reference url.toList
  have left : (scrubUrl url).toList = r.face := by
    rw [scrubUrl, ← text, r.scrubChars_text, String.toList_ofList]
  refine ⟨?_, ?_, ?_, ?_⟩
  · rw [sliceUrl?, ← text, r.sliceChars?_text, ← left, Option.map_some, String.ofList_toList]
  · rw [left]
    exact fun c hc => endsHierarchy_eq_false.1 (r.face_plain c hc)
  · refine ⟨.ofList (endedBy schemeMark r.scheme), .ofList (endedBy ['@'] r.userinfo),
      .ofList (r.host ++ r.path), .ofList r.extras, ?_, ?_⟩
    · apply String.toList_injective
      simp [← text, Reference.text, Reference.base]
    · apply String.toList_injective
      simp [left, Reference.face]
  · rw [scrubUrl, left, r.scrubChars_face, ← left, String.ofList_toList]

end Hostlink.Redaction
