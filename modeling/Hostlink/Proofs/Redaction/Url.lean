import Mathlib.Data.List.TakeDrop
import Mathlib.Data.List.TakeWhile
import Hostlink.Redaction

/-!
# What is left of a URL

A URL is taken apart into scheme, userinfo, host, path, query and fragment.  Scrubbing its text
leaves scheme, host and path, whatever the other parts hold.
-/

namespace Hostlink.Redaction

/-! ## Characters of a text

A statement on the characters of a text is decided by looking at these, and not at all characters
that there are. -/

instance (priority := high) decidableForallText (p : Char → Prop) [DecidablePred p]
    (text : List Char) : Decidable (∀ c ∈ text, p c) := List.decidableBAll p text

instance (priority := high) decidableForallChar? (p : Char → Prop) [DecidablePred p]
    (c? : Option Char) : Decidable (∀ c ∈ c?, p c) := Option.decidableForallMem c?

/-! ## Lists that are cut at a mark -/

section Cutting

variable {p : Char → Bool} {xs ys : List Char}

/-- Nothing behind the end of a run that stops at a mark is taken with it. -/
theorem takeWhile_append_of_stop (run : ∀ c ∈ xs, p c = true) (stop : ∀ c ∈ ys.head?, p c = false) :
    (xs ++ ys).takeWhile p = xs := by
  rw [List.takeWhile_append_of_pos run]
  cases ys with
  | nil => simp
  | cons y rest =>
    have : p y = false := stop y rfl
    simp [this]

/-- All that stands behind such a run is kept. -/
theorem dropWhile_append_of_stop (run : ∀ c ∈ xs, p c = true) (stop : ∀ c ∈ ys.head?, p c = false) :
    (xs ++ ys).dropWhile p = ys := by
  rw [List.dropWhile_append_of_pos run]
  cases ys with
  | nil => simp
  | cons y rest =>
    have : p y = false := stop y rfl
    simp [this]

/-- Without a mark everything counts as behind the last one. -/
theorem afterLast_of_no_mark (h : ∀ c ∈ xs, p c = false) : afterLast p xs = xs := by
  have whole : xs.reverse.takeWhile (!p ·) = xs.reverse :=
    List.takeWhile_eq_self_iff.2 (by simpa using h)
  rw [afterLast, whole, List.reverse_reverse]

/-- What stands before a last mark does not count. -/
theorem afterLast_append_mark {mark : Char} (hm : p mark = true) (h : ∀ c ∈ ys, p c = false) :
    afterLast p (xs ++ mark :: ys) = ys := by
  have turned : (xs ++ mark :: ys).reverse = ys.reverse ++ mark :: xs.reverse := by simp
  rw [afterLast, turned, takeWhile_append_of_stop (by simpa using h) (by simpa using hm),
    List.reverse_reverse]

/-- A text is cut in front of its first mark. -/
theorem exists_append_of_first (p : Char → Bool) (cs : List Char) :
    ∃ front back, cs = front ++ back ∧ (∀ c ∈ front, p c = false) ∧
      ∀ c ∈ back.head?, p c = true := by
  refine ⟨cs.takeWhile (!p ·), cs.dropWhile (!p ·), List.takeWhile_append_dropWhile.symm, ?_, ?_⟩
  · exact fun c hc => by simpa using List.mem_takeWhile_imp hc
  · intro c hc
    have stops := List.head?_dropWhile_not (!p ·) cs
    rw [Option.mem_def.1 hc] at stops
    simpa using stops

/-- A text is cut behind its last mark. -/
theorem exists_append_afterLast (p : Char → Bool) (cs : List Char) :
    ∃ front, cs = front ++ afterLast p cs ∧ (∀ c ∈ front.getLast?, p c = true) ∧
      ∀ c ∈ afterLast p cs, p c = false := by
  obtain ⟨back, front, turned, plain, ends⟩ := exists_append_of_first p cs.reverse
  have whole : cs = front.reverse ++ back.reverse := by
    rw [← List.reverse_append, ← turned, List.reverse_reverse]
  have behind : afterLast p cs = back.reverse := by
    rw [afterLast, turned, takeWhile_append_of_stop (by simpa using plain) (by simpa using ends)]
  refine ⟨front.reverse, by rwa [behind], by simpa using ends, by simpa [behind] using plain⟩

end Cutting

/-! ## The parts of a URL -/

/-- What ends a scheme. -/
def schemeMark : List Char := [':', '/', '/']

/-- Whether a character can stand before the path: it begins neither path, query nor fragment. -/
def beforePath (c : Char) : Prop := c ≠ '/' ∧ endsHierarchy c = false

instance : DecidablePred beforePath := fun c =>
  inferInstanceAs (Decidable (c ≠ '/' ∧ endsHierarchy c = false))

/-- A URL in its parts; the port belongs to the host.  A query and a fragment may hold anything. -/
structure Url where
  scheme : List Char
  userinfo : Option (List Char)
  host : List Char
  path : List Char
  query : Option (List Char)
  fragment : Option (List Char)
  scheme_ends : ¬ schemeMark <:+: scheme := by decide
  scheme_plain : ∀ c ∈ scheme, endsHierarchy c = false := by decide
  userinfo_plain : ∀ info ∈ userinfo, ∀ c ∈ info, beforePath c := by decide
  host_plain : ∀ c ∈ host, beforePath c ∧ c ≠ '@' := by decide
  path_rooted : ∀ c ∈ path.head?, c = '/' := by decide
  path_plain : ∀ c ∈ path, endsHierarchy c = false := by decide

namespace Url

/-- The userinfo with the mark behind it. -/
def credentials (u : Url) : List Char := (u.userinfo.map (· ++ ['@'])).getD []

/-- Query and fragment with the marks before them. -/
def extras (u : Url) : List Char :=
  (u.query.map ('?' :: ·)).getD [] ++ (u.fragment.map ('#' :: ·)).getD []

/-- The text of a URL. -/
def text (u : Url) : List Char :=
  u.scheme ++ schemeMark ++ (u.credentials ++ (u.host ++ u.path)) ++ u.extras

/-- What a URL shows to everyone: scheme, host and path. -/
def face (u : Url) : List Char := u.scheme ++ schemeMark ++ (u.host ++ u.path)

theorem credentials_plain (u : Url) : ∀ c ∈ u.credentials, beforePath c := by
  have plain := u.userinfo_plain
  intro c hc
  unfold credentials at hc
  cases h : u.userinfo with
  | none => simp [h] at hc
  | some info =>
    simp only [h, Option.map_some, Option.getD_some, List.mem_append, List.mem_singleton] at hc
    obtain hc | rfl := hc
    · exact plain info h c hc
    · simp [beforePath, endsHierarchy]

theorem head_extras (u : Url) : ∀ c ∈ u.extras.head?, endsHierarchy c = true := by
  unfold extras
  cases u.query <;> cases u.fragment <;> simp [endsHierarchy]

end Url

/-! ## Scrubbing -/

/-- The mark does not begin inside of a scheme: no proper start of it is also an end of it. -/
theorem schemeMark_not_early {c : Char} {scheme : List Char} (h : ¬ schemeMark <:+: c :: scheme)
    (rest : List Char) : ¬ schemeMark <+: c :: (scheme ++ (schemeMark ++ rest)) := by
  intro early
  match scheme, h with
  | [], _ => simp [schemeMark] at early
  | [d], _ => simp [schemeMark] at early
  | d :: e :: scheme, h =>
    simp only [schemeMark, List.cons_append, List.cons_prefix_cons] at early
    obtain ⟨rfl, rfl, rfl, -⟩ := early
    exact h ⟨[], scheme, rfl⟩

/-- Behind a character that does not begin the mark the search goes on. -/
theorem splitScheme?_cons {c : Char} {cs : List Char} (later : ¬ schemeMark <+: c :: cs) :
    splitScheme? (c :: cs) = (splitScheme? cs).map (Prod.map (c :: ·) id) := by
  have later : [':', '/', '/'].isPrefixOf (c :: cs) = false := by
    rwa [← Bool.not_eq_true, List.isPrefixOf_iff_prefix]
  rw [splitScheme?, later]
  rfl

/-- The scheme ends with the first mark. -/
theorem splitScheme?_append {scheme : List Char} (h : ¬ schemeMark <:+: scheme) (rest : List Char) :
    splitScheme? (scheme ++ (schemeMark ++ rest)) = some (scheme ++ schemeMark, rest) := by
  induction scheme with
  | nil => rfl
  | cons c scheme ih =>
    have deeper := ih fun inner => h (inner.trans (List.suffix_cons c scheme).isInfix)
    rw [List.cons_append, splitScheme?_cons (schemeMark_not_early h rest), deeper]
    rfl

/-- An authority loses its userinfo. -/
theorem dropUserinfo_of_userinfo {info host path : List Char} (hi : ∀ c ∈ info, c ≠ '/')
    (hh : ∀ c ∈ host, c ≠ '/' ∧ c ≠ '@') (hp : ∀ c ∈ path.head?, c = '/') :
    dropUserinfo (info ++ '@' :: (host ++ path)) = host ++ path := by
  have shape : info ++ '@' :: (host ++ path) = (info ++ '@' :: host) ++ path := by simp
  have run : ∀ c ∈ info ++ '@' :: host, decide (c ≠ '/') = true := by
    simp only [List.mem_append, List.mem_cons, decide_eq_true_eq]
    rintro c (hc | rfl | hc)
    · exact hi c hc
    · decide
    · exact (hh c hc).1
  have stop : ∀ c ∈ path.head?, decide (c ≠ '/') = false := by simpa using hp
  rw [dropUserinfo, shape, takeWhile_append_of_stop run stop, dropWhile_append_of_stop run stop,
    if_pos (by simp), afterLast_append_mark (by simp) (by simpa using fun c hc => (hh c hc).2)]

/-- An authority without userinfo stays as it is. -/
theorem dropUserinfo_of_host {host path : List Char} (hh : ∀ c ∈ host, c ≠ '/' ∧ c ≠ '@')
    (hp : ∀ c ∈ path.head?, c = '/') : dropUserinfo (host ++ path) = host ++ path := by
  have run : ∀ c ∈ host, decide (c ≠ '/') = true := by simpa using fun c hc => (hh c hc).1
  rw [dropUserinfo, takeWhile_append_of_stop run (by simpa using hp),
    if_neg fun found => (hh '@' found).2 rfl]

namespace Url

/-- All that comes before the query is free of the marks of query and fragment. -/
theorem hierarchy_plain (u : Url) :
    ∀ c ∈ u.scheme ++ schemeMark ++ (u.credentials ++ (u.host ++ u.path)),
      endsHierarchy c = false := by
  simp only [List.mem_append]
  rintro c ((hc | hc) | hc | hc | hc)
  · exact u.scheme_plain c hc
  · revert c; decide
  · exact (u.credentials_plain c hc).2
  · exact (u.host_plain c hc).1.2
  · exact u.path_plain c hc

/-- Dropping the userinfo leaves host and path. -/
theorem dropUserinfo_authority (u : Url) :
    dropUserinfo (u.credentials ++ (u.host ++ u.path)) = u.host ++ u.path := by
  have host : ∀ c ∈ u.host, c ≠ '/' ∧ c ≠ '@' :=
    fun c hc => ⟨(u.host_plain c hc).1.1, (u.host_plain c hc).2⟩
  cases h : u.userinfo with
  | none => simpa [credentials, h] using dropUserinfo_of_host host u.path_rooted
  | some info =>
    have plain : ∀ c ∈ info, c ≠ '/' := fun c hc => (u.userinfo_plain info h c hc).1
    simpa [credentials, h] using dropUserinfo_of_userinfo plain host u.path_rooted

/-- Scrubbing a URL leaves scheme, host and path. -/
theorem scrubChars_text (u : Url) : scrubChars u.text = u.face := by
  have base : u.text.takeWhile (!endsHierarchy ·) =
      u.scheme ++ (schemeMark ++ (u.credentials ++ (u.host ++ u.path))) := by
    rw [text, takeWhile_append_of_stop (by simpa using u.hierarchy_plain)
      (by simpa using u.head_extras), List.append_assoc]
  unfold scrubChars
  simp only [base, splitScheme?_append u.scheme_ends, dropUserinfo_authority, face]

end Url
end Hostlink.Redaction
