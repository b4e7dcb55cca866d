import Mathlib.Data.List.Infix
import Hostlink.Proofs.Redaction.Url

/-!
# Texts of URLs

What scrubbing leaves of a text, by how the text is put together.  An absolute URL keeps scheme,
host and path, with or without userinfo.  A reference without a scheme need not lose its userinfo:
it is looked for before the first slash, and behind what looks like the end of a scheme.
-/

namespace Hostlink.Redaction

/-- A character that begins neither a query nor a fragment. -/
theorem endsHierarchy_eq_false {c : Char} : endsHierarchy c = false ↔ c ≠ '?' ∧ c ≠ '#' := by
  simp [endsHierarchy]

/-- Whatever begins with one of the marks is made up of a query and a fragment. -/
theorem exists_extras {rest : List Char} (marked : ∀ c ∈ rest.head?, c = '?' ∨ c = '#') :
    ∃ query fragment : Option (List Char),
      rest = (query.map ('?' :: ·)).getD [] ++ (fragment.map ('#' :: ·)).getD [] := by
  match rest, marked with
  | [], _ => exact ⟨none, none, rfl⟩
  | c :: rest, marked =>
    obtain rfl | rfl := marked c rfl
    · exact ⟨some rest, none, by simp⟩
    · exact ⟨none, some rest, by simp⟩

/-! ## Any text -/

/-- Drops the userinfo from a text that has neither query nor fragment. -/
def dropCredentials (base : List Char) : List Char :=
  match splitScheme? base with
  | some (scheme, rest) => scheme ++ dropUserinfo rest
  | none => dropUserinfo base

/-- Scrubbing drops query and fragment, and then the userinfo. -/
theorem scrubChars_eq (cs : List Char) :
    scrubChars cs = dropCredentials (cs.takeWhile (!endsHierarchy ·)) := rfl

/-- In front of a query or a fragment all of a plain text is kept. -/
theorem scrubChars_append {base rest : List Char} (base_plain : ∀ c ∈ base, c ≠ '?' ∧ c ≠ '#')
    (rest_marked : ∀ c ∈ rest.head?, c = '?' ∨ c = '#') :
    scrubChars (base ++ rest) = dropCredentials base := by
  have run : ∀ c ∈ base, (!endsHierarchy c) = true := by
    simpa [endsHierarchy_eq_false] using base_plain
  have stop : ∀ c ∈ rest.head?, (!endsHierarchy c) = false := by
    intro c hc
    obtain rfl | rfl := rest_marked c hc <;> rfl
  rw [scrubChars_eq, takeWhile_append_of_stop run stop]

/-- Of a plain text scrubbing drops the userinfo alone. -/
theorem scrubChars_of_plain {base : List Char} (plain : ∀ c ∈ base, c ≠ '?' ∧ c ≠ '#') :
    scrubChars base = dropCredentials base := by
  simpa only [List.append_nil] using @scrubChars_append base [] plain (by simp)

/-- A text is cut exactly if it has the mark in it. -/
theorem splitScheme?_eq_none_iff {cs : List Char} :
    splitScheme? cs = none ↔ ¬ schemeMark <:+: cs := by
  induction cs with
  | nil => simp [splitScheme?, schemeMark]
  | cons c cs ih =>
    rw [List.infix_cons_iff]
    by_cases now : schemeMark <+: c :: cs
    · have here : [':', '/', '/'].isPrefixOf (c :: cs) = true := List.isPrefixOf_iff_prefix.2 now
      simp [splitScheme?, here, now]
    · simp [splitScheme?_cons now, now, ih]

/-- A text that is cut is cut behind its first mark. -/
theorem exists_of_splitScheme? {cs scheme rest : List Char}
    (h : splitScheme? cs = some (scheme, rest)) :
    ∃ front, scheme = front ++ schemeMark ∧ cs = front ++ (schemeMark ++ rest) ∧
      ¬ schemeMark <:+: front := by
  induction cs generalizing scheme with
  | nil => simp [splitScheme?] at h
  | cons c cs ih =>
    by_cases now : schemeMark <+: c :: cs
    · obtain ⟨behind, same⟩ := now
      have here : splitScheme? (c :: cs) = some (schemeMark, behind) := by
        rw [← same]
        exact @splitScheme?_append [] (by simp [schemeMark]) behind
      rw [here] at h
      obtain ⟨rfl, rfl⟩ := Prod.mk.inj (Option.some.inj h)
      exact ⟨[], rfl, same.symm, by simp [schemeMark]⟩
    · rw [splitScheme?_cons now, Option.map_eq_some_iff] at h
      obtain ⟨⟨scheme', rest'⟩, deeper, same⟩ := h
      obtain ⟨rfl, rfl⟩ := Prod.mk.inj same
      obtain ⟨front, rfl, rfl, unmarked⟩ := ih deeper
      refine ⟨c :: front, rfl, rfl, ?_⟩
      rw [List.infix_cons_iff, not_or]
      exact ⟨fun early => now (early.trans (List.prefix_append _ _)), unmarked⟩

/-! ## Absolute URLs -/

section Absolute

variable {scheme host path rest : List Char}
  (scheme_plain : ∀ c ∈ scheme, c ≠ '?' ∧ c ≠ '#') (scheme_ends : ¬ schemeMark <:+: scheme)
  (host_plain : ∀ c ∈ host, c ≠ '/' ∧ c ≠ '?' ∧ c ≠ '#' ∧ c ≠ '@')
  (path_rooted : ∀ c ∈ path.head?, c = '/') (path_plain : ∀ c ∈ path, c ≠ '?' ∧ c ≠ '#')
  (rest_marked : ∀ c ∈ rest.head?, c = '?' ∨ c = '#')

include scheme_plain scheme_ends host_plain path_rooted path_plain rest_marked

/-- Texts that are plain enough are the parts of a URL. -/
theorem exists_url (userinfo : Option (List Char))
    (info_plain : ∀ info ∈ userinfo, ∀ c ∈ info, c ≠ '/' ∧ c ≠ '?' ∧ c ≠ '#') :
    ∃ u : Url, u.scheme = scheme ∧ u.userinfo = userinfo ∧ u.host = host ∧ u.path = path ∧
      u.extras = rest := by
  obtain ⟨query, fragment, extras⟩ := exists_extras rest_marked
  refine ⟨⟨scheme, userinfo, host, path, query, fragment, scheme_ends, ?_, ?_, ?_, path_rooted, ?_⟩,
    rfl, rfl, rfl, rfl, extras.symm⟩
  · exact fun c hc => endsHierarchy_eq_false.2 (scheme_plain c hc)
  · exact fun info hi c hc =>
      ⟨(info_plain info hi c hc).1, endsHierarchy_eq_false.2 (info_plain info hi c hc).2⟩
  · intro c hc
    obtain ⟨slash, question, hash, separator⟩ := host_plain c hc
    exact ⟨⟨slash, endsHierarchy_eq_false.2 ⟨question, hash⟩⟩, separator⟩
  · exact fun c hc => endsHierarchy_eq_false.2 (path_plain c hc)

/-- With userinfo or without, scrubbing leaves scheme, host and path. -/
theorem scrubChars_absolute (userinfo : Option (List Char))
    (info_plain : ∀ info ∈ userinfo, ∀ c ∈ info, c ≠ '/' ∧ c ≠ '?' ∧ c ≠ '#') :
    scrubChars (scheme ++ schemeMark ++
        ((userinfo.map (· ++ ['@'])).getD [] ++ (host ++ path)) ++ rest) =
      scheme ++ schemeMark ++ (host ++ path) := by
  obtain ⟨u, rfl, rfl, rfl, rfl, rfl⟩ := exists_url scheme_plain scheme_ends host_plain path_rooted
    path_plain rest_marked userinfo info_plain
  exact u.scrubChars_text

end Absolute

/-- Of an absolute URL scrubbing leaves scheme, host and path: userinfo, query and fragment go,
whatever they hold, and nothing else goes if there is no userinfo. -/
theorem scrubUrl_absolute {scheme info host path rest : String}
    (scheme_plain : ∀ c ∈ scheme.toList, c ≠ '?' ∧ c ≠ '#')
    (scheme_ends : ¬ "://".toList <:+: scheme.toList)
    (info_plain : ∀ c ∈ info.toList, c ≠ '/' ∧ c ≠ '?' ∧ c ≠ '#')
    (host_plain : ∀ c ∈ host.toList, c ≠ '/' ∧ c ≠ '?' ∧ c ≠ '#' ∧ c ≠ '@')
    (path_rooted : ∀ c ∈ path.toList.head?, c = '/')
    (path_plain : ∀ c ∈ path.toList, c ≠ '?' ∧ c ≠ '#')
    (rest_marked : ∀ c ∈ rest.toList.head?, c = '?' ∨ c = '#') :
    scrubUrl (scheme ++ "://" ++ info ++ "@" ++ host ++ path ++ rest) =
        scheme ++ "://" ++ host ++ path ∧
      scrubUrl (scheme ++ "://" ++ host ++ path ++ rest) = scheme ++ "://" ++ host ++ path := by
  have scrubbed := scrubChars_absolute scheme_plain scheme_ends host_plain path_rooted path_plain
    rest_marked
  have mark : "://".toList = schemeMark := rfl
  constructor
  · have one := scrubbed (some info.toList) (by simpa using info_plain)
    apply String.toList_injective
    simpa [scrubUrl, mark] using one
  · have one := scrubbed none (by simp)
    apply String.toList_injective
    simpa [scrubUrl, mark] using one

theorem scrubUrl_absolute_odd :
    scrubUrl ("git+ssh:/" ++ "://" ++ "bot:p@ss:@" ++ "@" ++ "example.org:8080" ++ "/a@b://c" ++
        "#?u=x://y@z") = "git+ssh:/" ++ "://" ++ "example.org:8080" ++ "/a@b://c" ∧
      scrubUrl ("git+ssh:/" ++ "://" ++ "example.org:8080" ++ "/a@b://c" ++ "#?u=x://y@z") =
        "git+ssh:/" ++ "://" ++ "example.org:8080" ++ "/a@b://c" :=
  scrubUrl_absolute (by decide) (by decide +kernel) (by decide) (by decide) (by decide) (by decide)
    (by decide)

/-! ## References without a scheme -/

/-- No mark begins in a userinfo, nor at the `@` behind it. -/
theorem splitScheme?_userinfo {info : List Char} (plain : ∀ c ∈ info, c ≠ '/') (rest : List Char) :
    splitScheme? (info ++ '@' :: rest) =
      (splitScheme? rest).map (Prod.map (info ++ '@' :: ·) id) := by
  induction info with
  | nil => exact splitScheme?_cons (by simp [schemeMark])
  | cons c info ih =>
    obtain ⟨_, plain⟩ := List.forall_mem_cons.1 plain
    have later : ¬ schemeMark <+: c :: (info ++ '@' :: rest) := by
      cases info with
      | nil => simp [schemeMark]
      | cons d info => simp [schemeMark, Ne.symm (plain d List.mem_cons_self)]
    rw [List.cons_append, splitScheme?_cons later, ih plain, Option.map_map]
    rfl

/-- What stands behind two slashes has no authority to lose, but for that of a mark in it. -/
theorem dropCredentials_slashes (cs : List Char) :
    dropCredentials ('/' :: '/' :: cs) =
      ((splitScheme? cs).map fun parts => '/' :: '/' :: parts.1 ++ dropUserinfo parts.2).getD
        ('/' :: '/' :: cs) := by
  have unmarked (rest : List Char) : ¬ schemeMark <+: '/' :: rest := by simp [schemeMark]
  rw [dropCredentials, splitScheme?_cons (unmarked _), splitScheme?_cons (unmarked _)]
  cases splitScheme? cs with
  | none => simp [dropUserinfo]
  | some parts => rfl

section Schemeless

variable {info host path : List Char} (info_plain : ∀ c ∈ info, c ≠ '/')
  (host_plain : ∀ c ∈ host, c ≠ '/' ∧ c ≠ '@') (path_rooted : ∀ c ∈ path.head?, c = '/')

include host_plain path_rooted

/-- Without a mark in it a host with a path stays as it is. -/
theorem dropCredentials_host (unmarked : ¬ schemeMark <:+: host ++ path) :
    dropCredentials (host ++ path) = host ++ path := by
  rw [dropCredentials, splitScheme?_eq_none_iff.2 unmarked]
  exact dropUserinfo_of_host host_plain path_rooted

include info_plain

/-- Behind two slashes the userinfo stays. -/
theorem dropCredentials_network :
    dropCredentials ('/' :: '/' :: (info ++ '@' :: (host ++ path))) =
      '/' :: '/' :: (info ++ '@' :: dropCredentials (host ++ path)) := by
  rw [dropCredentials_slashes, splitScheme?_userinfo info_plain]
  cases marked : splitScheme? (host ++ path) with
  | none =>
    rw [dropCredentials_host host_plain path_rooted (splitScheme?_eq_none_iff.1 marked)]
    rfl
  | some parts => simp [dropCredentials, marked]

/-- A bare authority loses its userinfo if there is no mark behind it, and keeps it otherwise. -/
theorem dropCredentials_bare : dropCredentials (info ++ '@' :: (host ++ path)) =
    if schemeMark <:+: host ++ path then info ++ '@' :: dropCredentials (host ++ path)
    else host ++ path := by
  rw [dropCredentials, splitScheme?_userinfo info_plain]
  cases marked : splitScheme? (host ++ path) with
  | none =>
    rw [if_neg (splitScheme?_eq_none_iff.1 marked)]
    exact dropUserinfo_of_userinfo info_plain host_plain path_rooted
  | some parts =>
    have found : schemeMark <:+: host ++ path := by
      by_contra unmarked
      simp [splitScheme?_eq_none_iff.2 unmarked] at marked
    simp [found, dropCredentials, marked]

end Schemeless

section Scrubbing

variable {info host path rest : List Char}
  (info_plain : ∀ c ∈ info, c ≠ '/' ∧ c ≠ '?' ∧ c ≠ '#')
  (host_plain : ∀ c ∈ host, c ≠ '/' ∧ c ≠ '?' ∧ c ≠ '#' ∧ c ≠ '@')
  (path_rooted : ∀ c ∈ path.head?, c = '/') (path_plain : ∀ c ∈ path, c ≠ '?' ∧ c ≠ '#')
  (rest_marked : ∀ c ∈ rest.head?, c = '?' ∨ c = '#')

include host_plain

/-- A host holds neither the end of an authority nor that of a userinfo. -/
theorem host_apart : ∀ c ∈ host, c ≠ '/' ∧ c ≠ '@' :=
  fun c hc => ⟨(host_plain c hc).1, (host_plain c hc).2.2.2⟩

include path_plain

/-- A host with a path begins neither a query nor a fragment. -/
theorem host_path_plain : ∀ c ∈ host ++ path, c ≠ '?' ∧ c ≠ '#' := by
  rw [List.forall_mem_append]
  exact ⟨fun c hc => ⟨(host_plain c hc).2.1, (host_plain c hc).2.2.1⟩, path_plain⟩

include path_rooted

/-- Without a mark in it a host with a path is scrubbed already. -/
theorem scrubChars_host (unmarked : ¬ schemeMark <:+: host ++ path) :
    scrubChars (host ++ path) = host ++ path := by
  rw [scrubChars_of_plain (host_path_plain host_plain path_plain)]
  exact dropCredentials_host (host_apart host_plain) path_rooted unmarked

include info_plain rest_marked

/-- Behind two slashes scrubbing leaves the userinfo, and what it leaves of host and path. -/
theorem scrubChars_network :
    scrubChars ('/' :: '/' :: (info ++ '@' :: (host ++ path)) ++ rest) =
      '/' :: '/' :: (info ++ '@' :: scrubChars (host ++ path)) := by
  have face := host_path_plain host_plain path_plain
  have whole : ∀ c ∈ '/' :: '/' :: (info ++ '@' :: (host ++ path)), c ≠ '?' ∧ c ≠ '#' := by
    simp only [List.forall_mem_cons, List.forall_mem_append]
    exact ⟨by decide, by decide, fun c hc => (info_plain c hc).2, by decide,
      List.forall_mem_append.1 face⟩
  rw [scrubChars_append whole rest_marked, scrubChars_of_plain face]
  exact dropCredentials_network (fun c hc => (info_plain c hc).1) (host_apart host_plain) path_rooted

/-- Of a bare authority scrubbing leaves host and path, unless there is a mark in these. -/
theorem scrubChars_bare :
    scrubChars (info ++ '@' :: (host ++ path) ++ rest) =
      if schemeMark <:+: host ++ path then info ++ '@' :: scrubChars (host ++ path)
      else host ++ path := by
  have face := host_path_plain host_plain path_plain
  have whole : ∀ c ∈ info ++ '@' :: (host ++ path), c ≠ '?' ∧ c ≠ '#' := by
    rw [List.forall_mem_append, List.forall_mem_cons]
    exact ⟨fun c hc => (info_plain c hc).2, by decide, face⟩
  rw [scrubChars_append whole rest_marked, scrubChars_of_plain face]
  exact dropCredentials_bare (fun c hc => (info_plain c hc).1) (host_apart host_plain) path_rooted

end Scrubbing

/-- Of a reference without a scheme scrubbing always drops query and fragment.  The userinfo stays
behind two slashes; of a bare authority it goes, unless a later `://` is taken for the end of a
scheme. -/
theorem scrubUrl_schemeless {info host path rest : String}
    (info_plain : ∀ c ∈ info.toList, c ≠ '/' ∧ c ≠ '?' ∧ c ≠ '#')
    (host_plain : ∀ c ∈ host.toList, c ≠ '/' ∧ c ≠ '?' ∧ c ≠ '#' ∧ c ≠ '@')
    (path_rooted : ∀ c ∈ path.toList.head?, c = '/')
    (path_plain : ∀ c ∈ path.toList, c ≠ '?' ∧ c ≠ '#')
    (rest_marked : ∀ c ∈ rest.toList.head?, c = '?' ∨ c = '#') :
    scrubUrl ("//" ++ info ++ "@" ++ host ++ path ++ rest) =
        "//" ++ info ++ "@" ++ scrubUrl (host ++ path) ∧
      scrubUrl (info ++ "@" ++ host ++ path ++ rest) =
        (if "://".toList <:+: (host ++ path).toList then info ++ "@" ++ scrubUrl (host ++ path)
          else host ++ path) ∧
      (¬ "://".toList <:+: (host ++ path).toList → scrubUrl (host ++ path) = host ++ path) := by
  have mark : "://".toList = schemeMark := rfl
  have slashes : "//".toList = ['/', '/'] := rfl
  rw [mark, String.toList_append]
  refine ⟨?_, ?_, ?_⟩
  · have network := scrubChars_network info_plain host_plain path_rooted path_plain rest_marked
    apply String.toList_injective
    simpa [scrubUrl, slashes] using network
  · have bare := scrubChars_bare info_plain host_plain path_rooted path_plain rest_marked
    apply String.toList_injective
    split
    next marked => simpa [scrubUrl, marked] using bare
    next unmarked => simpa [scrubUrl, unmarked] using bare
  · intro unmarked
    apply String.toList_injective
    simp [scrubUrl, scrubChars_host host_plain path_rooted path_plain unmarked]

/-- Two references that keep their userinfo: one behind two slashes, one with an address in its
path. -/
theorem userinfo_kept_without_scheme :
    scrubUrl ("//" ++ "bot:pw" ++ "@" ++ "example.org" ++ "/feed" ++ "?key=1") ≠
        "//" ++ "example.org" ++ "/feed" ∧
      scrubUrl ("bot:pw" ++ "@" ++ "example.org" ++ "/go/https://example.com" ++ "#top") ≠
        "example.org" ++ "/go/https://example.com" := by
  decide

theorem scrubUrl_schemeless_odd :
    scrubUrl ("//" ++ "b@t:" ++ "@" ++ "example.org:80" ++ "/@feed" ++ "?u=x://y@z") =
        "//" ++ "b@t:" ++ "@" ++ "example.org:80" ++ "/@feed" ∧
      scrubUrl ("b@t:" ++ "@" ++ "example.org:80" ++ "/@feed" ++ "?u=x://y@z") =
        "example.org:80" ++ "/@feed" ∧
      scrubUrl ("bot" ++ "@" ++ "example.org:" ++ "//a@b://c" ++ "#?top") =
        "bot" ++ "@" ++ "example.org://b://c" := by
  obtain ⟨network, bare, kept⟩ := @scrubUrl_schemeless "b@t:" "example.org:80" "/@feed" "?u=x://y@z"
    (by decide) (by decide) (by decide) (by decide) (by decide)
  obtain ⟨-, marked, -⟩ := @scrubUrl_schemeless "bot" "example.org:" "//a@b://c" "#?top"
    (by decide) (by decide) (by decide) (by decide) (by decide)
  have none : ¬ "://".toList <:+: ("example.org:80" ++ "/@feed").toList := by decide +kernel
  have some : "://".toList <:+: ("example.org:" ++ "//a@b://c").toList := by decide +kernel
  have face : scrubUrl ("example.org:" ++ "//a@b://c") = "example.org://b://c" := by decide +kernel
  rw [if_neg none] at bare
  rw [if_pos some, face] at marked
  rw [kept none] at network
  exact ⟨network, bare, marked⟩

end Hostlink.Redaction
