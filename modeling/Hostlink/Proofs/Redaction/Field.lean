import Hostlink.Proofs.Redaction.Url

/-!
# What redaction takes away

The value of a field can be private as a whole, by the field's name, or in a part: the directory of
a path, or the userinfo, query and fragment of a URL.  Two values that differ in nothing else are
redacted to the same text.
-/

namespace Hostlink.Redaction

/-! ## Quotes -/

/-- The ways in which a value is written: as it is, or between double quotes. -/
inductive Style where
  | bare
  | quoted

/-- What a value writes; one that is written bare does not begin with a double quote. -/
def Style.Writes (style : Style) (content : List Char) (value : String) : Prop :=
  match style with
  | .bare => value.toList = content ∧ content.head? ≠ some '"'
  | .quoted => value.toList = '"' :: (content ++ ['"'])

instance (style : Style) (content : List Char) (value : String) :
    Decidable (style.Writes content value) :=
  match style with
  | .bare => inferInstanceAs (Decidable (value.toList = content ∧ content.head? ≠ some '"'))
  | .quoted => inferInstanceAs (Decidable (value.toList = '"' :: (content ++ ['"'])))

/-- Without its quotes a value is what it writes. -/
theorem Style.Writes.unquote {style : Style} {content : List Char} {value : String}
    (h : style.Writes content value) : unquote value = String.ofList content := by
  unfold Redaction.unquote
  cases style with
  | bare =>
    obtain ⟨rfl, plain⟩ := h
    unfold unquoteChars
    split
    · next inner same => simp [same] at plain
    · rfl
  | quoted =>
    have shape : value.toList = '"' :: (content ++ ['"']) := h
    simp [shape, unquoteChars]

/-! ## Paths -/

/-- A path in its parts: the directory up to the last separator, and the last component. -/
structure Path where
  directory : List Char
  last : List Char
  directory_ends : ∀ c ∈ directory.getLast?, isSeparator c = true := by decide
  last_plain : ∀ c ∈ last, isSeparator c = false := by decide

/-- The text of a path. -/
def Path.text (p : Path) : List Char := p.directory ++ p.last

/-- Behind its last separator a path has its last component. -/
theorem Path.afterLast_text (p : Path) : afterLast isSeparator p.text = p.last := by
  have ends := p.directory_ends
  unfold Path.text
  rcases List.eq_nil_or_concat p.directory with none | ⟨before, mark, same⟩
  · rw [none, List.nil_append, afterLast_of_no_mark p.last_plain]
  · have separates : isSeparator mark = true := ends mark (by simp [same])
    rw [same, List.concat_eq_append, List.append_assoc, List.singleton_append,
      afterLast_append_mark separates p.last_plain]

/-! ## Credentials -/

/-- Whether a name has one of the words for credentials in it, in any letter case. -/
def NamesCredential (name : String) : Prop :=
  ∃ word ∈ ["authorization", "cookie", "token", "password", "secret", "api_key"],
    ∃ before inside after, name.toList = before ++ inside ++ after ∧
      inside.map Char.toLower = word.toList

/-- A word occurs in a text if it is a contiguous part of it. -/
theorem occursIn_iff {word text : List Char} : occursIn word text = true ↔ word <:+: text := by
  induction text with
  | nil => simp [occursIn]
  | cons c text ih => simp [occursIn, ih, List.infix_cons_iff]

/-- A contiguous part of a changed text is a changed contiguous part. -/
theorem infix_map_iff {f : Char → Char} {word text : List Char} :
    word <:+: text.map f ↔ ∃ before inside after, text = before ++ inside ++ after ∧
      inside.map f = word := by
  constructor
  · rintro ⟨before, after, same⟩
    obtain ⟨front, after', rfl, hf, -⟩ := List.map_eq_append_iff.1 same.symm
    obtain ⟨before', inside, rfl, -, hi⟩ := List.map_eq_append_iff.1 hf
    exact ⟨before', inside, after', rfl, hi⟩
  · rintro ⟨before, inside, after, rfl, rfl⟩
    exact ⟨before.map f, after.map f, by simp⟩

/-- Exactly the names with a credential word in them count as credentials. -/
theorem isCredential_iff {name : String} : isCredential name = true ↔ NamesCredential name := by
  simp only [isCredential, credentialWords, NamesCredential, List.any_eq_true, occursIn_iff,
    infix_map_iff]

/-! ## Fields -/

/-- Two values of a field with this name that differ only in what is private. -/
inductive Covert (name : String) : String → String → Prop where
  | same (value : String) : Covert name value value
  | credential {value value' : String} (named : NamesCredential name) : Covert name value value'
  | path {value value' : String} (named : name = "path") (style : Style) (p p' : Path)
      (last : p.last = p'.last) (written : style.Writes p.text value)
      (written' : style.Writes p'.text value') : Covert name value value'
  | url {value value' : String} (named : name = "url") (style : Style) (u u' : Url)
      (scheme : u.scheme = u'.scheme) (host : u.host = u'.host) (path : u.path = u'.path)
      (written : style.Writes u.text value) (written' : style.Writes u'.text value') :
      Covert name value value'

/-- A path field shows the last component. -/
theorem redactField_path {style : Style} {p : Path} {value : String}
    (h : style.Writes p.text value) : redactField "path" value = String.ofList p.last := by
  simp [redactField, fileName, h.unquote, p.afterLast_text]

/-- A URL field shows scheme, host and path. -/
theorem redactField_url {style : Style} {u : Url} {value : String}
    (h : style.Writes u.text value) : redactField "url" value = String.ofList u.face := by
  simp [redactField, scrubUrl, h.unquote, u.scrubChars_text]

/-- A credential shows nothing. -/
theorem redactField_credential {name : String} (h : NamesCredential name) (value : String) :
    redactField name value = mask := by
  have found := isCredential_iff.2 h
  have not_path : name ≠ "path" := by rintro rfl; revert found; decide +kernel
  have not_url : name ≠ "url" := by rintro rfl; revert found; decide +kernel
  simp [redactField, not_path, not_url, found]

/-- What is private does not show in a redacted field. -/
theorem Covert.redactField_eq {name value value' : String} (h : Covert name value value') :
    redactField name value = redactField name value' := by
  cases h with
  | same => rfl
  | credential named => rw [redactField_credential named, redactField_credential named]
  | path named style p p' last written written' =>
    subst named
    rw [redactField_path written, redactField_path written', last]
  | url named style u u' scheme host path written written' =>
    subst named
    rw [redactField_url written, redactField_url written', Url.face, Url.face, scheme, host, path]

end Hostlink.Redaction
