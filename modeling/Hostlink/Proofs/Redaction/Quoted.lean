import Hostlink.Proofs.Redaction.Field
import Hostlink.Text.Quoted

/-!
# Quoted paths

The log shows paths in quotes, with characters spelled out.  A backslash is both a separator and the
beginning of what is spelled out, so the last component of a quoted path need not be the quoted last
component.  It still depends on nothing else, and it is the name of the file exactly if no character
of the name is spelled out, but for a quote at its beginning.
-/

namespace Hostlink.Redaction

open Text (quote quoteChar)

/-- What stands before a mark does not count. -/
theorem afterLast_append {p : Char → Bool} {xs ys : List Char} {mark : Char}
    (hm : p mark = true) : afterLast p (xs ++ mark :: ys) = afterLast p ys := by
  have turned : (xs ++ mark :: ys).reverse = ys.reverse ++ mark :: xs.reverse := by simp
  have stops : (mark :: xs.reverse).takeWhile (!p ·) = [] := by simp [hm]
  rw [afterLast, turned, List.takeWhile_append, stops, List.append_nil, afterLast]
  split
  next whole => rw [(List.takeWhile_prefix _).eq_of_length whole]
  next => rfl

/-- Every text is that of a path. -/
theorem Path.exists_text_eq (cs : List Char) :
    ∃ p : Path, p.text = cs ∧ p.last = afterLast isSeparator cs := by
  obtain ⟨directory, whole, ends, plain⟩ := exists_append_afterLast isSeparator cs
  exact ⟨⟨directory, afterLast isSeparator cs, ends, plain⟩, whole.symm, rfl⟩

/-- A separator is spelled with a separator at the end. -/
theorem quoteChar_of_separator {mark : Char} (h : isSeparator mark = true) :
    ∃ front last, quoteChar mark = front ++ [last] ∧ isSeparator last = true := by
  obtain rfl | rfl : mark = '/' ∨ mark = '\\' := by simpa [isSeparator] using h
  · exact ⟨[], '/', by decide +kernel, rfl⟩
  · exact ⟨['\\'], '\\', by decide, rfl⟩

/-- Behind the last separator of a spelled path there is nothing but what its last component
spells. -/
theorem afterLast_flatMap_quoteChar (cs : List Char) :
    afterLast isSeparator (cs.flatMap quoteChar) =
      afterLast isSeparator ((afterLast isSeparator cs).flatMap quoteChar) := by
  obtain ⟨p, text, last⟩ := Path.exists_text_eq cs
  rw [← last, ← text, Path.text, List.flatMap_append]
  rcases List.eq_nil_or_concat p.directory with none | ⟨before, mark, same⟩
  · rw [none, List.flatMap_nil, List.nil_append]
  · obtain ⟨front, mark', spelled, separates⟩ :=
      quoteChar_of_separator (p.directory_ends mark (by simp [same]))
    have shape : p.directory.flatMap quoteChar ++ p.last.flatMap quoteChar =
        (before.flatMap quoteChar ++ front) ++ mark' :: p.last.flatMap quoteChar := by
      simp [same, spelled]
    rw [shape, afterLast_append separates]

/-- A quoted path is written in quotes, and what is between these is the text of a path. -/
theorem exists_writes_quote (path : String) : ∃ p : Path, Style.quoted.Writes p.text (quote path) ∧
    p.last = afterLast isSeparator (path.toList.flatMap quoteChar) := by
  obtain ⟨p, text, last⟩ := Path.exists_text_eq (path.toList.flatMap quoteChar)
  exact ⟨p, by simp [Style.Writes, quote, Text.quoteChars, text], last⟩

/-- Quoted paths with one last component differ only in what is private. -/
theorem covert_quote {path path' : String} (same : fileName path = fileName path') :
    Covert "path" (quote path) (quote path') := by
  obtain ⟨p, written, last⟩ := exists_writes_quote path
  obtain ⟨p', written', last'⟩ := exists_writes_quote path'
  have component : afterLast isSeparator path.toList = afterLast isSeparator path'.toList := by
    exact String.ofList_injective same
  refine .path rfl .quoted p p' ?_ written written'
  rw [last, last', afterLast_flatMap_quoteChar, component, ← afterLast_flatMap_quoteChar]

/-! ## What the host sees of a quoted path -/

/-- No hexadecimal digit is a separator. -/
theorem isSeparator_of_mem_hexNat {n : Nat} {c : Char} (h : c ∈ Text.hexNat n) :
    isSeparator c = false := by
  have digits : ∀ d < 16, isSeparator d.digitChar = false := by decide
  induction n using Nat.strongRecOn with
  | ind n ih =>
    rw [Text.hexNat, Nat.toDigits_eq_if (by decide)] at h
    split at h
    next small =>
      rw [List.mem_singleton] at h
      exact h ▸ digits n small
    next large =>
      rw [List.mem_append, List.mem_singleton] at h
      obtain earlier | rfl := h
      · exact ih (n / 16) (by omega) earlier
      · exact digits _ (Nat.mod_lt n (by decide))

/-- Closing braces are shown. -/
theorem isHidden_brace : Text.isHidden '\x7d' = false := by decide

/-- Of a character of a component that is spelled out, what stands behind the backslash ends with
the character itself only if it is a quote. -/
theorem quoteChar_of_spelled {c : Char} (spelled : quoteChar c ≠ [c])
    (component : isSeparator c = false) :
    ∃ tail, quoteChar c = '\\' :: tail ∧ (∀ d ∈ tail, isSeparator d = false) ∧
      (tail.getLast? = some c → c = '"' ∧ tail = ['"']) := by
  have other {c letter : Char} (h : c ≠ letter) (tail : List Char) :
      [letter].getLast? = some c → c = '"' ∧ tail = ['"'] :=
    fun last => absurd (Option.some.inj last).symm h
  unfold quoteChar at spelled ⊢
  split
  next quote => exact ⟨['"'], rfl, by decide, fun _ => ⟨quote, rfl⟩⟩
  split
  next backslash => exact absurd component (by simp [backslash, isSeparator])
  split
  next feed => exact ⟨['n'], rfl, by decide, other (by simp [feed]) _⟩
  split
  next back => exact ⟨['r'], rfl, by decide, other (by simp [back]) _⟩
  split
  next tab => exact ⟨['t'], rfl, by decide, other (by simp [tab]) _⟩
  split
  next null => exact ⟨['0'], rfl, by decide, other (by simp [null]) _⟩
  split
  next hidden =>
    refine ⟨'u' :: '\x7b' :: (Text.hexNat c.toNat ++ ['\x7d']), rfl, ?_, ?_⟩
    · simp only [List.forall_mem_cons, List.forall_mem_append]
      exact ⟨by decide, by decide, fun d hd => isSeparator_of_mem_hexNat hd, by decide, by simp⟩
    · intro last
      have brace : c = '\x7d' := by simpa [List.getLast?_cons, eq_comm] using last
      rw [brace, isHidden_brace] at hidden
      exact absurd hidden (by decide)
  next => simp_all

/-- Whether a name is shown as it is where paths are in quotes: no character is spelled out, unless
it is a quote at the very beginning. -/
def ShownAsIs (name : List Char) : Prop :=
  (∀ c ∈ name.head?, quoteChar c = [c] ∨ c = '"') ∧ ∀ c ∈ name.tail, quoteChar c = [c]

/-- Characters that are shown as they are spell themselves. -/
theorem flatMap_quoteChar_of_shown {cs : List Char} (h : ∀ c ∈ cs, quoteChar c = [c]) :
    cs.flatMap quoteChar = cs := by
  induction cs with
  | nil => rfl
  | cons c cs ih =>
    rw [List.forall_mem_cons] at h
    rw [List.flatMap_cons, h.1, ih h.2, List.singleton_append]

/-- Behind its last separator the spelled name has the name exactly if this is shown as it is. -/
theorem afterLast_spelled_eq_iff {name : List Char}
    (component : ∀ c ∈ name, isSeparator c = false) :
    afterLast isSeparator (name.flatMap quoteChar) = name ↔ ShownAsIs name := by
  -- All that counts is the last character that is spelled out.
  obtain ⟨front, whole, ends, shown⟩ := exists_append_afterLast (fun c => quoteChar c ≠ [c]) name
  generalize afterLast (fun c => quoteChar c ≠ [c]) name = back at whole shown
  subst whole
  have shown : ∀ c ∈ back, quoteChar c = [c] := by simpa using shown
  rcases List.eq_nil_or_concat front with rfl | ⟨before, c, rfl⟩
  · rw [List.nil_append] at component ⊢
    rw [flatMap_quoteChar_of_shown shown, afterLast_of_no_mark component]
    exact iff_of_true rfl ⟨fun c hc => .inl (shown c (List.mem_of_head? hc)),
      fun c hc => shown c (List.mem_of_mem_tail hc)⟩
  · have spelled : quoteChar c ≠ [c] := by simpa using ends c (by simp)
    have plain : ∀ d ∈ back, isSeparator d = false := fun d hd => component d (by simp [hd])
    obtain ⟨tail, shape, tail_plain, same⟩ := quoteChar_of_spelled spelled (component c (by simp))
    have seen : afterLast isSeparator ((before.concat c ++ back).flatMap quoteChar) =
        tail ++ back := by
      have text : (before.concat c ++ back).flatMap quoteChar =
          before.flatMap quoteChar ++ '\\' :: (tail ++ back) := by
        simp [shape, flatMap_quoteChar_of_shown shown]
      rw [text, afterLast_append_mark rfl (List.forall_mem_append.2 ⟨tail_plain, plain⟩)]
    rw [seen, List.concat_eq_append, List.append_cancel_right_eq]
    constructor
    · rintro rfl
      obtain ⟨rfl, alone⟩ := same (by simp)
      obtain rfl : before = [] := by simpa using alone
      exact ⟨by simp, by simpa using shown⟩
    · rintro ⟨first, later⟩
      cases before with
      | nil =>
        obtain rfl : c = '"' := by simpa [spelled] using first
        have quote : quoteChar '"' = ['\\', '"'] := rfl
        simpa [quote, eq_comm] using shape
      | cons d before => exact absurd (later c (by simp)) spelled

/-- Of a quoted path the host sees what is behind the last separator of the spelled path. -/
theorem redactField_quote (path : String) : redactField "path" (quote path) =
    String.ofList (afterLast isSeparator (path.toList.flatMap quoteChar)) := by
  obtain ⟨p, written, last⟩ := exists_writes_quote path
  rw [redactField_path written, last]

/-- The host sees the last component of a quoted path as it is spelled there, behind the last
separator in that.  This is the last component itself exactly if no character of it is spelled out,
but for a quote at its beginning. -/
theorem redactField_quoted_path (path : String) :
    redactField "path" (quote path) =
        fileName (String.ofList ((fileName path).toList.flatMap quoteChar)) ∧
      (redactField "path" (quote path) = fileName path ↔ ShownAsIs (fileName path).toList) := by
  have name : (fileName path).toList = afterLast isSeparator path.toList := String.toList_ofList
  obtain ⟨-, -, -, component⟩ := exists_append_afterLast isSeparator path.toList
  rw [redactField_quote, afterLast_flatMap_quoteChar, name]
  constructor
  · rw [fileName, String.toList_ofList]
  · rw [fileName, String.ofList_inj, afterLast_spelled_eq_iff component]

/-- Two files of which the host sees other names: one with a quote in its name, one with an accent
that is a character of its own. -/
theorem quoted_path_renamed :
    redactField "path" (quote "reports/a\"b.txt") ≠ fileName "reports/a\"b.txt" ∧
      redactField "path" (quote "reports/cafe\u0301.txt") ≠ fileName "reports/cafe\u0301.txt" := by
  decide +kernel

end Hostlink.Redaction
