import Hostlink.Proofs.Redaction.Url
import Hostlink.Redaction.Slicing

/-!
# Places and slices

Where marks and words have their places in a text, by how the text is put together, and that a text
can be sliced there.
-/

namespace Hostlink.Redaction

open Text (cutAt? encodedLength)

@[simp] theorem encodedLength_nil : encodedLength [] = 0 := rfl

@[simp] theorem encodedLength_cons (c : Char) (cs : List Char) :
    encodedLength (c :: cs) = c.utf8Size + encodedLength cs := by
  have shift (sizes : List Nat) (n : Nat) : sizes.foldl (· + ·) n = n + sizes.foldl (· + ·) 0 := by
    induction sizes generalizing n with
    | nil => rfl
    | cons size sizes ih => rw [List.foldl_cons, List.foldl_cons, ih, ih (0 + size)]; omega
  rw [encodedLength, List.map_cons, List.foldl_cons, Nat.zero_add, shift]
  rfl

@[simp] theorem encodedLength_append (xs ys : List Char) :
    encodedLength (xs ++ ys) = encodedLength xs + encodedLength ys := by
  induction xs with
  | nil => simp
  | cons c xs ih => rw [List.cons_append, encodedLength_cons, encodedLength_cons, ih, Nat.add_assoc]

/-- A text can be cut at the end of any beginning of it. -/
theorem cutAt?_append (xs ys : List Char) :
    cutAt? (encodedLength xs) (xs ++ ys) = some (xs, ys) := by
  induction xs with
  | nil => cases ys <;> rfl
  | cons c xs ih =>
    have size := c.utf8Size_pos
    have fits : ¬ c.utf8Size + encodedLength xs < c.utf8Size := by omega
    rw [encodedLength_cons, List.cons_append, cutAt?, if_neg fits, Nat.add_sub_cancel_left, ih]
    · rfl
    · omega

/-- A text can be cut behind a mark that stands somewhere in it. -/
theorem cutAt?_behind (xs mark ys : List Char) :
    cutAt? (encodedLength xs + encodedLength mark) (xs ++ (mark ++ ys)) = some (xs ++ mark, ys) := by
  rw [← encodedLength_append, ← List.append_assoc, cutAt?_append]

section Marks

variable {p : Char → Bool} {xs ys : List Char} {mark : Char}

/-- Without a mark there is no first place of one. -/
theorem place?_of_no_mark (h : ∀ c ∈ xs, p c = false) : place? p xs = none := by
  induction xs with
  | nil => rfl
  | cons c xs ih =>
    rw [List.forall_mem_cons] at h
    rw [place?, if_neg (by simp [h.1]), ih h.2]
    rfl

/-- The first mark is where the text without one ends. -/
theorem place?_append (h : ∀ c ∈ xs, p c = false) (hm : p mark = true) :
    place? p (xs ++ mark :: ys) = some (encodedLength xs) := by
  induction xs with
  | nil => simp [place?, hm]
  | cons c xs ih =>
    rw [List.forall_mem_cons] at h
    rw [List.cons_append, place?, if_neg (by simp [h.1]), ih h.2]
    simp

/-- The end of a text without a mark, whether a mark follows or nothing. -/
theorem place?_getD (h : ∀ c ∈ xs, p c = false) (stop : ∀ c ∈ ys.head?, p c = true) :
    (place? p (xs ++ ys)).getD (encodedLength (xs ++ ys)) = encodedLength xs := by
  cases ys with
  | nil => simp [place?_of_no_mark h]
  | cons y ys => rw [place?_append h (stop y rfl), Option.getD_some]

/-- A text is sliced between what has no mark and a mark, or at its end. -/
theorem sliceAt?_append (h : ∀ c ∈ xs, p c = false) (stop : ∀ c ∈ ys.head?, p c = true) :
    sliceAt? p (xs ++ ys) = some (xs, ys) := by
  rw [sliceAt?, place?_getD h stop, cutAt?_append]

/-- Without a mark there is no last place of one. -/
theorem lastPlace?_of_no_mark (h : ∀ c ∈ xs, p c = false) : lastPlace? p xs = none := by
  induction xs with
  | nil => rfl
  | cons c xs ih =>
    rw [List.forall_mem_cons] at h
    rw [lastPlace?, ih h.2]
    simp [h.1]

/-- The last mark is where the text behind begins that has none. -/
theorem lastPlace?_append (h : ∀ c ∈ ys, p c = false) (hm : p mark = true) :
    lastPlace? p (xs ++ mark :: ys) = some (encodedLength xs) := by
  induction xs with
  | nil => simp [lastPlace?, lastPlace?_of_no_mark h, hm]
  | cons c xs ih => simp [lastPlace?, ih]

end Marks

/-- Behind a character that does not begin the mark the search goes on. -/
theorem wordPlace?_cons {c : Char} {cs : List Char} (later : ¬ schemeMark <+: c :: cs) :
    wordPlace? [':', '/', '/'] (c :: cs) =
      (wordPlace? [':', '/', '/'] cs).map (c.utf8Size + ·) := by
  have later : [':', '/', '/'].isPrefixOf (c :: cs) = false := by
    rwa [← Bool.not_eq_true, List.isPrefixOf_iff_prefix]
  rw [wordPlace?, later]
  rfl

/-- A text without the mark has no place of it. -/
theorem wordPlace?_of_unmarked {cs : List Char} (h : ¬ schemeMark <:+: cs) :
    wordPlace? [':', '/', '/'] cs = none := by
  induction cs with
  | nil => rfl
  | cons c cs ih =>
    rw [List.infix_cons_iff, not_or] at h
    rw [wordPlace?_cons h.1, ih h.2]
    rfl

/-- The mark occurs first where the scheme ends. -/
theorem wordPlace?_append {scheme : List Char} (h : ¬ schemeMark <:+: scheme) (rest : List Char) :
    wordPlace? [':', '/', '/'] (scheme ++ (schemeMark ++ rest)) = some (encodedLength scheme) := by
  induction scheme with
  | nil => rfl
  | cons c scheme ih =>
    have deeper := ih fun inner => h (inner.trans (List.suffix_cons c scheme).isInfix)
    rw [List.cons_append, wordPlace?_cons (schemeMark_not_early h rest), deeper]
    simp

end Hostlink.Redaction
