import Hostlink.Json.Printer
import Hostlink.Json.Reader

/-!
# What is written is read

The reader takes exactly the text that the printer has written for a value, and leaves what stands
behind it (`Writes.readValue_write`).  `Writes` says which tree it finds there, for values without
numbers, and `textOf?_spelled` that a string of this tree stands for the text that was written.
-/

namespace Hostlink.Json

/-! ## Hexadecimal digits -/

theorem hexValue?_hexDigit (n : Nat) : Text.hexValue? (Text.hexDigit n) = some (n % 16) := by
  have digits : ∀ d < 16, Text.hexValue? ((Nat.toDigits 16 d).headD '0') = some d := by decide
  exact digits (n % 16) (Nat.mod_lt n (by decide))

/-- Four digits spell every unit. -/
theorem unitOf?_hexDigit {n : Nat} (fits : n < 0x10000) :
    unitOf? (Text.hexDigit (n / 0x1000)) (Text.hexDigit (n / 0x100)) (Text.hexDigit (n / 0x10))
      (Text.hexDigit n) = some n := by
  simp only [unitOf?, hexValue?_hexDigit, Option.bind_eq_bind, Option.bind_some, Option.pure_def,
    Option.some.injEq]
  omega

theorem hexFixed_four (n : Nat) :
    Text.hexFixed 4 n = [Text.hexDigit (n / 0x1000), Text.hexDigit (n / 0x100),
      Text.hexDigit (n / 0x10), Text.hexDigit n] := by
  change [_, _, _, Text.hexDigit (n / 1)] = _
  rw [Nat.div_one]

/-! ## Strings -/

/-- Whether a character is written by its number: a control character without a short escape. -/
def byNumber (c : Char) : Bool :=
  c.toNat < 0x20 && !(['\x08', '\x0c', '\n', '\r', '\t'].contains c)

/-- How a character stands in a string literal. -/
def spelledChar (c : Char) : StringPart := if byNumber c then .unit c.toNat else .char c

/-- How a text stands in a string literal. -/
def spelled (s : String) : List StringPart := s.toList.map spelledChar

/-- A reading with one more part in front. -/
def withPart (part : StringPart) (reading : Option (List StringPart × List Char)) :
    Option (List StringPart × List Char) :=
  reading.map fun (parts, rest) => (part :: parts, rest)

theorem readString_unit {a b c d : Char} {code : Nat} (unit : unitOf? a b c d = some code)
    (cs : List Char) :
    readString ('\\' :: 'u' :: a :: b :: c :: d :: cs) = withPart (.unit code) (readString cs) := by
  rw [readString, unit]
  cases readString cs <;> rfl

theorem readString_short {e c : Char} (short : shortEscape? e = some c) (cs : List Char) :
    readString ('\\' :: e :: cs) = withPart (.char c) (readString cs) := by
  rw [readString, short]
  · cases readString cs <;> rfl
  · rintro a b c d rest rfl
    simp [shortEscape?] at short

theorem readString_plain {c : Char} (quote : c ≠ '"') (backslash : c ≠ '\\')
    (printed : 0x20 ≤ c.toNat) (cs : List Char) :
    readString (c :: cs) = withPart (.char c) (readString cs) := by
  have kept : (c = '\\' || c.toNat < 0x20) = false := by simpa [backslash] using printed
  rw [readString, kept]
  · rfl
  · exact quote
  · exact fun _ _ _ _ _ escape _ => backslash escape
  · exact fun _ _ escape _ => backslash escape

/-- A character is read in the form in which it is written. -/
theorem readString_escapeChar (c : Char) (cs : List Char) :
    readString (escapeChar c ++ cs) = withPart (spelledChar c) (readString cs) := by
  unfold escapeChar
  split
  next quote =>
    subst quote
    exact readString_short (e := '"') rfl cs
  split
  next backslash =>
    subst backslash
    exact readString_short (e := '\\') rfl cs
  split
  next back => exact back ▸ readString_short (e := 'b') rfl cs
  split
  next feed => exact feed ▸ readString_short (e := 'f') rfl cs
  split
  next line => exact line ▸ readString_short (e := 'n') rfl cs
  split
  next turn => exact turn ▸ readString_short (e := 'r') rfl cs
  split
  next tab => exact tab ▸ readString_short (e := 't') rfl cs
  split
  next control =>
    have number : byNumber c = true := by simp_all [byNumber]
    rw [hexFixed_four, spelledChar, if_pos number]
    exact readString_unit (unitOf?_hexDigit (by omega)) cs
  next quote backslash _ _ _ _ _ printed =>
    have plain : ¬ byNumber c = true := by simp [byNumber, printed]
    rw [spelledChar, if_neg plain]
    exact readString_plain quote backslash (Nat.le_of_not_lt printed) cs

theorem readString_spelled (s : String) (rest : List Char) :
    readString (s.toList.flatMap escapeChar ++ '"' :: rest) = some (spelled s, rest) := by
  rw [spelled]
  induction s.toList with
  | nil => rw [List.flatMap_nil, List.nil_append, readString, List.map_nil]
  | cons c cs ih =>
    rw [List.flatMap_cons, List.append_assoc, readString_escapeChar, ih]
    rfl

/-- A unit that is no surrogate stands for the character of its number, whatever follows. -/
theorem charsOf?_unit {code : Nat} (high : isHighSurrogate code = false)
    (low : isLowSurrogate code = false) (rest : List StringPart) :
    charsOf? (.unit code :: rest) = (Char.ofNat code :: ·) <$> charsOf? rest := by
  match rest with
  | [] | .char _ :: _ | .unit _ :: _ => simp [charsOf?, high, low]

theorem charsOf?_spelledChar (c : Char) (parts : List StringPart) :
    charsOf? (spelledChar c :: parts) = (c :: ·) <$> charsOf? parts := by
  rw [spelledChar]
  split
  next number =>
    simp only [byNumber, Bool.and_eq_true, decide_eq_true_eq] at number
    have high : isHighSurrogate c.toNat = false := by
      simp only [isHighSurrogate, Bool.and_eq_false_iff, decide_eq_false_iff_not]
      omega
    have low : isLowSurrogate c.toNat = false := by
      simp only [isLowSurrogate, Bool.and_eq_false_iff, decide_eq_false_iff_not]
      omega
    rw [charsOf?_unit high low, Char.ofNat_toNat]
  next => rw [charsOf?]

/-- A string literal stands for the text that was written. -/
theorem textOf?_spelled (s : String) : textOf? (spelled s) = some s := by
  have chars (cs : List Char) : charsOf? (cs.map spelledChar) = some cs := by
    induction cs with
    | nil => rfl
    | cons c cs ih =>
      rw [List.map_cons, charsOf?_spelledChar, ih]
      rfl
  rw [textOf?, spelled, chars]
  exact congrArg some String.ofList_toList

/-! ## Values without numbers -/

mutual

/-- The tree of the text that is written for a value without numbers. -/
inductive Writes : Value → Tree → Prop
  | null : Writes .null .null
  | bool (b : Bool) : Writes (.bool b) (.bool b)
  | string (s : String) : Writes (.string s) (.string (spelled s))
  | array {items : List Value} {trees : List Tree} :
    WritesItems items trees → Writes (.array items) (.array trees)
  | object {members : List (String × Value)} {trees : List (List StringPart × Tree)} :
    WritesMembers members trees → Writes (.object members) (.object trees)

/-- The trees of items. -/
inductive WritesItems : List Value → List Tree → Prop
  | nil : WritesItems [] []
  | cons {item : Value} {tree : Tree} {items : List Value} {trees : List Tree} :
    Writes item tree → WritesItems items trees → WritesItems (item :: items) (tree :: trees)

/-- The trees of the members of an object. -/
inductive WritesMembers : List (String × Value) → List (List StringPart × Tree) → Prop
  | nil : WritesMembers [] []
  | cons {key : String} {value : Value} {tree : Tree} {members : List (String × Value)}
      {trees : List (List StringPart × Tree)} :
    Writes value tree → WritesMembers members trees →
      WritesMembers ((key, value) :: members) ((spelled key, tree) :: trees)

end

theorem writeItems_cons (item next : Value) (items : List Value) :
    writeItems (item :: next :: items) = item.write ++ ',' :: writeItems (next :: items) := by
  rw [writeItems]
  simp

theorem writeMembers_cons (key : String) (value : Value) (next : String × Value)
    (members : List (String × Value)) :
    writeMembers ((key, value) :: next :: members)
      = writeString key ++ ':' :: (value.write ++ ',' :: writeMembers (next :: members)) := by
  rw [writeMembers]
  simp

/-- The text of a value begins with a character that neither is passed over nor closes an array. -/
theorem Writes.exists_head {value : Value} {tree : Tree} (h : Writes value tree) :
    ∃ c cs, value.write = c :: cs ∧ isBlank c = false ∧ c ≠ ']' := by
  cases h with
  | null => exact ⟨'n', _, rfl, by decide, by decide⟩
  | bool b =>
    cases b with
    | true => exact ⟨'t', _, rfl, by decide, by decide⟩
    | false => exact ⟨'f', _, rfl, by decide, by decide⟩
  | string s => exact ⟨'"', _, rfl, by decide, by decide⟩
  | array _ => exact ⟨'[', _, rfl, by decide, by decide⟩
  | object _ => exact ⟨'\x7b', _, rfl, by decide, by decide⟩

theorem WritesItems.exists_head {items : List Value} {trees : List Tree}
    (h : WritesItems items trees) (some_item : items ≠ []) :
    ∃ c cs, writeItems items = c :: cs ∧ isBlank c = false ∧ c ≠ ']' := by
  cases h with
  | nil => exact absurd rfl some_item
  | @cons item tree items trees first others =>
    obtain ⟨c, cs, begun, inked, opened⟩ := first.exists_head
    cases items with
    | nil => exact ⟨c, cs ++ [']'], by rw [writeItems, begun]; rfl, inked, opened⟩
    | cons next items =>
      exact ⟨c, cs ++ ',' :: writeItems (next :: items), by rw [writeItems_cons, begun]; rfl,
        inked, opened⟩

theorem exists_quote (member : String × Value) (members : List (String × Value)) :
    ∃ cs, writeMembers (member :: members) = '"' :: cs := by
  cases members with
  | nil => exact ⟨_, rfl⟩
  | cons next members => exact ⟨_, rfl⟩

/-! ## One step of the reader -/

section Steps

variable {fuel : Nat} {cs behind rest : List Char} {key : List StringPart} {item value : Tree}

theorem skipBlanks_of_inked {c : Char} (inked : isBlank c = false) :
    skipBlanks (c :: cs) = c :: cs := by
  rw [skipBlanks, List.dropWhile_cons, inked]
  rfl

theorem readValue_string :
    readValue (fuel + 1) ('"' :: cs)
      = (readString cs).map fun (parts, rest) => (.string parts, rest) := rfl

theorem readValue_items {c : Char} (inked : isBlank c = false) (opened : c ≠ ']') :
    readValue (fuel + 1) ('[' :: c :: cs)
      = (readItems fuel (c :: cs)).map fun (items, rest) => (.array items, rest) := by
  have bracket : skipBlanks ('[' :: c :: cs) = '[' :: c :: cs := skipBlanks_of_inked (by decide)
  have first : skipBlanks (c :: cs) = c :: cs := skipBlanks_of_inked inked
  simp only [readValue, bracket, first]
  split
  next closed => exact absurd (List.cons.inj closed).1 opened
  next => rfl

theorem readValue_members :
    readValue (fuel + 1) ('\x7b' :: '"' :: cs)
      = (readMembers fuel ('"' :: cs)).map fun (members, rest) => (.object members, rest) := rfl

theorem readItems_last (read : readValue fuel cs = some (item, ']' :: rest)) :
    readItems (fuel + 1) cs = some ([item], rest) := by
  rw [readItems, read]
  rfl

theorem readItems_next (read : readValue fuel cs = some (item, ',' :: behind)) :
    readItems (fuel + 1) cs
      = (readItems fuel behind).map fun (items, rest) => (item :: items, rest) := by
  rw [readItems, read]
  change (readItems fuel behind).bind _ = _
  cases readItems fuel behind <;> rfl

theorem readMembers_last (name : readString cs = some (key, ':' :: behind))
    (read : readValue fuel behind = some (value, '\x7d' :: rest)) :
    readMembers (fuel + 1) ('"' :: cs) = some ([(key, value)], rest) := by
  rw [readMembers, skipBlanks_of_inked (by decide)]
  refine Option.bind_eq_some_iff.2 ⟨_, name, ?_⟩
  exact Option.bind_eq_some_iff.2 ⟨_, read, rfl⟩

theorem readMembers_next (name : readString cs = some (key, ':' :: behind))
    (read : readValue fuel behind = some (value, ',' :: rest)) :
    readMembers (fuel + 1) ('"' :: cs)
      = (readMembers fuel rest).map fun (members, rest) => ((key, value) :: members, rest) := by
  rw [readMembers, skipBlanks_of_inked (by decide)]
  change (readString cs).bind _ = _
  rw [name]
  change (readValue fuel behind).bind _ = _
  rw [read]
  change (readMembers fuel rest).bind _ = _
  cases readMembers fuel rest <;> rfl

end Steps

/-! ## Whole values

The reader goes down at most once for each character, so the length of the text bounds its descent. -/

mutual

theorem Writes.readValue_write {value : Value} {tree : Tree} (h : Writes value tree) (fuel : Nat)
    (enough : value.write.length ≤ fuel) (rest : List Char) :
    readValue fuel (value.write ++ rest) = some (tree, rest) := by
  obtain ⟨_, _, begun, _⟩ := h.exists_head
  obtain _ | fuel := fuel
  · simp [begun] at enough
  cases h with
  | null => rfl
  | bool b => cases b <;> rfl
  | string s =>
    change readValue _ ('"' :: (_ ++ ['"'] ++ rest)) = _
    rw [readValue_string, List.append_assoc, List.singleton_append, readString_spelled]
    rfl
  | @array items trees content =>
    cases items with
    | nil => cases content; rfl
    | cons item items =>
      obtain ⟨c, cs, begun, inked, opened⟩ := content.exists_head (by simp)
      have read := content.readItems_write (by simp) fuel (by simpa [Value.write] using enough)
        rest
      rw [Value.write, List.cons_append]
      rw [begun, List.cons_append] at read ⊢
      rw [readValue_items inked opened, read]
      rfl
  | @object members trees content =>
    cases members with
    | nil => cases content; rfl
    | cons member members =>
      obtain ⟨cs, begun⟩ := exists_quote member members
      have read := content.readMembers_write (by simp) fuel (by simpa [Value.write] using enough)
        rest
      rw [Value.write, List.cons_append]
      rw [begun, List.cons_append] at read ⊢
      rw [readValue_members, read]
      rfl

theorem WritesItems.readItems_write {items : List Value} {trees : List Tree}
    (h : WritesItems items trees) (some_item : items ≠ []) (fuel : Nat)
    (enough : (writeItems items).length ≤ fuel) (rest : List Char) :
    readItems fuel (writeItems items ++ rest) = some (trees, rest) := by
  obtain ⟨_, _, begun, _⟩ := h.exists_head some_item
  obtain _ | fuel := fuel
  · simp [begun] at enough
  cases h with
  | nil => exact absurd rfl some_item
  | @cons item tree items trees first others =>
    cases items with
    | nil =>
      cases others
      rw [writeItems, List.length_append, List.length_singleton] at enough
      rw [writeItems, List.append_assoc]
      exact readItems_last (first.readValue_write fuel (by omega) _)
    | cons next items =>
      rw [writeItems_cons, List.length_append, List.length_cons] at enough
      rw [writeItems_cons, List.append_assoc, List.cons_append,
        readItems_next (first.readValue_write fuel (by omega) _),
        others.readItems_write (by simp) fuel (by omega)]
      rfl

theorem WritesMembers.readMembers_write {members : List (String × Value)}
    {trees : List (List StringPart × Tree)} (h : WritesMembers members trees)
    (some_member : members ≠ []) (fuel : Nat) (enough : (writeMembers members).length ≤ fuel)
    (rest : List Char) :
    readMembers fuel (writeMembers members ++ rest) = some (trees, rest) := by
  cases h with
  | nil => exact absurd rfl some_member
  | @cons key value tree members trees first others =>
    obtain _ | fuel := fuel
    · obtain ⟨_, begun⟩ := exists_quote (key, value) members
      simp [begun] at enough
    cases members with
    | nil =>
      cases others
      simp only [writeMembers, writeString, List.length_append, List.length_cons] at enough
      have read := first.readValue_write fuel (by omega) ('\x7d' :: rest)
      simp only [writeMembers, writeString, List.cons_append, List.append_assoc, List.nil_append]
      exact readMembers_last (readString_spelled key _) read
    | cons next members =>
      simp only [writeMembers_cons, writeString, List.length_append, List.length_cons] at enough
      have read := first.readValue_write fuel (by omega)
        (',' :: (writeMembers (next :: members) ++ rest))
      have more := others.readMembers_write (by simp) fuel (by omega) rest
      simp only [writeMembers_cons, writeString, List.cons_append, List.append_assoc,
        List.nil_append]
      rw [readMembers_next (readString_spelled key _) read, more]
      rfl

end

/-- The text of a value is read whole. -/
theorem Writes.ofString?_render {value : Value} {tree : Tree} (h : Writes value tree) :
    Tree.ofString? value.render = some tree := by
  have read := h.readValue_write (2 * value.write.length + 2) (by omega) []
  rw [List.append_nil] at read
  rw [Tree.ofString?, Value.render, String.toList_ofList, Tree.read?, read]
  rfl

end Hostlink.Json
