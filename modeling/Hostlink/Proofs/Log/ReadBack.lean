import Mathlib.Data.List.Nodup
import Hostlink.Log.Entry
import Hostlink.Proofs.Json.RoundTrip
import Hostlink.Proofs.Log.Completeness
import Hostlink.Proofs.Time.Timestamp

/-!
# Entries come back

Reading the text of an entry gives the entry again (`entry_read_back`).  The fields of an entry have
no order of their own, so their text may list them in any order.
-/

namespace Hostlink

/-! ## Maps and their pairs -/

namespace SortedMap

variable {κ α : Type} [KeyOrder κ] {m m' : SortedMap κ α} {pairs : List (κ × α)}

/-- Maps with the same pairs are the same. -/
theorem eq_of_perm (same : m.toList.Perm m'.toList) : m = m' := by
  obtain ⟨pairs, sorted⟩ := m
  obtain ⟨pairs', sorted'⟩ := m'
  congr
  refine same.eq_of_pairwise ?_ (List.pairwise_map.1 sorted) (List.pairwise_map.1 sorted')
  intro a b _ _ forth back
  have circle := KeyOrder.before_trans forth back
  rw [KeyOrder.before_irrefl] at circle
  exact absurd circle Bool.false_ne_true

variable [DecidableEq κ]

/-- A map that is filled with pairs of different keys has these pairs. -/
theorem toList_ofList_perm (distinct : (pairs.map (·.1)).Nodup) :
    (ofList pairs).toList.Perm pairs := by
  induction pairs using List.reverseRecOn with
  | nil => exact List.Perm.refl _
  | append_singleton pairs pair ih =>
    rw [List.map_append, List.nodup_append] at distinct
    obtain ⟨distinct, -, apart⟩ := distinct
    have others : pairs.filter (·.1 = pair.1) = [] := by
      rw [List.filter_eq_nil_iff]
      intro other there
      have differ := apart other.1 (List.mem_map_of_mem there) pair.1 (by simp)
      simpa using differ
    obtain ⟨front, back, before, after, -⟩ := (ofList pairs).toList_modify pair.1 fun _ => pair.2
    rw [get?_ofList, others] at before
    have kept : (front ++ back).Perm pairs := by simpa [before] using ih distinct
    rw [ofList_concat, insert, after]
    exact List.perm_middle.trans
      ((kept.cons pair).trans (List.perm_append_singleton pair pairs).symm)

/-- A map comes back from its pairs, in whatever order they are listed. -/
theorem ofList_of_perm (order : pairs.Perm m.toList) : ofList pairs = m := by
  have distinct : (pairs.map (·.1)).Nodup := (order.map _).nodup_iff.2 m.nodup_keys
  exact eq_of_perm ((toList_ofList_perm distinct).trans order)

end SortedMap

/-- Of members with different keys each is found under its key. -/
theorem Json.lookup?_of_mem {α : Type} {key : String} {value : α} {members : List (String × α)}
    (distinct : (members.map (·.1)).Nodup) (there : (key, value) ∈ members) :
    lookup? key members = some value := by
  cases found : members.reverse.find? (·.1 = key) with
  | none =>
    have absent := List.find?_eq_none.1 found (key, value) (List.mem_reverse.2 there)
    simp at absent
  | some member =>
    have same : member.1 = key := by simpa using List.find?_some found
    have listed : member ∈ members := List.mem_reverse.1 (List.mem_of_find?_eq_some found)
    have unique := List.inj_on_of_nodup_map distinct listed there same
    rw [lookup?, found, unique]
    rfl

/-- Items that are decoded one by one come back one by one. -/
theorem mapM_map_eq_some {α β : Type} {encode : α → β} {decode : β → Option α}
    (back : ∀ a, decode (encode a) = some a) (items : List α) :
    (items.map encode).mapM decode = some items := by
  induction items with
  | nil => rfl
  | cons item items ih =>
    rw [List.map_cons, List.mapM_cons, back, ih]
    rfl

namespace Log.Entry

open Json (spelled textOf?_spelled)

variable {e : Entry} {fields : List (String × String)}

/-! ## Texts and trees -/

/-- The entry as a JSON object that lists the fields in a given order. -/
def toJsonWith (e : Entry) (fields : List (String × String)) : Json.Value :=
  .object [
    ("level", .string e.level.name),
    ("timestamp", .string e.timestamp.render),
    ("target", .string e.target),
    ("message", .string e.message),
    ("fields", .object (fields.map fun (name, value) => (name, .string value))),
    ("span_id", match e.spanId with
      | some name => .string name
      | none => .null)]

theorem toJson_eq (e : Entry) : e.toJson = e.toJsonWith e.fields.toList := rfl

/-- The tree of the fields. -/
def fieldsTree (fields : List (String × String)) : Json.Tree :=
  .object (fields.map fun (name, value) => (spelled name, .string (spelled value)))

/-- The tree of the span. -/
def spanTree : Option String → Json.Tree
  | some name => .string (spelled name)
  | none => .null

/-- The trees of the members, by name. -/
def memberTrees (e : Entry) (fields : List (String × String)) : List (String × Json.Tree) := [
  ("level", .string (spelled e.level.name)),
  ("timestamp", .string (spelled e.timestamp.render)),
  ("target", .string (spelled e.target)),
  ("message", .string (spelled e.message)),
  ("fields", fieldsTree fields),
  ("span_id", spanTree e.spanId)]

/-- The tree of the entry. -/
def tree (e : Entry) (fields : List (String × String)) : Json.Tree :=
  .object ((e.memberTrees fields).map fun (name, tree) => (spelled name, tree))

theorem writes_fields (fields : List (String × String)) :
    Json.WritesMembers (fields.map fun (name, value) => (name, .string value))
      (fields.map fun (name, value) => (spelled name, .string (spelled value))) := by
  induction fields with
  | nil => exact .nil
  | cons field fields ih => exact .cons (.string field.2) ih

theorem writes_toJsonWith (e : Entry) (fields : List (String × String)) :
    Json.Writes (e.toJsonWith fields) (e.tree fields) := by
  have span : Json.Writes (match e.spanId with
      | some name => .string name
      | none => .null) (spanTree e.spanId) := by
    cases e.spanId with
    | none => exact .null
    | some name => exact .string name
  have listed : Json.Writes _ (fieldsTree fields) := .object (writes_fields fields)
  exact .object (.cons (.string _) (.cons (.string _) (.cons (.string _) (.cons (.string _)
    (.cons listed (.cons span .nil))))))

/-! ## Reading the members -/

theorem level?_spelled (level : Level) : level? (.string (spelled level.name)) = some level := by
  rw [level?, textOf?_spelled]
  cases level <;> rfl

theorem timestamp?_spelled {t : Time.Instant} (inside : t.inCalendar = true)
    (below : t.nanos < Time.nanosPerSecond) : timestamp? (.string (spelled t.render)) = some t := by
  rw [timestamp?, Json.Tree.text?, textOf?_spelled, Option.bind_eq_bind, Option.bind_some]
  exact Time.Instant.ofString?_render inside below

theorem fields?_fieldsTree (fields : List (String × String)) :
    fields? (fieldsTree fields) = some (.ofList fields) := by
  refine Option.bind_eq_some_iff.2 ⟨fields, mapM_map_eq_some ?_ fields, rfl⟩
  rintro ⟨name, value⟩
  simp [textOf?_spelled, Json.Tree.text?]

theorem spanId?_spanTree (span : Option String) : spanId? (spanTree span) = some span := by
  cases span with
  | none => rfl
  | some name => simp [spanTree, spanId?, Json.Tree.text?, textOf?_spelled]

theorem knownMembers?_spelled (members : List (String × Json.Tree))
    (known : ∀ member ∈ members, memberNames.contains member.1 = true) :
    knownMembers? (members.map fun (name, tree) => (spelled name, tree)) = some members := by
  refine Option.bind_eq_some_iff.2 ⟨members, mapM_map_eq_some ?_ members, ?_⟩
  · rintro ⟨name, tree⟩
    simp [textOf?_spelled]
  · exact congrArg some (List.filter_eq_self.2 known)

/-- The entry is put together from its members. -/
theorem ofParts?_trees (inside : e.timestamp.inCalendar = true)
    (below : e.timestamp.nanos < Time.nanosPerSecond) (order : fields.Perm e.fields.toList) :
    ofParts? (.string (spelled e.level.name)) (.string (spelled e.timestamp.render))
      (.string (spelled e.target)) (.string (spelled e.message)) (fieldsTree fields)
      (spanTree e.spanId) = some e := by
  simp only [ofParts?, level?_spelled, timestamp?_spelled inside below, Json.Tree.text?,
    textOf?_spelled, fields?_fieldsTree, spanId?_spanTree, SortedMap.ofList_of_perm order]
  rfl

/-- Each member is found under its name. -/
theorem ofTree?_tree (inside : e.timestamp.inCalendar = true)
    (below : e.timestamp.nanos < Time.nanosPerSecond) (order : fields.Perm e.fields.toList) :
    ofTree? (e.tree fields) = some e := by
  have names : (e.memberTrees fields).map (·.1) = memberNames := rfl
  have count : (e.memberTrees fields).length = memberNames.length := rfl
  have once : ¬ memberNames.eraseDups.length ≠ memberNames.length := by decide
  have distinct : ((e.memberTrees fields).map (·.1)).Nodup := by
    rw [names]
    decide
  have known := knownMembers?_spelled (e.memberTrees fields)
    (by simp [memberTrees, memberNames])
  have found {name : String} {part : Json.Tree} (there : (name, part) ∈ e.memberTrees fields) :=
    Json.lookup?_of_mem distinct there
  rw [tree, ofTree?, known, Option.bind_eq_bind, Option.bind_some, names, count, if_neg once,
    found (.head _), found (.tail _ (.head _)), found (.tail _ (.tail _ (.head _))),
    found (.tail _ (.tail _ (.tail _ (.head _)))),
    found (.tail _ (.tail _ (.tail _ (.tail _ (.head _))))),
    found (.tail _ (.tail _ (.tail _ (.tail _ (.tail _ (.head _))))))]
  exact ofParts?_trees inside below order

/-- Reading the text of an entry gives the entry, in whatever order the text lists its fields. -/
theorem entry_read_back (e : Entry) (inside : e.timestamp.inCalendar = true)
    (below : e.timestamp.nanos < Time.nanosPerSecond) :
    ofString? e.render = some e ∧
      ∀ fields, fields.Perm e.fields.toList → ofString? (e.toJsonWith fields).render = some e := by
  have anyOrder : ∀ fields, fields.Perm e.fields.toList →
      ofString? (e.toJsonWith fields).render = some e := by
    intro fields order
    rw [ofString?, (writes_toJsonWith e fields).ofString?_render, Option.bind_eq_bind,
      Option.bind_some]
    exact ofTree?_tree inside below order
  rw [render, toJson_eq]
  exact ⟨anyOrder e.fields.toList (List.Perm.refl _), anyOrder⟩

/-- A warning from the end of year minus two, with quotes, a backslash, a line break and a control
character in its message, and two fields, one of which has neither name nor value. -/
def troubledEntry : Entry :=
  (((make .warn ⟨-62198755201, 1500000⟩ "net::poll" "said \"no\\yes\"\n\x01\u00e9").withField
    "\"" "\t").withField "" "").withSpan "poll"

theorem entry_read_back_troubled :
    troubledEntry.timestamp.inCalendar = true ∧
      troubledEntry.timestamp.nanos < Time.nanosPerSecond ∧
      ofString? troubledEntry.render = some troubledEntry ∧
      troubledEntry.fields.toList = [("", ""), ("\"", "\t")] ∧
      ofString? (troubledEntry.toJsonWith [("\"", "\t"), ("", "")]).render =
        some troubledEntry := by
  have inside : troubledEntry.timestamp.inCalendar = true := by decide +kernel
  have below : troubledEntry.timestamp.nanos < Time.nanosPerSecond := by decide +kernel
  have listed : troubledEntry.fields.toList = [("", ""), ("\"", "\t")] := by decide +kernel
  obtain ⟨back, anyOrder⟩ := entry_read_back troubledEntry inside below
  refine ⟨inside, below, back, listed, anyOrder _ ?_⟩
  rw [listed]
  exact List.Perm.swap _ _ _

end Log.Entry
end Hostlink
