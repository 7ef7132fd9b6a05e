import Jaxrs.Document.Field
import Mathlib.Data.List.Basic
import Mathlib.Data.List.Nodup

/-!
Records as they are written and read. A record is given by its entries, some of which have no value
and are not written. Keys are taken out of it by taking values away (`Entries.without_toNode`), and
what is left is found field by field: exactly the entries that have a value
(`Entries.find?_present_without`).
-/

set_option autoImplicit false

namespace Jaxrs

/-! ### Fields one by one -/

namespace Fields

section Given

variable {α : Type}

/-- The value of a field, or none if it is missing. -/
def given? (fields : Fields) (name : String) (read : Node → Option α) : Option (Option α) :=
  fields.orElse? name none fun n ↦ (read n).map some

/-- The fields of a record in a field; there are none in a record that is missing. -/
def group? (fields : Fields) (name : String) (names : List String) : Option Fields :=
  fields.orElse? name [] (Node.fields? names)

theorem orElse?_eq_map_given? (fields : Fields) (name : String) (fallback : α)
    (read : Node → Option α) :
    fields.orElse? name fallback read = (fields.given? name read).map (·.getD fallback) := by
  unfold given? orElse?
  cases fields.find? name with
  | none => rfl
  | some n => simp [Function.comp_def]

/-- A reader of records reads the fields that are there, and none if the record is missing. -/
theorem orElse?_eq_group?_bind {fields : Fields} {name : String} {names : List String}
    {read : Fields → Option α} {fallback : α} (hfallback : read [] = some fallback) :
    fields.orElse? name fallback (fun n ↦ (n.fields? names).bind read) =
      (fields.group? name names).bind read := by
  unfold group? orElse?
  cases fields.find? name with
  | none => exact hfallback.symm
  | some n => rfl

end Given

end Fields

/-! ### Keys taken out -/

namespace Node

mutual

/-- The tree without the fields at some paths, each a list of keys from the top. -/
def without (gone : List String → Bool) : Node → Node
  | record fields => record (withoutFields gone fields)
  | null => null
  | bool b => bool b
  | number n => number n
  | text s => text s
  | plain s => plain s
  | list items => list items
  | sequence items => sequence items
  | unreadable => unreadable

def withoutFields (gone : List String → Bool) : List (Key × Node) → List (Key × Node)
  | [] => []
  | (key, n) :: rest =>
    match key.text? with
    | none => (key, n) :: withoutFields gone rest
    | some name =>
      if gone [name] then withoutFields gone rest
      else (key, without (fun path ↦ gone (name :: path)) n) :: withoutFields gone rest

end

mutual

theorem without_nothing : ∀ n : Node, n.without (fun _ ↦ false) = n
  | record fields => by rw [without, withoutFields_nothing fields]
  | null => rfl
  | bool _ => rfl
  | number _ => rfl
  | text _ => rfl
  | plain _ => rfl
  | list _ => rfl
  | sequence _ => rfl
  | unreadable => rfl

theorem withoutFields_nothing :
    ∀ fields : List (Key × Node), withoutFields (fun _ ↦ false) fields = fields
  | [] => rfl
  | (key, n) :: rest => by
    rw [withoutFields, withoutFields_nothing rest]
    cases key.text? with
    | none => rfl
    | some name => simp only [Bool.false_eq_true, if_false, without_nothing n]

end

end Node

/-! ### Fields of a record -/

namespace Fields

variable {fields before after : Fields} {names : List String}

/-- A record with a text for each key. -/
def toNode (fields : Fields) : Node :=
  .record (fields.map fun f ↦ (.text f.1, f.2))

private theorem eraseDups_eq_self {l : List String} (h : l.Nodup) : l.eraseDups = l := by
  induction l with
  | nil => rfl
  | cons s rest ih =>
    obtain ⟨hs, hrest⟩ := List.nodup_cons.mp h
    have hkept : rest.filter (fun t ↦ !t == s) = rest := by
      rw [List.filter_eq_self]
      intro t ht
      have hne : t ≠ s := by
        rintro rfl
        exact hs ht
      simpa using hne
    rw [List.eraseDups_cons, hkept, ih hrest]

/-- Known fields that are there once are read as they are. -/
theorem fields?_toNode (hnodup : (fields.map Prod.fst).Nodup)
    (hknown : ∀ f ∈ fields, f.1 ∈ names) : fields.toNode.fields? names = some fields := by
  have hnamed : (fields.map fun f ↦ (Key.text f.1, f.2)).mapM
      (fun f ↦ f.1.text?.map (·, f.2)) = some fields := by
    induction fields with
    | nil => rfl
    | cons f rest ih =>
      have hrest := ih (List.nodup_cons.mp hnodup).2 fun g hg ↦ hknown g (List.mem_cons_of_mem f hg)
      rw [List.map_cons, List.mapM_cons, hrest]
      rfl
  have hkept : fields.filter (names.contains ·.1) = fields := by
    rw [List.filter_eq_self]
    intro f hf
    simpa using hknown f hf
  have hread : toNode fields = .record (fields.map fun f ↦ (Key.text f.1, f.2)) := rfl
  rw [hread, Node.fields?]
  · simp only [Node.record?, Option.bind_eq_bind, Option.bind_some, ofNames?, hnamed, hkept,
      eraseDups_eq_self hnodup, List.length_map, if_true]
  · rintro items ⟨⟩

theorem find?_append_cons_self {name : String} {n : Node}
    (h : name ∉ (before ++ after).map Prod.fst) :
    find? (before ++ (name, n) :: after) name = some n := by
  have hbefore : before.lookup name = none := by
    rw [List.lookup_eq_none_iff]
    intro f hf
    have hne : name ≠ f.1 := by
      rintro rfl
      exact h (List.mem_map_of_mem (List.mem_append_left after hf))
    simpa using hne
  rw [find?, List.lookup_append, hbefore]
  simp

theorem find?_append_cons_of_ne {name other : String} {n : Node} (h : other ≠ name) :
    find? (before ++ (name, n) :: after) other = find? (before ++ after) other := by
  have hne : (other == name) = false := by simpa using h
  rw [find?, find?, List.lookup_append, List.lookup_append, List.lookup_cons, hne]

end Fields

/-! ### Entries of a record -/

/-- The names of a record in order, with their values as far as they have one. -/
abbrev Entries := List (String × Option Node)

namespace Entries

variable {entries : Entries}

def present (entries : Entries) : Fields :=
  entries.filterMap fun e ↦ e.2.map (e.1, ·)

/-- The entries without the values at some paths. -/
def without (gone : List String → Bool) (entries : Entries) : Entries :=
  entries.map fun e ↦
    (e.1, if gone [e.1] then none else e.2.map (Node.without fun path ↦ gone (e.1 :: path)))

theorem present_cons (name : String) (value : Option Node) (rest : Entries) :
    present ((name, value) :: rest) = (value.map (name, ·)).toList ++ present rest := by
  cases value <;> rfl

theorem without_toNode (gone : List String → Bool) (entries : Entries) :
    entries.present.toNode.without gone = (entries.without gone).present.toNode := by
  suffices h : Node.withoutFields gone (entries.present.map fun f ↦ (Key.text f.1, f.2)) =
      (entries.without gone).present.map fun f ↦ (Key.text f.1, f.2) from congrArg Node.record h
  induction entries with
  | nil => rfl
  | cons e rest ih =>
    obtain ⟨name, value⟩ := e
    have hrest : without gone ((name, value) :: rest) = (name, if gone [name] then none else
        value.map (Node.without fun path ↦ gone (name :: path))) :: without gone rest := rfl
    rw [hrest, present_cons, present_cons, List.map_append, List.map_append, ← ih]
    cases value with
    | none => simp
    | some n => by_cases hgone : gone [name] = true <;> simp [Node.withoutFields, Key.text?, hgone]

theorem map_fst_present_sublist (entries : Entries) :
    (entries.present.map Prod.fst).Sublist (entries.map Prod.fst) := by
  induction entries with
  | nil => exact List.Sublist.slnil
  | cons e rest ih =>
    obtain ⟨name, value⟩ := e
    rw [present_cons, List.map_append, List.map_cons]
    cases value with
    | none => exact ih.cons name
    | some n => exact ih.cons_cons name

theorem find?_present (hnodup : (entries.map Prod.fst).Nodup) (name : String) :
    entries.present.find? name = (entries.lookup name).join := by
  induction entries with
  | nil => rfl
  | cons e rest ih =>
    obtain ⟨other, value⟩ := e
    obtain ⟨hother, hrest⟩ := List.nodup_cons.mp hnodup
    rw [present_cons, Fields.find?, List.lookup_append]
    by_cases hname : name = other
    · subst hname
      have hnone : Fields.find? (present rest) name = none := by
        refine List.lookup_eq_none_iff.mpr fun f hf ↦ ?_
        have hne : name ≠ f.1 := by
          rintro rfl
          exact hother ((map_fst_present_sublist rest).subset (List.mem_map_of_mem hf))
        simpa using hne
      rw [Fields.find?] at hnone
      cases value <;> simp [hnone]
    · have hne : (name == other) = false := by simpa using hname
      rw [List.lookup_cons, hne, ← ih hrest]
      cases value with
      | none => rfl
      | some n => simp [List.lookup_cons, hne, Fields.find?]

theorem lookup_without (gone : List String → Bool) (name : String) :
    ((entries.without gone).lookup name).join = if gone [name] then none else
      (entries.lookup name).join.map (Node.without fun path ↦ gone (name :: path)) := by
  induction entries with
  | nil => simp [without]
  | cons e rest ih =>
    obtain ⟨other, value⟩ := e
    rw [without, List.map_cons, List.lookup_cons, List.lookup_cons]
    by_cases hname : name = other
    · subst hname
      simp
    · have hne : (name == other) = false := by simpa using hname
      rw [hne]
      exact ih

theorem map_fst_without (gone : List String → Bool) (entries : Entries) :
    (entries.without gone).map Prod.fst = entries.map Prod.fst := by
  rw [without, List.map_map]
  rfl

section Nodup

variable (hnodup : (entries.map Prod.fst).Nodup) (gone : List String → Bool)

include hnodup

theorem nodup_present : (entries.present.map Prod.fst).Nodup :=
  (map_fst_present_sublist entries).nodup hnodup

theorem find?_present_without (name : String) :
    (entries.without gone).present.find? name = if gone [name] then none else
      (entries.lookup name).join.map (Node.without fun path ↦ gone (name :: path)) := by
  rw [find?_present (map_fst_without gone entries ▸ hnodup), lookup_without]

theorem fields?_without {names : List String} (hknown : ∀ e ∈ entries, e.1 ∈ names) :
    (entries.present.toNode.without gone).fields? names = some (entries.without gone).present := by
  rw [without_toNode]
  have hnodup' := map_fst_without gone entries ▸ hnodup
  refine Fields.fields?_toNode (nodup_present hnodup') fun f hf ↦ ?_
  have hname : f.1 ∈ entries.map Prod.fst := by
    rw [← map_fst_without gone entries]
    exact (map_fst_present_sublist _).subset (List.mem_map_of_mem hf)
  obtain ⟨e, he, heq⟩ := List.mem_map.mp hname
  exact heq ▸ hknown e he

end Nodup

end Entries

namespace Fields

variable {α : Type} {fields : Fields} {name : String} {read : Node → Option α} {value : Option α}

/-- What has been written is read again. -/
theorem given?_eq (write : α → Node) (hfind : fields.find? name = value.map write)
    (hread : ∀ a ∈ value, read (write a) = some a) : fields.given? name read = some value := by
  rw [given?, orElse?, hfind]
  cases value with
  | none => rfl
  | some a => simp [hread a rfl]

theorem optional?_eq (write : α → Node) (hfind : fields.find? name = value.map write)
    (hread : ∀ a ∈ value, (write a).isAbsent = false ∧ read (write a) = some a) :
    fields.optional? name read = some value := by
  rw [optional?, orElse?, hfind]
  cases value with
  | none => rfl
  | some a => simp [Node.optional?, hread a rfl]

/-- The fields of a record in a field, unless the field is gone. -/
theorem exists_group? {inner : Entries} (names : List String) {absent : Bool}
    {gone : List String → Bool} (hnodup : (inner.map Prod.fst).Nodup)
    (hknown : ∀ e ∈ inner, e.1 ∈ names) (hfind : fields.find? name =
      if absent then none else some (inner.present.toNode.without gone)) :
    ∃ group, fields.group? name names = some group ∧ ∀ key, group.find? key =
      if absent then none else if gone [key] then none else
        (inner.lookup key).join.map (Node.without fun path ↦ gone (key :: path)) := by
  rw [group?, orElse?, hfind]
  cases absent with
  | true => exact ⟨[], rfl, fun _ ↦ rfl⟩
  | false =>
    exact ⟨_, Entries.fields?_without hnodup gone hknown, Entries.find?_present_without hnodup gone⟩

end Fields

end Jaxrs
