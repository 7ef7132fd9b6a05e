import Jaxrs.Proofs.FileTree.Editing
import Mathlib.Data.List.Induction
import Mathlib.Data.List.Infix
import Mathlib.Data.List.Nodup

/-!
Trees as they are on a disk. A place occurs once, whatever is at one has a name there and lies in a
directory, and the directory that the program runs in is one of the tree (`WellFormed`). All places
on the way to something are therefore directories (`WellFormed.directory_of_append`) and can be
walked along (`WellFormed.walk_append_names`). Putting something under a new name into a directory
keeps this (`WellFormed.put`), and every operation does nothing else
(`WellFormed.createDirectories`, `WellFormed.writeText`).
-/

set_option autoImplicit false

namespace Jaxrs.FileTree

/-- A name that an entry of a directory can have. -/
def IsEntryName (name : String) : Prop :=
  name ≠ "" ∧ name ≠ "." ∧ name ≠ ".." ∧ '/' ∉ name.toList

instance : DecidablePred IsEntryName := fun name ↦
  inferInstanceAs (Decidable (name ≠ "" ∧ name ≠ "." ∧ name ≠ ".." ∧ '/' ∉ name.toList))

theorem IsEntryName.ordinary {name : String} (h : IsEntryName name) : FilePath.Ordinary ⟨name⟩ :=
  FilePath.ordinary_mk h.2.2.2 h.1 h.2.1 h.2.2.1

theorem IsEntryName.names {name : String} (h : IsEntryName name) :
    FilePath.names ⟨name⟩ = [name] := by
  rw [h.ordinary.names_eq, Text.segments_eq_singleton h.2.2.2]

theorem IsEntryName.step {name : String} (h : IsEntryName name) (place : Place) :
    step place name = place ++ [name] := by
  simp [FileTree.step, h.1, h.2.1, h.2.2.1]

/-- Something can be at this place: it has a name there and its directory is there. -/
def HasParent (t : FileTree) (place : Place) : Prop :=
  ∃ parent name, place = parent ++ [name] ∧ IsEntryName name ∧ t.find? parent = some .directory

theorem hasParent_iff {t : FileTree} {place : Place} : t.HasParent place ↔
    ∃ name ∈ place.getLast?, IsEntryName name ∧ t.find? place.dropLast = some .directory := by
  constructor
  · rintro ⟨parent, name, rfl, hname, hparent⟩
    exact ⟨name, by simp, hname, by rw [List.dropLast_concat]; exact hparent⟩
  · rintro ⟨name, hlast, hname, hparent⟩
    exact ⟨place.dropLast, name, (List.dropLast_append_getLast? name hlast).symm, hname, hparent⟩

instance (t : FileTree) (place : Place) : Decidable (t.HasParent place) :=
  decidable_of_iff _ hasParent_iff.symm

structure WellFormed (t : FileTree) : Prop where
  nodup : (t.entries.map Prod.fst).Nodup
  hasParent : ∀ entry ∈ t.entries, t.HasParent entry.1
  /-- The directory that the program runs in and those above it are entries like all others. -/
  running : ∀ place ∈ t.workingDirectory.inits, place ≠ [] → (place, .directory) ∈ t.entries

instance (t : FileTree) : Decidable t.WellFormed :=
  decidable_of_iff ((t.entries.map Prod.fst).Nodup ∧ (∀ entry ∈ t.entries, t.HasParent entry.1) ∧
      ∀ place ∈ t.workingDirectory.inits, place ≠ [] → (place, .directory) ∈ t.entries)
    ⟨fun h ↦ ⟨h.1, h.2.1, h.2.2⟩, fun h ↦ ⟨h.nodup, h.hasParent, h.running⟩⟩

variable {t : FileTree} {place parent : Place} {name : String} {e : Entry}

namespace WellFormed

variable (ht : t.WellFormed)

include ht

theorem mem_entries_of_find? (hplace : place ≠ []) (h : t.find? place = some e) :
    (place, e) ∈ t.entries := by
  by_cases hprefix : place <+: t.workingDirectory
  · rw [find?_of_running hprefix] at h
    cases h
    exact ht.running place ((List.mem_inits _ _).mpr hprefix) hplace
  · rw [find?_of_not_running hprefix] at h
    obtain ⟨before, after, hentries, _⟩ := List.lookup_eq_some_iff.mp h
    rw [hentries]
    exact List.mem_append_right _ List.mem_cons_self

theorem find?_eq_some_iff (hplace : place ≠ []) :
    t.find? place = some e ↔ (place, e) ∈ t.entries := by
  refine ⟨ht.mem_entries_of_find? hplace, fun h ↦ ?_⟩
  cases hfound : t.find? place with
  | some found =>
    have hsame := List.inj_on_of_nodup_map ht.nodup (ht.mem_entries_of_find? hplace hfound) h rfl
    exact congrArg some (congrArg Prod.snd hsame)
  | none => exact absurd h (not_mem_of_find?_eq_none hfound)

theorem hasParent_of_find? (hplace : place ≠ []) (h : t.find? place = some e) :
    t.HasParent place :=
  ht.hasParent (place, e) (ht.mem_entries_of_find? hplace h)

/-- What lies below a place lies in a directory. -/
theorem directory_of_append {more : Place} (hmore : more ≠ [])
    (h : t.find? (place ++ more) = some e) : t.find? place = some .directory := by
  induction more using List.reverseRecOn generalizing e with
  | nil => exact absurd rfl hmore
  | append_singleton more name ih =>
    obtain ⟨parent, name', heq, _, hparent⟩ := ht.hasParent_of_find? (by simp) h
    rw [← List.append_assoc] at heq
    obtain ⟨rfl, _⟩ := List.append_inj' heq rfl
    by_cases hmore : more = []
    · rw [hmore, List.append_nil] at hparent
      exact hparent
    · exact ih hmore hparent

theorem isEntryName_of_find? (h : t.find? place = some e) : ∀ name ∈ place, IsEntryName name := by
  induction place using List.reverseRecOn generalizing e with
  | nil => simp
  | append_singleton place name ih =>
    obtain ⟨parent, name', heq, hname, hparent⟩ := ht.hasParent_of_find? (by simp) h
    obtain ⟨rfl, hlast⟩ := List.append_inj' heq rfl
    obtain rfl := List.singleton_injective hlast
    intro other hother
    rcases List.mem_append.mp hother with hother | hother
    · exact ih hparent other hother
    · exact List.mem_singleton.mp hother ▸ hname

/-- The names that lead down to something can be followed. -/
theorem walk_append_names {names : List String} (h : t.find? (place ++ names) = some e) :
    t.walk place names = .ok (place ++ names) := by
  induction names generalizing place with
  | nil => rw [List.append_nil]; rfl
  | cons name rest ih =>
    have hname := ht.isEntryName_of_find? h name (by simp)
    have hsplit : place ++ name :: rest = (place ++ [name]) ++ rest := by simp
    refine walk_cons_eq_ok_iff.mpr ⟨ht.directory_of_append (List.cons_ne_nil name rest) h, ?_⟩
    rw [hname.step, hsplit]
    exact ih (hsplit ▸ h)

/-- A path below a directory leads to what is there. -/
theorem resolve_join {base p : FilePath} (hp : p.Ordinary) (hbase : t.resolve base = .ok place)
    (h : t.find? (place ++ p.names) = some e) :
    t.resolve (base.join p) = .ok (place ++ p.names) := by
  obtain ⟨start, hstart, hjoin⟩ := base.segments_join
  obtain ⟨htext, hwalk⟩ := resolve_eq_ok_iff.mp hbase
  have hdirectory : t.walk (t.start base) start = .ok place := by
    rcases hstart with hstart | hstart
    · rw [← hstart]
      exact hwalk
    · rw [hstart, walk_append] at hwalk
      obtain ⟨middle, hmiddle, hlast⟩ := Except.bind_eq_ok_iff.mp hwalk
      obtain rfl : middle = place := Except.ok.inj (walk_cons_eq_ok_iff.mp hlast).2
      exact hmiddle
  refine resolve_eq_ok_iff.mpr ⟨?_, ?_⟩
  · simp [FilePath.join_eq htext hp.isAbsolute_eq_false, htext]
  · rw [start_eq_of_isAbsolute_eq (base.isAbsolute_join hp), hjoin p hp, walk_append, hdirectory,
      ← hp.names_eq]
    exact ht.walk_append_names h

theorem isFile_join_iff {base p : FilePath} (hp : p.Ordinary) (hbase : t.resolve base = .ok place) :
    t.isFile (base.join p) = true ↔
      ∃ content, t.find? (place ++ p.names) = some (.file content) := by
  rw [isFile_iff]
  refine exists_congr fun content ↦ ?_
  rw [lookup_eq_ok_iff]
  constructor
  · rintro ⟨_, hplace, hfile⟩
    obtain ⟨directory, hdirectory, rfl⟩ := place_of_join hp hplace
    obtain rfl : place = directory :=
      Except.ok.inj ((resolve_eq_ok_iff.mp hbase).2.symm.trans hdirectory)
    exact hfile
  · intro hfile
    exact ⟨_, ht.resolve_join hp hbase hfile, hfile⟩

/-! ### Edits -/

theorem put (hparent : t.find? parent = some .directory) (hname : IsEntryName name)
    (hfree : t.find? (parent ++ [name]) ≠ some .directory) :
    (t.put (parent ++ [name]) e).WellFormed := by
  have hplaces : (t.put (parent ++ [name]) e).entries.map Prod.fst =
      (t.entries.map Prod.fst).filter (· != parent ++ [name]) ++ [parent ++ [name]] := by
    rw [FileTree.put, List.map_append, List.filter_map]
    rfl
  constructor
  · rw [hplaces, List.nodup_append]
    refine ⟨ht.nodup.filter _, List.nodup_singleton _, fun a ha b hb ↦ ?_⟩
    rw [List.mem_singleton.mp hb]
    exact bne_iff_ne.mp (List.mem_filter.mp ha).2
  · intro entry hentry
    rcases List.mem_append.mp hentry with hentry | hentry
    · obtain ⟨parent', name', heq, hname', hparent'⟩ :=
        ht.hasParent entry (List.mem_filter.mp hentry).1
      exact ⟨parent', name', heq, hname', find?_put_of_directory hfree hparent'⟩
    · rw [List.mem_singleton.mp hentry]
      exact ⟨parent, name, rfl, hname, find?_put_of_directory hfree hparent⟩
  · intro place hplace hne
    refine List.mem_append_left _ (List.mem_filter.mpr ⟨ht.running place hplace hne, ?_⟩)
    refine bne_iff_ne.mpr ?_
    rintro rfl
    exact hfree (find?_of_running ((List.mem_inits _ _).mp hplace))

/-! ### Operations -/

/-- A step leads to the place of an entry, or back to a place that is there. -/
theorem step_cases {segment : String} (hplace : t.find? place = some .directory)
    (hsegment : '/' ∉ segment.toList) :
    (IsEntryName segment ∧ step place segment = place ++ [segment]) ∨
      t.find? (step place segment) = some .directory := by
  by_cases hstay : segment = "" ∨ segment = "."
  · have hstep : step place segment = place := by
      rcases hstay with rfl | rfl
      · rfl
      · rfl
    exact Or.inr (by rw [hstep]; exact hplace)
  obtain ⟨hempty, hdot⟩ := not_or.mp hstay
  by_cases hup : segment = ".."
  · have hstep : step place segment = place.dropLast := by
      rw [hup]
      rfl
    rw [hstep]
    by_cases hroot : place = []
    · rw [hroot]
      exact Or.inr (find?_root t)
    · obtain ⟨parent, name, rfl, _, hparent⟩ := ht.hasParent_of_find? hroot hplace
      rw [List.dropLast_concat]
      exact Or.inr hparent
  · have hname : IsEntryName segment := ⟨hempty, hdot, hup, hsegment⟩
    exact Or.inl ⟨hname, hname.step place⟩

theorem eq_nil_or_hasParent (h : t.find? place = some e) : place = [] ∨ t.HasParent place :=
  or_iff_not_imp_left.mpr fun hplace ↦ ht.hasParent_of_find? hplace h

theorem hasParent_of_walk {start : Place} {segments : List String}
    (hstart : start = [] ∨ t.HasParent start)
    (hsegments : ∀ segment ∈ segments, '/' ∉ segment.toList)
    (h : t.walk start segments = .ok place) : place = [] ∨ t.HasParent place := by
  induction segments generalizing start with
  | nil =>
    obtain rfl : start = place := Except.ok.inj h
    exact hstart
  | cons segment rest ih =>
    obtain ⟨hsegment, hrest⟩ := List.forall_mem_cons.mp hsegments
    obtain ⟨hdirectory, hwalk⟩ := walk_cons_eq_ok_iff.mp h
    refine ih ?_ hrest hwalk
    rcases ht.step_cases hdirectory hsegment with ⟨hname, hstep⟩ | hthere
    · exact Or.inr ⟨start, segment, hstep, hname, hdirectory⟩
    · exact ht.eq_nil_or_hasParent hthere

theorem makeDirectory {t' : FileTree} {start : Place} {segment : String} {outer : List String}
    (hsegment : '/' ∉ segment.toList) (h : t.makeDirectory start segment outer = .ok t') :
    t'.WellFormed := by
  obtain ⟨parent, _, hparent, hfree, rfl⟩ := makeDirectory_eq_ok_iff.mp h
  rcases ht.step_cases hparent hsegment with ⟨hname, hstep⟩ | hthere
  · rw [hstep] at hfree ⊢
    exact ht.put hparent hname (by simp [hfree])
  · rw [hfree] at hthere
    cases hthere

end WellFormed

theorem WellFormed.makeDirectories (ht : t.WellFormed) (start : Place) {segments : List String}
    (hsegments : ∀ segment ∈ segments, '/' ∉ segment.toList) :
    (t.makeDirectories start segments).1.WellFormed := by
  induction segments generalizing t with
  | nil => exact ht
  | cons segment outer ih =>
    obtain ⟨hsegment, houter⟩ := List.forall_mem_cons.mp hsegments
    rw [FileTree.makeDirectories]
    split
    · rename_i hmade
      exact ht.makeDirectory hsegment hmade
    · have hinner := ih ht houter
      split
      · rename_i heq
        rw [heq] at hinner
        exact hinner
      · rename_i heq
        rw [heq] at hinner
        split
        · rename_i hmade
          exact hinner.makeDirectory hsegment hmade
        · exact hinner
    · exact ht

theorem WellFormed.createDirectories (ht : t.WellFormed) (p : FilePath) :
    (t.createDirectories p).1.WellFormed := by
  refine ht.makeDirectories (t.start p) fun segment hsegment ↦ ?_
  exact Text.not_mem_of_mem_segments (List.mem_filter.mp (List.mem_reverse.mp hsegment)).1

theorem WellFormed.writeText (ht : t.WellFormed) (p : FilePath) (s : String) :
    (t.writeText p s).1.WellFormed := by
  rw [FileTree.writeText]
  split
  · exact ht
  · exact ht
  · rename_i place hplace
    split
    · exact ht
    · rename_i hfree
      have hroot : place ≠ [] := by
        rintro rfl
        exact hfree (find?_root t)
      have hstart := ht.eq_nil_or_hasParent (t.find?_start p)
      have hparent := (ht.hasParent_of_walk hstart (fun _ ↦ Text.not_mem_of_mem_segments)
        (resolve_eq_ok_iff.mp hplace).2).resolve_left hroot
      obtain ⟨parent, name, rfl, hname, hparent⟩ := hparent
      exact ht.put hparent hname hfree

end Jaxrs.FileTree
