import Jaxrs.FileTree
import Jaxrs.Proofs.Except
import Jaxrs.Proofs.FilePath
import Jaxrs.Proofs.Lookup

/-!
Places in a tree of files and what stays at them. `Grows t t' written` says that a tree comes from
another by making directories where nothing was and by writing the files at some places; it composes
(`Grows.trans`). No directory goes away under it and the program stays in the one it runs in, so
that a path that has been followed leads to the same place ever after (`Grows.resolve`). Below one
directory, paths of ordinary names lead to the same place only if they are the same
(`resolve_join_injective`).
-/

set_option autoImplicit false

namespace Jaxrs.FileTree

section Put

variable {t : FileTree} {place other : Place} {e : Entry}

@[simp] theorem workingDirectory_put :
    (t.put place e).workingDirectory = t.workingDirectory := rfl

theorem find?_of_running (h : place <+: t.workingDirectory) : t.find? place = some .directory :=
  if_pos h

theorem find?_of_not_running (h : ¬ place <+: t.workingDirectory) :
    t.find? place = t.entries.lookup place :=
  if_neg h

theorem find?_root (t : FileTree) : t.find? [] = some .directory :=
  find?_of_running List.nil_prefix

theorem not_prefix_of_find? (h : t.find? place ≠ some .directory) :
    ¬ place <+: t.workingDirectory :=
  fun hprefix ↦ h (find?_of_running hprefix)

theorem find?_put_self (h : t.find? place ≠ some .directory) :
    (t.put place e).find? place = some e := by
  rw [find?, workingDirectory_put, if_neg (not_prefix_of_find? h), put, lookup_put_self]

theorem find?_put_of_ne (h : other ≠ place) : (t.put place e).find? other = t.find? other := by
  rw [find?, find?, put, lookup_put_of_ne h]

/-- Places with different things at them are different. -/
theorem find?_put_of_find?_ne (h : t.find? other ≠ t.find? place) :
    (t.put place e).find? other = t.find? other :=
  find?_put_of_ne fun heq ↦ h (congrArg t.find? heq)

theorem find?_put_of_directory (h : t.find? place ≠ some .directory)
    (hother : t.find? other = some .directory) :
    (t.put place e).find? other = some .directory := by
  rw [find?_put_of_find?_ne (hother ▸ h.symm), hother]

theorem not_mem_of_find?_eq_none (h : t.find? place = none) : (place, e) ∉ t.entries := by
  intro hmem
  rw [find?] at h
  split at h
  · cases h
  · exact absurd (List.lookup_eq_none_iff.mp h (place, e) hmem) (by simp)

/-- What a path is followed from is there. -/
theorem find?_start (t : FileTree) (p : FilePath) : t.find? (t.start p) = some .directory := by
  rw [start]
  split
  · exact find?_root t
  · exact find?_of_running List.prefix_rfl

theorem start_eq_of_isAbsolute_eq {p q : FilePath} (h : q.isAbsolute = p.isAbsolute) :
    t.start q = t.start p := by
  rw [start, start, h]

end Put

section Walk

variable {t : FileTree}

theorem walk_append (t : FileTree) (place : Place) (a b : List String) :
    t.walk place (a ++ b) = t.walk place a >>= fun middle ↦ t.walk middle b := by
  induction a generalizing place with
  | nil => rfl
  | cons name rest ih =>
    rw [List.cons_append, walk, walk]
    split
    · rfl
    · rfl
    · exact ih (step place name)

theorem walk_cons_eq_ok_iff {place target : Place} {name : String} {rest : List String} :
    t.walk place (name :: rest) = .ok target ↔
      t.find? place = some .directory ∧ t.walk (step place name) rest = .ok target := by
  rw [walk]
  split
  · rename_i hnone
    simp [hnone]
  · rename_i hfile
    simp [hfile]
  · rename_i hdirectory
    simp [hdirectory]

theorem eq_append_of_walk {place target : Place} {names : List String}
    (hnames : ∀ name ∈ names, name ≠ "" ∧ name ≠ "." ∧ name ≠ "..")
    (h : t.walk place names = .ok target) : target = place ++ names := by
  induction names generalizing place with
  | nil =>
    rw [List.append_nil]
    exact (Except.ok.inj h).symm
  | cons name rest ih =>
    obtain ⟨hname, hrest⟩ := List.forall_mem_cons.mp hnames
    have hstep : step place name = place ++ [name] := by simp [step, hname]
    have hwalk := (walk_cons_eq_ok_iff.mp h).2
    rw [hstep] at hwalk
    rw [ih hrest hwalk, List.append_assoc, List.singleton_append]

theorem step_eq_self {place : Place} {segment : String} (h : ¬ FilePath.isName segment = true) :
    step place segment = place := by
  have hdot : segment = "" ∨ segment = "." := by
    simpa [FilePath.isName, or_iff_not_imp_left] using h
  rcases hdot with rfl | rfl
  · rfl
  · rfl

theorem resolve_eq_ok_iff {p : FilePath} {place : Place} : t.resolve p = .ok place ↔
    p.text ≠ "" ∧ t.walk (t.start p) (Text.segments '/' p.text) = .ok place := by
  rw [resolve]
  by_cases hempty : p.text = ""
  · simp [hempty]
  · rw [if_neg (by simpa [String.isEmpty_iff] using hempty)]
    simp [hempty]

theorem lookup_eq_ok_iff {p : FilePath} {e : Entry} : t.lookup p = .ok e ↔
    ∃ place, t.resolve p = .ok place ∧ t.find? place = some e := by
  rw [lookup, Except.bind_eq_ok_iff]
  refine exists_congr fun place ↦ and_congr_right fun _ ↦ ?_
  cases t.find? place with
  | none => simp [throw, throwThe, MonadExceptOf.throw]
  | some e' => simp [pure, Except.pure]

theorem readText_eq_ok_iff {p : FilePath} {s : String} :
    t.readText p = .ok s ↔ t.lookup p = .ok (.file (.text s)) := by
  rw [readText, Except.bind_eq_ok_iff]
  constructor
  · rintro ⟨e, he, htext⟩
    rw [he]
    split at htext
    · cases htext
    · cases htext
    · rw [Except.ok.inj htext]
  · intro h
    exact ⟨_, h, rfl⟩

theorem isFile_iff {p : FilePath} :
    t.isFile p = true ↔ ∃ content, t.lookup p = .ok (.file content) := by
  rw [isFile]
  split
  · rename_i content hfile
    exact iff_of_true rfl ⟨content, hfile⟩
  · rename_i hother
    refine iff_of_false Bool.false_ne_true ?_
    rintro ⟨content, hfile⟩
    exact hother content hfile

theorem isDirectory_iff {p : FilePath} : t.isDirectory p = true ↔ t.lookup p = .ok .directory := by
  rw [isDirectory]
  split
  · rename_i hdirectory
    exact iff_of_true rfl hdirectory
  · rename_i hother
    exact iff_of_false Bool.false_ne_true hother

/-- A file is at the name that its path ends with: a segment that is no name would have to stand in
a directory and lead to one. -/
theorem getLast?_of_file {p : FilePath} {place : Place} {content : Content} {name : String}
    (h : t.resolve p = .ok place) (hfile : t.find? place = some (.file content))
    (hname : p.fileName? = some name) : place.getLast? = some name := by
  have hwalk := (resolve_eq_ok_iff.mp h).2
  rw [FilePath.fileName?, FilePath.names_eq_filter] at hname
  obtain ⟨hlast, hup⟩ := Option.filter_eq_some_iff.mp hname
  rcases (Text.segments '/' p.text).eq_nil_or_concat' with hnil | ⟨before, last, hsegments⟩
  · rw [hnil] at hlast
    cases hlast
  rw [hsegments, walk_append] at hwalk
  obtain ⟨middle, _, hstep⟩ := Except.bind_eq_ok_iff.mp hwalk
  obtain ⟨hdirectory, hstep⟩ := walk_cons_eq_ok_iff.mp hstep
  obtain rfl : step middle last = place := Except.ok.inj hstep
  by_cases hisName : FilePath.isName last = true
  · obtain rfl : last = name := by
      simpa [hsegments, List.filter_append, hisName] using hlast
    have hplace : step middle last = middle ++ [last] := by
      have hnames : last ≠ "" ∧ last ≠ "." := by simpa [FilePath.isName] using hisName
      have hup : last ≠ ".." := by simpa using hup
      simp [step, hnames, hup]
    rw [hplace]
    simp
  · rw [step_eq_self hisName, hdirectory] at hfile
    cases hfile

/-- Whatever lies below a directory has the place of the directory before its own names. -/
theorem place_of_join {base p : FilePath} {place : Place} (hp : p.Ordinary)
    (h : t.resolve (base.join p) = .ok place) :
    ∃ directory, t.walk (t.start base) (Text.segments '/' base.text) = .ok directory ∧
      place = directory ++ p.names := by
  obtain ⟨start, hbase, hjoin⟩ := base.segments_join
  have hwalk := (resolve_eq_ok_iff.mp h).2
  rw [hjoin p hp, start_eq_of_isAbsolute_eq (base.isAbsolute_join hp), walk_append] at hwalk
  obtain ⟨directory, hstart, hnames⟩ := Except.bind_eq_ok_iff.mp hwalk
  refine ⟨directory, ?_, hp.names_eq ▸ eq_append_of_walk hp hnames⟩
  rcases hbase with hbase | hbase
  · rw [hbase]
    exact hstart
  · obtain ⟨first, others, hcut⟩ := Text.exists_cut_eq_cons (· == '/') p.text.toList
    rw [Text.segments, hcut, List.map_cons] at hnames
    have hdirectory := (walk_cons_eq_ok_iff.mp hnames).1
    rw [hbase, walk_append, hstart]
    exact walk_cons_eq_ok_iff.mpr ⟨hdirectory, rfl⟩

theorem resolve_join_injective {base p q : FilePath} {place : Place} (hp : p.Ordinary)
    (hq : q.Ordinary) (h : t.resolve (base.join p) = .ok place)
    (h' : t.resolve (base.join q) = .ok place) : p = q := by
  obtain ⟨directory, hdirectory, hplace⟩ := place_of_join hp h
  obtain ⟨directory', hdirectory', hplace'⟩ := place_of_join hq h'
  obtain rfl : directory = directory' := Except.ok.inj (hdirectory.symm.trans hdirectory')
  have hnames := List.append_cancel_left (hplace.symm.trans hplace')
  rw [hp.names_eq, hq.names_eq] at hnames
  exact FilePath.eq_of_segments_eq hnames

end Walk

/-- The second tree has the directories of the first, and differs from it in no more than new
directories and what is at the written places. The program runs in the same directory. -/
structure Grows (t t' : FileTree) (written : Place → Prop) : Prop where
  workingDirectory : t'.workingDirectory = t.workingDirectory
  directories : ∀ place, t.find? place = some .directory → t'.find? place = some .directory
  changes : ∀ place, t'.find? place ≠ t.find? place →
    written place ∨ t.find? place = none ∧ t'.find? place = some .directory

namespace Grows

variable {t t' t'' : FileTree} {written written' : Place → Prop}

theorem refl (t : FileTree) : Grows t t written :=
  ⟨rfl, fun _ h ↦ h, fun _ h ↦ absurd rfl h⟩

theorem mono (h : Grows t t' written) (hwritten : ∀ place, written place → written' place) :
    Grows t t' written' :=
  ⟨h.workingDirectory, h.directories,
    fun place hchange ↦ (h.changes place hchange).imp_left (hwritten place)⟩

theorem trans (h : Grows t t' written) (h' : Grows t' t'' written) : Grows t t'' written := by
  refine ⟨h'.workingDirectory.trans h.workingDirectory,
    fun place hplace ↦ h'.directories place (h.directories place hplace), fun place hchange ↦ ?_⟩
  by_cases hsecond : t''.find? place = t'.find? place
  · rw [hsecond] at hchange ⊢
    exact h.changes place hchange
  · rcases h'.changes place hsecond with hwritten | ⟨hnone, hdirectory⟩
    · exact Or.inl hwritten
    · by_cases hfirst : t'.find? place = t.find? place
      · exact Or.inr ⟨hfirst ▸ hnone, hdirectory⟩
      · rcases h.changes place hfirst with hwritten | ⟨_, hdirectory'⟩
        · exact Or.inl hwritten
        · rw [hnone] at hdirectory'
          cases hdirectory'

/-- Every name on the way is that of a directory, and it stays one. -/
theorem walk (h : Grows t t' written) {place target : Place} {names : List String}
    (hwalk : t.walk place names = .ok target) : t'.walk place names = .ok target := by
  induction names generalizing place with
  | nil => exact hwalk
  | cons name rest ih =>
    obtain ⟨hdirectory, hrest⟩ := walk_cons_eq_ok_iff.mp hwalk
    exact walk_cons_eq_ok_iff.mpr ⟨h.directories place hdirectory, ih hrest⟩

theorem start (h : Grows t t' written) (p : FilePath) : t'.start p = t.start p := by
  rw [FileTree.start, h.workingDirectory, ← FileTree.start]

theorem resolve (h : Grows t t' written) {p : FilePath} {place : Place}
    (hresolve : t.resolve p = .ok place) : t'.resolve p = .ok place := by
  obtain ⟨hpath, hwalk⟩ := resolve_eq_ok_iff.mp hresolve
  refine resolve_eq_ok_iff.mpr ⟨hpath, ?_⟩
  rw [h.start]
  exact h.walk hwalk

/-- Away from the written places the files are the same. -/
theorem find?_file_iff (h : Grows t t' written) {place : Place} (hplace : ¬ written place)
    {content : Content} :
    t'.find? place = some (.file content) ↔ t.find? place = some (.file content) := by
  by_cases hchange : t'.find? place = t.find? place
  · rw [hchange]
  · obtain ⟨hnone, hdirectory⟩ := (h.changes place hchange).resolve_left hplace
    simp [hnone, hdirectory]

theorem readText (h : Grows t t' fun _ ↦ False) {p : FilePath} {s : String}
    (hread : t.readText p = .ok s) : t'.readText p = .ok s := by
  rw [readText_eq_ok_iff, lookup_eq_ok_iff] at hread ⊢
  obtain ⟨place, hplace, hfile⟩ := hread
  exact ⟨place, h.resolve hplace, (h.find?_file_iff not_false).mpr hfile⟩

end Grows

section Edits

variable {t : FileTree} {written : Place → Prop} {place : Place}

theorem grows_put_directory (h : t.find? place = none) :
    Grows t (t.put place .directory) written := by
  have hplace : t.find? place ≠ some .directory := by
    rw [h]
    exact nofun
  refine ⟨rfl, fun _ ↦ find?_put_of_directory hplace, fun other hchange ↦ ?_⟩
  by_cases hne : other = place
  · subst hne
    exact Or.inr ⟨h, find?_put_self hplace⟩
  · exact absurd (find?_put_of_ne hne) hchange

theorem grows_put_file {content : Content} (h : t.find? place ≠ some .directory) :
    Grows t (t.put place (.file content)) (· = place) := by
  refine ⟨rfl, fun _ ↦ find?_put_of_directory h, fun other hchange ↦ ?_⟩
  by_cases hne : other = place
  · exact Or.inl hne
  · exact absurd (find?_put_of_ne hne) hchange

end Edits

end Jaxrs.FileTree
