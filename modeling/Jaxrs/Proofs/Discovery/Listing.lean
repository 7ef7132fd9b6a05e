import Jaxrs.Proofs.Discovery.Walk
import Jaxrs.Proofs.Text.ByteOrder

/-!
What is found. A configured model is found if it is a file, whatever else there is; without one the
input directory is listed (`Discovers`). A listing has the files below the directory whose names are
those of models and nothing else, in the order of the bytes of the names that lead to them
(`Listing`). It is what a walk finds (`listing_modelsOnWalk`): the paths of a walk keep its order,
as they all start with the path of the directory (`pairwise_modelsOnWalk`).
-/

set_option autoImplicit false

namespace Jaxrs

open FileTree (IsEntryName)

variable {t : FileTree} {base : FilePath}

/-! ### Paths of places -/

/-- Names that lead down make one path. -/
theorem exists_descend_eq_join {place : Place} (hplace : place ≠ [])
    (hnames : ∀ name ∈ place, IsEntryName name) : ∃ p : FilePath, p.Ordinary ∧ p.names = place ∧
      ∀ base : FilePath, base.descend place = base.join p := by
  induction place using List.reverseRecOn with
  | nil => exact absurd rfl hplace
  | append_singleton place name ih =>
    have hname := hnames name (by simp)
    by_cases hempty : place = []
    · subst hempty
      exact ⟨⟨name⟩, hname.ordinary, hname.names, fun base ↦ rfl⟩
    · obtain ⟨p, hp, hpnames, hdescend⟩ :=
        ih hempty fun other hother ↦ hnames other (List.mem_append_left _ hother)
      refine ⟨p.join ⟨name⟩, hp.join hname.ordinary, ?_, fun base ↦ ?_⟩
      · rw [FilePath.names_join p hname.ordinary, hpnames, hname.names]
      · have hlast : base.descend (place ++ [name]) = (base.descend place).join ⟨name⟩ :=
          List.foldl_append
        rw [hlast, hdescend, FilePath.join_assoc base hp.text_ne_empty hp.isAbsolute_eq_false
          hname.ordinary.isAbsolute_eq_false]

theorem names_descend {place : Place} (hplace : place ≠ [])
    (hnames : ∀ name ∈ place, IsEntryName name) (base : FilePath) :
    (base.descend place).names = base.names ++ place := by
  obtain ⟨p, hp, hpnames, hdescend⟩ := exists_descend_eq_join hplace hnames
  rw [hdescend, FilePath.names_join base hp, hpnames]

theorem fileName?_descend {name : String} (hname : IsEntryName name) (base : FilePath)
    (folder : Place) : (base.descend (folder ++ [name])).fileName? = some name := by
  have hlast : base.descend (folder ++ [name]) = (base.descend folder).join ⟨name⟩ :=
    List.foldl_append
  rw [hlast, FilePath.fileName?_join _ hname.ordinary, hname.names]
  rfl

theorem FileTree.WellFormed.isFile_descend_iff (ht : t.WellFormed) {directory place : Place}
    (hbase : t.resolve base = .ok directory) (hplace : place ≠ [])
    (hnames : ∀ name ∈ place, IsEntryName name) : t.isFile (base.descend place) = true ↔
      ∃ content, t.find? (directory ++ place) = some (.file content) := by
  obtain ⟨p, hp, hpnames, hdescend⟩ := exists_descend_eq_join hplace hnames
  rw [hdescend, ht.isFile_join_iff hp hbase, hpnames]

/-! ### Names of models -/

def modelExtensions : List String := ["json", "yaml", "yml"]

theorem not_mem_of_mem_modelExtensions {extension : String} (h : extension ∈ modelExtensions) :
    '.' ∉ extension.toList := by
  revert h extension
  decide

/-- A name with one of three extensions, and something before its last dot. -/
def IsModelName (name : String) : Prop :=
  ∃ stem extension, stem ≠ "" ∧ extension ∈ modelExtensions ∧ name = stem ++ "." ++ extension

theorem isModelName_iff {name : String} : IsModelName name ↔
    ∃ extension, FilePath.nameExtension? name = some extension ∧
      extension ∈ modelExtensions := by
  constructor
  · rintro ⟨stem, extension, hstem, hmodel, hsplit⟩
    refine ⟨extension, FilePath.nameExtension?_eq_some_iff.mpr ?_, hmodel⟩
    exact ⟨not_mem_of_mem_modelExtensions hmodel, stem, hstem, hsplit⟩
  · rintro ⟨extension, hextension, hmodel⟩
    obtain ⟨_, stem, hstem, hsplit⟩ := FilePath.nameExtension?_eq_some_iff.mp hextension
    exact ⟨stem, extension, hstem, hmodel, hsplit⟩

/-- A name that is nothing but an extension is not that of a model. -/
theorem not_isModelName_dot {extension : String} (h : '.' ∉ extension.toList) :
    ¬ IsModelName ("." ++ extension) := by
  have hnone : FilePath.nameExtension? ("" ++ String.singleton '.' ++ extension) = none := by
    rw [FilePath.nameExtension?, Text.splitLast_append "" h]
    rfl
  rw [isModelName_iff]
  rintro ⟨_, hextension, _⟩
  rw [← String.empty_append (s := "."), Text.dot_eq_singleton, hnone] at hextension
  cases hextension

theorem Format.isSome_ofExtension?_iff {extension : String} :
    (Format.ofExtension? extension).isSome = true ↔ extension ∈ modelExtensions := by
  rw [Format.ofExtension?.eq_def]
  split
  · simp [modelExtensions]
  · simp [modelExtensions]
  · simp [modelExtensions]
  · rename_i hjson hyaml hyml
    simpa [modelExtensions] using ⟨hjson, hyaml, hyml⟩

theorem isModelPath_iff {p : FilePath} {name : String} (hname : p.fileName? = some name) :
    isModelPath p = true ↔ IsModelName name := by
  rw [isModelPath, Format.ofPath?, FilePath.extension?, hname, Option.bind_some, isModelName_iff,
    Option.isSome_bind, Option.any_eq_true]
  refine exists_congr fun extension ↦ and_congr_right fun _ ↦ ?_
  exact Format.isSome_ofExtension?_iff

/-! ### What is listed -/

/-- A file below the directory, at any depth and whatever the directories on the way are called,
that has the name of a model. -/
def IsModelBelow (t : FileTree) (base p : FilePath) : Prop :=
  ∃ folder name, (∀ entry ∈ folder ++ [name], IsEntryName entry) ∧ IsModelName name ∧
    p = base.descend (folder ++ [name]) ∧ t.isFile p = true

/-- The components of a path, each as its bytes. -/
def FilePath.byteNames (p : FilePath) : List (List UInt8) :=
  p.names.map Text.bytes

/-- The models of a walk. -/
def modelsOnWalk (t : FileTree) (base : FilePath) (directory : Place) : List FilePath :=
  ((t.visit t.height directory).map base.descend).filter isModelPath

theorem map_bytes_lt {a b : List String} (h : a < b) : a.map Text.bytes < b.map Text.bytes := by
  induction h with
  | nil => exact List.Lex.nil
  | cons _ ih => exact List.Lex.cons ih
  | rel h => exact List.Lex.rel (Text.bytes_lt h)

theorem mem_modelsOnWalk_iff (ht : t.WellFormed) {directory : Place}
    (hbase : t.resolve base = .ok directory) {p : FilePath} :
    p ∈ modelsOnWalk t base directory ↔ IsModelBelow t base p := by
  rw [modelsOnWalk, List.mem_filter, List.mem_map]
  constructor
  · rintro ⟨⟨inner, hinner, rfl⟩, hmodel⟩
    obtain ⟨hne, _, content, hfile⟩ := ht.mem_visit_iff.mp hinner
    have hnames : ∀ name ∈ inner, IsEntryName name := fun name hname ↦
      ht.isEntryName_of_find? hfile name (List.mem_append_right directory hname)
    have hisFile := (ht.isFile_descend_iff hbase hne hnames).mpr ⟨content, hfile⟩
    obtain ⟨folder, name, rfl⟩ := List.eq_nil_or_concat' inner |>.resolve_left hne
    have hname := fileName?_descend (hnames name (by simp)) base folder
    exact ⟨folder, name, hnames, (isModelPath_iff hname).mp hmodel, rfl, hisFile⟩
  · rintro ⟨folder, name, hnames, hmodel, rfl, hisFile⟩
    have hne : folder ++ [name] ≠ [] := List.append_ne_nil_of_right_ne_nil folder (by simp)
    obtain ⟨content, hfile⟩ := (ht.isFile_descend_iff hbase hne hnames).mp hisFile
    have hname := fileName?_descend (hnames name (by simp)) base folder
    refine ⟨⟨folder ++ [name], ht.mem_visit_height_iff.mpr ⟨hne, content, hfile⟩, rfl⟩, ?_⟩
    exact (isModelPath_iff hname).mpr hmodel

theorem pairwise_modelsOnWalk (ht : t.WellFormed) (base : FilePath) (directory : Place) :
    ((modelsOnWalk t base directory).map FilePath.byteNames).Pairwise (· < ·) := by
  have hnames (inner : Place) (h : inner ∈ t.visit t.height directory) :
      (base.descend inner).names = base.names ++ inner := by
    obtain ⟨hne, content, hfile⟩ := ht.mem_visit_height_iff.mp h
    exact names_descend hne (fun name hname ↦
      ht.isEntryName_of_find? hfile name (List.mem_append_right directory hname)) base
  refine List.pairwise_map.mpr (List.Pairwise.filter _ (List.pairwise_map.mpr ?_))
  refine (ht.pairwise_visit t.height directory).imp_of_mem fun hinner hinner' hlt ↦ ?_
  rw [FilePath.byteNames, FilePath.byteNames, hnames _ hinner, hnames _ hinner', List.map_append,
    List.map_append]
  exact List.Lex.append_left _ (map_bytes_lt hlt) _

/-- What is found below an input directory. -/
structure Listing (t : FileTree) (base : FilePath) (found : List FilePath) : Prop where
  mem_iff : ∀ p, p ∈ found ↔ IsModelBelow t base p
  /-- Whatever file the tree has below the directory, its path is found if its name is that of a
  model. -/
  complete : ∀ directory folder name content, t.resolve base = .ok directory →
    t.find? (directory ++ (folder ++ [name])) = some (.file content) → IsModelName name →
      base.descend (folder ++ [name]) ∈ found
  /-- In strict order, so that nothing is found twice. -/
  pairwise : (found.map FilePath.byteNames).Pairwise (· < ·)
  /-- A walk that takes the entries of each directory in the order of their names finds the same. -/
  walk : ∃ directory, t.resolve base = .ok directory ∧
    found = modelsOnWalk t base directory
  /-- A directory is not found, whatever its name. -/
  notDirectory : ∀ p ∈ found, t.isDirectory p = false
  /-- A name that is nothing but an extension is that of no model. -/
  notDot : ∀ p ∈ found, ∀ extension ∈ modelExtensions, p.fileName? ≠ some ("." ++ extension)

theorem listing_modelsOnWalk (ht : t.WellFormed) {directory : Place}
    (hbase : t.resolve base = .ok directory) :
    Listing t base (modelsOnWalk t base directory) where
  mem_iff _ := mem_modelsOnWalk_iff ht hbase
  complete := by
    intro directory' folder name content hbase' hfile hmodel
    obtain rfl : directory = directory' := Except.ok.inj (hbase.symm.trans hbase')
    have hnames : ∀ entry ∈ folder ++ [name], IsEntryName entry := fun entry hentry ↦
      ht.isEntryName_of_find? hfile entry (List.mem_append_right directory hentry)
    have hisFile := (ht.isFile_descend_iff hbase (by simp) hnames).mpr ⟨content, hfile⟩
    exact (mem_modelsOnWalk_iff ht hbase).mpr ⟨folder, name, hnames, hmodel, rfl, hisFile⟩
  pairwise := pairwise_modelsOnWalk ht base directory
  walk := ⟨directory, hbase, rfl⟩
  notDirectory := by
    intro p hp
    obtain ⟨_, _, _, _, _, hisFile⟩ := (mem_modelsOnWalk_iff ht hbase).mp hp
    obtain ⟨content, hfile⟩ := FileTree.isFile_iff.mp hisFile
    rw [Bool.eq_false_iff]
    intro hdirectory
    rw [FileTree.isDirectory_iff.mp hdirectory] at hfile
    cases hfile
  notDot := by
    intro p hp extension hextension hdot
    obtain ⟨folder, name, hnames, hmodel, rfl, _⟩ := (mem_modelsOnWalk_iff ht hbase).mp hp
    rw [fileName?_descend (hnames name (by simp))] at hdot
    rw [Option.some.inj hdot] at hmodel
    exact not_isModelName_dot (not_mem_of_mem_modelExtensions hextension) hmodel

/-- What the settings find in a tree. -/
structure Discovers (t : FileTree) (s : Settings) : Prop where
  /-- A model that is configured is found if it is a file. Nothing else in the tree matters. -/
  ofSpec : ∀ spec p, s.spec = some spec →
    p = (if spec.isRelative then s.inputBaseDir.elim spec (·.join spec) else spec) →
      outcome t s.discover = if t.isFile p then .ok [p] else .error (.specNotFound p)
  /-- Without one the input directory is listed. -/
  ofDirectory : ∀ base, s.spec = none → base = s.inputBaseDir.getD ⟨"src/main/openapi"⟩ →
    t.isDirectory base = true → ∃ found, outcome t s.discover = .ok found ∧ Listing t base found
  ofNoDirectory : ∀ base, s.spec = none → base = s.inputBaseDir.getD ⟨"src/main/openapi"⟩ →
    t.isDirectory base = false → outcome t s.discover = .error (.inputDirectoryNotFound base)

theorem Settings.resolvedSpec_eq_none_iff {s : Settings} :
    s.resolvedSpec = none ↔ s.spec = none := by
  rw [resolvedSpec]
  cases s.spec <;> cases s.inputBaseDir <;> simp

theorem Settings.resolvedSpec_of_spec {s : Settings} {spec : FilePath} (h : s.spec = some spec) :
    s.resolvedSpec =
      some (if spec.isRelative then s.inputBaseDir.elim spec (·.join spec) else spec) := by
  rw [resolvedSpec, h]
  cases s.inputBaseDir with
  | none => simp
  | some base => rfl

/-- What is found is the configured model, or else the models below the input directory in their
order, or else nothing, whether these paths start with a slash or not. -/
theorem Settings.discovers (s : Settings) {t : FileTree} (ht : t.WellFormed) : Discovers t s where
  ofSpec := by
    rintro spec _ hspec rfl
    exact s.outcome_discover_of_spec (resolvedSpec_of_spec hspec) t
  ofDirectory := by
    rintro _ hspec rfl hdirectory
    obtain ⟨directory, hbase, _⟩ :=
      FileTree.lookup_eq_ok_iff.mp (FileTree.isDirectory_iff.mp hdirectory)
    refine ⟨_, ?_, listing_modelsOnWalk ht hbase⟩
    have houtcome := (s.outcome_discover_of_directory (resolvedSpec_eq_none_iff.mpr hspec) t).trans
      (if_pos hdirectory)
    rw [modelsOnWalk, ht.visit_height_eq hbase]
    exact houtcome
  ofNoDirectory := by
    rintro _ hspec rfl hdirectory
    exact (s.outcome_discover_of_directory (resolvedSpec_eq_none_iff.mpr hspec) t).trans
      (if_neg (Bool.eq_false_iff.mp hdirectory))

/-- Directories among models, one of them with the name of a model, and names that start alike. -/
def modelTree : FileTree where
  entries :=
    let text := Entry.file (.text "")
    [(["home"], .directory), (["home", "api"], .directory),
      (["home", "api", "b.json"], .directory), (["home", "api", "b.json", "c.yml"], text),
      (["home", "api", "a-b.yaml"], text), (["home", "api", "a"], .directory),
      (["home", "api", "a", "z.json"], text), (["home", "api", ".json"], text),
      (["home", "api", "README.md"], text)]
  workingDirectory := ["home"]

/-- As whole texts the first two paths would be the other way round. -/
theorem discovers_modelTree :
    (∃ found, outcome modelTree { inputBaseDir := some ⟨"/home/api"⟩ : Settings }.discover =
        .ok found ∧
      found = [⟨"/home/api/a/z.json"⟩, ⟨"/home/api/a-b.yaml"⟩, ⟨"/home/api/b.json/c.yml"⟩] ∧
        Listing modelTree ⟨"/home/api"⟩ found) ∧
    outcome modelTree
        { spec := some ⟨"/home/api/a-b.yaml"⟩, inputBaseDir := some ⟨"a"⟩ : Settings }.discover =
      .ok [⟨"/home/api/a-b.yaml"⟩] ∧
    outcome modelTree
        { spec := some ⟨"b.json"⟩, inputBaseDir := some ⟨"api"⟩ : Settings }.discover =
      .error (.specNotFound ⟨"api/b.json"⟩) := by
  have hwellFormed : modelTree.WellFormed := by decide +kernel
  refine ⟨?_, ?_, ?_⟩
  · have hdiscovers := Settings.discovers { inputBaseDir := some ⟨"/home/api"⟩ } hwellFormed
    obtain ⟨found, hfound, hlisting⟩ := hdiscovers.ofDirectory _ rfl rfl (by decide +kernel)
    refine ⟨found, hfound, ?_, hlisting⟩
    obtain ⟨directory, hbase, rfl⟩ := hlisting.walk
    have hapi : modelTree.resolve ⟨"/home/api"⟩ = .ok ["home", "api"] := by decide +kernel
    obtain rfl : directory = ["home", "api"] := Except.ok.inj (hbase.symm.trans hapi)
    decide +kernel
  · have hdiscovers := Settings.discovers
      { spec := some ⟨"/home/api/a-b.yaml"⟩, inputBaseDir := some ⟨"a"⟩ } hwellFormed
    exact (hdiscovers.ofSpec _ ⟨"/home/api/a-b.yaml"⟩ rfl (by decide +kernel)).trans
      (if_pos (by decide +kernel))
  · have hdiscovers := Settings.discovers
      { spec := some ⟨"b.json"⟩, inputBaseDir := some ⟨"api"⟩ } hwellFormed
    exact (hdiscovers.ofSpec _ ⟨"api/b.json"⟩ rfl (by decide +kernel)).trans
      (if_neg (by decide +kernel))

end Jaxrs
