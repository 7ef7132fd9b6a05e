import Jaxrs.Proofs.Generation.Paths

/-!
Where the sources of an API lie. A package, a resource and a suffix are texts of any kind, but what
has been generated is named by identifiers (`Interface.placed_sourceFile`): the path of a source is
its qualified name, one directory for each segment of the package. Identifiers hold neither slashes
nor dots, and so a source lies strictly below every directory that its path is joined to
(`FilePath.Ordinary.strictlyBelow_join`). `Settings.placement_of_generate` puts the two together.
-/

set_option autoImplicit false

namespace Jaxrs

/-! ### Paths below a directory -/

namespace FilePath

/-- The path goes down from the base by at least one name, and never up. -/
structure StrictlyBelow (p base : FilePath) : Prop where
  isAbsolute : p.isAbsolute = base.isAbsolute
  names : ∃ inner, inner ≠ [] ∧ ".." ∉ inner ∧ p.names = base.names ++ inner

theorem Ordinary.strictlyBelow_join {p : FilePath} (hp : p.Ordinary) (base : FilePath) :
    (base.join p).StrictlyBelow base :=
  ⟨isAbsolute_join base hp, p.names, hp.names_ne_nil, hp.not_mem_names, names_join base hp⟩

/-- What keeps a path inside of every directory that it is joined to. -/
structure Contained (p : FilePath) : Prop where
  relative : p.isRelative = true
  ordinary : p.Ordinary
  below : ∀ base : FilePath, (base.join p).StrictlyBelow base
  /-- In a tree, the place of the path is that of the directory with the path's names after it. -/
  place : ∀ (t : FileTree) (base : FilePath) (place : Place),
    t.resolve (base.join p) = .ok place →
      ∃ directory, t.walk (t.start base) (Text.segments '/' base.text) = .ok directory ∧
        place = directory ++ p.names

theorem Ordinary.contained {p : FilePath} (hp : p.Ordinary) : p.Contained where
  relative := by rw [isRelative, hp.isAbsolute_eq_false, Bool.not_false]
  ordinary := hp
  below := hp.strictlyBelow_join
  place _ _ _ := FileTree.place_of_join hp

end FilePath

/-! ### Sources named by identifiers -/

/-- A source of a qualified name, in a directory for each segment of its package. -/
structure SourceFile.Placed (file : SourceFile) (directories : List String) (name : String) :
    Prop where
  ofDirectory : ∀ directory ∈ directories, isIdentifier directory = true
  ofName : isIdentifier name = true
  components : Text.segments '/' file.path.text = directories ++ [name ++ ".java"]
  qualifiedName : Text.joinWith "." (directories ++ [name]) = file.qualifiedName

namespace SourceFile

variable {file file' : SourceFile} {directories directories' : List String} {name name' : String}

theorem Placed.segments_qualifiedName (h : file.Placed directories name) :
    Text.segments '.' file.qualifiedName = directories ++ [name] := by
  rw [← h.qualifiedName, Text.dot_eq_singleton]
  refine Text.segments_joinWith (by simp) fun segment hsegment ↦ ?_
  have hidentifier : isIdentifier segment = true := by
    rcases List.mem_append.mp hsegment with hdirectory | hname
    · exact h.ofDirectory segment hdirectory
    · obtain rfl := List.mem_singleton.mp hname
      exact h.ofName
  exact not_mem_of_isIdentifier hidentifier (by decide)

/-- The path and the qualified name of a source tell the same, its directories and its name. -/
theorem Placed.path_eq_iff (h : file.Placed directories name)
    (h' : file'.Placed directories' name') :
    file.path = file'.path ↔ file.qualifiedName = file'.qualifiedName := by
  constructor
  · intro hpath
    have hcomponents := h.components
    rw [hpath, h'.components] at hcomponents
    obtain ⟨hdirectories, hfile⟩ := List.append_inj' hcomponents rfl
    have hname : name' = name := (String.append_left_inj _).mp (List.singleton_inj.mp hfile)
    rw [← h.qualifiedName, ← h'.qualifiedName, hdirectories, hname]
  · intro hqualified
    have hsegments := h.segments_qualifiedName
    rw [hqualified, h'.segments_qualifiedName] at hsegments
    obtain ⟨hdirectories, hname⟩ := List.append_inj' hsegments rfl
    refine FilePath.eq_of_segments_eq ?_
    rw [h.components, h'.components, hdirectories, List.singleton_inj.mp hname]

end SourceFile

namespace Interface

variable {framework : Framework} {i : Interface}

theorem segments_qualifiedName (hi : i.WellFormed framework) :
    Text.segments '.' i.qualifiedName = packageNames i.package ++ [i.name] := by
  have hname : Text.segments '.' i.name = [i.name] :=
    Text.segments_eq_singleton (not_mem_of_isIdentifier hi.name (by decide))
  rw [qualifiedName]
  rcases hi.package with hempty | hqualified
  · rw [hempty, packageNames_empty]
    exact hname
  · have hne : i.package.isEmpty = false := by
      rw [Bool.eq_false_iff]
      intro hempty
      rw [String.isEmpty_iff.mp hempty] at hqualified
      exact absurd hqualified (by decide)
    rw [hne, if_neg Bool.false_ne_true, Text.dot_eq_singleton, Text.segments_append, hname,
      packageNames_of_isQualifiedName hqualified]

theorem placed_sourceFile {file : SourceFile} (hi : i.WellFormed framework)
    (hpath : file.path = i.sourcePath) (hqualified : file.qualifiedName = i.qualifiedName) :
    file.Placed (packageNames i.package) i.name where
  ofDirectory _ := isIdentifier_of_mem_packageNames hi.package
  ofName := hi.name
  components := by rw [hpath, segments_sourcePath hi]
  qualifiedName := by
    rw [hqualified, ← segments_qualifiedName hi, Text.dot_eq_singleton, Text.joinWith_segments]

end Interface

/-! ### The sources of an API -/

namespace Settings

variable {s : Settings} {framework : Framework} {render : String → String} {api : Api}
  {files : List SourceFile}

theorem exists_placed_of_generate (h : s.generate framework render api = .ok files) :
    ∀ file ∈ files, ∃ directories name, file.Placed directories name := by
  obtain ⟨_, hfiles⟩ := generate_eq_ok_iff.mp h
  intro file hfile
  obtain ⟨r, _, hr⟩ := exists_mem_of_forall₂ hfiles hfile
  obtain ⟨i, hi, _, _, hpath, hqualified⟩ := exists_interface_of_generateResource hr
  exact ⟨packageNames i.package, i.name, Interface.placed_sourceFile hi hpath hqualified⟩

/-- A source is at the path that its qualified name tells, whatever the package, the resource and
the suffix are called, and that path does not leave the directory that it is joined to. -/
theorem placement_of_generate (h : s.generate framework render api = .ok files) :
    (∀ file ∈ files, (∃ directories name, file.Placed directories name) ∧ file.path.Contained) ∧
      ∀ file ∈ files, ∀ file' ∈ files,
        (file.path = file'.path ↔ file.qualifiedName = file'.qualifiedName) := by
  have hplaced := exists_placed_of_generate h
  constructor
  · intro file hfile
    exact ⟨hplaced file hfile, (ordinary_path_of_generate h file hfile).contained⟩
  · intro file hfile file' hfile'
    obtain ⟨directories, name, hname⟩ := hplaced file hfile
    obtain ⟨directories', name', hname'⟩ := hplaced file' hfile'
    exact hname.path_eq_iff hname'

/-- Names with dots, slashes and digits, in a package with a dollar sign and in none. -/
def unrulyNames : Api where
  name := "petstore"
  version := none
  contextRoot := ""
  resources :=
    [⟨"org.acme.v$2", "../2fa codes", "/codes", []⟩, ⟨"", "./pets//", "/pets", []⟩]

theorem placement_of_generate_unrulyNames : ∃ files,
    ({ naming := ⟨"$Api"⟩ } : Settings).generate (.jaxrs .jakarta) id unrulyNames = .ok files ∧
      files.map SourceFile.path = [⟨"org/acme/v$2/_2faCodes$Api.java"⟩, ⟨"Pets$Api.java"⟩] ∧
      (∀ file ∈ files, (∃ directories name, file.Placed directories name) ∧ file.path.Contained) ∧
      ∀ file ∈ files, ∀ file' ∈ files,
        (file.path = file'.path ↔ file.qualifiedName = file'.qualifiedName) := by
  have hpaths : (({ naming := ⟨"$Api"⟩ } : Settings).generate (.jaxrs .jakarta) id unrulyNames).map
      (List.map SourceFile.path) =
        .ok [⟨"org/acme/v$2/_2faCodes$Api.java"⟩, ⟨"Pets$Api.java"⟩] := by
    decide +kernel
  obtain ⟨files, h, hfiles⟩ := Except.map_eq_ok_iff.mp hpaths
  exact ⟨files, h, hfiles, placement_of_generate h⟩

end Settings

end Jaxrs
