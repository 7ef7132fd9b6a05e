import Jaxrs.Proofs.Command.Write
import Jaxrs.Proofs.Generation

/-!
Where the files of an API go. A path of a source file tells the package and the name of its
interface (`Interface.sourcePath_eq_iff`), and so two resources share a path exactly if they have
one package and one class name. Nothing keeps the resources of an API from that, and of two sources
with one path only the later one is on disk in the end (`Settings.paths_of_generate`).
-/

set_option autoImplicit false

namespace Jaxrs

/-- The directories that a package stands for. -/
def packageNames (package : String) : List String :=
  (Text.segments '.' package).filter (!·.isEmpty)

theorem packageNames_empty : packageNames "" = [] := by
  decide

theorem packageNames_of_isQualifiedName {package : String} (h : isQualifiedName package = true) :
    packageNames package = Text.segments '.' package := by
  rw [packageNames, List.filter_eq_self]
  intro name hname
  simpa using ne_empty_of_isIdentifier (isQualifiedName_iff.mp h name hname)

theorem isIdentifier_of_mem_packageNames {package name : String}
    (h : package = "" ∨ isQualifiedName package = true) (hname : name ∈ packageNames package) :
    isIdentifier name = true := by
  rcases h with rfl | hqualified
  · rw [packageNames_empty] at hname
    exact absurd hname List.not_mem_nil
  · rw [packageNames_of_isQualifiedName hqualified] at hname
    exact isQualifiedName_iff.mp hqualified name hname

theorem packageNames_ne_nil {package : String} (h : isQualifiedName package = true) :
    packageNames package ≠ [] := by
  obtain ⟨first, others, hcut⟩ := Text.exists_cut_eq_cons (· == '.') package.toList
  rw [packageNames_of_isQualifiedName h, Text.segments, hcut, List.map_cons]
  exact List.cons_ne_nil _ _

theorem eq_of_packageNames_eq {package package' : String}
    (h : package = "" ∨ isQualifiedName package = true)
    (h' : package' = "" ∨ isQualifiedName package' = true)
    (heq : packageNames package = packageNames package') : package = package' := by
  rcases h with rfl | hqualified
  · rcases h' with rfl | hqualified'
    · rfl
    · rw [packageNames_empty] at heq
      exact absurd heq.symm (packageNames_ne_nil hqualified')
  · rcases h' with rfl | hqualified'
    · rw [packageNames_empty] at heq
      exact absurd heq (packageNames_ne_nil hqualified)
    · rw [packageNames_of_isQualifiedName hqualified,
        packageNames_of_isQualifiedName hqualified'] at heq
      rw [← Text.joinWith_segments '.' package, heq, Text.joinWith_segments]

/-! ### The path of an interface -/

namespace Interface

variable {framework : Framework} {i j : Interface}

theorem segments_sourcePath (hi : i.WellFormed framework) :
    Text.segments '/' i.sourcePath.text = packageNames i.package ++ [i.name ++ ".java"] := by
  have hslash : Identifier.isPart '/' = false := by decide
  rw [sourcePath, Text.slash_eq_singleton]
  refine Text.segments_joinWith (by simp) fun name hname ↦ ?_
  rcases List.mem_append.mp hname with hpackage | hfile
  · exact not_mem_of_isIdentifier (isIdentifier_of_mem_packageNames hi.package hpackage) hslash
  · obtain rfl := List.mem_singleton.mp hfile
    exact FilePath.not_mem_source hi.name

theorem ordinary_sourcePath (hi : i.WellFormed framework) : i.sourcePath.Ordinary := by
  intro name hname
  rw [segments_sourcePath hi] at hname
  rcases List.mem_append.mp hname with hpackage | hfile
  · have hidentifier := isIdentifier_of_mem_packageNames hi.package hpackage
    refine ⟨ne_empty_of_isIdentifier hidentifier, ?_, ?_⟩
    · rintro rfl
      exact absurd hidentifier (by decide)
    · rintro rfl
      exact absurd hidentifier (by decide)
  · refine FilePath.ordinary_source hi.name name ?_
    rwa [Text.segments_eq_singleton (FilePath.not_mem_source hi.name)]

/-- The path of an interface tells its package and its name. -/
theorem sourcePath_eq_iff (hi : i.WellFormed framework) (hj : j.WellFormed framework) :
    i.sourcePath = j.sourcePath ↔ i.package = j.package ∧ i.name = j.name := by
  constructor
  · intro h
    have hsegments := segments_sourcePath hi
    rw [h, segments_sourcePath hj] at hsegments
    obtain ⟨hpackage, hfile⟩ := List.append_inj' hsegments rfl
    have hname : j.name = i.name := (String.append_left_inj _).mp (List.singleton_inj.mp hfile)
    exact ⟨(eq_of_packageNames_eq hj.package hi.package hpackage).symm, hname.symm⟩
  · rintro ⟨hpackage, hname⟩
    rw [sourcePath, sourcePath, hpackage, hname]

end Interface

/-! ### The files of an API -/

section Keys

variable {α β κ ι : Type} {R : α → β → Prop} {k : α → κ} {l : β → ι}

private theorem mem_map_iff_of_forall₂ {a : α} {b : β} {as : List α} {bs : List β}
    (hkey : ∀ a b a' b', R a b → R a' b' → (k a = k a' ↔ l b = l b')) (hab : R a b)
    (hlist : List.Forall₂ R as bs) : k a ∈ as.map k ↔ l b ∈ bs.map l := by
  induction hlist with
  | nil => simp
  | cons hcons _ ih =>
    rw [List.map_cons, List.map_cons, List.mem_cons, List.mem_cons, ih, hkey _ _ _ _ hab hcons]

/-- Keys that agree on what is related are distinct together. -/
private theorem nodup_map_iff_of_forall₂ {as : List α} {bs : List β}
    (hkey : ∀ a b a' b', R a b → R a' b' → (k a = k a' ↔ l b = l b'))
    (hlist : List.Forall₂ R as bs) : (as.map k).Nodup ↔ (bs.map l).Nodup := by
  induction hlist with
  | nil => simp
  | cons hcons hrest ih =>
    rw [List.map_cons, List.map_cons, List.nodup_cons, List.nodup_cons, ih,
      mem_map_iff_of_forall₂ hkey hcons hrest]

end Keys

namespace Settings

variable {s : Settings} {framework : Framework} {render : String → String} {api : Api}
  {r r' : Resource} {file file' : SourceFile} {files : List SourceFile}

theorem exists_interface_of_generateResource
    (h : s.generateResource framework render api r = .ok file) :
    ∃ i : Interface, i.WellFormed framework ∧ i.package = r.package ∧
      i.name = r.interfaceName s ∧ file.path = i.sourcePath ∧
        file.qualifiedName = i.qualifiedName := by
  obtain ⟨i, hi, hfile⟩ := Except.bind_eq_ok_iff.mp h
  have hvalid := Interface.exists_sourceFile_eq_ok_iff.mp ⟨file, hfile⟩
  obtain ⟨methods, _, rfl⟩ := Resource.interface_eq_ok_iff.mp hi
  obtain ⟨content, _, hcontent⟩ := Except.bind_eq_ok_iff.mp hfile
  cases hcontent
  exact ⟨_, hvalid, rfl, rfl, rfl, rfl⟩

theorem ordinary_path_of_generateResource
    (h : s.generateResource framework render api r = .ok file) : file.path.Ordinary := by
  obtain ⟨i, hvalid, _, _, hpath, _⟩ := exists_interface_of_generateResource h
  rw [hpath]
  exact Interface.ordinary_sourcePath hvalid

/-- The suffix is that of the settings for both, so that it does not tell two names apart. -/
theorem path_eq_iff_of_generateResource
    (h : s.generateResource framework render api r = .ok file)
    (h' : s.generateResource framework render api r' = .ok file') :
    file.path = file'.path ↔
      r.package = r'.package ∧ ClassName.ofName r.name = ClassName.ofName r'.name := by
  obtain ⟨i, hi, hpackage, hname, hpath, _⟩ := exists_interface_of_generateResource h
  obtain ⟨j, hj, hpackage', hname', hpath', _⟩ := exists_interface_of_generateResource h'
  rw [hpath, hpath', Interface.sourcePath_eq_iff hi hj, hpackage, hpackage', hname, hname',
    Resource.interfaceName, Resource.interfaceName, String.append_left_inj]

theorem nodup_path_iff (h : s.generate framework render api = .ok files) :
    (files.map SourceFile.path).Nodup ↔
      (api.resources.map fun r ↦ (r.package, ClassName.ofName r.name)).Nodup := by
  obtain ⟨_, hfiles⟩ := generate_eq_ok_iff.mp h
  refine (nodup_map_iff_of_forall₂ (fun r file r' file' hr hr' ↦ ?_) hfiles).symm
  rw [path_eq_iff_of_generateResource hr hr', Prod.mk.injEq]

theorem ordinary_path_of_generate (h : s.generate framework render api = .ok files) :
    ∀ file ∈ files, file.path.Ordinary := by
  obtain ⟨_, hfiles⟩ := generate_eq_ok_iff.mp h
  intro file hfile
  obtain ⟨r, _, hr⟩ := exists_mem_of_forall₂ hfiles hfile
  exact ordinary_path_of_generateResource hr

/-- Files have distinct paths exactly if no two resources of one package have the same class name.
What is on disk in the end is the last source of each path, and so all of the sources if their paths
are distinct. -/
theorem paths_of_generate (h : s.generate framework render api = .ok files) :
    ((files.map SourceFile.path).Nodup ↔
        (api.resources.map fun r ↦ (r.package, ClassName.ofName r.name)).Nodup) ∧
      ∀ outputDir t t' paths, runOn t (writeSources outputDir files) = (.ok paths, t') →
        (∀ before file after, files = before ++ file :: after →
          (∀ later ∈ after, later.path ≠ file.path) →
            t'.readText (outputDir.join file.path) = .ok file.content) ∧
        ((files.map SourceFile.path).Nodup →
          ∀ file ∈ files, t'.readText (outputDir.join file.path) = .ok file.content) := by
  have hordinary := ordinary_path_of_generate h
  refine ⟨nodup_path_iff h, fun outputDir t t' paths hwrite ↦ ?_⟩
  have hlast : ∀ before file after, files = before ++ file :: after →
      (∀ later ∈ after, later.path ≠ file.path) →
        t'.readText (outputDir.join file.path) = .ok file.content := by
    rintro before file after rfl hother
    exact readText_of_writeSources hordinary hother hwrite
  refine ⟨hlast, fun hnodup file hfile ↦ ?_⟩
  obtain ⟨before, after, rfl⟩ := List.append_of_mem hfile
  refine hlast before file after rfl fun later hlater hpath ↦ ?_
  rw [List.map_append, List.map_cons] at hnodup
  have hfresh := (List.nodup_cons.mp hnodup.of_append_right).1
  exact hfresh (hpath ▸ List.mem_map_of_mem hlater)

/-- One resource in two packages, of which one has no name. -/
def petsTwice : Api where
  name := "petstore"
  version := none
  contextRoot := "/api"
  resources := [⟨"", "pets", "/pets", []⟩, ⟨"org.acme.api", "pets", "/pets", []⟩]

theorem paths_of_generate_petsTwice : ∃ files,
    ({} : Settings).generate (.jaxrs .jakarta) id petsTwice = .ok files ∧
      (files.map SourceFile.path).Nodup ∧
      ∀ outputDir t t' paths, runOn t (writeSources outputDir files) = (.ok paths, t') →
        ∀ file ∈ files, t'.readText (outputDir.join file.path) = .ok file.content := by
  have hpaths : (({} : Settings).generate (.jaxrs .jakarta) id petsTwice).map
      (List.map SourceFile.path) = .ok [⟨"Pets.java"⟩, ⟨"org/acme/api/Pets.java"⟩] := by
    decide +kernel
  obtain ⟨files, h, -⟩ := Except.map_eq_ok_iff.mp hpaths
  have hkeys : (petsTwice.resources.map fun r ↦ (r.package, ClassName.ofName r.name)).Nodup := by
    decide +kernel
  have hnodup := (paths_of_generate h).1.mpr hkeys
  refine ⟨files, h, hnodup, fun outputDir t t' paths hwrite ↦ ?_⟩
  exact ((paths_of_generate h).2 outputDir t t' paths hwrite).2 hnodup

/-- Two names that are the same in camel case. -/
def petStores : Api where
  name := "petstore"
  version := none
  contextRoot := ""
  resources := [⟨"org.acme.api", "pet-store", "/a", []⟩, ⟨"org.acme.api", "petStore", "/b", []⟩]

/-- The source of an interface without methods. -/
def petStore (path : String) : SourceFile where
  qualifiedName := "org.acme.api.PetStore"
  path := ⟨"org/acme/api/PetStore.java"⟩
  content :=
    "package org.acme.api;\n\nimport jakarta.ws.rs.Path;\n\n" ++
      "/**\n * A JAX-RS interface. An implementation of this interface must be provided.\n */\n" ++
      "@Path(\"" ++ path ++ "\")\npublic interface PetStore \x7b\n\x7d\n"

/-- Both sources are generated and both are written, and the second takes the place of the first. -/
theorem generate_petStores :
    ({} : Settings).generate (.jaxrs .jakarta) id petStores = .ok [petStore "/a", petStore "/b"] ∧
      ¬ ([petStore "/a", petStore "/b"].map SourceFile.path).Nodup ∧
      outcome .empty (writeSources ⟨"out"⟩ [petStore "/a", petStore "/b"]) =
        .ok [⟨"out/org/acme/api/PetStore.java"⟩, ⟨"out/org/acme/api/PetStore.java"⟩] ∧
      (runOn .empty (writeSources ⟨"out"⟩ [petStore "/a", petStore "/b"])).2.readText
        ⟨"out/org/acme/api/PetStore.java"⟩ = .ok (petStore "/b").content := by
  decide +kernel

end Settings

end Jaxrs
