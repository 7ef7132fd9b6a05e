import Jaxrs.Proofs.Generation
import Jaxrs.Proofs.Settings.Validity
import Jaxrs.Proofs.Source.Fault

/-!
What can still fail with settings that have passed their checks. A resource that is well-formed by
itself (`Resource.WellFormed`) is generated with valid settings unless a suffix that is no part of
an identifier gets into the name of its interface, or a reserved word in the package of beans into
the name of a type (`generateResource_of_validate`). The checks of the settings look for neither.
-/

set_option autoImplicit false

namespace Jaxrs

/-- What a resource must have, whatever the settings. -/
structure Resource.WellFormed (r : Resource) : Prop where
  package : r.package = "" ∨ isQualifiedName r.package = true
  name : ∃ c ∈ r.name.toList, c.isAlphanum = true
  operations : ∀ op ∈ r.operations, op.Generable

/-- The type of some argument or response is a bean, or a list of beans. -/
def Resource.NamesBean (r : Resource) : Prop :=
  ∃ op ∈ r.operations, ∃ schema ∈ op.schemas, schema.NamesBean

namespace Settings

/-- The suffix of interfaces may come after an identifier. -/
def ProperSuffix (s : Settings) : Prop :=
  ∀ c ∈ s.naming.interfaceSuffix.toList, Identifier.isPart c = true

/-- No segment of the package of beans is a reserved word. -/
def ProperBeanPackage (s : Settings) : Prop :=
  ∀ w ∈ Text.segments '.' s.beanPackage, w ∉ reservedWords

instance (s : Settings) : Decidable s.ProperSuffix :=
  List.decidableBAll _ _

instance (s : Settings) : Decidable s.ProperBeanPackage :=
  List.decidableBAll _ _

variable {s : Settings} {r : Resource} {edition : Edition} {render : String → String} {api : Api}

/-- The checks leave out only that no segment of the package is reserved. -/
theorem isQualifiedName_beanPackage_iff (hs : s.validate = .ok ()) :
    isQualifiedName s.beanPackage = true ↔ s.ProperBeanPackage :=
  isQualifiedName_iff_of_isPackageName (isPackageName_beanPackage hs)

/-- The name of a resource has something in it to make a class name of, so the suffix decides. -/
theorem isIdentifier_interfaceName_iff (hr : r.WellFormed) :
    isIdentifier (r.interfaceName s) = true ↔ s.ProperSuffix := by
  have hne : ClassName.ofName r.name ≠ "" := by
    intro hempty
    obtain ⟨c, hc, halnum⟩ := hr.name
    rw [ClassName.ofName_eq_empty_iff.mp hempty c hc] at halnum
    exact Bool.noConfusion halnum
  exact ClassName.isIdentifier_ofName_append_iff hne

theorem generable_iff (hs : s.validate = .ok ()) (hr : r.WellFormed) :
    r.Generable s ↔ s.ProperSuffix ∧ (r.NamesBean → s.ProperBeanPackage) := by
  rw [← isIdentifier_interfaceName_iff hr, ← isQualifiedName_beanPackage_iff hs]
  constructor
  · intro h
    exact ⟨h.name, h.beans⟩
  · rintro ⟨hname, hbeans⟩
    exact ⟨hr.package, hname, hr.operations, hbeans⟩

end Settings

/-! ### Failures -/

theorem Interface.sourceFile_eq_error_iff {i : Interface} {framework : Framework} {f : Formatter}
    {failure : Failure} : i.sourceFile framework f = .error failure ↔
      ∃ e, (i.faults framework).head? = some e ∧ failure = .render e := by
  simp only [sourceFile, Except.bind_eq_error_iff, Except.mapError_eq_error_iff,
    render_eq_error_iff_head?_faults, pure, Except.pure]
  simp [eq_comm]

namespace Settings

variable {s : Settings} {r : Resource} {framework : Framework} {edition : Edition}
  {render : String → String} {api : Api} {i : Interface} {failure : Failure}

theorem generateResource_eq_error_iff
    (hi : r.interface s s.beanPackage render api.contextRoot = .ok i) :
    s.generateResource framework render api r = .error failure ↔
      ∃ e, (i.faults framework).head? = some e ∧ failure = .render e := by
  rw [generateResource, hi, ← Interface.sourceFile_eq_error_iff (f := s.formatter)]
  rfl

/-- What an interface has of its resource is right, but for its name and for its types. -/
theorem properParts_of_interface (hr : r.WellFormed) (hframework : framework.Named)
    (hi : r.interface s s.beanPackage render api.contextRoot = .ok i) :
    (∀ m ∈ i.methods, m.WellFormed) ∧
      ∀ a ∈ i.annotations framework, isQualifiedName a.name = true := by
  obtain ⟨methods, hmethods, rfl⟩ := Resource.interface_eq_ok_iff.mp hi
  have hparts : ∀ m ∈ methods, m.WellFormed ∧
      ∀ a ∈ m.annotations framework, isQualifiedName a.name = true := by
    refine (forall_mem_iff_of_forall₂ (Q := fun _ ↦ True) hmethods ?_).mpr fun _ _ ↦ trivial
    intro op hop m hm
    have hop := hr.operations op hop
    refine iff_true_intro ⟨(Operation.wellFormed_method_iff hm).mpr hop.name, ?_⟩
    exact (Operation.forall_mem_annotations_iff hframework hm).mpr hop.annotations
  refine ⟨fun m hm ↦ (hparts m hm).1, ?_⟩
  rw [Interface.annotations, List.forall_mem_cons, List.forall_mem_flatMap]
  exact ⟨hframework.path _, fun m hm ↦ (hparts m hm).2⟩

theorem exists_interface_of_wellFormed (s : Settings) (render : String → String) (api : Api)
    (hr : r.WellFormed) : ∃ i, r.interface s s.beanPackage render api.contextRoot = .ok i :=
  Resource.exists_interface_eq_ok_iff.mpr fun op hop ↦ (hr.operations op hop).verb

/-- The head of an interface, with what its resource being well-formed says of the package. -/
theorem head_of_interface (hr : r.WellFormed)
    (hi : r.interface s s.beanPackage render api.contextRoot = .ok i) :
    (i.package = "" ∨ isQualifiedName i.package = true) ∧ i.name = r.interfaceName s := by
  obtain ⟨methods, _, rfl⟩ := Resource.interface_eq_ok_iff.mp hi
  exact ⟨hr.package, rfl⟩

theorem generateResource_eq_error_of_suffix (hr : r.WellFormed) (hsuffix : ¬ s.ProperSuffix) :
    s.generateResource framework render api r =
      .error (.render (.interface (r.interfaceName s))) := by
  obtain ⟨i, hi⟩ := exists_interface_of_wellFormed s render api hr
  obtain ⟨hpackage, hname⟩ := head_of_interface hr hi
  have himproper : ¬ isIdentifier i.name = true := by
    rw [hname, isIdentifier_interfaceName_iff hr]
    exact hsuffix
  rw [generateResource_eq_error_iff hi, ← hname]
  exact ⟨_, Interface.head?_faults_of_name hpackage himproper, rfl⟩

theorem exists_type_of_generateResource_eq_error (hr : r.WellFormed) (hsuffix : s.ProperSuffix)
    (hframework : framework.Named)
    (h : s.generateResource framework render api r = .error failure) :
    ∃ c, isQualifiedName c = false ∧ failure = .render (.type c) := by
  obtain ⟨i, hi⟩ := exists_interface_of_wellFormed s render api hr
  obtain ⟨e, he, rfl⟩ := (generateResource_eq_error_iff hi).mp h
  obtain ⟨hmethods, hannotations⟩ := properParts_of_interface hr hframework hi
  obtain ⟨hpackage, hname⟩ := head_of_interface hr hi
  have hproper : isIdentifier i.name = true := by
    rw [hname, isIdentifier_interfaceName_iff hr]
    exact hsuffix
  have hfault := Interface.mem_faults_iff.mp (List.mem_of_head? he)
  obtain ⟨c, hbad, rfl⟩ := hfault.exists_type hpackage hproper hmethods hannotations
  exact ⟨c, Bool.eq_false_iff.mpr hbad, rfl⟩

/-- With valid settings a well-formed resource has a source file unless the suffix or the package of
beans gets an improper name into it. A bad suffix always does, and fails as the interface; a bad
package does where there is a bean, and fails as a type. -/
theorem generateResource_of_validate (hs : s.validate = .ok ()) (hr : r.WellFormed) :
    ((∃ file, s.generateResource (.jaxrs edition) render api r = .ok file) ↔
        s.ProperSuffix ∧ (r.NamesBean → s.ProperBeanPackage)) ∧
      (¬ s.ProperSuffix → s.generateResource (.jaxrs edition) render api r =
        .error (.render (.interface (r.interfaceName s)))) ∧
      ∀ failure, s.ProperSuffix →
        s.generateResource (.jaxrs edition) render api r = .error failure →
          ∃ c, isQualifiedName c = false ∧ failure = .render (.type c) := by
  have hframework := Framework.jaxrs_named edition
  refine ⟨?_, generateResource_eq_error_of_suffix hr, fun failure hsuffix h ↦ ?_⟩
  · rw [exists_generateResource_eq_ok_iff hframework, generable_iff hs hr]
  · exact exists_type_of_generateResource_eq_error hr hsuffix hframework h

/-- A resource that answers with a list of beans. -/
def parcels : Resource where
  package := "org.acme.api"
  name := "parcels"
  path := "/parcels"
  operations :=
    [{ name := "pending"
       path := none
       verb := "get"
       description := none
       produces := none
       consumes := none
       async := none
       arguments := []
       response :=
         some ⟨some (.array (some (.reference "#/components/schemas/Parcel")) none none)⟩ }]

/-- An API of this one resource. -/
def parcelService : Api := ⟨"parcels", none, "/api", [parcels]⟩

theorem wellFormed_parcels : parcels.WellFormed where
  package := Or.inr (by decide +kernel)
  name := ⟨'p', by decide, by decide⟩
  operations := by
    intro op hop
    obtain rfl := List.mem_singleton.mp hop
    exact ⟨⟨.get, rfl⟩, by decide +kernel, fun a ha ↦ nomatch ha⟩

/-- Settings that go to the limits of a suffix and of a package. -/
def underscored : Settings where
  basePackage := "org._acme"
  naming := ⟨"$2"⟩

theorem generateResource_of_validate_parcels :
    underscored.validate = .ok () ∧ parcels.WellFormed ∧
      ∃ file, underscored.generateResource (.jaxrs .javax) id parcelService parcels = .ok file := by
  have hvalid : underscored.validate = .ok () := by decide +kernel
  have hsuffix : underscored.ProperSuffix := by decide +kernel
  have hpackage : underscored.ProperBeanPackage := by decide +kernel
  refine ⟨hvalid, wellFormed_parcels, ?_⟩
  exact (generateResource_of_validate hvalid wellFormed_parcels).1.mpr ⟨hsuffix, fun _ ↦ hpackage⟩

/-- Settings with a reserved word in their package. -/
def reserved : Settings where
  basePackage := "org.acme.default"

/-- Settings with a suffix that no identifier ends with. -/
def dashed : Settings where
  naming := ⟨"-api"⟩

theorem generateResource_parcels_eq_error :
    reserved.validate = .ok () ∧ dashed.validate = .ok () ∧ parcels.WellFormed ∧
      reserved.generateResource (.jaxrs .jakarta) id parcelService parcels =
        .error (.render (.type "org.acme.default.beans.Parcel")) ∧
      dashed.generateResource (.jaxrs .jakarta) id parcelService parcels =
        .error (.render (.interface "Parcels-api")) := by
  refine ⟨by decide +kernel, by decide +kernel, wellFormed_parcels, ?_, by decide +kernel⟩
  have hinterface : parcels.interface reserved reserved.beanPackage id "/api" = .ok _ := rfl
  exact (generateResource_eq_error_iff hinterface).mpr ⟨_, by decide +kernel, rfl⟩

end Settings

end Jaxrs
