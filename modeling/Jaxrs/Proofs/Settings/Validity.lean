import Jaxrs.Settings.Basic
import Jaxrs.Proofs.Except
import Jaxrs.Proofs.Identifier

/-!
Settings that pass their checks. `validate_eq_ok_iff` says what the checks let through. They ask of
a package that its segments look like identifiers, and not that they are identifiers: a package that
passes is a qualified name exactly if no segment of it is a reserved word
(`isQualifiedName_iff_of_isPackageName`). The package of beans passes whenever the settings do.
-/

set_option autoImplicit false

namespace Jaxrs

section PackageNames

variable {s : String}

theorem isShaped_of_mem_segments (hs : isPackageName s = true) {w : String}
    (hw : w ∈ Text.segments '.' s) : Identifier.isShaped w.toList = true := by
  have hsegment := List.all_eq_true.mp hs w hw
  have hletter {d : Char} (hd : (d.isAlphanum || d == '_') = true) :
      Identifier.isPart d = true := by
    rw [Char.isAlphanum] at hd
    rw [Identifier.isPart, Identifier.isStart]
    grind
  cases hchars : w.toList with
  | nil => simp [hchars] at hsegment
  | cons c rest =>
    simp only [hchars, Bool.and_eq_true] at hsegment
    rw [Identifier.isShaped, Bool.and_eq_true, Identifier.isStart, hsegment.1, Bool.true_or]
    refine ⟨rfl, List.all_eq_true.mpr fun d hd ↦ hletter ?_⟩
    exact List.all_eq_true.mp hsegment.2 d hd

/-- What a package name of the settings may lack is that no segment is a reserved word. -/
theorem isQualifiedName_iff_of_isPackageName (hs : isPackageName s = true) :
    isQualifiedName s = true ↔ ∀ w ∈ Text.segments '.' s, w ∉ reservedWords := by
  rw [isQualifiedName_iff]
  constructor
  · intro h w hw
    exact (isIdentifier_iff.mp (h w hw)).2
  · intro h w hw
    exact isIdentifier_iff.mpr ⟨isShaped_of_mem_segments hs hw, h w hw⟩

theorem isPackageName_append (a b : String) :
    isPackageName (a ++ "." ++ b) = (isPackageName a && isPackageName b) := by
  rw [isPackageName, Text.dot_eq_singleton, Text.segments_append, List.all_append]
  rfl

end PackageNames

namespace Settings

variable {s : Settings}

/-- Nothing is asked of the suffix of interfaces. -/
theorem validate_eq_ok_iff : s.validate = .ok () ↔
    isPackageName s.basePackage = true ∧ (∀ beans ∈ s.beanPackage?, isPackageName beans = true) ∧
      (s.formatter.indentSize ≠ 0 ∨ s.formatter.useTabs = true) := by
  have hindent : ¬ (s.formatter.indentSize == 0 && !s.formatter.useTabs) = true ↔
      s.formatter.indentSize ≠ 0 ∨ s.formatter.useTabs = true := by
    cases s.formatter.useTabs <;> simp
  rw [validate]
  cases hbeans : s.beanPackage? with
  | none =>
    simp only [Except.throw_if_bind_eq_ok_iff, Except.throw_if_eq_ok_iff, hindent]
    simp
  | some beans =>
    simp only [Except.throw_if_bind_eq_ok_iff, Except.throw_if_eq_ok_iff, hindent]
    simp

theorem isPackageName_beanPackage (hs : s.validate = .ok ()) :
    isPackageName s.beanPackage = true := by
  obtain ⟨hbase, hbeans, _⟩ := validate_eq_ok_iff.mp hs
  rw [beanPackage]
  cases hcase : s.beanPackage? with
  | some beans => exact hbeans beans hcase
  | none =>
    have hfolder : isPackageName "beans" = true := by decide
    have happend := isPackageName_append s.basePackage "beans"
    rw [hbase, hfolder, String.append_assoc] at happend
    exact happend

end Settings

end Jaxrs
