import Jaxrs.Framework.Jaxrs
import Jaxrs.Proofs.Identifier

/-!
Frameworks whose annotations have names that Java accepts. JAX-RS is one in both of its editions
(`jaxrs_named`), so that a source file for it can only have an improper annotation name where a
description brings one along.
-/

set_option autoImplicit false

namespace Jaxrs.Framework

/-- Every annotation of the framework has a qualified name. -/
structure Named (framework : Framework) : Prop where
  path : ∀ p, isQualifiedName (framework.path p).name = true
  verb : ∀ v, isQualifiedName (framework.verb v).name = true
  produces : ∀ types, isQualifiedName (framework.produces types).name = true
  consumes : ∀ types, isQualifiedName (framework.consumes types).name = true
  binding : ∀ b, ∀ a ∈ framework.binding b, isQualifiedName a.name = true
  constraint : ∀ k, isQualifiedName (framework.constraint k).name = true

/-- The simple names of the annotations of JAX-RS. -/
def webServiceNames : List String :=
  ["Path", "Produces", "Consumes", "PathParam", "QueryParam", "HeaderParam", "CookieParam"] ++
    Verb.all.map Verb.name

/-- The simple names of the annotations of Bean Validation. -/
def validationNames : List String :=
  ["NotNull", "Min", "Max", "DecimalMin", "DecimalMax", "Size", "Pattern"]

/-- A name in a package is as good as its simple name if the package is qualified. -/
private theorem isQualifiedName_of_package {package path name : String}
    (hpath : package ++ "." = path) (hpackage : isQualifiedName package = true)
    (hname : isQualifiedName name = true) : isQualifiedName (path ++ name) = true := by
  rw [← hpath, isQualifiedName_append, hpackage, hname]
  rfl

theorem isQualifiedName_webService (edition : Edition) {name : String}
    (hname : name ∈ webServiceNames) : isQualifiedName (webService edition name) = true := by
  have hnames : ∀ n ∈ webServiceNames, isQualifiedName n = true := by decide +kernel
  rw [webService]
  cases edition with
  | jakarta =>
    have hpath : "jakarta.ws.rs" ++ "." = Edition.jakarta.root ++ ".ws.rs." := by decide
    exact isQualifiedName_of_package hpath (by decide +kernel) (hnames name hname)
  | javax =>
    have hpath : "javax.ws.rs" ++ "." = Edition.javax.root ++ ".ws.rs." := by decide
    exact isQualifiedName_of_package hpath (by decide +kernel) (hnames name hname)

theorem isQualifiedName_validation (edition : Edition) {name : String}
    (hname : name ∈ validationNames) : isQualifiedName (validation edition name) = true := by
  have hnames : ∀ n ∈ validationNames, isQualifiedName n = true := by decide +kernel
  rw [validation]
  cases edition with
  | jakarta =>
    have hpath : "jakarta.validation.constraints" ++ "." =
        Edition.jakarta.root ++ ".validation.constraints." := by decide
    exact isQualifiedName_of_package hpath (by decide +kernel) (hnames name hname)
  | javax =>
    have hpath : "javax.validation.constraints" ++ "." =
        Edition.javax.root ++ ".validation.constraints." := by decide
    exact isQualifiedName_of_package hpath (by decide +kernel) (hnames name hname)

theorem jaxrs_named (edition : Edition) : (jaxrs edition).Named where
  path _ := isQualifiedName_webService edition (by decide)
  verb v := isQualifiedName_webService edition (by cases v <;> decide)
  produces _ := isQualifiedName_webService edition (by decide)
  consumes _ := isQualifiedName_webService edition (by decide)
  binding b := by
    intro a ha
    cases b with
    | path name =>
      obtain rfl := Option.some.inj ha
      exact isQualifiedName_webService edition (by decide)
    | query name =>
      obtain rfl := Option.some.inj ha
      exact isQualifiedName_webService edition (by decide)
    | header name =>
      obtain rfl := Option.some.inj ha
      exact isQualifiedName_webService edition (by decide)
    | cookie name =>
      obtain rfl := Option.some.inj ha
      exact isQualifiedName_webService edition (by decide)
    | unbound => cases ha
  constraint k := by
    cases k with
    | notNull => exact isQualifiedName_validation edition (by decide)
    | min _ => exact isQualifiedName_validation edition (by decide)
    | max _ => exact isQualifiedName_validation edition (by decide)
    | decimalMin _ => exact isQualifiedName_validation edition (by decide)
    | decimalMax _ => exact isQualifiedName_validation edition (by decide)
    | size _ _ => exact isQualifiedName_validation edition (by decide)
    | pattern _ => exact isQualifiedName_validation edition (by decide)

end Jaxrs.Framework
