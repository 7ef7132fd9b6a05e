import Jaxrs.Framework.Jaxrs
import Jaxrs.Proofs.ImportTable.Order
import Jaxrs.Proofs.Source.Validity
import Mathlib.Order.Lattice

/-!
Which fault of an interface is reported. An interface may have many faults (`Interface.Fault`), and
it has no source file exactly if it has one. `Interface.faults` lists all of them in the order in
which they are looked for: in three passes, over the names in the order of the interface, over the
annotations in the order of the source, and over the classes in the order of their names. A check is
the first of its faults (`Except.firstOf`), and checks that follow each other have the faults of
both, so that what is reported is the head of the list (`Interface.render_eq_error_iff`).
-/

set_option autoImplicit false

namespace Jaxrs

namespace Except

variable {ε α : Type}

/-- The failure of a check that finds these faults, one after the other. -/
def firstOf : List ε → Except ε Unit
  | [] => .ok ()
  | e :: _ => .error e

theorem firstOf_eq_error_iff {l : List ε} {e : ε} : firstOf l = .error e ↔ l.head? = some e := by
  cases l <;> simp [firstOf]

theorem firstOf_append (l l' : List ε) : firstOf (l ++ l') = firstOf l >>= fun _ ↦ firstOf l' := by
  cases l <;> rfl

/-- A check that throws has a single fault, whatever comes after it. -/
theorem throw_if_bind_eq {c : Bool} {e : ε} {f : Unit → Except ε α} :
    (if c = true then throw e >>= f else f ()) = firstOf (if c then [e] else []) >>= f := by
  cases c <;> rfl

theorem throw_if_eq {c : Bool} {e : ε} :
    (if c = true then throw e else pure () : Except ε Unit) = firstOf (if c then [e] else []) := by
  cases c <;> rfl

theorem forM_eq_firstOf {l : List α} {f : α → Except ε Unit} {faults : α → List ε}
    (h : ∀ a, f a = firstOf (faults a)) : l.forM f = firstOf (l.flatMap faults) := by
  induction l with
  | nil => rfl
  | cons a rest ih =>
    have hcons : (a :: rest).forM f = f a >>= fun _ ↦ rest.forM f := rfl
    rw [hcons, h, ih, List.flatMap_cons, firstOf_append]

end Except

/-- A fault, if the interface has it. -/
def faultIf (c : Bool) (e : RenderError) : List RenderError :=
  if c then [e] else []

theorem mem_faultIf {c : Bool} {e e' : RenderError} : e ∈ faultIf c e' ↔ c = true ∧ e = e' := by
  cases c <;> simp [faultIf]

namespace Parameter

def faults (owner : String) (p : Parameter) : List RenderError :=
  faultIf (!isIdentifier p.name) (.parameter p.name owner) ++
    faultIf p.type.isVoid (.voidParameter p.name owner)

theorem mem_faults {owner : String} {p : Parameter} {e : RenderError} :
    e ∈ p.faults owner ↔ ¬ isIdentifier p.name = true ∧ e = .parameter p.name owner ∨
      p.type.isVoid = true ∧ e = .voidParameter p.name owner := by
  rw [faults, List.mem_append, mem_faultIf, mem_faultIf, Bool.not_eq_true', Bool.not_eq_true]

theorem check_eq_firstOf (owner : String) (p : Parameter) :
    p.check owner = Except.firstOf (p.faults owner) := by
  rw [check, faults, Except.firstOf_append]
  simp only [Except.throw_if_bind_eq, Except.throw_if_eq]
  rfl

end Parameter

namespace Method

/-- The faults of the method's name, then those of its parameters. -/
def faults (owner : String) (m : Method) : List RenderError :=
  faultIf (!isIdentifier m.name) (.method m.name owner) ++
    m.parameters.flatMap (Parameter.faults m.name)

theorem mem_faults {owner : String} {m : Method} {e : RenderError} :
    e ∈ m.faults owner ↔ ¬ isIdentifier m.name = true ∧ e = .method m.name owner ∨
      ∃ p ∈ m.parameters, e ∈ p.faults m.name := by
  rw [faults, List.mem_append, mem_faultIf, List.mem_flatMap, Bool.not_eq_true', Bool.not_eq_true]

theorem check_eq_firstOf (owner : String) (m : Method) :
    m.check owner = Except.firstOf (m.faults owner) := by
  rw [check, faults, Except.firstOf_append,
    ← Except.forM_eq_firstOf (Parameter.check_eq_firstOf m.name)]
  simp only [Except.throw_if_bind_eq]
  rfl

end Method

namespace Interface

variable {framework : Framework} {i : Interface} {e : RenderError}

/-- The classes that the types of the methods and of their parameters name, at any depth. -/
def typeNames (i : Interface) : List String :=
  i.methods.flatMap Method.classNames

/-- What can be wrong with an interface, with what is reported of it. -/
inductive Fault (framework : Framework) (i : Interface) : RenderError → Prop
  | package (hne : i.package ≠ "") (h : ¬ isQualifiedName i.package = true) :
    Fault framework i (.package i.package)
  | name (h : ¬ isIdentifier i.name = true) : Fault framework i (.interface i.name)
  | method {m : Method} (hm : m ∈ i.methods) (h : ¬ isIdentifier m.name = true) :
    Fault framework i (.method m.name i.name)
  | parameter {m : Method} {p : Parameter} (hm : m ∈ i.methods) (hp : p ∈ m.parameters)
    (h : ¬ isIdentifier p.name = true) : Fault framework i (.parameter p.name m.name)
  | voidParameter {m : Method} {p : Parameter} (hm : m ∈ i.methods) (hp : p ∈ m.parameters)
    (h : p.type.isVoid = true) : Fault framework i (.voidParameter p.name m.name)
  | annotationName {a : Annotation} (ha : a ∈ i.annotations framework)
    (h : ¬ isQualifiedName a.name = true) : Fault framework i (.annotationName a.name)
  | type {c : String} (hc : c ∈ i.typeNames) (h : ¬ isQualifiedName c = true) :
    Fault framework i (.type c)

/-- The faults of the names, in the order of the interface. -/
def nameFaults (i : Interface) : List RenderError :=
  faultIf (!i.package.isEmpty && !isQualifiedName i.package) (.package i.package) ++
    (faultIf (!isIdentifier i.name) (.interface i.name) ++
      i.methods.flatMap (Method.faults i.name))

/-- The faults of the annotations in the order of the source, and those of the types in the order of
the names. -/
def referenceFaults (framework : Framework) (i : Interface) : List RenderError :=
  ((i.annotations framework).filter (!isQualifiedName ·.name)).map
      (fun a ↦ .annotationName a.name) ++
    ((i.typeNames.filter (!isQualifiedName ·)).insertionSort (· ≤ ·)).map .type

/-- The faults in the order in which they are looked for. -/
def faults (framework : Framework) (i : Interface) : List RenderError :=
  i.nameFaults ++ i.referenceFaults framework

theorem check_eq_firstOf (i : Interface) : i.check = Except.firstOf i.nameFaults := by
  rw [check, nameFaults, Except.firstOf_append, Except.firstOf_append,
    ← Except.forM_eq_firstOf (Method.check_eq_firstOf i.name)]
  simp only [Except.throw_if_bind_eq]
  rfl

/-- An ordered list starts with its least element. -/
theorem head?_eq_of_pairwise_le {names names' : List String} (h : names.Pairwise (· ≤ ·))
    (h' : names'.Pairwise (· ≤ ·)) (hmem : ∀ c, c ∈ names ↔ c ∈ names') :
    names.head? = names'.head? := by
  rw [← List.min?_eq_head? (h.imp min_eq_left), ← List.min?_eq_head? (h'.imp min_eq_left)]
  ext c
  simp only [List.min?_eq_some_iff, hmem]

theorem find?_sortedNames (p : String → Bool) (names : List String) :
    (sortedNames names).find? p = ((names.filter p).insertionSort (· ≤ ·)).head? := by
  rw [← List.head?_filter]
  refine head?_eq_of_pairwise_le ?_ (List.pairwise_insertionSort _ _) fun c ↦ ?_
  · exact ((pairwise_lt_sortedNames names).imp le_of_lt).filter p
  · rw [List.mem_insertionSort, List.mem_filter, List.mem_filter, mem_sortedNames]

theorem checkReferences_eq_firstOf (framework : Framework) (i : Interface) :
    i.checkReferences framework = Except.firstOf (i.referenceFaults framework) := by
  rw [checkReferences, referenceFaults]
  cases hannotations : (i.annotations framework).filter (!isQualifiedName ·.name) with
  | cons a rest =>
    have hfind : (i.annotations framework).find? (!isQualifiedName ·.name) = some a := by
      rw [← List.head?_filter, hannotations, List.head?_cons]
    rw [hfind]
    rfl
  | nil =>
    have hfind : (i.annotations framework).find? (!isQualifiedName ·.name) = none := by
      rw [← List.head?_filter, hannotations, List.head?_nil]
    -- The names of the annotations are among the classes, but all of them are proper here.
    have hnames : (i.classNames framework).filter (!isQualifiedName ·) =
        i.typeNames.filter (!isQualifiedName ·) := by
      have hnone :
          ((i.annotations framework).map Annotation.name).filter (!isQualifiedName ·) = [] := by
        rw [List.filter_map]
        exact List.map_eq_nil_iff.mpr hannotations
      rw [classNames, List.filter_append, hnone, List.append_nil]
      rfl
    rw [hfind, find?_sortedNames, hnames]
    cases (i.typeNames.filter (!isQualifiedName ·)).insertionSort (· ≤ ·) <;> rfl

/-- Every interface has its lines, so that only the checks can fail. -/
theorem source_eq_firstOf (framework : Framework) (i : Interface) :
    i.source framework =
      Except.firstOf (i.faults framework) >>= fun _ ↦ .ok (i.lines framework) := by
  rw [source, check_eq_firstOf, checkReferences_eq_firstOf, faults, Except.firstOf_append]
  cases Except.firstOf i.nameFaults <;> rfl

theorem render_eq_firstOf (framework : Framework) (f : Formatter) (i : Interface) :
    i.render framework f =
      Except.firstOf (i.faults framework) >>= fun _ ↦ .ok (i.text framework f) := by
  rw [render, source_eq_firstOf]
  cases Except.firstOf (i.faults framework) <;> rfl

theorem render_eq_error_iff_head?_faults {f : Formatter} :
    i.render framework f = .error e ↔ (i.faults framework).head? = some e := by
  rw [render_eq_firstOf, Except.bind_eq_error_iff, Except.firstOf_eq_error_iff]
  exact or_iff_left fun ⟨_, _, htext⟩ ↦ nomatch htext

theorem mem_nameFaults : e ∈ i.nameFaults ↔
    (i.package ≠ "" ∧ ¬ isQualifiedName i.package = true) ∧ e = .package i.package ∨
      ¬ isIdentifier i.name = true ∧ e = .interface i.name ∨
        ∃ m ∈ i.methods, e ∈ m.faults i.name := by
  rw [nameFaults, List.mem_append, List.mem_append, mem_faultIf, mem_faultIf, List.mem_flatMap,
    Bool.and_eq_true, Bool.not_eq_true', Bool.not_eq_true', Bool.not_eq_true', Bool.not_eq_true,
    Bool.not_eq_true, ← Bool.not_eq_true i.package.isEmpty, String.isEmpty_iff]

theorem mem_referenceFaults : e ∈ i.referenceFaults framework ↔
    (∃ a ∈ i.annotations framework, ¬ isQualifiedName a.name = true ∧ e = .annotationName a.name) ∨
      ∃ c ∈ i.typeNames, ¬ isQualifiedName c = true ∧ e = .type c := by
  simp only [referenceFaults, List.mem_append, List.mem_map, List.mem_insertionSort,
    List.mem_filter, Bool.not_eq_true', Bool.not_eq_true, and_assoc, eq_comm (a := e)]

/-- The list has all faults of the interface, and no others. -/
theorem mem_faults_iff : e ∈ i.faults framework ↔ Fault framework i e := by
  rw [faults, List.mem_append, mem_nameFaults, mem_referenceFaults]
  constructor
  · rintro ((⟨⟨hne, hbad⟩, rfl⟩ | ⟨hbad, rfl⟩ | ⟨m, hm, hfault⟩) |
      ⟨a, ha, hbad, rfl⟩ | ⟨c, hc, hbad, rfl⟩)
    · exact .package hne hbad
    · exact .name hbad
    · rcases Method.mem_faults.mp hfault with ⟨hbad, rfl⟩ | ⟨p, hp, hfault⟩
      · exact .method hm hbad
      · rcases Parameter.mem_faults.mp hfault with ⟨hbad, rfl⟩ | ⟨hvoid, rfl⟩
        · exact .parameter hm hp hbad
        · exact .voidParameter hm hp hvoid
    · exact .annotationName ha hbad
    · exact .type hc hbad
  · intro h
    cases h with
    | package hne hbad => exact Or.inl (Or.inl ⟨⟨hne, hbad⟩, rfl⟩)
    | name hbad => exact Or.inl (Or.inr (Or.inl ⟨hbad, rfl⟩))
    | method hm hbad =>
      exact Or.inl (Or.inr (Or.inr ⟨_, hm, Method.mem_faults.mpr (Or.inl ⟨hbad, rfl⟩)⟩))
    | @parameter m p hm hp hbad =>
      have hfault : RenderError.parameter p.name m.name ∈ p.faults m.name :=
        Parameter.mem_faults.mpr (Or.inl ⟨hbad, rfl⟩)
      exact Or.inl (Or.inr (Or.inr ⟨_, hm, Method.mem_faults.mpr (Or.inr ⟨_, hp, hfault⟩)⟩))
    | @voidParameter m p hm hp hvoid =>
      have hfault : RenderError.voidParameter p.name m.name ∈ p.faults m.name :=
        Parameter.mem_faults.mpr (Or.inr ⟨hvoid, rfl⟩)
      exact Or.inl (Or.inr (Or.inr ⟨_, hm, Method.mem_faults.mpr (Or.inr ⟨_, hp, hfault⟩)⟩))
    | annotationName ha hbad => exact Or.inr (Or.inl ⟨_, ha, hbad, rfl⟩)
    | type hc hbad => exact Or.inr (Or.inr ⟨_, hc, hbad, rfl⟩)

/-- The name of the interface is looked at right after the package. -/
theorem head?_faults_of_name (hpackage : i.package = "" ∨ isQualifiedName i.package = true)
    (hname : ¬ isIdentifier i.name = true) :
    (i.faults framework).head? = some (.interface i.name) := by
  have hpass : (!i.package.isEmpty && !isQualifiedName i.package) = false := by
    rcases hpackage with hempty | hqualified
    · simp [hempty]
    · simp [hqualified]
  have hfail : (!isIdentifier i.name) = true := by simpa using hname
  rw [faults, nameFaults, hpass, hfail]
  rfl

/-- If all names and annotations are right, a fault is one of a type. -/
theorem Fault.exists_type (hpackage : i.package = "" ∨ isQualifiedName i.package = true)
    (hname : isIdentifier i.name = true) (hmethods : ∀ m ∈ i.methods, m.WellFormed)
    (hannotations : ∀ a ∈ i.annotations framework, isQualifiedName a.name = true)
    (h : Fault framework i e) : ∃ c, ¬ isQualifiedName c = true ∧ e = .type c := by
  cases h with
  | package hne hbad => exact (hpackage.elim hne hbad).elim
  | name hbad => exact absurd hname hbad
  | method hm hbad => exact absurd (hmethods _ hm).name hbad
  | parameter hm hp hbad => exact absurd ((hmethods _ hm).parameters _ hp).name hbad
  | voidParameter hm hp hvoid =>
    rw [((hmethods _ hm).parameters _ hp).type] at hvoid
    exact Bool.noConfusion hvoid
  | annotationName ha hbad => exact absurd (hannotations _ ha) hbad
  | type _ hbad => exact ⟨_, hbad, rfl⟩

/-- An interface has no source file exactly if it has a fault, with whatever formatter, and what is
reported is the first one of the list of all faults: the package and the name of the interface, each
method's name with its parameters' names and types, then the annotations in the order of the source,
then the classes in the order of their names. -/
theorem render_eq_error_iff (framework : Framework) (f : Formatter) (i : Interface) :
    ((∃ e, i.render framework f = .error e) ↔ ∃ e, Fault framework i e) ∧
      (∀ e, e ∈ i.faults framework ↔ Fault framework i e) ∧
      ∀ e, i.render framework f = .error e ↔ (i.faults framework).head? = some e := by
  refine ⟨?_, fun e ↦ mem_faults_iff, fun e ↦ render_eq_error_iff_head?_faults⟩
  simp only [render_eq_error_iff_head?_faults, ← mem_faults_iff]
  cases i.faults framework <;> simp

/-- The annotation of a parameter is looked for after all names, and before the types. -/
example : faults (.jaxrs .jakarta)
    { package := "org.acme"
      name := "Pets"
      path := "/pets"
      methods :=
        [{ name := "class"
           doc := none
           path := none
           verb := .get
           produces := []
           consumes := []
           returnType := .named "b-c" [.plain "a-b"]
           parameters := [⟨"2nd", .void, .unbound, [], [⟨"1.Bad", []⟩]⟩] }] } =
    [.method "class" "Pets", .parameter "2nd" "class", .voidParameter "2nd" "class",
      .annotationName "1.Bad", .type "a-b", .type "b-c"] := by
  decide +kernel

end Interface

end Jaxrs
