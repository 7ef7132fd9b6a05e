import Jaxrs.Proofs.Generation
import Jaxrs.Proofs.Source.Imports

/-!
Operations and resources know nothing of each other. An interface is synthesized from a list of
operations, and files are generated from a list of resources, as they are from the parts of the list
(`Except.Splits`), because every step over the list starts afresh. What the methods of an interface
share when they are written is the import table, and that depends on the set of their classes only,
so that methods in another order have the same text under the same header
(`Interface.render_of_perm`). `independent_parts` puts the three together.
-/

set_option autoImplicit false

namespace Jaxrs

namespace Except

variable {ε α : Type}

/-- A computation on a whole comes of those on its two parts: it succeeds if both of them do, with
their results joined, and fails as the first one that fails. -/
structure Splits (join : α → α → α) (whole first second : Except ε α) : Prop where
  exists_iff : (∃ c, whole = .ok c) ↔ (∃ a, first = .ok a) ∧ ∃ b, second = .ok b
  eq_join : ∀ a b, first = .ok a → second = .ok b → whole = .ok (join a b)
  error_iff : ∀ e, whole = .error e ↔
    first = .error e ∨ (∃ a, first = .ok a) ∧ second = .error e

theorem splits_of_eq {join : α → α → α} {whole first second : Except ε α}
    (h : whole = do return join (← first) (← second)) : Splits join whole first second := by
  have hok (c : α) : whole = .ok c ↔ ∃ a, first = .ok a ∧ ∃ b, second = .ok b ∧ .ok (join a b) =
      (.ok c : Except ε α) := by
    simp only [h, bind_eq_ok_iff]
    rfl
  refine ⟨?_, fun a b ha hb ↦ (hok _).mpr ⟨a, ha, b, hb, rfl⟩, fun e ↦ ?_⟩
  · simp only [hok]
    constructor
    · rintro ⟨_, a, ha, b, hb, _⟩
      exact ⟨⟨a, ha⟩, b, hb⟩
    · rintro ⟨⟨a, ha⟩, b, hb⟩
      exact ⟨_, a, ha, b, hb, rfl⟩
  · rw [h, bind_eq_error_iff]
    refine or_congr_right ⟨?_, ?_⟩
    · rintro ⟨a, ha, hrest⟩
      rcases bind_eq_error_iff.mp hrest with hb | ⟨_, _, hjoin⟩
      · exact ⟨⟨a, ha⟩, hb⟩
      · cases hjoin
    · rintro ⟨⟨a, ha⟩, hb⟩
      exact ⟨a, ha, bind_eq_error_iff.mpr (Or.inl hb)⟩

end Except

/-- Names for the parameters of an operation are found without regard to other operations. -/
theorem Resource.splits_interface (s : Settings) (beanPackage : String) (render : String → String)
    (contextRoot : String) (r : Resource) (before after : List Operation) :
    Except.Splits (fun i j ↦ { i with methods := i.methods ++ j.methods })
      ({ r with operations := before ++ after }.interface s beanPackage render contextRoot)
      ({ r with operations := before }.interface s beanPackage render contextRoot)
      ({ r with operations := after }.interface s beanPackage render contextRoot) := by
  apply Except.splits_of_eq
  rw [interface, interface, interface, List.mapM_append]
  cases before.mapM (Operation.method s beanPackage render) with
  | error e => rfl
  | ok methods =>
    cases after.mapM (Operation.method s beanPackage render) <;> rfl

theorem Settings.splits_generate (s : Settings) (framework : Framework) (render : String → String)
    (api : Api) (before after : List Resource) :
    Except.Splits (· ++ ·)
      (s.generate framework render { api with resources := before ++ after })
      (s.generate framework render { api with resources := before })
      (s.generate framework render { api with resources := after }) := by
  apply Except.splits_of_eq
  -- A resource sees nothing of the API but its context root.
  have hrun (resources : List Resource) : s.generate framework render { api with resources } =
      s.validate.mapError Failure.config >>= fun _ ↦
        resources.mapM (s.generateResource framework render api) :=
    rfl
  rw [hrun, hrun before, hrun after, List.mapM_append]
  cases s.validate with
  | error e => rfl
  | ok _ =>
    cases before.mapM (s.generateResource framework render api) with
    | error e => rfl
    | ok files =>
      cases after.mapM (s.generateResource framework render api) <;> rfl

namespace Interface

variable {framework : Framework} {f : Formatter} {i : Interface} {methods : List Method}

/-- The lines up to the opening brace. -/
def header (framework : Framework) (i : Interface) : List Line :=
  preamble i.package (i.importTable framework) ++
    (Javadoc.comment framework.interfaceDoc ++
      [(i.importTable framework).annotationText (framework.path i.path),
       "public interface " ++ i.name ++ " \x7b"]).map (Line.mk 0)

/-- What is written of a method: its documentation, its annotations and its signature. -/
def block (framework : Framework) (i : Interface) (m : Method) : List Line :=
  m.lines framework (i.importTable framework)

/-- The header of the interface, blocks of methods that may be its own, and the closing brace. -/
def assemble (framework : Framework) (f : Formatter) (i : Interface) (methods : List Method) :
    String :=
  String.join ((i.header framework ++ methods.flatMap (i.block framework) ++
    [Line.mk 0 "\x7d"]).map (Line.layout f))

theorem text_eq_assemble (framework : Framework) (f : Formatter) (i : Interface) :
    i.text framework f = i.assemble framework f i.methods :=
  rfl

theorem Rearranged.of_perm (h : i.methods.Perm methods) : i.Rearranged { i with methods } where
  methods := ⟨methods, h, List.forall₂_same.mpr fun m _ ↦ ⟨List.Perm.refl m.parameters, rfl⟩⟩
  others := rfl

/-- With the same imports, classes are spelled alike in all that is written. -/
theorem Rearranged.header_eq {j : Interface} (h : i.Rearranged j) :
    j.header framework = i.header framework := by
  rw [header, header, h.importTable_eq, h.package_eq, h.path_eq, h.name_eq]

theorem Rearranged.block_eq {j : Interface} (h : i.Rearranged j) :
    j.block framework = i.block framework := by
  ext1 m
  rw [block, block, h.importTable_eq]

/-- Methods in another order leave the header as it is, and have the same blocks in that order. -/
theorem render_of_perm (h : i.methods.Perm methods) :
    ((∃ text, i.render framework f = .ok text) ↔
        ∃ text, { i with methods }.render framework f = .ok text) ∧
      ∀ text text', i.render framework f = .ok text →
        { i with methods }.render framework f = .ok text' →
          text = i.assemble framework f i.methods ∧ text' = i.assemble framework f methods := by
  have hrearranged := Rearranged.of_perm h
  refine ⟨?_, fun text text' htext htext' ↦ ?_⟩
  · rw [exists_render_eq_ok_iff, exists_render_eq_ok_iff, hrearranged.wellFormed_iff]
  · obtain ⟨_, rfl⟩ := render_eq_ok_iff.mp htext
    obtain ⟨_, rfl⟩ := render_eq_ok_iff.mp htext'
    refine ⟨text_eq_assemble framework f i, ?_⟩
    rw [text_eq_assemble, assemble, assemble, hrearranged.header_eq, hrearranged.block_eq]

end Interface

/-- Operations of a resource and resources of an API come out as they do without the others: a list
succeeds if its parts do, and its methods or files are those of its parts one after the other. The
order of the methods of an interface is the order of their blocks in its file, and matters to
nothing else in it. -/
theorem independent_parts :
    (∀ (s : Settings) (beanPackage : String) (render : String → String) (contextRoot : String)
        (r : Resource) (before after : List Operation),
      Except.Splits (fun i j ↦ { i with methods := i.methods ++ j.methods })
        ({ r with operations := before ++ after }.interface s beanPackage render contextRoot)
        ({ r with operations := before }.interface s beanPackage render contextRoot)
        ({ r with operations := after }.interface s beanPackage render contextRoot)) ∧
      (∀ (s : Settings) (framework : Framework) (render : String → String) (api : Api)
          (before after : List Resource),
        Except.Splits (· ++ ·)
          (s.generate framework render { api with resources := before ++ after })
          (s.generate framework render { api with resources := before })
          (s.generate framework render { api with resources := after })) ∧
      ∀ (framework : Framework) (f : Formatter) (i : Interface) (methods : List Method),
        i.methods.Perm methods →
          ((∃ text, i.render framework f = .ok text) ↔
              ∃ text, { i with methods }.render framework f = .ok text) ∧
            ∀ text text', i.render framework f = .ok text →
              { i with methods }.render framework f = .ok text' →
                text = i.assemble framework f i.methods ∧
                  text' = i.assemble framework f methods :=
  ⟨Resource.splits_interface, Settings.splits_generate,
    fun _ _ _ _ hmethods ↦ Interface.render_of_perm hmethods⟩

end Jaxrs
