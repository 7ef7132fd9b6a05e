import Jaxrs.Proofs.Settings.Layer
import Mathlib.Algebra.Group.Nat.Defs

/-!
Settings written and read back. Whatever keys are taken out of written settings, the layer that is
read is that of the settings without these keys (`Settings.ofNode?_without`), and a `mutiny` key is
found wherever it is put (`Settings.ofNode?_mutiny`). Completed, the layer is the settings with the
fields of the missing keys at their defaults (`Settings.complete_layer`); the main statement is
`Settings.ofNode?_toNode`.
-/

set_option autoImplicit false

namespace Jaxrs

/-! ### Fields of settings -/

/-- The fields of a written suffix. -/
def Naming.entries (naming : Naming) : Entries :=
  [("interface-suffix", some (.text naming.interfaceSuffix))]

/-- The fields of written white space. -/
def Formatter.entries (f : Formatter) : Entries :=
  [("indent-size", some (.number (.integer f.indentSize))),
   ("use-tabs", some (.bool f.useTabs)),
   ("line-ending", some (.text f.lineEnding.name))]

namespace Settings

variable {s : Settings} {gone : List String → Bool}

/-! ### Settings without some of their fields -/

/-- The value of a field, unless its path is gone. -/
def kept {α : Type} (gone : List String → Bool) (path : List String) (value : Option α) :
    Option α :=
  if gone path then none else value

/-- The settings with the defaults of the fields that are gone. -/
def reset (gone : List String → Bool) (s : Settings) : Settings :=
  let initial : Settings := {}
  { reactive := if gone ["reactive"] then initial.reactive else s.reactive
    wrapper := if gone ["reactive-implementation"] then initial.wrapper else s.wrapper
    returnResponse := if gone ["return-response"] then initial.returnResponse else s.returnResponse
    basePackage := if gone ["base-package"] then initial.basePackage else s.basePackage
    beanPackage? := if gone ["bean-package"] then initial.beanPackage? else s.beanPackage?
    spec := if gone ["spec"] then initial.spec else s.spec
    inputBaseDir := if gone ["input-base-dir"] then initial.inputBaseDir else s.inputBaseDir
    edition := if gone ["namespace"] then initial.edition else s.edition
    naming := if gone ["naming"] then initial.naming else
      { interfaceSuffix := if gone ["naming", "interface-suffix"] then
          initial.naming.interfaceSuffix else s.naming.interfaceSuffix }
    formatter := if gone ["formatter"] then initial.formatter else
      { indentSize := if gone ["formatter", "indent-size"] then initial.formatter.indentSize
          else s.formatter.indentSize
        useTabs := if gone ["formatter", "use-tabs"] then initial.formatter.useTabs
          else s.formatter.useTabs
        lineEnding := if gone ["formatter", "line-ending"] then initial.formatter.lineEnding
          else s.formatter.lineEnding } }

/-- What the settings give without the fields that are gone, beside what the switch says. -/
def layer (gone : List String → Bool) (mutiny : Option Bool) (s : Settings) : Layer where
  mutiny := mutiny
  reactive := kept gone ["reactive"] (some s.reactive)
  wrapper := kept gone ["reactive-implementation"] (some s.wrapper)
  returnResponse := kept gone ["return-response"] (some s.returnResponse)
  basePackage := kept gone ["base-package"] (some s.basePackage)
  beanPackage := kept gone ["bean-package"] s.beanPackage?
  spec := kept gone ["spec"] s.spec
  inputBaseDir := kept gone ["input-base-dir"] s.inputBaseDir
  edition := kept gone ["namespace"] (some s.edition)
  interfaceSuffix := kept gone ["naming"]
    (kept gone ["naming", "interface-suffix"] (some s.naming.interfaceSuffix))
  indentSize := kept gone ["formatter"]
    (kept gone ["formatter", "indent-size"] (some s.formatter.indentSize))
  useTabs := kept gone ["formatter"]
    (kept gone ["formatter", "use-tabs"] (some s.formatter.useTabs))
  lineEnding := kept gone ["formatter"]
    (kept gone ["formatter", "line-ending"] (some s.formatter.lineEnding))

theorem mem_of_mem_kept {α : Type} {path : List String} {value : Option α} {a : α}
    (h : a ∈ kept gone path value) : a ∈ value := by
  unfold kept at h
  split at h
  · cases h
  · exact h

theorem map_kept {α β : Type} (write : α → β) (path : List String) (value : Option α) :
    (kept gone path value).map write = if gone path then none else value.map write := by
  unfold kept
  split <;> rfl

theorem getD_kept {α : Type} (path : List String) (value : Option α) (fallback : α) :
    (kept gone path value).getD fallback = if gone path then fallback else value.getD fallback := by
  unfold kept
  split <;> rfl

theorem complete_layer (gone : List String → Bool) (mutiny : Option Bool) (s : Settings) :
    (s.layer gone mutiny).complete =
      { s.reset gone with
        wrapper := (mutiny.map AsyncWrapper.ofSwitch).getD (s.reset gone).wrapper } := by
  simp only [layer, Layer.complete, reset, getD_kept, Option.getD_some]
  cases gone ["naming"] <;> cases gone ["formatter"] <;> rfl

/-! ### Writing and reading -/

/-- The fields of written settings. -/
def entries (s : Settings) : Entries :=
  [("reactive", some (.bool s.reactive)),
   ("reactive-implementation", some (.text s.wrapper.name)),
   ("return-response", some (.bool s.returnResponse)),
   ("base-package", some (.text s.basePackage)),
   ("bean-package", s.beanPackage?.map .text),
   ("spec", s.spec.map fun p ↦ .text p.text),
   ("input-base-dir", s.inputBaseDir.map fun p ↦ .text p.text),
   ("namespace", some (.text s.edition.root)),
   ("naming", some s.naming.entries.present.toNode),
   ("formatter", some s.formatter.entries.present.toNode)]

theorem toNode_eq (s : Settings) : s.toNode = s.entries.present.toNode := by
  unfold toNode entries
  cases s.beanPackage? <;> cases s.spec <;> cases s.inputBaseDir <;> rfl

theorem nodup_entries (s : Settings) : (s.entries.map Prod.fst).Nodup := by
  have hnames : s.entries.map Prod.fst = fieldNames.tail := rfl
  rw [hnames]
  decide

section Found

variable {fields : Fields} (hfind : ∀ name, name ≠ "mutiny" →
  fields.find? name = (s.entries.without gone).present.find? name)

include hfind

section Field

variable {α : Type} {name : String} {read : Node → Option α} {value : Option α}
  (write : α → Node) (hname : name ≠ "mutiny")
  (hentry : (s.entries.lookup name).join.map (Node.without fun path ↦ gone (name :: path)) =
    value.map write)

include hname hentry

theorem find?_eq_kept : fields.find? name = (kept gone [name] value).map write := by
  rw [hfind name hname, Entries.find?_present_without s.nodup_entries, hentry, map_kept]

theorem given?_eq_kept (hread : ∀ a ∈ value, read (write a) = some a) :
    fields.given? name read = some (kept gone [name] value) := by
  refine Fields.given?_eq write (find?_eq_kept hfind write hname hentry) fun a ha ↦ ?_
  exact hread a (mem_of_mem_kept ha)

theorem optional?_eq_kept (hread : ∀ a, (write a).isAbsent = false ∧ read (write a) = some a) :
    fields.optional? name read = some (kept gone [name] value) :=
  Fields.optional?_eq write (find?_eq_kept hfind write hname hentry) fun a _ ↦ hread a

end Field

theorem given?_wrapper : fields.given? "reactive-implementation" AsyncWrapper.ofNode? =
    some (kept gone ["reactive-implementation"] (some s.wrapper)) := by
  refine given?_eq_kept hfind (fun w ↦ .text w.name) (by decide) rfl fun w _ ↦ ?_
  cases w <;> decide

theorem given?_edition : fields.given? "namespace" Edition.ofNode? =
    some (kept gone ["namespace"] (some s.edition)) := by
  refine given?_eq_kept hfind (fun e ↦ .text e.root) (by decide) rfl fun e _ ↦ ?_
  cases e <;> decide

theorem exists_naming : ∃ naming, fields.group? "naming" ["interface-suffix"] = some naming ∧
    naming.given? "interface-suffix" Node.text? = some (kept gone ["naming"]
      (kept gone ["naming", "interface-suffix"] (some s.naming.interfaceSuffix))) := by
  have hnaming : fields.find? "naming" = if gone ["naming"] then none else
      some (s.naming.entries.present.toNode.without fun path ↦ gone ("naming" :: path)) := by
    rw [hfind _ (by decide), Entries.find?_present_without s.nodup_entries]
    rfl
  obtain ⟨naming, hgroup, hkey⟩ := Fields.exists_group? ["interface-suffix"]
    (by simp [Naming.entries]) (by simp [Naming.entries]) hnaming
  refine ⟨naming, hgroup, Fields.given?_eq .text ?_ fun _ _ ↦ rfl⟩
  rw [hkey, map_kept, map_kept]
  rfl

theorem exists_formatter (hindent : s.formatter.indentSize < 2 ^ 64) : ∃ formatter,
    fields.group? "formatter" ["indent-size", "use-tabs", "line-ending"] = some formatter ∧
    formatter.given? "indent-size" Node.natural? = some (kept gone ["formatter"]
      (kept gone ["formatter", "indent-size"] (some s.formatter.indentSize))) ∧
    formatter.given? "use-tabs" Node.bool? = some (kept gone ["formatter"]
      (kept gone ["formatter", "use-tabs"] (some s.formatter.useTabs))) ∧
    formatter.given? "line-ending" LineEnding.ofNode? = some (kept gone ["formatter"]
      (kept gone ["formatter", "line-ending"] (some s.formatter.lineEnding))) := by
  have hformatter : fields.find? "formatter" = if gone ["formatter"] then none else
      some (s.formatter.entries.present.toNode.without fun path ↦ gone ("formatter" :: path)) := by
    rw [hfind _ (by decide), Entries.find?_present_without s.nodup_entries]
    rfl
  obtain ⟨formatter, hgroup, hkey⟩ :=
    Fields.exists_group? ["indent-size", "use-tabs", "line-ending"]
      (by simp [Formatter.entries]) (by simp [Formatter.entries]) hformatter
  refine ⟨formatter, hgroup, ?_, ?_, ?_⟩
  · refine Fields.given?_eq (fun n : Nat ↦ .number (.integer n)) ?_ fun n hn ↦ ?_
    · rw [hkey, map_kept, map_kept]
      rfl
    · obtain rfl := Option.some.inj (mem_of_mem_kept (mem_of_mem_kept hn))
      have hsize : (s.formatter.indentSize : Int) ≤ Number.greatestUnsigned := by
        rw [Number.greatestUnsigned]
        omega
      simp [Node.natural?, Number.unsigned?, hsize]
  · refine Fields.given?_eq .bool ?_ fun _ _ ↦ rfl
    rw [hkey, map_kept, map_kept]
    rfl
  · refine Fields.given?_eq (fun e ↦ .text e.name) ?_ fun e _ ↦ ?_
    · rw [hkey, map_kept, map_kept]
      rfl
    · cases e <;> decide

/-- The fields that are found are those of the settings without what is gone, and the switch. -/
theorem ofFields?_eq {mutiny : Option Bool} (hindent : s.formatter.indentSize < 2 ^ 64)
    (hmutiny : fields.find? "mutiny" = mutiny.map .bool) :
    Layer.ofFields? fields = some (s.layer gone mutiny) := by
  have hswitch : fields.optional? "mutiny" Node.bool? = some mutiny :=
    Fields.optional?_eq .bool hmutiny fun _ _ ↦ ⟨rfl, rfl⟩
  have hreactive : fields.given? "reactive" Node.bool? =
      some (kept gone ["reactive"] (some s.reactive)) :=
    given?_eq_kept hfind .bool (by decide) rfl fun _ _ ↦ rfl
  have hreturn : fields.given? "return-response" Node.bool? =
      some (kept gone ["return-response"] (some s.returnResponse)) :=
    given?_eq_kept hfind .bool (by decide) rfl fun _ _ ↦ rfl
  have hbase : fields.given? "base-package" Node.text? =
      some (kept gone ["base-package"] (some s.basePackage)) :=
    given?_eq_kept hfind .text (by decide) rfl fun _ _ ↦ rfl
  have hbeans : fields.optional? "bean-package" Node.text? =
      some (kept gone ["bean-package"] s.beanPackage?) :=
    optional?_eq_kept hfind .text (by decide) (Option.map_map _ _ _) fun _ ↦ ⟨rfl, rfl⟩
  have hpath (p : FilePath) :
      (Node.text p.text).isAbsent = false ∧ pathOfNode? (.text p.text) = some p := ⟨rfl, rfl⟩
  have hspec : fields.optional? "spec" pathOfNode? = some (kept gone ["spec"] s.spec) :=
    optional?_eq_kept hfind (fun p ↦ .text p.text) (by decide) (Option.map_map _ _ _) hpath
  have hdirectory : fields.optional? "input-base-dir" pathOfNode? =
      some (kept gone ["input-base-dir"] s.inputBaseDir) :=
    optional?_eq_kept hfind (fun p ↦ .text p.text) (by decide) (Option.map_map _ _ _) hpath
  obtain ⟨naming, hnaming, hsuffix⟩ := exists_naming hfind
  obtain ⟨formatter, hformatter, hsize, htabs, hending⟩ := exists_formatter hfind hindent
  simp only [Layer.ofFields?, hswitch, hreactive, given?_wrapper hfind, hreturn, hbase, hbeans,
    hspec, hdirectory, given?_edition hfind, hnaming, hsuffix, hformatter, hsize, htabs, hending,
    Option.bind_eq_bind, Option.bind_some]
  rfl

end Found

theorem without_toNode (gone : List String → Bool) (s : Settings) :
    s.toNode.without gone = (s.entries.without gone).present.toNode := by
  rw [toNode_eq, Entries.without_toNode]

theorem nodup_written (gone : List String → Bool) (s : Settings) :
    ((s.entries.without gone).present.map Prod.fst).Nodup :=
  Entries.nodup_present (Entries.map_fst_without gone s.entries ▸ s.nodup_entries)

theorem mem_tail_of_mem_written {f : String × Node} (hf : f ∈ (s.entries.without gone).present) :
    f.1 ∈ fieldNames.tail := by
  have hname : f.1 ∈ (s.entries.without gone).map Prod.fst :=
    (Entries.map_fst_present_sublist _).subset (List.mem_map_of_mem hf)
  rwa [Entries.map_fst_without] at hname

theorem mutiny_not_mem (gone : List String → Bool) (s : Settings) :
    "mutiny" ∉ (s.entries.without gone).present.map Prod.fst := by
  intro hmem
  obtain ⟨f, hf, hname⟩ := List.mem_map.mp hmem
  have hknown := mem_tail_of_mem_written hf
  rw [hname] at hknown
  exact absurd hknown (by decide)

theorem ofNode?_without (hindent : s.formatter.indentSize < 2 ^ 64) (gone : List String → Bool) :
    Layer.ofNode? (s.toNode.without gone) = some (s.layer gone none) := by
  have hfields : (s.toNode.without gone).fields? fieldNames =
      some (s.entries.without gone).present := by
    rw [without_toNode]
    exact Fields.fields?_toNode (nodup_written gone s) fun f hf ↦
      List.mem_of_mem_tail (mem_tail_of_mem_written hf)
  have hmutiny : Fields.find? (s.entries.without gone).present "mutiny" = none := by
    rw [Entries.find?_present_without s.nodup_entries]
    split <;> rfl
  rw [Layer.ofNode?, hfields]
  exact ofFields?_eq (fun _ _ ↦ rfl) hindent hmutiny

/-- The switch is found wherever it is put. -/
theorem ofNode?_mutiny (hindent : s.formatter.indentSize < 2 ^ 64)
    {before after : List (Key × Node)} (h : s.toNode.without gone = .record (before ++ after))
    (on : Bool) :
    Layer.ofNode? (.record (before ++ (.text "mutiny", .bool on) :: after)) =
      some (s.layer gone (some on)) := by
  rw [without_toNode] at h
  obtain ⟨first, last, hsplit, rfl, rfl⟩ := List.map_eq_append_iff.mp (Node.record.inj h)
  have hnodup := nodup_written gone s
  have habsent := mutiny_not_mem gone s
  rw [hsplit] at hnodup habsent
  have hnode : Node.record (first.map (fun f ↦ (Key.text f.1, f.2)) ++ (.text "mutiny", .bool on) ::
      last.map fun f ↦ (Key.text f.1, f.2)) =
        Fields.toNode (first ++ ("mutiny", .bool on) :: last) := by
    rw [Fields.toNode, List.map_append, List.map_cons]
  have hfields : (Fields.toNode (first ++ ("mutiny", .bool on) :: last)).fields? fieldNames =
      some (first ++ ("mutiny", .bool on) :: last) := by
    refine Fields.fields?_toNode ?_ fun f hf ↦ ?_
    · rw [List.map_append, List.map_cons, List.nodup_middle, ← List.map_append]
      exact List.nodup_cons.mpr ⟨habsent, hnodup⟩
    · have hplace : f = ("mutiny", .bool on) ∨ f ∈ first ++ last := by
        simpa [or_left_comm] using hf
      rcases hplace with rfl | hf
      · exact List.mem_cons_self
      · exact List.mem_of_mem_tail (mem_tail_of_mem_written (hsplit ▸ hf))
  rw [hnode, Layer.ofNode?, hfields]
  refine ofFields?_eq (fun name hname ↦ ?_) hindent (Fields.find?_append_cons_self habsent)
  rw [hsplit]
  exact Fields.find?_append_cons_of_ne hname

/-- Settings are read back as they were written. Without some of their keys, at any depth, they are
read back with the defaults of these, and a `mutiny` key decides on the wrapper alone, wherever it
is put. -/
theorem ofNode?_toNode (s : Settings) (hindent : s.formatter.indentSize < 2 ^ 64) :
    ofNode? s.toNode = some s ∧
    (∀ gone : List String → Bool, ofNode? (s.toNode.without gone) = some (s.reset gone)) ∧
    ∀ (gone : List String → Bool) (on : Bool) (before after : List (Key × Node)),
      s.toNode.without gone = .record (before ++ after) →
      ofNode? (.record (before ++ (.text "mutiny", .bool on) :: after)) =
        some { s.reset gone with wrapper := if on then .mutiny else .completionStage } := by
  have hgone (gone : List String → Bool) :
      ofNode? (s.toNode.without gone) = some (s.reset gone) := by
    rw [ofNode?_eq_map_complete, ofNode?_without hindent, Option.map_some, complete_layer]
    rfl
  refine ⟨?_, hgone, fun gone on before after h ↦ ?_⟩
  · have hnothing := hgone fun _ ↦ false
    rw [Node.without_nothing] at hnothing
    exact hnothing
  · rw [ofNode?_eq_map_complete, ofNode?_mutiny hindent h, Option.map_some, complete_layer]
    rfl

/-- All but the package of beans and the input directory differ from the defaults. -/
def javaxSettings : Settings where
  reactive := true
  wrapper := .mutiny
  returnResponse := true
  basePackage := "org.acme"
  spec := some ⟨"pets.yaml"⟩
  edition := .javax
  naming := { interfaceSuffix := "Resource" }
  formatter := { indentSize := 2, useTabs := true, lineEnding := .crLf }

/-- A key of the settings, and one of a record in them. -/
def droppedPaths (path : List String) : Bool :=
  path == ["base-package"] || path == ["formatter", "indent-size"]

/-- What is written of the settings without these keys. -/
def javaxFields : List (Key × Node) :=
  [(.text "reactive", .bool true), (.text "reactive-implementation", .text "mutiny"),
   (.text "return-response", .bool true), (.text "spec", .text "pets.yaml"),
   (.text "namespace", .text "javax"),
   (.text "naming", .record [(.text "interface-suffix", .text "Resource")]),
   (.text "formatter",
     .record [(.text "use-tabs", .bool true), (.text "line-ending", .text "cr-lf")])]

theorem ofNode?_toNode_javax :
    javaxSettings.formatter.indentSize < 2 ^ 64 ∧
    javaxSettings.toNode.without droppedPaths =
      .record (javaxFields.take 3 ++ javaxFields.drop 3) ∧
    ofNode? (.record (javaxFields.take 3 ++ (.text "mutiny", .bool false) :: javaxFields.drop 3)) =
      some { javaxSettings with
        wrapper := .completionStage
        basePackage := "org.openapi.quarkus"
        formatter := { indentSize := 4, useTabs := true, lineEnding := .crLf } } := by
  have hindent : javaxSettings.formatter.indentSize < 2 ^ 64 := by decide
  have hfields : javaxSettings.toNode.without droppedPaths =
      .record (javaxFields.take 3 ++ javaxFields.drop 3) := rfl
  exact ⟨hindent, hfields,
    (ofNode?_toNode javaxSettings hindent).2.2 droppedPaths false _ _ hfields⟩

end Settings

end Jaxrs
