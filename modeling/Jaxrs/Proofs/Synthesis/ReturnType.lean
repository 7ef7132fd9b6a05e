import Jaxrs.Proofs.Synthesis

/-!
What a method returns. The type of the answer comes first, then the response it may be put into,
then the wrapper of a result that is still to come; `Operation.Returns` says what each of the three
does, and a method returns what it says (`Operation.returns_iff`). Nothing of the answer is lost on
the way but whether it was boxed (`Settings.wrapResult_eq_iff`).
-/

set_option autoImplicit false

namespace Jaxrs

/-- The type of what an operation answers: nothing at all, a value of a known type, or a response
that can hold anything. -/
inductive Operation.Answers (s : Settings) (beanPackage : String) (op : Operation) : JavaType → Prop
  | nothing (h : op.response = none) : Answers s beanPackage op .void
  | typed {r : Response} {schema : Schema} {type : JavaType} (h : op.response = some r)
    (hschema : r.schema = some schema)
    (htype : Schema.javaType? beanPackage schema true = some type) : Answers s beanPackage op type
  | untyped {r : Response} (h : op.response = some r)
    (hschema : ∀ schema ∈ r.schema, Schema.javaType? beanPackage schema true = none) :
    Answers s beanPackage op (.plain (s.edition.root ++ ".ws.rs.core.Response"))

/-- The response that an answer is put into, if answers are put into responses. -/
inductive Settings.Encloses (s : Settings) : JavaType → JavaType → Prop
  | bare {answer : JavaType} (h : s.returnResponse = false) : Encloses s answer answer
  | empty (h : s.returnResponse = true) :
    Encloses s .void (.plain (s.edition.root ++ ".ws.rs.core.Response"))
  | filled {answer : JavaType} (h : s.returnResponse = true) (hanswer : answer ≠ .void) :
    Encloses s answer (.named "org.jboss.resteasy.reactive.RestResponse" [answer.boxed])

/-- The operation's own choice decides whether a result comes later, or else the project does. -/
def Operation.IsLater (s : Settings) (op : Operation) : Prop :=
  op.async = some true ∨ op.async = none ∧ s.reactive = true

/-- What the method of an operation returns. -/
inductive Operation.Returns (s : Settings) (beanPackage : String) (op : Operation) : JavaType → Prop
  | now {answer result : JavaType} (hanswer : op.Answers s beanPackage answer)
    (hresult : s.Encloses answer result) (h : ¬ op.IsLater s) : Returns s beanPackage op result
  | later {answer result : JavaType} (hanswer : op.Answers s beanPackage answer)
    (hresult : s.Encloses answer result) (h : op.IsLater s) :
    Returns s beanPackage op (.named s.wrapper.className [result.boxed])

theorem JavaType.isVoid_iff {t : JavaType} : t.isVoid = true ↔ t = .void := by
  cases t <;> simp [isVoid]

namespace Operation

variable {s : Settings} {beanPackage : String} {op : Operation} {type : JavaType}

theorem answers_iff : op.Answers s beanPackage type ↔ op.resultType s beanPackage = type := by
  have hnothing (h : op.response = none) : op.resultType s beanPackage = .void := by
    rw [resultType, h]
  have hsome {r : Response} (h : op.response = some r) : op.resultType s beanPackage =
      (r.schema.bind (Schema.javaType? beanPackage · true)).getD s.responseType := by
    rw [resultType, h]
    rfl
  constructor
  · intro h
    cases h with
    | nothing h => exact hnothing h
    | typed h hschema htype => rw [hsome h, hschema, Option.bind_some, htype, Option.getD_some]
    | untyped h hschema =>
      rw [hsome h, Option.bind_eq_none_iff.mpr hschema]
      rfl
  · rintro rfl
    cases hresponse : op.response with
    | none =>
      rw [hnothing hresponse]
      exact .nothing hresponse
    | some r =>
      rw [hsome hresponse]
      cases hbind : r.schema.bind (Schema.javaType? beanPackage · true) with
      | none => exact .untyped hresponse (Option.bind_eq_none_iff.mp hbind)
      | some type =>
        obtain ⟨schema, hschema, htype⟩ := Option.bind_eq_some_iff.mp hbind
        exact .typed hresponse hschema htype

theorem isAsync_iff : isAsync s.reactive op.async = true ↔ op.IsLater s := by
  rw [isAsync, IsLater]
  cases op.async <;> simp

end Operation

namespace Settings

variable {s : Settings} {answer other result : JavaType}

theorem encloses_iff : s.Encloses answer result ↔ s.envelope answer = result := by
  rw [envelope]
  constructor
  · intro h
    cases h with
    | bare h => rw [h, if_neg Bool.false_ne_true]
    | empty h => rw [if_pos h]; rfl
    | filled h hanswer =>
      have hvoid : ¬ answer.isVoid = true := fun hvoid ↦ hanswer (JavaType.isVoid_iff.mp hvoid)
      rw [if_pos h, if_neg hvoid]
  · rintro rfl
    by_cases h : s.returnResponse = true
    · rw [if_pos h]
      by_cases hvoid : answer.isVoid = true
      · rw [if_pos hvoid, JavaType.isVoid_iff.mp hvoid]
        exact .empty h
      · rw [if_neg hvoid]
        exact .filled h fun heq ↦ hvoid (JavaType.isVoid_iff.mpr heq)
    · rw [if_neg h]
      exact .bare (Bool.eq_false_of_not_eq_true h)

/-- A response tells answers apart but for their boxes: an answer is its only argument, and without
an argument there was no answer. -/
theorem envelope_eq_iff (h : s.returnResponse = true) :
    s.envelope answer = s.envelope other ↔
      answer.boxed = other.boxed ∧ answer.isVoid = other.isVoid := by
  rw [envelope, envelope, if_pos h, if_pos h]
  by_cases hanswer : answer.isVoid = true
  · by_cases hother : other.isVoid = true
    · rw [JavaType.isVoid_iff.mp hanswer, JavaType.isVoid_iff.mp hother]
      simp
    · simp [hanswer, hother, responseType]
  · by_cases hother : other.isVoid = true
    · simp [hanswer, hother, responseType]
    · simp [hanswer, hother]

/-- A response is a class, and so is never boxed. -/
theorem boxed_envelope (h : s.returnResponse = true) :
    (s.envelope answer).boxed = s.envelope answer := by
  rw [envelope, if_pos h]
  split <;> rfl

/-- What a result keeps of its answer. Boxed are those answers that something is put around, and a
response keeps even `void` apart from its box. -/
theorem wrapResult_eq_iff {async : Bool} : s.wrapResult async answer = s.wrapResult async other ↔
    answer = other ∨ answer.boxed = other.boxed ∧
      if s.returnResponse then answer.isVoid = other.isVoid else async = true := by
  have hwrap : s.wrapResult async answer = s.wrapResult async other ↔
      if async then (s.envelope answer).boxed = (s.envelope other).boxed
      else s.envelope answer = s.envelope other := by
    cases async <;> simp [wrapResult]
  rw [hwrap]
  cases h : s.returnResponse with
  | true =>
    have hself (heq : answer = other) :
        answer.boxed = other.boxed ∧ answer.isVoid = other.isVoid := by
      rw [heq]
      exact ⟨rfl, rfl⟩
    rw [boxed_envelope h, boxed_envelope h, ite_self, envelope_eq_iff h, if_pos rfl,
      or_iff_right_of_imp hself]
  | false =>
    have hbare (t : JavaType) : s.envelope t = t := by
      rw [envelope, h, if_neg Bool.false_ne_true]
    have hself (heq : answer = other) : answer.boxed = other.boxed := by
      rw [heq]
    rw [hbare, hbare, if_neg Bool.false_ne_true]
    cases async with
    | true => rw [if_pos rfl, and_iff_left rfl, or_iff_right_of_imp hself]
    | false => simp

end Settings

namespace Operation

variable {s : Settings} {beanPackage : String} {op : Operation} {type : JavaType}

theorem returns_iff : op.Returns s beanPackage type ↔ op.returnType s beanPackage = type := by
  rw [returnType, Settings.wrapResult]
  constructor
  · intro h
    cases h with
    | now hanswer hresult h =>
      rw [answers_iff.mp hanswer, Settings.encloses_iff.mp hresult,
        if_neg (mt isAsync_iff.mp h)]
    | later hanswer hresult h =>
      rw [answers_iff.mp hanswer, Settings.encloses_iff.mp hresult, if_pos (isAsync_iff.mpr h)]
  · rintro rfl
    by_cases h : isAsync s.reactive op.async = true
    · rw [if_pos h]
      exact .later (answers_iff.mpr rfl) (Settings.encloses_iff.mpr rfl) (isAsync_iff.mp h)
    · rw [if_neg h]
      exact .now (answers_iff.mpr rfl) (Settings.encloses_iff.mpr rfl) (mt isAsync_iff.mpr h)

end Operation

/-- Every method returns what its operation says, and what is put around an answer keeps it but for
its box, or as it is where nothing is put around it. -/
theorem Resource.returns_interface {s : Settings} {beanPackage contextRoot : String}
    {render : String → String} {r : Resource} {i : Interface}
    (h : r.interface s beanPackage render contextRoot = .ok i) :
    List.Forall₂ (fun op m ↦ ∀ type, m.returnType = type ↔ op.Returns s beanPackage type)
        r.operations i.methods ∧
      (∀ (async : Bool) (answer other : JavaType),
        s.wrapResult async answer = s.wrapResult async other → answer.boxed = other.boxed) ∧
      (s.returnResponse = false → ∀ answer, s.wrapResult false answer = answer) := by
  refine ⟨forall₂_methods (fun op m hm type ↦ ?_) h, fun async answer other heq ↦ ?_, ?_⟩
  · obtain ⟨v, _, rfl⟩ := Operation.method_eq_ok_iff.mp hm
    exact Operation.returns_iff.symm
  · rcases Settings.wrapResult_eq_iff.mp heq with rfl | ⟨hboxed, _⟩
    · rfl
    · exact hboxed
  · intro hresponse answer
    rw [Settings.wrapResult, Settings.envelope, hresponse, if_neg Bool.false_ne_true,
      if_neg Bool.false_ne_true]

/-- One answer with nothing in it, one that is not waited for, and one of which nothing is known. -/
def meters : Resource where
  package := "org.acme.api"
  name := "meters"
  path := "/meters"
  operations :=
    [{ name := "reset", path := none, verb := "delete", description := none, produces := none
       consumes := none, async := none, arguments := [], response := none },
     { name := "read", path := none, verb := "get", description := none, produces := none
       consumes := none, async := some false, arguments := []
       response :=
         some ⟨some (.value ⟨.one .integer, some "int64", none, none, none, none, none⟩)⟩ },
     { name := "dump", path := some "/dump", verb := "get", description := none, produces := none
       consumes := none, async := some true, arguments := [], response := some ⟨none⟩ }]

theorem Resource.returns_interface_meters : ∃ i,
    meters.interface { reactive := true, returnResponse := true } "org.acme.beans" id "" = .ok i ∧
      (i.methods.map fun m ↦ m.returnType.text) =
        ["java.util.concurrent.CompletionStage<jakarta.ws.rs.core.Response>",
         "org.jboss.resteasy.reactive.RestResponse<java.lang.Long>",
         "java.util.concurrent.CompletionStage<org.jboss.resteasy.reactive.RestResponse<" ++
          "jakarta.ws.rs.core.Response>>"] ∧
      List.Forall₂ (fun op m ↦ ∀ type, m.returnType = type ↔
        op.Returns { reactive := true, returnResponse := true } "org.acme.beans" type)
        meters.operations i.methods :=
  ⟨_, rfl, by decide +kernel, (returns_interface rfl).1⟩

end Jaxrs
