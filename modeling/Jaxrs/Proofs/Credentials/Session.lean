import Jaxrs.Proofs.Credentials

/-!
Requests that several providers work on. A call changes nothing but the headers, and of those it
adds its provider's, if it is one that adds a header (`step_eq`); so the headers after a run are
those from before it and one for each such call, in their order (`run_eq`). The value of a header
depends on nothing but what its own provider finds, under names where no other provider looks
(`token_ofPairs_congr`).
-/

set_option autoImplicit false

namespace Jaxrs.Credentials

variable {c : Credentials} {provider : String}

theorem headerValue_http (c : Credentials) (provider : String) :
    c.headerValue .http provider = .ok (c.token provider) :=
  headerValue_eq_ok HeaderRules.http_acceptsVisible c provider

/-! ### Runs -/

/-- The provider whose header a call adds. -/
def Call.applied? : Call → Option String
  | apply provider => some provider
  | _ => none

/-- The providers whose headers are added, in the order of the calls. -/
def applied (calls : List Call) : List String :=
  calls.filterMap Call.applied?

theorem applied_cons (call : Call) (rest : List Call) :
    applied (call :: rest) = call.applied?.toList ++ applied rest := by
  cases h : call.applied? with
  | none => simp [applied, h]
  | some provider => simp [applied, h]

namespace Session

/-- The session with the headers of some more providers. -/
def extend (s : Session) (providers : List String) : Session :=
  { s with headers := s.headers ++ providers.map s.credentials.token }

theorem extend_extend (s : Session) (before after : List String) :
    (s.extend before).extend after = s.extend (before ++ after) := by
  simp [extend]

theorem step_eq (s : Session) (call : Call) :
    (s.step call).1 = s.extend call.applied?.toList := by
  cases call with
  | name provider => simp [step, extend, Call.applied?]
  | value provider key => simp [step, extend, Call.applied?]
  | headerValue provider => simp [step, extend, Call.applied?, headerValue_http]
  | apply provider => simp [step, extend, Call.applied?, headerValue_http]

theorem run_cons (s : Session) (call : Call) (rest : List Call) :
    s.run (call :: rest) =
      (((s.step call).1.run rest).1, (s.step call).2 :: ((s.step call).1.run rest).2) :=
  rfl

theorem run_eq (s : Session) (calls : List Call) : (s.run calls).1 = s.extend (applied calls) := by
  induction calls generalizing s with
  | nil => simp [run, extend, applied]
  | cons call rest ih =>
    rw [run_cons, ih, step_eq, extend_extend, applied_cons]

/-- A call answers as it does after the calls before it. -/
theorem getElem?_run (s : Session) (before : List Call) (call : Call) (after : List Call) :
    (s.run (before ++ call :: after)).2[before.length]? =
      some ((s.extend (applied before)).step call).2 := by
  induction before generalizing s with
  | nil => simp [run_cons, extend, applied]
  | cons first before ih =>
    rw [List.cons_append, run_cons, List.length_cons, List.getElem?_cons_succ, ih, step_eq,
      extend_extend, applied_cons]

end Session

/-- What a run of calls comes to, where `value` gives the header values of the providers. -/
structure Unfolds (c : Credentials) (value : String → String) (initial : List String)
    (calls : List Call) : Prop where
  credentials : (c.run initial calls).1.credentials = c
  headers : (c.run initial calls).1.headers = initial ++ (applied calls).map value
  /-- A header that is asked for anywhere in the run. -/
  headerValue : ∀ before provider after, calls = before ++ .headerValue provider :: after →
    (c.run initial calls).2[before.length]? = some (.text (value provider))
  /-- A value that is asked for anywhere in the run. -/
  value : ∀ before provider key after, calls = before ++ .value provider key :: after →
    (c.run initial calls).2[before.length]? = some (.text (c.value provider key))

theorem unfolds_run (c : Credentials) (initial : List String) (calls : List Call) :
    c.Unfolds c.token initial calls where
  credentials := by
    rw [run, Session.run_eq]
    rfl
  headers := by
    rw [run, Session.run_eq]
    rfl
  headerValue before provider after h := by
    rw [h, run, Session.getElem?_run, Session.step, headerValue_http]
    rfl
  value before provider key after h := by
    rw [h, run, Session.getElem?_run]
    rfl

/-! ### Providers apart from each other -/

/-- Whether a provider finds its user name or its password under a name. -/
def isNameOf (provider name : String) : Bool :=
  name == provider ++ "/" ++ "username" || name == provider ++ "/" ++ "password"

/-- The pairs apart from the user name and the password of one provider. -/
def apartFrom (provider : String) (pairs : List (String × String)) : List (String × String) :=
  pairs.filter fun pair ↦ !isNameOf provider pair.1

theorem isNameOf_eq_false {p q key : String} (hkey : '/' ∉ key.toList) (hne : p ≠ q) :
    isNameOf q (p ++ "/" ++ key) = false := by
  have hother (key' : String) (hkey' : '/' ∉ key'.toList) :
      (p ++ "/" ++ key == q ++ "/" ++ key') = false := by
    rw [beq_eq_false_iff_ne]
    exact fun heq ↦ hne ((name_inj hkey hkey').mp heq).1
  rw [isNameOf, hother "username" (by decide), hother "password" (by decide), Bool.or_false]

theorem value_ofPairs_apartFrom {p q key : String} (hkey : '/' ∉ key.toList) (hne : p ≠ q)
    (pairs : List (String × String)) :
    (ofPairs (apartFrom q pairs)).value p key = (ofPairs pairs).value p key := by
  have hkeep : (!isNameOf q (p ++ "/" ++ key)) = true := by
    rw [isNameOf_eq_false hkey hne, Bool.not_false]
  rw [value, value, find?_ofPairs, find?_ofPairs, apartFrom, ← List.filter_reverse,
    lookup_filter (fun name ↦ !isNameOf q name) hkeep]

/-- What one provider is given does not reach the headers of another. -/
theorem token_ofPairs_congr {p q : String} {pairs pairs' : List (String × String)} (hne : p ≠ q)
    (h : apartFrom q pairs = apartFrom q pairs') :
    (ofPairs pairs).token p = (ofPairs pairs').token p := by
  have hvalue (key : String) (hkey : '/' ∉ key.toList) :
      (ofPairs pairs).value p key = (ofPairs pairs').value p key := by
    rw [← value_ofPairs_apartFrom hkey hne, h, value_ofPairs_apartFrom hkey hne]
  rw [token, token, hvalue "username" (by decide), hvalue "password" (by decide)]

/-- The header that one of the calls adds to a request: those that add one are counted from zero. -/
def addedHeader? (pairs : List (String × String)) (initial : List String) (calls : List Call)
    (i : Nat) : Option String :=
  ((ofPairs pairs).run initial calls).1.headers[initial.length + i]?

theorem addedHeader?_eq (pairs : List (String × String)) (initial : List String)
    (calls : List Call) (i : Nat) :
    addedHeader? pairs initial calls i = (applied calls)[i]?.map (ofPairs pairs).token := by
  rw [addedHeader?, (unfolds_run (ofPairs pairs) initial calls).headers,
    List.getElem?_append_right (Nat.le_add_right _ _), Nat.add_sub_cancel_left, List.getElem?_map]

/-- One value for each provider runs through all requests, and it is the same for all credentials
that differ in what other providers find. -/
theorem sessions_unfold :
    (∀ pairs name, (ofPairs pairs).find? name = pairs.reverse.lookup name) ∧
    (∀ pairs, ∃ value,
      (∀ provider, (ofPairs pairs).headerValue .http provider = .ok (value provider)) ∧
        ∀ initial calls, (ofPairs pairs).Unfolds value initial calls) ∧
    ∀ p q pairs pairs', p ≠ q → apartFrom q pairs = apartFrom q pairs' →
      ∀ initial calls i, (applied calls)[i]? = some p →
        addedHeader? pairs initial calls i = addedHeader? pairs' initial calls i := by
  refine ⟨find?_ofPairs, fun pairs ↦ ?_, fun p q pairs pairs' hne hapart initial calls i hi ↦ ?_⟩
  · exact ⟨(ofPairs pairs).token, headerValue_http _, unfolds_run _⟩
  · rw [addedHeader?_eq, addedHeader?_eq, hi, Option.map_some, Option.map_some,
      token_ofPairs_congr hne hapart]

/-- The name of a provider may look like the name of a value. -/
def slashedPairs : List (String × String) :=
  [("a/username", "Ann"), ("a/password", "p"), ("a/username/username", "Bob"),
    ("a/username", "Amy")]

/-- The other provider is given a password, and its user name is changed. -/
def changedPairs : List (String × String) :=
  [("a/username/password", "q"), ("a/username", "Ann"), ("a/password", "p"), ("a/username", "Amy"),
    ("a/username/username", "Eve")]

def slashedCalls : List Call :=
  [.apply "a/username", .name "a", .apply "a"]

theorem sessions_unfold_slashed :
    (ofPairs slashedPairs).find? "a/username" = some "Amy" ∧
      "a" ≠ "a/username" ∧
      apartFrom "a/username" slashedPairs = apartFrom "a/username" changedPairs ∧
      addedHeader? slashedPairs ["Basic Og=="] slashedCalls 1 =
        addedHeader? changedPairs ["Basic Og=="] slashedCalls 1 := by
  obtain ⟨hlast, _, hapart⟩ := sessions_unfold
  refine ⟨?_, by decide, by decide, ?_⟩
  · rw [hlast]
    decide
  · exact hapart "a" "a/username" slashedPairs changedPairs (by decide) (by decide)
      ["Basic Og=="] slashedCalls 1 (by decide)

end Jaxrs.Credentials
