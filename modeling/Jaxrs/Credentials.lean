import Jaxrs.Base64
import Jaxrs.Document.Field
import Jaxrs.Failure
import Jaxrs.Header

/-!
Credentials of authentication providers, and the authorization headers made of them. A provider
finds its user name and password under its own name, and a missing value is empty. Requests carry
one header for every time a provider was applied.
-/

set_option autoImplicit false

namespace Jaxrs

/-- Values by `provider/key`, each name once. -/
structure Credentials where
  entries : List (String × String)
  deriving DecidableEq, Repr

namespace Credentials

def put (c : Credentials) (name value : String) : Credentials :=
  ⟨c.entries.filter (·.1 != name) ++ [(name, value)]⟩

/-- The last of several values under one name counts. -/
def ofPairs (pairs : List (String × String)) : Credentials :=
  pairs.foldl (fun c p => c.put p.1 p.2) ⟨[]⟩

def find? (c : Credentials) (name : String) : Option String :=
  c.entries.lookup name

/-- Empty if there is no such value. -/
def value (c : Credentials) (provider key : String) : String :=
  (c.find? (provider ++ "/" ++ key)).getD ""

def entriesOfNode? (n : Node) : Option (List (String × String)) := do
  (← n.record?).mapM fun f => do some (← f.1.text?, ← f.2.text?)

def ofNode? (n : Node) : Option Credentials := do
  let fields ← n.fields? ["auth"]
  let pairs ← fields.orElse? "auth" [] entriesOfNode?
  some (ofPairs pairs)

/-- The value of an authorization header for a user. -/
def basicToken (username password : String) : String :=
  "Basic " ++ String.ofList
    (Base64.encode (username ++ ":" ++ password).toUTF8.data.toList)

/-- What the credentials of a provider come to. -/
def token (c : Credentials) (provider : String) : String :=
  basicToken (c.value provider "username") (c.value provider "password")

def headerValue (c : Credentials) (rules : HeaderRules) (provider : String) :
    Except HeaderFailure String :=
  if rules.accepts (c.token provider) then .ok (c.token provider) else .error (.invalid provider)

def headerLine (c : Credentials) (rules : HeaderRules) (provider : String) :
    Except HeaderFailure String := do
  let value ← c.headerValue rules provider
  if rules.prints value then return "Authorization: " ++ value else throw .notPrintable

/-! ### Requests -/

/-- What can be asked of a provider. -/
inductive Call where
  | name (provider : String)
  | value (provider key : String)
  | headerValue (provider : String)
  /-- Adds the provider's header to the request. -/
  | apply (provider : String)
  deriving DecidableEq, Repr

inductive Answer where
  | text (s : String)
  /-- All authorization headers of the request. -/
  | headers (values : List String)
  deriving DecidableEq, Repr

/-- The credentials that all providers share, and the authorization headers of a request. -/
structure Session where
  credentials : Credentials
  headers : List String
  deriving DecidableEq, Repr

namespace Session

/-- The session after a call, and its answer. A call that fails changes nothing and answers with the
message of its failure. -/
def step (s : Session) : Call → Session × Answer
  | .name provider => (s, .text provider)
  | .value provider key => (s, .text (s.credentials.value provider key))
  | .headerValue provider =>
    match s.credentials.headerValue .http provider with
    | .ok value => (s, .text value)
    | .error e => (s, .text e.message)
  | .apply provider =>
    match s.credentials.headerValue .http provider with
    | .ok value =>
      let headers := s.headers ++ [value]
      ({ s with headers }, .headers headers)
    | .error e => (s, .text e.message)

def run (s : Session) : List Call → Session × List Answer
  | [] => (s, [])
  | call :: rest =>
    let (s, answer) := s.step call
    let (s, answers) := s.run rest
    (s, answer :: answers)

end Session

/-- Calls on a request that has some headers already. -/
def run (c : Credentials) (headers : List String) (calls : List Call) : Session × List Answer :=
  Session.run ⟨c, headers⟩ calls

end Credentials

end Jaxrs
