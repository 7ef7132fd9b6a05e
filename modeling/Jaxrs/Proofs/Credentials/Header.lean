import Jaxrs.Command.Run
import Jaxrs.Proofs.Command.Generate
import Jaxrs.Proofs.Credentials

/-!
The headers of providers. Base 64 consists of visible characters, so that under any rules that
accept these every provider of all credentials has a header, and the header can be shown. It decodes
to the user name and the password of the provider, and so it is the same as another one only if
these are (`authorizes`). The command that shows a header would report it if there were none, but it
fails for no other reason than that the credentials cannot be loaded (`shows`).
-/

set_option autoImplicit false

namespace Jaxrs.Credentials

variable {rules : HeaderRules} {c c' : Credentials} {provider provider' : String}

/-- Empty if the credentials have none. -/
def username (c : Credentials) (provider : String) : String :=
  (c.find? (provider ++ "/username")).getD ""

def password (c : Credentials) (provider : String) : String :=
  (c.find? (provider ++ "/password")).getD ""

theorem token_eq (c : Credentials) (provider : String) :
    c.token provider = basicToken (c.username provider) (c.password provider) := by
  rw [token, value_eq, value_eq]
  rfl

/-- There is a header, it can be shown, and it is the credentials of the provider in base 64. -/
def Authorizes (rules : HeaderRules) (c : Credentials) (provider : String) : Prop :=
  ∃ text : List Char,
    c.headerValue rules provider = .ok ("Basic " ++ String.ofList text) ∧
      c.headerLine rules provider = .ok ("Authorization: Basic " ++ String.ofList text) ∧
      Base64.decode? text =
        some (Text.bytes (c.username provider ++ ":" ++ c.password provider))

theorem authorizes_of_acceptsVisible (h : rules.AcceptsVisible) (c : Credentials)
    (provider : String) : c.Authorizes rules provider := by
  refine ⟨Base64.encode (Text.bytes (c.username provider ++ ":" ++ c.password provider)), ?_, ?_,
    Base64.decode?_encode _⟩
  · rw [headerValue_eq_ok h, token_eq]
    rfl
  · have hstart : "Authorization: Basic " = "Authorization: " ++ "Basic " := by decide
    rw [headerLine_eq_ok h, token_eq, hstart, String.append_assoc]
    rfl

theorem headerValue_eq_iff (h : rules.AcceptsVisible) (hname : ':' ∉ (c.username provider).toList)
    (hname' : ':' ∉ (c'.username provider').toList) :
    c.headerValue rules provider = c'.headerValue rules provider' ↔
      c.username provider = c'.username provider' ∧
        c.password provider = c'.password provider' := by
  rw [headerValue_eq_ok h, headerValue_eq_ok h, token_eq, token_eq, Except.ok.injEq,
    basicToken_inj hname hname']

/-! ### The command -/

/-- The line is made after the credentials have been loaded, and making it does not fail. -/
theorem outcome_authHeaderText (t : FileTree) (provider : String) (config : FilePath) :
    outcome t (authHeaderText provider config) =
      ((outcome t (load Credentials.read config)).mapError CommandFailure.core).map
        fun c ↦ "Authorization: " ++ c.token provider ++ "\n" := by
  have hload : outcome t (asCore (load Credentials.read config)) =
      (outcome t (load Credentials.read config)).mapError CommandFailure.core := rfl
  rw [authHeaderText, (readsOnly_load Credentials.read config).asCore.outcome_bind, hload]
  cases outcome t (load Credentials.read config) with
  | error e => rfl
  | ok c =>
    have hline := headerLine_eq_ok HeaderRules.http_acceptsVisible c provider
    change outcome t (orCore ((c.headerLine .http provider).mapError Failure.header) >>=
      fun line ↦ pure (line ++ "\n")) = _
    rw [hline]
    rfl

theorem read_ne_header (p : FilePath) (text : String) (e : HeaderFailure) :
    Credentials.read p text ≠ .error (.header e) := by
  have helim {x : Option Credentials} {f : Failure} (hf : f ≠ .header e) :
      x.elim (.error f) Except.ok ≠ .error (.header e) := by
    cases x with
    | none => simpa using hf
    | some c => exact nofun
  rw [Credentials.read, readDocument]
  split
  · rename_i format _
    cases format with
    | json => exact helim nofun
    | yaml => exact helim nofun
  · exact nofun

theorem load_ne_header (t : FileTree) (config : FilePath) (e : HeaderFailure) :
    outcome t (load Credentials.read config) ≠ .error (.header e) := by
  rw [outcome_load]
  intro h
  rcases Except.bind_eq_error_iff.mp h with hfile | ⟨text, _, hread⟩
  · obtain ⟨_, _, heq⟩ := Except.mapError_eq_error_iff.mp hfile
    cases heq
  · exact read_ne_header config text e hread

/-- All that the command prints is the line of a header, and all that it reports is a failure to
load. -/
structure Shows (t : FileTree) (provider : String) (config : FilePath) : Prop where
  ok : ∀ text, outcome t (authHeaderText provider config) = .ok text ↔
    ∃ c line, outcome t (load Credentials.read config) = .ok c ∧
      c.headerLine .http provider = .ok line ∧ text = line ++ "\n"
  error : ∀ e, outcome t (authHeaderText provider config) = .error e ↔
    ∃ f, outcome t (load Credentials.read config) = .error f ∧ e = .core f
  /-- That a header cannot be sent or shown is never reported. -/
  noHeaderFailure : ∀ e, outcome t (authHeaderText provider config) ≠ .error (.core (.header e))

theorem shows (t : FileTree) (provider : String) (config : FilePath) :
    Shows t provider config := by
  have herror (e : CommandFailure) : outcome t (authHeaderText provider config) = .error e ↔
      ∃ f, outcome t (load Credentials.read config) = .error f ∧ e = .core f := by
    rw [outcome_authHeaderText]
    cases outcome t (load Credentials.read config) with
    | error f => simp [Except.mapError, Except.map, eq_comm]
    | ok c => simp [Except.mapError, Except.map]
  refine ⟨fun text ↦ ?_, herror, fun e h ↦ ?_⟩
  · have hline (c : Credentials) := headerLine_eq_ok HeaderRules.http_acceptsVisible c provider
    rw [outcome_authHeaderText]
    cases outcome t (load Credentials.read config) with
    | error f => simp [Except.mapError, Except.map]
    | ok c => simp [Except.mapError, Except.map, hline, eq_comm]
  · obtain ⟨f, hload, hf⟩ := (herror _).mp h
    cases hf
    exact load_ne_header t config e hload

/-- Whatever the credentials are, every provider has a header, which can be shown and tells the user
name and the password. So there are no failures of a header, and the command that shows one never
reports any. -/
theorem authorizes (rules : HeaderRules) (h : rules.AcceptsVisible) :
    (∀ c provider, Authorizes rules c provider) ∧
    (∀ c c' provider provider', ':' ∉ (username c provider).toList →
      ':' ∉ (username c' provider').toList →
        (c.headerValue rules provider = c'.headerValue rules provider' ↔
          c.username provider = c'.username provider' ∧
            c.password provider = c'.password provider')) ∧
    ∀ t provider config, Shows t provider config :=
  ⟨authorizes_of_acceptsVisible h, fun _ _ _ _ ↦ headerValue_eq_iff h, shows⟩

/-- Two providers, one of which has no password. -/
def petCredentials : Credentials :=
  ofPairs [("pets/username", "Zoë"), ("pets/password", "a:b"), ("toys/username", "Zoë")]

theorem authorizes_pets :
    HeaderRules.http.AcceptsVisible ∧ petCredentials.Authorizes .http "pets" ∧
      petCredentials.headerValue .http "pets" ≠ petCredentials.headerValue .http "toys" ∧
      outcome .empty (authHeaderText "pets" ⟨"auth.json"⟩) = .error (.core (.io .notFound)) := by
  have hrules := HeaderRules.http_acceptsVisible
  obtain ⟨hall, hsame, hshows⟩ := authorizes .http hrules
  refine ⟨hrules, hall petCredentials "pets", fun heq ↦ ?_, ?_⟩
  · have hboth := (hsame petCredentials petCredentials "pets" "toys" (by decide) (by decide)).mp heq
    exact absurd hboth.2 (by decide)
  · exact ((hshows .empty "pets" ⟨"auth.json"⟩).error _).mpr ⟨.io .notFound, rfl, rfl⟩

end Jaxrs.Credentials
