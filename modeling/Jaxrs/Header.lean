/-!
Values of request headers. A text has to be accepted as a value before it can be sent, and a value
can be shown if it can be printed. Visible characters of ASCII pass both.
-/

set_option autoImplicit false

namespace Jaxrs

structure HeaderRules where
  /-- Whether a text can be the value of a header. -/
  accepts : String → Bool
  /-- Whether a value can be shown as text. -/
  prints : String → Bool

namespace HeaderRules

def isVisible (c : Char) : Bool :=
  ' ' ≤ c && c ≤ '~'

/-- Controls other than the tab are refused, and what lies outside of ASCII is not printed. -/
def http : HeaderRules where
  accepts s := s.toList.all fun c => c == '\t' || ' ' ≤ c && c != '\x7f'
  prints s := s.toList.all fun c => c == '\t' || isVisible c

end HeaderRules

end Jaxrs
