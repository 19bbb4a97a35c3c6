/-
**Endings of names.**

Main definition: `Handover.Text.dropSuffix` — a text without an ending that it may have.
-/

set_option autoImplicit false

namespace Handover.Text

/-- Whether `s` ends in `suffix`. -/
def hasSuffix (suffix s : String) : Bool := suffix.toList.isSuffixOf s.toList

/-- `s` without `suffix` at its end; `s` itself if it ends otherwise. -/
def dropSuffix (suffix s : String) : String :=
  if hasSuffix suffix s then String.ofList (s.toList.take (s.length - suffix.length)) else s

end Handover.Text
