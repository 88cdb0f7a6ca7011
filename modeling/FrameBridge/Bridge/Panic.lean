/-!
# Panic payloads

What a panic carries.  Only texts can be shown to an operator.
-/

namespace FrameBridge

/-- The payload of a panic. -/
inductive PanicPayload where
  | text (message : String)
  /-- A value that is not a text. -/
  | other
deriving DecidableEq, Repr, Inhabited

namespace PanicPayload

/-- The text that is shown for a payload. -/
def display : PanicPayload → String
  | .text m => m
  | .other => "Any \x7b .. \x7d"

/-- The diagnostic text of a payload, which never shows what it carries. -/
def dump (_ : PanicPayload) : String := "PanicMessage(Any \x7b .. \x7d)"

end PanicPayload

end FrameBridge
