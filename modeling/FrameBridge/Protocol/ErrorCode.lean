import FrameBridge.Text.Dump

/-!
# Error codes

The codes that a reset stream or a closed connection carries.  Fourteen codes
have a registered name; any other number is kept as it is.
-/

namespace FrameBridge

/-- An error code as it stands on the wire. -/
structure ErrorCode where
  val : UInt32
deriving DecidableEq, Repr, Inhabited

namespace ErrorCode

/-- Nothing went wrong. -/
def noError : ErrorCode := ⟨0⟩

/-- The peer broke the protocol. -/
def protocolError : ErrorCode := ⟨1⟩

/-- This side failed. -/
def internalError : ErrorCode := ⟨2⟩

/-- The registered names, in the order of their codes. -/
def names : List String :=
  ["NO_ERROR", "PROTOCOL_ERROR", "INTERNAL_ERROR", "FLOW_CONTROL_ERROR",
    "SETTINGS_TIMEOUT", "STREAM_CLOSED", "FRAME_SIZE_ERROR", "REFUSED_STREAM",
    "CANCEL", "COMPRESSION_ERROR", "CONNECT_ERROR", "ENHANCE_YOUR_CALM",
    "INADEQUATE_SECURITY", "HTTP_1_1_REQUIRED"]

/-- The registered name of a code, if it has one. -/
def name? (c : ErrorCode) : Option String :=
  names[c.val.toNat]?

/-- The name of a code; a code without a name is shown as a number. -/
def display (c : ErrorCode) : String :=
  c.name?.getD ("0x" ++ Dump.hex c.val.toNat)

/-- The diagnostic text of a code, which is always a number. -/
def dump (c : ErrorCode) : String :=
  Dump.wrap "ErrorCode" [Dump.number c.val.toNat]

end ErrorCode

end FrameBridge
