import FrameBridge.Text.Bytes
import FrameBridge.Text.Dump
import FrameBridge.Text.Printable

/-!
# Quoted texts

How a text and how an octet string appear inside a diagnostic line: between
double quotes, with everything escaped that could not be read back by eye.
-/

namespace FrameBridge.Quoted

/-- A code point by number. -/
def codePoint (c : Char) : String :=
  "\\u\x7b" ++ Dump.hex c.toNat ++ "\x7d"

/-- One character of a quoted text.  A mark that joins the character before it
is escaped even though it is visible. -/
def char (c : Char) : String :=
  if c = '\x00' then "\\0"
  else if c = '\t' then "\\t"
  else if c = '\r' then "\\r"
  else if c = '\n' then "\\n"
  else if c = '\\' then "\\\\"
  else if c = '"' then "\\\""
  else if Printable.isExtending c || !Printable.isVisible c then codePoint c
  else c.toString

/-- A text between quotes. -/
def text (s : String) : String :=
  "\"" ++ String.join (s.toList.map char) ++ "\""

/-- One octet of a quoted octet string: visible ASCII stands for itself, six
octets have a short escape, every other octet is two hexadecimal digits. -/
def octet (b : UInt8) : String :=
  if b = 0x22 then "\\\""
  else if b = 0x5c then "\\\\"
  else if b = 0x0a then "\\n"
  else if b = 0x0d then "\\r"
  else if b = 0x09 then "\\t"
  else if b = 0x00 then "\\0"
  else if 0x20 ≤ b && b < 0x7f then (Char.ofNat b.toNat).toString
  else "\\x" ++ Dump.hexOctet b

/-- An octet string between quotes, marked by a leading `b`. -/
def bytes (xs : Bytes) : String :=
  "b\"" ++ String.join (xs.map octet) ++ "\""

end FrameBridge.Quoted
