/-!
# The shape of diagnostic texts

A value is shown to an operator as one line: a record as its name and fields, a
wrapper as its name and contents, a list in brackets.  The functions here lay
out texts that are already rendered; each type renders its own parts in a
function named `dump` beside the type.
-/

namespace FrameBridge.Dump

/-- Rendered parts, a comma and a space between each two. -/
def commas (parts : List String) : String :=
  ", ".intercalate parts

/-- A field: its name, a colon and its value. -/
def field (f : String × String) : String :=
  f.1 ++ ": " ++ f.2

/-- A record with all of its fields; without fields only the name is left. -/
def record (name : String) (fields : List (String × String)) : String :=
  if fields.isEmpty then name
  else name ++ " \x7b " ++ commas (fields.map field) ++ " \x7d"

/-- A record of which some fields are not shown: two dots stand for the rest. -/
def openRecord (name : String) (fields : List (String × String)) : String :=
  name ++ " \x7b " ++ commas (fields.map field ++ [".."]) ++ " \x7d"

/-- A name and what it wraps. -/
def wrap (name : String) (parts : List String) : String :=
  name ++ "(" ++ commas parts ++ ")"

/-- A list. -/
def listing (parts : List String) : String :=
  "[" ++ commas parts ++ "]"

/-- A value that may be missing. -/
def optional : Option String → String
  | none => "None"
  | some part => wrap "Some" [part]

/-- A truth value. -/
def flag (b : Bool) : String :=
  if b then "true" else "false"

/-- A natural number, in decimal. -/
def number (n : Nat) : String :=
  String.ofList (Nat.toDigits 10 n)

/-- A natural number, in lower-case hexadecimal. -/
def hex (n : Nat) : String :=
  String.ofList (Nat.toDigits 16 n)

/-- An octet as two hexadecimal digits. -/
def hexOctet (b : UInt8) : String :=
  if b < 16 then "0" ++ hex b.toNat else hex b.toNat

end FrameBridge.Dump
