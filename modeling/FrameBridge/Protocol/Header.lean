import FrameBridge.Text.Quoted

/-!
# Header lists

A header list keeps its fields in the order of the wire, and a name may occur
more than once.  Names are looked up without regard to the case of ASCII
letters.
-/

namespace FrameBridge

/-- The field that names the codings of a body. -/
def contentEncoding : String := "content-encoding"

/-- The field that gives the length of a body. -/
def contentLength : String := "content-length"

/-- One field of a header list. -/
structure HeaderField where
  name : Bytes
  value : Bytes
deriving DecidableEq, Repr, Inhabited

/-- A header list. -/
structure Headers where
  fields : List HeaderField
deriving DecidableEq, Repr, Inhabited

namespace HeaderField

/-- Whether the field goes by a name. -/
def isNamed (f : HeaderField) (name : String) : Bool :=
  Bytes.sameName f.name (Bytes.ofText name)

/-- The diagnostic text of a field. -/
def dump (f : HeaderField) : String :=
  Dump.record "HeaderField" [("name", Quoted.bytes f.name), ("value", Quoted.bytes f.value)]

end HeaderField

namespace Headers

/-- The list without fields. -/
def empty : Headers := ⟨[]⟩

/-- The number of fields. -/
def length (h : Headers) : Nat := h.fields.length

/-- Whether there are no fields. -/
def isEmpty (h : Headers) : Bool := h.fields.isEmpty

/-- The list with one more field at its end. -/
def insert (h : Headers) (name value : Bytes) : Headers :=
  ⟨h.fields ++ [⟨name, value⟩]⟩

/-- The value of the first field that goes by a name. -/
def get? (h : Headers) (name : String) : Option Bytes :=
  (h.fields.find? (·.isNamed name)).map (·.value)

/-- The list without the fields that go by a name. -/
def remove (h : Headers) (name : String) : Headers :=
  ⟨h.fields.filter fun f => !f.isNamed name⟩

/-- The number of fields that go by a name. -/
def count (h : Headers) (name : String) : Nat :=
  h.fields.countP (·.isNamed name)

/-- The diagnostic text of a header list. -/
def dump (h : Headers) : String :=
  Dump.wrap "Headers" [Dump.listing (h.fields.map HeaderField.dump)]

/-- What is taken away and what is left make up the whole list. -/
theorem length_remove_add_count (h : Headers) (name : String) :
    (h.remove name).length + h.count name = h.length := by
  cases h with
  | mk fields =>
      simp only [remove, length, count]
      induction fields with
      | nil => rfl
      | cons f fs ih =>
          cases hf : f.isNamed name <;> simp [hf] at ih ⊢ <;> omega

/-- A name that was taken away is not found. -/
theorem get?_remove (h : Headers) (name : String) : (h.remove name).get? name = none := by
  simp [get?, remove, List.find?_eq_none]

end Headers

end FrameBridge
