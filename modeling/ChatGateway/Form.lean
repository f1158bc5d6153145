import ChatGateway.Traced
import ChatGateway.Value.Access

/-!
Forms of values on the wire. A form reads a value from the wire and writes it back; the form of a
record is a table with a form for each field. Both directions take any value: what a field holds is
kept as it is unless its form says otherwise, and a failure arises only where a value lacks what is
asked of it.
-/

namespace ChatGateway

/-- How a value is read from the wire and written to it. -/
structure Form where
  read : Value → Option Context → Traced Value
  write : Value → Except Failure Value

/-- One field of a record, under its name on the wire and its own. -/
structure Field where
  wireName : String
  name : String
  form : Form

namespace Form

/-- A value that looks the same on the wire. -/
def plain : Form where
  read wire _ := .result wire
  write := .ok

/-- A value that may be missing. It is `null` on the wire then. -/
def optional : Form where
  read wire _ := .result (wire.orElse .absent)
  write value := .ok (value.orElse .null)

/-- Like `form`, where `fallback` is read in place of a missing value. -/
def orElse (form : Form) (fallback : Value) : Form :=
  { form with read := fun wire context => form.read (wire.orElse fallback) context }

/-- A list of the elements that a value is made of. -/
def elements : Form where
  read wire _ := .ofExcept (.list <$> wire.elements)
  write value := .list <$> value.elements

/-- A list of values of one form. -/
def list (item : Form) : Form where
  read wire context := do
    let items ← Traced.ofExcept wire.items
    return .list (← Traced.forEach (item.read · context) items)
  write value := do
    let items ← value.items
    return .list (← items.mapM item.write)

/-- Reads the fields of a record in order. -/
def readFields (wire : Value) (context : Option Context) :
    List Field → Traced (List (String × Value))
  | [] => .result []
  | field :: rest => do
    let value ← field.form.read (← Traced.ofExcept (wire.field field.wireName)) context
    let others ← readFields wire context rest
    return (field.name, value) :: others

/-- A field with what is written for it. Where nothing is written the field is left out. -/
def writtenField (name : String) : Value → List (String × Value)
  | .absent => []
  | wire => [(name, wire)]

/-- Writes the fields of a record in order. -/
def writeFields (entity : Value) : List Field → Except Failure (List (String × Value))
  | [] => .ok []
  | field :: rest => do
    let wire ← field.form.write (← entity.field field.name)
    let others ← writeFields entity rest
    return writtenField field.wireName wire ++ others

/-- A record with the listed fields and no others. -/
def record (fields : List Field) : Form where
  read wire context := do return .record (← readFields wire context fields)
  write entity := do return .record (← writeFields entity fields)

/-- A record that may be missing. Whatever is not meaningful stands for a missing one. -/
def part (fields : List Field) : Form where
  read wire context :=
    if wire.isMeaningful then (record fields).read wire context else .result .absent
  write entity := if entity.isMeaningful then (record fields).write entity else .ok .null

end Form
end ChatGateway
