import ChatGateway.Form

/-!
Collections whose elements carry their own key. Reading a list keeps the last element of each key
at the place of the first.
-/

namespace ChatGateway

/-- Elements under distinct keys, in order of first appearance. -/
structure Keyed (κ α : Type) [BEq κ] where
  entries : List (κ × α)
  distinct : (entries.map Prod.fst).Pairwise fun a b => (a == b) = false

namespace Keyed

variable {κ α ι : Type} [BEq κ]

def empty : Keyed κ α := ⟨[], .nil⟩

instance : Inhabited (Keyed κ α) := ⟨empty⟩

def keys (c : Keyed κ α) : List κ := c.entries.map Prod.fst

/-- The elements in order of their keys. -/
def values (c : Keyed κ α) : List α := c.entries.map Prod.snd

def get? (c : Keyed κ α) (key : κ) : Option α := c.entries.lookup key

def contains (c : Keyed κ α) (key : κ) : Bool := c.keys.any (· == key)

/-- Puts an element under a key, at the place of the one it replaces or at the end. -/
def insert (c : Keyed κ α) (key : κ) (value : α) : Keyed κ α :=
  ⟨Fields.set key value c.entries, Fields.distinct_keys_set c.distinct⟩

@[simp]
theorem get?_insert [LawfulBEq κ] (c : Keyed κ α) (key other : κ) (value : α) :
    (c.insert key value).get? other = if other == key then some value else c.get? other :=
  Fields.lookup_set key other value c.entries

@[simp]
theorem keys_insert (c : Keyed κ α) (key : κ) (value : α) :
    (c.insert key value).keys = if c.contains key then c.keys else c.keys ++ [key] :=
  Fields.keys_set key value c.entries

/-- Reads items into a collection that has elements already. A key that is taken is logged. -/
def decodeInto (decodeItem : ι → Traced α) (keyOf : α → κ) (duplicate : κ → Entry) :
    Keyed κ α → List ι → Traced (Keyed κ α)
  | c, [] => .result c
  | c, item :: rest => do
    let value ← decodeItem item
    let key := keyOf value
    if c.contains key then
      Traced.write (duplicate key)
    decodeInto decodeItem keyOf duplicate (c.insert key value) rest

def decode (items : List ι) (decodeItem : ι → Traced α) (keyOf : α → κ) (duplicate : κ → Entry) :
    Traced (Keyed κ α) :=
  decodeInto decodeItem keyOf duplicate empty items

/-- Reads a list whose items are handed over with their positions. A missing list has no items. -/
def decodeIndexed (items : Option (List ι)) (decodeItem : ι → Nat → Traced α) (keyOf : α → κ)
    (duplicate : κ → Entry) : Traced (Keyed κ α) :=
  decode (items.getD []).zipIdx (fun (item, position) => decodeItem item position) keyOf duplicate

/-- Writes the elements as a list, in order of their keys. -/
def encode {ε ω : Type} (c : Keyed κ α) (encodeItem : α → Except ε ω) : Except ε (List ω) :=
  c.values.mapM encodeItem

/-- A map of values of one form under their keys, which is a list on the wire. -/
def form (item : Form) (keyOf : Value → Value) (collection : String) : Form where
  read wire context := do
    let items ← Traced.ofExcept (if wire.isVacant then .ok none else some <$> wire.values)
    let c ← decodeIndexed items (fun wire _ => item.read wire context) keyOf
      (Entry.duplicateKey collection · context)
    return .map c.entries
  write value := do
    let values ← value.values
    return .list (← values.mapM item.write)

end Keyed
end ChatGateway
