import ChatGateway.Bits
import ChatGateway.Number.Rounding

/-!
Named flags packed into one integer. A set keeps bits that its table does not name, so a set read
from the wire is written back as the same integer.
-/

namespace ChatGateway

/-- The names that a kind of flags has, each with its bits, in table order. -/
structure FlagTable where
  name : String
  bits : List (String × Int)
  deriving DecidableEq, Inhabited

/-- A flag that the table at hand does not name. -/
structure UnknownFlag where
  flag : String
  deriving DecidableEq

namespace FlagTable

/-- The names of the table, in order. -/
def names (t : FlagTable) : List String :=
  t.bits.map Prod.fst

def bitsOf (t : FlagTable) (flag : String) : Except UnknownFlag Int :=
  match t.bits.lookup flag with
  | some bits => .ok bits
  | none => .error ⟨flag⟩

def knownBits (t : FlagTable) : Int :=
  t.bits.foldl (fun known entry => Bits.union known entry.2) 0

end FlagTable

/-- A set of flags over a table. -/
structure FlagSet where
  table : FlagTable
  bits : Int
  deriving DecidableEq, Inhabited

namespace FlagSet

def empty (t : FlagTable) : FlagSet := ⟨t, 0⟩

def holds (s : FlagSet) (bits : Int) : Bool :=
  Bits.inter s.bits bits == bits

/-- The named flag is set. A flag without bits is set in every set. -/
def has (s : FlagSet) (flag : String) : Except UnknownFlag Bool := do
  return s.holds (← s.table.bitsOf flag)

/-- The set with the named flags added. -/
def insert (s : FlagSet) (flags : List String) : Except UnknownFlag FlagSet := do
  return { s with bits := ← flags.foldlM (fun acc flag => do
    return Bits.union acc (← s.table.bitsOf flag)) s.bits }

/-- The set with the named flags removed. -/
def erase (s : FlagSet) (flags : List String) : Except UnknownFlag FlagSet := do
  return { s with bits := ← flags.foldlM (fun acc flag => do
    return Bits.diff acc (← s.table.bitsOf flag)) s.bits }

/-- The set of exactly the named flags. -/
def ofNames (t : FlagTable) (flags : List String) : Except UnknownFlag FlagSet :=
  (empty t).insert flags

/-- The named flags that are set, in table order. -/
def names (s : FlagSet) : List String :=
  (s.table.bits.filter fun entry => s.holds entry.2).map Prod.fst

/-- The set bits that the table does not name. -/
def unknownBits (s : FlagSet) : Int :=
  Bits.diff s.bits s.table.knownBits

def isEmpty (s : FlagSet) : Bool :=
  s.bits == 0

/-- The two sets have the same bits. -/
def sameBits (s other : FlagSet) : Bool :=
  s.bits == other.bits

/-- The number that stands for the set on the wire, rounded where it is too large to be exact. -/
def toNumber (s : FlagSet) : Number :=
  .nearestInt s.bits

end FlagSet
end ChatGateway
