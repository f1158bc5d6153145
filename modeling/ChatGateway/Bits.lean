/-!
Integers as sets of bit positions, in two's complement: a negative integer holds all positions
from some point on. `mem_inter`, `mem_union` and `mem_diff` say what each operation does to the
positions.
-/

namespace ChatGateway.Bits

def mem (i : Nat) : Int → Bool
  | .ofNat n => n.testBit i
  | .negSucc n => !n.testBit i

/-- The bits of the natural number `m` that `n` lacks. -/
def natDiff (m n : Nat) : Nat :=
  m ^^^ (m &&& n)

def inter : Int → Int → Int
  | .ofNat m, .ofNat n => .ofNat (m &&& n)
  | .ofNat m, .negSucc n => .ofNat (natDiff m n)
  | .negSucc m, .ofNat n => .ofNat (natDiff n m)
  | .negSucc m, .negSucc n => .negSucc (m ||| n)

def union : Int → Int → Int
  | .ofNat m, .ofNat n => .ofNat (m ||| n)
  | .ofNat m, .negSucc n => .negSucc (natDiff n m)
  | .negSucc m, .ofNat n => .negSucc (natDiff m n)
  | .negSucc m, .negSucc n => .negSucc (m &&& n)

/-- The bits of `m` that `n` lacks. -/
def diff (m n : Int) : Int :=
  inter m (~~~n)

theorem testBit_natDiff (m n i : Nat) :
    (natDiff m n).testBit i = (m.testBit i && !n.testBit i) := by
  cases h : m.testBit i <;> simp [natDiff, h]

@[simp]
theorem mem_inter (i : Nat) (m n : Int) : mem i (inter m n) = (mem i m && mem i n) := by
  cases m <;> cases n <;> simp [mem, inter, testBit_natDiff, Bool.and_comm]

@[simp]
theorem mem_union (i : Nat) (m n : Int) : mem i (union m n) = (mem i m || mem i n) := by
  cases m <;> cases n <;> simp [mem, union, testBit_natDiff, Bool.or_comm]

@[simp]
theorem mem_complement (i : Nat) (n : Int) : mem i (~~~n) = !mem i n := by
  cases n <;> simp [mem, Complement.complement, Int.not]

@[simp]
theorem mem_diff (i : Nat) (m n : Int) : mem i (diff m n) = (mem i m && !mem i n) := by
  simp [diff]

/-- The digits of `n` in base two, after a minus sign when `n` is negative. -/
def binaryText (n : Int) : String :=
  let digits := String.ofList (Nat.toDigits 2 n.natAbs)
  if n < 0 then "-" ++ digits else digits

end ChatGateway.Bits
