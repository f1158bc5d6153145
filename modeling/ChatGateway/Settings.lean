import ChatGateway.Digits
import ChatGateway.Failure
import ChatGateway.Number.Rounding

/-!
Settings from the environment: the protocol version and where the log goes.
-/

namespace ChatGateway

/-- Named settings of a process. -/
abbrev Environment := List (String × String)

/-- The value of a setting, unless it is empty. -/
def Environment.get? (env : Environment) (name : String) : Option String :=
  (env.lookup name).filter (! ·.isEmpty)

/-- Where the log goes. -/
structure LogSettings where
  environment : String
  level : String
  /-- The directory of log files; without one the log goes to the console alone. -/
  directory : Option String
  deriving DecidableEq, Inhabited

/-- All settings. -/
structure Settings where
  version : Number
  log : LogSettings
  deriving DecidableEq

def defaultVersion : Number := 10

def LogSettings.load (env : Environment) : LogSettings where
  environment := (env.get? "NODE_ENV").getD "development"
  level := (env.get? "LOG_LEVEL").getD "info"
  directory := env.get? "LOG_DIR"

namespace LeadingNumber

def isBlank (c : Char) : Bool :=
  let n := c.toNat
  (9 ≤ n && n ≤ 13) || n == 0x20 || n == 0xA0 || n == 0x1680 || (0x2000 ≤ n && n ≤ 0x200A) ||
    n == 0x2028 || n == 0x2029 || n == 0x202F || n == 0x205F || n == 0x3000 || n == 0xFEFF

/-- The number at the front of a text, after blanks and an optional sign. What follows the digits
is not looked at. -/
def read (text : String) : Number :=
  let trimmed := text.toList.dropWhile isBlank
  let (negative, unsigned) := match trimmed with
    | '-' :: rest => (true, rest)
    | '+' :: rest => (false, rest)
    | rest => (false, rest)
  match unsigned.takeWhile Char.isDigit with
  | [] => .nan
  | digits => .nearestDecimal negative (Digits.decimal digits) 0

end LeadingNumber

/-- Reads the protocol version, a whole number from one on. -/
def Settings.loadVersion (env : Environment) : Except Failure Number :=
  match env.get? "GATEWAY_VERSION" with
  | none => .ok defaultVersion
  | some raw =>
    let version := LeadingNumber.read raw
    match version.integer? with
    | some n => if n < 1 then .error (.invalidVersion raw) else .ok version
    | none => .error (.invalidVersion raw)

def Settings.load (env : Environment) : Except Failure Settings := do
  let version ← Settings.loadVersion env
  return ⟨version, .load env⟩

end ChatGateway
