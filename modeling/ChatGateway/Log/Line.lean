import ChatGateway.Log
import ChatGateway.Settings

/-!
The lines that entries become: one for the console, one for the file of all entries, and one for
the file of errors. The time of an entry is left as `<ts>`.
-/

namespace ChatGateway

namespace Severity

def text : Severity → String
  | .error => "error"
  | .warn => "warn"
  | .debug => "debug"

def capitals : Severity → String
  | .error => "ERROR"
  | .warn => "WARN"
  | .debug => "DEBUG"

def colour : Severity → Nat
  | .error => 31
  | .warn => 33
  | .debug => 34

def coloured (severity : Severity) : String :=
  "\x1b[" ++ toString severity.colour ++ "m" ++ severity.text ++ "\x1b[39m"

end Severity

namespace LogLevel

/-- The levels by name, the gravest first. -/
def names : List String := ["error", "warn", "info", "http", "verbose", "debug", "silly"]

/-- A log of the named level takes entries of a severity: it is at least as detailed. An unknown
level takes nothing, an empty one everything. -/
def takes (level : String) (severity : Severity) : Bool :=
  level.isEmpty || match names.idxOf? level, names.idxOf? severity.text with
    | some limit, some rank => rank ≤ limit
    | _, _ => false

end LogLevel

/-- The lines of one entry, where it is taken. -/
structure LogLines where
  console : Option String := none
  /-- In the file of all entries. -/
  combined : Option String := none
  /-- In the file of errors. -/
  errors : Option String := none

namespace LogLines

/-- The sentence holds a placeholder. Such entries show no attributes. -/
def hasPlaceholder : List Char → Bool
  | '%' :: c :: rest => "scdjifoO%".toList.contains c || hasPlaceholder (c :: rest)
  | _ :: rest => hasPlaceholder rest
  | [] => false

/-- The fields that every line has of its own. -/
def ownFields : List String := ["timestamp", "level", "message"]

def shownAttributes (entry : Entry) : Context :=
  if hasPlaceholder entry.message.toList then [] else entry.attributes.getD []

/-- The text of an attribute inside a sentence. -/
def sentence (value : Value) : Except Json.NoText String :=
  match value.inSentence? with
  | some text => .ok text
  | none => .error {}

/-- The sentence that an entry shows: an attribute of the name `message` is added to it. -/
def shownMessage (entry : Entry) : Except Json.NoText String := do
  match (shownAttributes entry).lookup "message" with
  | some added =>
    if added.isMeaningful then return entry.message ++ " " ++ (← sentence added)
    else return entry.message
  | none => return entry.message

/-- The attributes beside the fields that every line has. -/
def others (entry : Entry) : Context :=
  (shownAttributes entry).filter fun attr => !ownFields.contains attr.1

def recordText (fields : Context) : Except Json.NoText String := do
  return (← Json.text? (.record fields)).getD ""

def fileLine (entry : Entry) : Except Json.NoText String := do
  let message ← shownMessage entry
  recordText (Fields.listed ([
    ("timestamp", .text "<ts>"),
    ("level", .text entry.severity.capitals),
    ("message", .text message)] ++ others entry))

/-- A console line: time, level, component and operation, the sentence, and all other attributes
as JSON. -/
def consoleLine (entry : Entry) : Except Json.NoText String := do
  let mark (name : String) : Except Json.NoText String := do
    match (others entry).lookup name with
    | some v => if v.isMeaningful then return " [" ++ (← sentence v) ++ "]" else return ""
    | none => return ""
  let rest := (others entry).filter fun attr => attr.1 ≠ "component" ∧ attr.1 ≠ "operation"
  let shown ← recordText rest
  return "<ts> [" ++ entry.severity.coloured ++ "]" ++ (← mark "component") ++
    (← mark "operation") ++ ": " ++ (← shownMessage entry) ++
    if rest.isEmpty then "" else " " ++ shown

/-- The lines of an entry. A log of the environment `test` is silent. -/
def ofEntry (settings : LogSettings) (entry : Entry) : Except Json.NoText LogLines := do
  if settings.environment == "test" then return {}
  let file ← fileLine entry
  let taken := LogLevel.takes settings.level entry.severity
  return {
    console := ← if taken then some <$> consoleLine entry else .ok none
    combined := if taken then some file else none
    errors := if LogLevel.takes "error" entry.severity then some file else none }

end LogLines
end ChatGateway
