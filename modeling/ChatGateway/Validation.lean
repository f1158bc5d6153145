import ChatGateway.Schema
import ChatGateway.Traced

/-!
Checking payloads. Each problem is logged as a warning before the verdict is given.
-/

namespace ChatGateway

/-- Logs problems in order. A value that has no JSON text ends the run. -/
def logProblems (context : Option Context) : List Problem → Traced Unit
  | [] => .result ()
  | problem :: rest => do
    match Entry.validationError problem.field problem.rule problem.value context with
    | .ok entry => Traced.write entry
    | .error _ => Traced.fail .noText
    logProblems context rest

namespace Schema

/-- The problems of a `root` payload, as they are reported. -/
def report (shape : Schema) (root : String) (payload : Value) : List Problem :=
  (shape.check payload).map (Finding.report root)

/-- Checks a `root` payload and logs its problems, which are the result. -/
def validate (shape : Schema) (root : String) (payload : Value) (context : Option Context) :
    Traced (List Problem) := do
  if shape.breaksDown payload then Traced.fail .noSize
  let problems := shape.report root payload
  logProblems context problems
  return problems

/-- Refuses a `root` payload that has problems, and logs them. Of any other its copy is handed
on. -/
def require (shape : Schema) (root : String) (payload : Value) (context : Option Context) :
    Traced Value := do
  match ← shape.validate root payload context with
  | [] => return shape.copied payload
  | problems => Traced.fail (.decode (.ofProblems root problems))

/-- A payload of the right shape passes and leaves no trace in the log. -/
theorem require_of_accepts {shape : Schema} {payload : Value}
    (checkable : shape.breaksDown payload = false) (h : shape.check payload = [])
    (root : String) (context : Option Context) :
    shape.require root payload context = .result (shape.copied payload) := by
  simp [require, validate, report, checkable, h, logProblems, Bind.bind, Pure.pure,
    Traced.andThen, Traced.result]

end Schema
end ChatGateway
