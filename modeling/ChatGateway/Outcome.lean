import ChatGateway.Traced

/-!
Decoding that reports failure as a value. Refused payloads become verdicts; any other failure is
logged and passed on.
-/

namespace ChatGateway

/-- The verdict on a payload. -/
inductive Verdict (α : Type) where
  | valid (data : α)
  | invalid (error : DecodeError)

/-- The cause of a failure, as an entry shows it. A bare value shows nothing. -/
def Failure.report? (failure : Failure) : Option ErrorReport :=
  failure.name?.map fun name => ⟨.text name, .text failure.message, .absent⟩

def Traced.verdict {α : Type} (decoded : Traced α) (context : Option Context) :
    Traced (Verdict α) :=
  match decoded.outcome with
  | .ok data => ⟨decoded.log, .ok (.valid data)⟩
  | .error (.decode error) => ⟨decoded.log, .ok (.invalid error)⟩
  | .error failure =>
    let entry := Entry.failure "Unexpected error while decoding payload"
      (some (Context.extend context [("operation", .text "safe_decode")])) failure.report?
    ⟨decoded.log ++ [entry], .error failure⟩

end ChatGateway
