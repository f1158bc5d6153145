import ChatGateway.Form

/-!
Flag sets on the wire. A set is one natural number within the safe limit; larger ones would lose
bits in transit and are refused.
-/

namespace ChatGateway

namespace FlagTable

/-- The set that a wire number stands for. Bits without a name are kept and logged. -/
def decode (t : FlagTable) (bits : Value) (context : Option Context) : Traced FlagSet := do
  match bits.number?.bind Number.count? with
  | none =>
    Traced.fail (.decode (.structural t.name "flags.integer"
      (t.name ++ " must be a non-negative safe integer") bits))
  | some n =>
    let flags : FlagSet := ⟨t, n⟩
    if flags.unknownBits ≠ 0 then
      Traced.write (.unknownFlagBits t.name flags.unknownBits context)
    return flags

def encode : Value → Except Failure Value
  | .flags set => .ok (.number set.toNumber)
  | _ => .error .unsuited

def form (t : FlagTable) : Form where
  read wire context := .flags <$> t.decode wire context
  write := encode

def optionalForm (t : FlagTable) : Form where
  read wire context := if wire.isVacant then .result .absent else t.form.read wire context
  write value := if value.isMeaningful then encode value else .ok .null

end FlagTable
end ChatGateway
