import WormVerify.Core.Engine
import WormVerify.Types.Text

/-! # Ids and errors as text -/

namespace WormVerify.Core

open WormVerify.Types

namespace MessageId

variable (hex : Hex)

def toHex (id : MessageId) : String := hex.encode id.val

def fromHex : String → Except String MessageId := decodeFixed hex 32 "expected 32 bytes"

end MessageId

def EngineError.display : EngineError → String
  | .store description => s!"storage error: {description}"
  | .messageNotObserved => "message has not been observed"
  | .guardianSetUnavailable => "guardian set is unavailable"
  | .guardianIndexOutOfRange index =>
      s!"guardian index {index.toNat} is out of range for the active set"
  | .invalidSignature index => s!"signature from guardian {index.toNat} is invalid"
  | .duplicateSignature index => s!"guardian {index.toNat} has already signed this message"
  | .vaa error => error.display
  | .alreadyCompleted => "a VAA has already been assembled for this message"

namespace MessageId

variable {hex : Hex} (lawful : hex.Lawful)

include lawful

theorem fromHex_eq_ok {text : String} {id : MessageId} :
    fromHex hex text = .ok id ↔ Spells hex text id.val :=
  lawful.decodeFixed_eq_ok

theorem fromHex_toHex (id : MessageId) : fromHex hex (id.toHex hex) = .ok id :=
  (fromHex_eq_ok lawful).mpr (lawful.spells_encode id.val)

end MessageId

end WormVerify.Core
