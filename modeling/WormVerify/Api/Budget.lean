import WormVerify.Api.View
import WormVerify.Infra.Provenance

/-! # How long an operation takes

No resolver waits for another one. Each is through after a number of port calls
that depends on the operation alone.
-/

namespace WormVerify.Api

open WormVerify.Types WormVerify.Core WormVerify.Infra Service Program Checked

/-- The most port calls that an operation makes. -/
def portCalls : Operation → Nat
  | .health => 0
  | .vaa _ | .pendingMessages | .guardianSet => 1
  | .stats => 2
  | .submitObservation _ => 7
  | .signAsGuardian _ _ => 8

def each : apiPorts.Op → Nat := fun _ => 1

theorem price_one : price 1 1 1 = fun _ => 1 := by
  funext op
  cases op <;> rfl

section

variable {budget : Nat}

theorem rateLimit_spends : SpendsOr each rateLimit 1 := by
  refine ⟨Nat.le_refl 1, ?_⟩
  intro answer
  cases answer <;> trivial

theorem argument_spends {parsed : Except String α} : SpendsOr each (argument parsed) budget :=
  trivial

theorem ofOption_spends {value : Option α} {message : String} :
    SpendsOr each (ofOption value message) budget :=
  trivial

theorem engine_spends {computation : EngineM α}
    (spends : @SpendsOr α ports _ (price 1 1 1) computation budget) :
    SpendsOr each (engine computation) budget := by
  rw [price_one] at spends
  exact Spends.map (@Spends.within limiterPorts ports _ each _ _ spends)

theorem ask_once {op : PortOp} {fits : op.Response = Except EngineError α} :
    @SpendsOr α ports _ (price 1 1 1) (askFallible op fits) 1 :=
  ask_spends (by rw [price_one])

end

section

variable {crypto : Crypto} {signing : Signing crypto} {hex : Hex}
  {guardians : SimulatedGuardians signing}

theorem resolve_spends (operation : Operation) :
    ((api hex guardians).body operation).Spends each (portCalls operation) := by
  cases operation with
  | health => exact SpendsOr.map SpendsOr.pure
  | vaa id =>
      apply SpendsOr.map
      apply argument_spends.bind_free
      intro id
      exact (engine_spends ask_once).bind_pure
  | pendingMessages =>
      apply SpendsOr.map
      exact (engine_spends ask_once).bind_pure
  | guardianSet =>
      apply SpendsOr.map
      exact (engine_spends ask_once).bind_pure
  | stats =>
      apply SpendsOr.map
      refine SpendsOr.bind_pure (engine_spends ?_)
      exact ask_once.bind fun _ => ask_once.bind_pure
  | submitObservation input =>
      apply SpendsOr.map
      change SpendsOr each (MutationRoot.submitObservation hex crypto input)
        (1 + (4 * 1 + 1 + 1))
      apply rateLimit_spends.bind
      intro _
      apply argument_spends.bind_free
      intro body
      exact (engine_spends observe_spends).bind_pure
  | signAsGuardian messageId guardianIndex =>
      apply SpendsOr.map
      change SpendsOr each
        (MutationRoot.signAsGuardian hex crypto guardians messageId guardianIndex)
        (1 + (4 * 1 + 1 + 2 * 1))
      apply rateLimit_spends.bind
      intro _
      apply argument_spends.bind_free
      intro id
      apply ofOption_spends.bind_free
      intro signature
      exact (engine_spends submit_spends).bind_pure

end

end WormVerify.Api
