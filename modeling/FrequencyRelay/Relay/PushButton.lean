import Mathlib.Algebra.GroupWithZero.Nat
import FrequencyRelay.Core.BitMasks

/-!
# The push-button interrupt

`MaintenanceButtonInterrupt` of `a1m.c` and `pushButtonISR` of `hello_world.c`
have one body: read the edge-capture register, clear it with a second access,
and give the maintenance semaphore when the value read was exactly 1.
-/

namespace FrequencyRelay.PushButton

open FrequencyRelay.BitMasks

/-- Where the handler is between its accesses; `captured` is `*temp`. -/
inductive HandlerPc
  | idle
  | clearRegister (captured : BitVec 32)
  | testValue (captured : BitVec 32)
  deriving DecidableEq

/-- The sticky bits of the three buttons and the handler that reads them. -/
structure Buttons where
  edgeCapture : BitVec 32
  handler : HandlerPc
  deriving DecidableEq

/-- `maintanenceInit` clears the register before interrupts are enabled. -/
def maintanenceInit : Buttons := ⟨0, .idle⟩

/-- The board has three buttons. -/
instance threeButtons : NeZero 3 := ⟨by decide⟩

def edge (button : Buttons) (index : Fin 3) : Buttons :=
  { button with edgeCapture := button.edgeCapture ||| bit 32 index }

/-- One step of the handler, which runs while an edge is captured, and whether
that step gives the maintenance semaphore. -/
def buttonInterrupt (button : Buttons) : Option (Buttons × Bool) :=
  match button.handler with
  | .idle =>
      if button.edgeCapture = 0 then none
      else some ({ button with handler := .clearRegister button.edgeCapture }, false)
  | .clearRegister captured =>
      some (⟨button.edgeCapture &&& ~~~7, .testValue captured⟩, false)
  | .testValue captured =>
      some ({ button with handler := .idle }, captured == 1)

end FrequencyRelay.PushButton
