import Vigil.Dispatch.Handler

/-!
# Sanity checks

A sanity check answers whether a connection is usable right now. The check of an active channel
asks the owner of the connections about one fixed context. Answers may differ from call to call,
and a call may crash.
-/

namespace Vigil

/-- A check in a world `ω` that lets observations `ε` be seen; no answer means a crash. -/
structure SanityCheck (ε ω : Type) where
  ask : ω → Turn (Option Bool) ε ω

/-- The owner of the connections, asked by context. -/
structure StatusSource (ε ω : Type) where
  isConnected : String → ω → Turn (Option Bool) ε ω

/-- The check whether the channel of one context is connected. -/
structure ActiveChannelCheck (ε ω : Type) where
  source : StatusSource ε ω
  context : String

/-- Asking an active channel check is asking its source about its context. -/
def ActiveChannelCheck.toSanityCheck {ε ω : Type} (c : ActiveChannelCheck ε ω) :
    SanityCheck ε ω := ⟨c.source.isConnected c.context⟩

end Vigil
