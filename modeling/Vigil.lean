import Vigil.Attribute.Expansion
import Vigil.Config.Load
import Vigil.Demo.Accounts
import Vigil.Demo.Heartbeat
import Vigil.Dispatch.Rehearsal
import Vigil.Probe.Rehearsal
import Vigil.Proofs.Attribute.Companion
import Vigil.Proofs.Attribute.Generics
import Vigil.Proofs.Attribute.Millis
import Vigil.Proofs.Attribute.Suffix
import Vigil.Proofs.Attribute.Timing
import Vigil.Proofs.Config.Fallback
import Vigil.Proofs.Config.Override
import Vigil.Proofs.Config.Section
import Vigil.Proofs.Demo.Outage
import Vigil.Proofs.Demo.Replay
import Vigil.Proofs.Dispatch.Broadcast
import Vigil.Proofs.Dispatch.Delivery
import Vigil.Proofs.Dispatch.Registration
import Vigil.Proofs.Probe.Streak
import Vigil.Proofs.Schedule.Building
import Vigil.Proofs.Schedule.Chain
import Vigil.Proofs.Schedule.SelfStop
import Vigil.Proofs.Schedule.Sessions
import Vigil.Proofs.Schedule.Survival
import Vigil.Proofs.Time.Shorthand
import Vigil.Schedule.Rehearsal
