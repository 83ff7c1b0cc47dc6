import Tickflow.Media.CapabilityList
import Tickflow.Actor.Uri
import Tickflow.Port.Table
import Tickflow.Supply.PortRange
import Tickflow.Supply.BufferPool
import Tickflow.Tick.Broadcast
import Tickflow.Tick.Clock
import Tickflow.Format.JsonForms
import Tickflow.Engine.Topology
import Tickflow.Settings.File
import Tickflow.World
import Tickflow.Proofs.Run
import Tickflow.Proofs.CallLog
import Tickflow.Proofs.Connecting
import Tickflow.Proofs.Discipline
import Tickflow.Proofs.Settling
import Tickflow.Proofs.CausalReads
import Tickflow.Proofs.Delivery
import Tickflow.Proofs.Subscribers
import Tickflow.Proofs.Adapters
import Tickflow.Proofs.Locations
import Tickflow.Proofs.Relay
import Tickflow.Proofs.Bridging
import Tickflow.Proofs.Turns
import Tickflow.Proofs.Transparency
import Tickflow.Proofs.Names
import Tickflow.Proofs.Registries
import Tickflow.Proofs.Ownership
import Tickflow.Proofs.Resting
import Tickflow.Proofs.Lending
import Tickflow.Proofs.Directory
import Tickflow.Proofs.Spelling
import Tickflow.Proofs.Pipelines
import Tickflow.Proofs.WriteLog
import Tickflow.Proofs.Handoff
import Tickflow.Proofs.FanOut
import Tickflow.Proofs.Failures
import Tickflow.Proofs.Adding
import Tickflow.Proofs.Feedback
import Tickflow.Proofs.Cadence
import Tickflow.Proofs.Digraph
import Tickflow.Proofs.Binary64
import Tickflow.Proofs.Rates
import Tickflow.Proofs.Window
import Tickflow.Proofs.Numbering
import Tickflow.Proofs.Addresses
