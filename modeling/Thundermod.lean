import Thundermod.Guidsub.Laws
import Thundermod.Guidsub.Commit
import Thundermod.Guidsub.Substitution
import Thundermod.Control.Loop
import Thundermod.Control.Run
import Thundermod.Shim.AllOrNothing
import Thundermod.Shim.Transparency
import Thundermod.Shim.Teardown
import Thundermod.Shim.RootBridges
import Thundermod.Shim.OpenRecords
import Thundermod.Shim.Forwarders
import Thundermod.Guidsub.Endianness
import Thundermod.Guidsub.Bounds
import Thundermod.Guidsub.Pipeline
import Thundermod.Guidsub.DriverImage
import Thundermod.Guidsub.Resources
import Thundermod.Shim.Determinacy
import Thundermod.Shim.Cleanup
import Thundermod.Shim.Retries
import Thundermod.Shim.Tracing
import Thundermod.Shim.Histories
import Thundermod.Shim.Locating
import Thundermod.Hotplug.Answers
import Thundermod.Hotplug.Publication
import Thundermod.Shim.Interfaces
import Thundermod.Control.Growth
import Thundermod.Shim.Substitutes
import Thundermod.Shim.Hooks
import Thundermod.Shim.Sessions
import Thundermod.Shim.Restarts
import Thundermod.Shim.HeapSafety
import Thundermod.Shim.Findable
import Thundermod.Shim.Verdicts
import Thundermod.Shim.Dump
