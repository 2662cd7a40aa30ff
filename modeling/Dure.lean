import Dure.Orchestration.Store.Representation
import Dure.Orchestration.Store.Blocking
import Dure.Orchestration.Store.Revisions
import Dure.Orchestration.Store.Acknowledgements
import Dure.Orchestration.Store.WakeLaws
import Dure.Orchestration.Store.Tenancy
import Dure.Orchestration.Graph.Acceptance
import Dure.Orchestration.Graph.DependencyOrder
import Dure.Checkout.RequestIdentity
import Dure.Runtime.Attempts
import Dure.Plugin.Custody
import Dure.TerminalState.Delivery
import Dure.HubRelay.Pairing
import Dure.HubRelay.Budget
import Dure.HostRuntime.InputReceipts
import Dure.Host.DeltaRetention
import Dure.HostRuntime.SlotAccounting
import Dure.HostRuntime.ViewportReplacement
