import Amt.Ecn.InPlace
import Amt.Gateway.Cycles
import Amt.Gateway.Failover
import Amt.Relay.Teardown
import Amt.ControlPlane.Activity
import Amt.Downstream
import Amt.Forward.PathMtu
import Amt.Forward.Marking
import Amt.Forward.Drain
import Amt.Upstream.Reconcile
import Amt.Upstream.Worker
import Amt.LocalMembership.Reporters
import Amt.Driad.DnsRefresh
import Amt.Driad.Refresh
import Amt.Driad.Reconcile
import Amt.Driad.DnsAnswers
import Amt.Driad.Resolve
import Amt.Query.HeaderChain
import Amt.Tunnel.InFlight
import Amt.Tunnel.Handshake
import Amt.Driad.QueryLimiter
import Amt.Pmtu.Feedback
import Amt.Pmtu.UpperLayer
import Amt.Pmtu.RateLimiter
import Amt.Machine.Datagram
