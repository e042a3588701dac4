import OpenNet.Common.ThreadRetirement
import OpenNet.Common.WorkTracker
import OpenNet.Engine.NameReservation
import OpenNet.Http.BearerSingleFlight
import OpenNet.Http.CancellationSignal
import OpenNet.Http.CookieFilter
import OpenNet.Http.CookieSnapshot
import OpenNet.Http.MultipartRoundTrip
import OpenNet.Http.ObserverCount
import OpenNet.Http.RedirectConfinement
import OpenNet.Http.RegistryAdmission
import OpenNet.Http.RetryAgreement
import OpenNet.Http.StreamTerminal
import OpenNet.Http.TimeoutArbitration
import OpenNet.NetStatus.LanRecommendation
import OpenNet.NetStatus.LeaseAgreement
import OpenNet.NetStatus.SourceConsistency
import OpenNet.Subscription.CallbackRunner
import OpenNet.Ws.AdmissionAgreement
import OpenNet.Ws.ApplicationHeartbeat
import OpenNet.Ws.CancellationHooks
import OpenNet.Ws.ConnectionClosing
import OpenNet.Ws.HistoryDelivery
import OpenNet.Ws.NetworkLoss
import OpenNet.Ws.OperationArbitration
import OpenNet.Ws.PeerReception
import OpenNet.Ws.PingRetryBound
import OpenNet.Ws.ProbeCorrelation
import OpenNet.Ws.ResolveSafety
import OpenNet.Ws.ResponseGrace
import OpenNet.Ws.SessionRuntime
import OpenNet.Ws.WireDelivery
import OpenNet.Ws.WriteSchedule
