import Slim.HashMap
import Slim.Sequences
import Slim.Ring
import Slim.Runs
import Slim.Interleavings
import Slim.Machine
import Slim.GoText
import Slim.RustText
import Slim.Yaml
import Slim.Jsonwebtoken
import Slim.Pool
import Slim.RawPool
import Slim.Encoder
import Slim.Messages
import Slim.MessageRoundTrip
import Slim.Connections
import Slim.AgentTypeState
import Slim.SubscriptionTable
import Slim.SubscriptionTableViews
import Slim.SubscriptionTableInvariant
import Slim.SubscriptionTableMatch
import Slim.SubscriptionTableRefinement
import Slim.SubscriptionTableAnycast
import Slim.ConcurrentSubscriptions
import Slim.Forwarder
import Slim.ConnectionTable
import Slim.IndexReuse
import Slim.MessageProcessing
import Slim.SubscriptionProcessing
import Slim.PublishProcessing
import Slim.Service
import Slim.ForwardedSubscriptions
import Slim.ReconnectReplay
import Slim.Session
import Slim.Timer
import Slim.SessionLayer
import Slim.ConcurrentSessions
import Slim.RequestResponse
import Slim.RequestOutcomes
import Slim.ReceiverBuffer
import Slim.ReceiverBufferOrder
import Slim.ReceiverWindow
import Slim.ReceiverCalls
import Slim.ReceiverHistory
import Slim.ReceiverRequests
import Slim.ProducerBuffer
import Slim.Streaming
import Slim.StreamingOrder
import Slim.StreamPair
import Slim.ProducerWindow
import Slim.StreamRecovery
import Slim.MlsInterceptor
import Slim.Retransmission
import Slim.StreamLength
import Slim.FireAndForget
import Slim.FireAndForgetSteps
import Slim.FireAndForgetSticky
import Slim.FireAndForgetDelivery
import Slim.SessionConfiguration
import Slim.ConnectionRegistries
import Slim.SlimctlRoute
import Slim.ControllerCommands
import Slim.ControllerListings
import Slim.SessionDispatch
import Slim.SessionAccess
import Slim.SessionTasks
import Slim.JwtVerifier
import Slim.JwtBuilder
import Slim.JwtRuns
import Slim.JwtKeyRotation
import Slim.JwtServer
import Slim.JwtMiddleware
import Slim.JwtClient
import Slim.ConfigResolver
import Slim.ComponentId
import Slim.StreamOwnership
import Slim.StreamShutdown
import Slim.StreamRoutes
import Slim.StreamHandling
import Slim.JwtValidation
import Slim.Flooding
import Slim.FloodingReach
import Slim.Mesh
import Slim.MeshDelivery
