import KosCeExtra.Library.CheckedBuffer
import KosCeExtra.Library.BitStream
import KosCeExtra.Library.TextStream
import KosCeExtra.Library.Separated
import KosCeExtra.Library.Traced
import KosCeExtra.Library.Transition
import KosCeExtra.Library.Family
import KosCeExtra.Library.Ledger
import KosCeExtra.Library.Justified
import KosCeExtra.Library.KeyedHistory
import KosCeExtra.Library.Dialogue
import KosCeExtra.Library.Monitor
import KosCeExtra.Library.Hex
import KosCeExtra.Library.FirstBest
import KosCeExtra.Sms.AsciiToPdu
import KosCeExtra.Sms.PduEncoding
import KosCeExtra.Sms.EncoderOutcomes
import KosCeExtra.Sms.RoundTrip
import KosCeExtra.Sms.StoreBounds
import KosCeExtra.Sms.Acceptance
import KosCeExtra.Sms.Alphabet
import KosCeExtra.Camera.JpegSize
import KosCeExtra.Camera.JpegFrame
import KosCeExtra.Camera.JpegScan
import KosCeExtra.Camera.ConfigureCamera
import KosCeExtra.Camera.ProfileFrameRate
import KosCeExtra.Camera.Snapshots
import KosCeExtra.Camera.SnapshotSizes
import KosCeExtra.Camera.Client
import KosCeExtra.Camera.ClientRuns
import KosCeExtra.Camera.ClientOutcome
import KosCeExtra.Web.Handlers
import KosCeExtra.Web.Server
import KosCeExtra.Web.Routing
import KosCeExtra.Web.StaticFiles
import KosCeExtra.Web.StaticQuery
import KosCeExtra.Web.QueryString
import KosCeExtra.Web.TokenQuery
import KosCeExtra.Web.TokenService
import KosCeExtra.Web.Session
import KosCeExtra.Web.Listener
import KosCeExtra.Dns.Answer
import KosCeExtra.Dns.Resolver
import KosCeExtra.Dns.ResolverLedger
import KosCeExtra.Dns.ResolverRuns
import KosCeExtra.Dns.ResolverElements
import KosCeExtra.Dns.ResolverClients
import KosCeExtra.Dns.ResolverWakeups
import KosCeExtra.Dns.Callable
import KosCeExtra.Dns.CallableDrain
import KosCeExtra.Dns.Client
import KosCeExtra.Summation.Server
import KosCeExtra.Summation.Client
import KosCeExtra.Summation.System
import KosCeExtra.Summation.SystemRuns
import KosCeExtra.Summation.SystemHistory
import KosCeExtra.Summation.SystemFairness
import KosCeExtra.Modem.Programs
import KosCeExtra.Modem.Readiness
import KosCeExtra.Modem.NtpdReadiness
import KosCeExtra.Modem.SmsRuns
import KosCeExtra.Modem.SmsReadiness
import KosCeExtra.Modem.SmsRelease
import KosCeExtra.Modem.NtpdRelease
import KosCeExtra.Wifi.ConnectionManager
import KosCeExtra.Wifi.Verdicts
import KosCeExtra.Wifi.StatusText
import KosCeExtra.Wifi.Client
import KosCeExtra.Wifi.ClientRuns
import KosCeExtra.Grpc.CommandLineArg
import KosCeExtra.Grpc.AcceptedArguments
import KosCeExtra.Grpc.Programs
import KosCeExtra.Grpc.ProgramRuns
import KosCeExtra.Hasher.Digest
import KosCeExtra.Hasher.DigestRuns
import KosCeExtra.Rabbitmq.AmqpDump
import KosCeExtra.Rabbitmq.DumpRows
import KosCeExtra.Rabbitmq.DumpReading
import KosCeExtra.Rabbitmq.Programs
import KosCeExtra.Rabbitmq.Connection
import KosCeExtra.Rabbitmq.OutputReading
import KosCeExtra.Rabbitmq.PublisherRuns
import KosCeExtra.Rabbitmq.ConsumerRuns
import KosCeExtra.Rabbitmq.Deliveries
import KosCeExtra.ExecutionManager.System
import KosCeExtra.ExecutionManager.Runs
import KosCeExtra.ExecutionManager.Progress
import KosCeExtra.Protobuf.AddressBook
import KosCeExtra.Protobuf.Reading
import KosCeExtra.Protobuf.Delivery
