import Sarm.Memory
import Sarm.Fifo
import Sarm.PrefixCode
import Sarm.DynTable
import Sarm.DynFifo
import Sarm.HpackTables
import Sarm.HpackDecode
import Sarm.HpackFrame
import Sarm.HpackFields
import Sarm.Rfc7541
import Sarm.HpackSound
import Sarm.Frame
import Sarm.Path
import Sarm.Request
import Sarm.Response
import Sarm.Handlers
import Sarm.Transport
import Sarm.Server
import Sarm.Trace
import Sarm.Acts
import Sarm.ConnWindow
import Sarm.Nesting
import Sarm.ResetStream
import Sarm.ConnErrors
import Sarm.FrameOrder
import Sarm.SameAnswer
import Sarm.ServeOnce
import Sarm.Attended
import Sarm.Receiving
import Sarm.TableOps
import Sarm.Recycling
import Sarm.StreamWindows
import Sarm.HeaderBlock
import Sarm.Detection
import Sarm.Http1Path
import Sarm.Headers
import Sarm.Programs
import Sarm.Record
import Sarm.PathAgreement
import Sarm.Http1Request
import Sarm.PathConfinement
import Sarm.Isolation
import Sarm.StreamOutput
import Sarm.HpackContext
import Sarm.HeaderEnd
import Sarm.Http1Response
import Sarm.Child
import Sarm.Ranges
import Sarm.Http1Globals
import Sarm.HeaderList
import Sarm.HeaderReads
import Sarm.Pipelining
import Sarm.HpackAccess
import Sarm.HpackBounds
import Sarm.PathBuffers
import Sarm.RequestIsolation
import Sarm.KeepAlive
import Sarm.FieldLookup
import Sarm.Staging
import Sarm.Aes
import Sarm.CarryLess
import Sarm.Gcm
import Sarm.TlsRecord
import Sarm.Sha256
import Sarm.Hmac
import Sarm.Hkdf
import Sarm.KeySchedule
import Sarm.StreamErrors
import Sarm.Trailers
import Sarm.Alike
import Sarm.SplitHeaders
import Sarm.Messages
import Sarm.Framing
import Sarm.Layer
import Sarm.SecureTransport
import Sarm.Flushing
import Sarm.Octets
import Sarm.Der
import Sarm.Prefilled
import Sarm.Destination
import Sarm.ClientHello
import Sarm.HelloParsed
import Sarm.Accumulators
import Sarm.Certificates
import Sarm.Jacobian
import Sarm.Limbs
import Sarm.P256Field
import Sarm.P256Primes
import Sarm.AdditionChains
import Sarm.AliasedName
import Sarm.BitScan
import Sarm.BodyWriter
import Sarm.HpackIntegers
import Sarm.HuffmanCode
import Sarm.P256Scalar
import Sarm.StreamScan
import Sarm.Transcript
import Sarm.WindowUpdates
import Sarm.P256Point
import Sarm.P256Ecdsa
import Sarm.P256Order
import Sarm.P256Verify
import Sarm.AesCode
import Sarm.ControlOctets
import Sarm.Decimal
import Sarm.Delivery
import Sarm.Frames
import Sarm.PathStores
import Sarm.QueryApart
import Sarm.ResponseHeader
import Sarm.Strings
import Sarm.VersionAgreement
import Sarm.X25519Exact
import Sarm.Outcomes
import Sarm.RecordReads
import Sarm.Laying
import Sarm.CertificateVerify
import Sarm.ServerMessages
import Sarm.Handshake
import Sarm.HandshakeFrame
import Sarm.HandshakeSends
import Sarm.HandshakeHello
import Sarm.HandshakeFlight
import Sarm.HandshakeFinish
import Sarm.HandshakeOutcome
import Sarm.Machines
import Sarm.Passing
import Sarm.Closing
import Sarm.Pipe
import Sarm.SecureStream
import Sarm.Session
import Sarm.Montgomery
import Sarm.Curve25519
import Sarm.Client
import Sarm.CombTable
import Sarm.Conversation
