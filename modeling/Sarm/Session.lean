import Sarm.HandshakeOutcome
import Sarm.SecureStream

/-!
A connection from its first octet on: the handshake, and HTTP/2 over the transport that it leaves behind.
-/
namespace Sarm.Handshake
open Sarm.Memory Sarm.Neon Sarm.KeySchedule Sarm.Tls Sarm.Gcm Sarm.P256
open Sarm.H2 (Layer EmbeddedFile)

/-- The keys of the application in an exchange. -/
def Exchange.keys (e : Exchange) : Keys :=
  let server := serverApplicationTraffic e.shared (e.hash e.messages)
  let client := clientApplicationTraffic e.shared (e.hash e.messages)
  ⟨⟨aes128 (trafficKey server),trafficIv server⟩,⟨aes128 (trafficKey client),trafficIv client⟩⟩

/-- What `h2_connection_loop` finds: nothing is staged, and the next numbers are in the state. -/
def World.secured (A : Image) (w : World) : Tls.Transport where
  stage := ⟨⟨w.transport.sink,ldr 64 w.m (A.tls_state+408)⟩,true,w.transport.buf,0⟩
  reads := w.reads
  readStage := []
  clientSeq := ldr 64 w.m (A.tls_state+400)

section
variable {A : Image} {base : Nat} {der key : List UInt8} {w : World}

end
end Sarm.Handshake
