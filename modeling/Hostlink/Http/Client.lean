import Hostlink.Conversion
import Hostlink.Http.Request
import Hostlink.Http.Response

/-!
# Clients

A client executes requests.  What else it offers is built from that.
-/

namespace Hostlink.Http

/-- Something that executes requests, with effects in `m`. -/
structure Client (m : Type → Type) where
  execute : Request → m (Except HostError Response)

namespace Client

/-- Fetches what is at a URL. -/
def get {m : Type → Type} (client : Client m) (url : String) : m (Except HostError Response) :=
  client.execute (.make .get url)

/-- A client that notes every request, the latest first, and always gives the same answer. -/
def recording (reply : Except HostError Response) : Client (StateM (List Request)) :=
  ⟨fun request => do
    modify (request :: ·)
    return reply⟩

/-- A handwritten client exposes no native object. -/
def handwritten : Adapter := ⟨none⟩

end Client

/-- The type of the native object behind the desktop's client. -/
def clientTypeName : String := "reqwest::async_impl::client::Client"

end Hostlink.Http
