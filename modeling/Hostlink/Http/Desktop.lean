import Hostlink.Http.Client
import Hostlink.Http.Url.Basic
import Hostlink.Log.Event

/-!
# The desktop's client

Executing a request has three stages: the request is put into the form that goes over the wire, a
transport delivers it and brings a reply, and the reply becomes a response.  The transport stands
for the network; how it follows redirections is its own affair.

A response keeps a header line only if its value is text, and of lines with one name it keeps the
last.  Header names come in lower case.
-/

namespace Hostlink.Http

/-- A request as it goes over the wire. -/
structure WireRequest where
  method : Method
  url : Url
  /-- The name and password that the URL carried. -/
  credentials : Option (String × Option String)
  headers : Headers
  body : Option Bytes
  timeout : Option Time.Duration
  deriving DecidableEq, Repr

/-- A reply as it comes over the wire. -/
structure Reply where
  status : Nat
  /-- The header lines in the order in which they came. -/
  headers : List (String × Bytes)
  /-- The body, or why it could not be read to its end. -/
  body : Except String Bytes

/-- Delivers requests, with effects in `m`; `none` when there is no reply. -/
abbrev Transport (m : Type → Type) := WireRequest → m (Option Reply)

/-- A transport that reaches nobody. -/
def Transport.offline : Transport Id := fun _ => none

/-- Why a request got no reply. -/
inductive SendFault where
  /-- The request is not well-formed. -/
  | malformed
  /-- The URL is not one that requests can be sent to. -/
  | unsuitable (url : Url)
  | undelivered (url : Url)
  deriving DecidableEq, Repr

/-- The failure as the caller sees it. -/
def SendFault.error : SendFault → HostError
  | .malformed => .http "Request failed: builder error"
  | .unsuitable url => .http s!"Request failed: builder error for url ({url.render})"
  | .undelivered url => .http s!"Request failed: error sending request for url ({url.render})"

/-! ## Requests -/

/-- The characters of header names besides letters and digits. -/
def nameMarks : List Char :=
  ['!', '#', '$', '%', '&', '\x27', '*', '+', '-', '.', '^', '_', '\x60', '|', '~']

/-- The most characters of the name of a header. -/
def nameLimit : Nat := 65535

/-- Whether a text can be the name of a header. -/
def isHeaderName (name : String) : Bool :=
  !name.isEmpty && name.toList.all (fun c => c.isAlphanum || c ∈ nameMarks)
    && name.length ≤ nameLimit

/-- Whether a text can be the value of a header. -/
def isHeaderValue (value : String) : Bool :=
  value.toList.all fun c => c = '\t' || (0x20 ≤ c.toNat && c.toNat ≠ 0x7f)

/-- The schemes that requests can be sent to. -/
def sendableSchemes : List String := ["http", "https"]

/-- The characters that a host in a request line cannot have. -/
def unsendableInHost : List Char := ['"', '\x60', '\x7b', '\x7d']

/-- The most bytes that a URL in a request line can have. -/
def sendableLimit : Nat := 65534

/-- Whether a URL can be put into a request line. -/
def Url.isSendable (u : Url) : Bool :=
  u.scheme ∈ sendableSchemes && u.render.utf8ByteSize ≤ sendableLimit
    && u.authority.all fun a => a.host.toList.all (· ∉ unsendableInHost)

/-- The form of a request that goes over the wire. -/
def Request.prepare (r : Request) : Except SendFault WireRequest :=
  match Url.ofString? r.url with
  | none => .error .malformed
  | some url =>
    if !url.hasHost then .error (.unsuitable url)
    else
      let (credentials, url) := url.takeCredentials
      if r.headers.any fun (name, value) => !isHeaderName name || !isHeaderValue value then
        .error .malformed
      else if !url.isSendable then .error (.unsuitable url)
      else .ok ⟨r.method, url, credentials, r.headers, r.body, r.timeout⟩

/-! ## Responses -/

/-- Whether a byte is visible, a space or a tab. -/
def isPlainByte (b : UInt8) : Bool := (0x20 ≤ b && b < 0x7f) || b = 0x09

/-- The text of a header value; one with other bytes has none. -/
def valueText? (value : Bytes) : Option String :=
  if value.all isPlainByte then some (String.ofList (value.map fun b => Char.ofNat b.toNat))
  else none

/-- The headers that lines give. -/
def collectHeaders (lines : List (String × Bytes)) : Headers :=
  .ofLines (lines.filterMap fun (name, value) => (valueText? value).map (name, ·))

/-- The response that a reply is. -/
def Reply.toResponse (reply : Reply) : Except HostError Response :=
  match reply.body with
  | .error reason => .error (.http s!"Failed to read response body: {reason}")
  | .ok body => .ok ⟨reply.status, collectHeaders reply.headers, body⟩

/-! ## The client -/

namespace Desktop

/-- The target of the log events about requests. -/
def logTarget : String := "bridge_desktop::http"

/-- The log event of a request that got a whole response. -/
def completed (request : Request) (response : Response) : Log.Event :=
  .notice .debug logTarget "HTTP request completed"
    [⟨"method", .shown request.method.name⟩, ⟨"url", .shown request.url⟩,
      ⟨"status", .int response.status⟩, ⟨"size", .int response.body.length⟩]

/-- The client over a transport; its state are the log events, the latest first. -/
def client {m : Type → Type} [Monad m] (transport : Transport m) :
    Client (StateT (List Log.Event) m) :=
  ⟨fun request => do
    match request.prepare with
    | .error fault => return .error fault.error
    | .ok wire =>
      let reply ← (transport wire : m (Option Reply))
      match reply with
      | none => return .error (SendFault.undelivered wire.url).error
      | some reply =>
        match reply.toResponse with
        | .error e => return .error e
        | .ok response =>
          modify (completed request response :: ·)
          return .ok response⟩

/-- The wrapper that the client is. -/
def wrapper : Wrapper := .borrowed ⟨clientTypeName, 0⟩

end Desktop
end Hostlink.Http
