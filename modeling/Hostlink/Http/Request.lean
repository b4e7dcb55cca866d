import Hostlink.Error
import Hostlink.Http.Header
import Hostlink.Json.Printer
import Hostlink.Text.Utf8
import Hostlink.Time.Duration

/-!
# Requests

A request is a plain value, put together by calls that each set one part of it.
-/

namespace Hostlink.Http

/-- The methods of requests. -/
inductive Method where
  | get
  | post
  | put
  | patch
  | delete
  | head
  deriving DecidableEq, Repr

/-- All methods. -/
def Method.all : List Method := [.get, .post, .put, .patch, .delete, .head]

/-- The name of a method. -/
def Method.name : Method → String
  | .get => "Get"
  | .post => "Post"
  | .put => "Put"
  | .patch => "Patch"
  | .delete => "Delete"
  | .head => "Head"

/-- The method with a name. -/
def Method.ofName? (name : String) : Option Method := all.find? (·.name = name)

/-- A request. -/
structure Request where
  method : Method
  url : String
  headers : Headers
  body : Option Bytes
  /-- Overrides the timeout of the client for this request. -/
  timeout : Option Time.Duration
  deriving DecidableEq, Repr

namespace Request

/-- The name of the header that tells the type of a body. -/
def contentType : String := "Content-Type"

/-- The type of JSON bodies. -/
def jsonType : String := "application/json"

/-- A request without headers and body. -/
def make (method : Method) (url : String) : Request := ⟨method, url, [], none, none⟩

/-- Sets a header. -/
def header (r : Request) (name value : String) : Request :=
  { r with headers := r.headers.set name value }

/-- Sets the body. -/
def withBody (r : Request) (body : Bytes) : Request := { r with body := some body }

/-- Sets the timeout. -/
def withTimeout (r : Request) (timeout : Time.Duration) : Request :=
  { r with timeout := some timeout }

/-- Sets the body to a JSON text and marks it as such.  The value may be one that has no JSON
text, for a reason. -/
def json (r : Request) (value : Except String Json.Value) : Except HostError Request :=
  match value with
  | .ok value => .ok ((r.withBody (Text.encodeUtf8 value.render)).header contentType jsonType)
  | .error reason => .error (.operationFailed s!"Failed to encode request body: {reason}")

/-- One call on a request. -/
inductive Call where
  | header (name value : String)
  | json (value : Except String Json.Value)
  | body (bytes : Bytes)
  | timeout (timeout : Time.Duration)

/-- The request after a call. -/
def apply (r : Request) : Call → Except HostError Request
  | .header name value => .ok (r.header name value)
  | .json value => r.json value
  | .body bytes => .ok (r.withBody bytes)
  | .timeout timeout => .ok (r.withTimeout timeout)

/-- The request after a list of calls, or the first failure. -/
def applyAll (r : Request) : List Call → Except HostError Request
  | [] => .ok r
  | call :: rest =>
    match r.apply call with
    | .ok r => r.applyAll rest
    | .error e => .error e

end Request
end Hostlink.Http
