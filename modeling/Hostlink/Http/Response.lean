import Hostlink.Error
import Hostlink.Http.Header
import Hostlink.Json.Decode
import Hostlink.Text.Utf8

/-!
# Responses

A response with its whole body.  Its status is not judged until the caller asks for that.
-/

namespace Hostlink.Http

/-- A response. -/
structure Response where
  status : Nat
  headers : Headers
  body : Bytes
  deriving DecidableEq, Repr

namespace Response

/-- The value of a header, letter case aside. -/
def header (r : Response) (name : String) : Option String := r.headers.find? name

/-- Whether the status reports success. -/
def isSuccess (r : Response) : Bool := 200 ≤ r.status && r.status < 300

/-- The response itself if its status reports success. -/
def errorForStatus (r : Response) : Except HostError Response :=
  if r.isSuccess then .ok r else .error (.http s!"Unexpected status {r.status}")

/-- The body as text. -/
def text (r : Response) : Except HostError String :=
  match Text.decodeUtf8 r.body with
  | .ok s => .ok s
  | .error fault => .error (.operationFailed s!"Invalid UTF-8: {fault.message}")

/-- The body as a JSON text of some type. -/
def json {α : Type} (decode : Json.Tree → Option α) (r : Response) : Except HostError α :=
  let value := do
    let text ← (Text.decodeUtf8 r.body).toOption
    let tree ← Json.Tree.ofString? text
    decode tree
  match value with
  | some value => .ok value
  | none => .error (.operationFailed "Failed to decode response body")

end Response
end Hostlink.Http
