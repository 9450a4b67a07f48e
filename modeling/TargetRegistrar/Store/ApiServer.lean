import TargetRegistrar.Http.Message
import TargetRegistrar.Json.Reader
import TargetRegistrar.Resource.Basic
import TargetRegistrar.Resource.Codec

/-!
# The API server as a store

Each request to the store becomes one HTTP request. Writes are merge patches that carry the version
of the copy that they are based on, so that the server refuses them when it holds another one. A
refusal of a write is told by its code, a resource that is not there by the reason `NotFound`.
-/

namespace TargetRegistrar.Store.ApiServer

open Json

/-! ## Requests -/

/-- Where the resources of a namespace are found. -/
def collection (ns : String) : String :=
  "/apis/mcpgateway.bedrock.aws/v1alpha1/namespaces/" ++ ns ++ "/mcpservers"

/-- The target of a resource, with what comes after it in the address. A resource without a name has
none. -/
def target? (ns name rest : String) : Option Http.Target :=
  if name = "" then none else Http.Target.read? (collection ns ++ "/" ++ name ++ rest)

/-- The patch that replaces the finalizers of a certain version. -/
def finalizersPatch (version : String) (finalizers : List String) : Json :=
  obj [("metadata", obj [("resourceVersion", str version), ("finalizers", ofTexts finalizers)])]

/-- A status with its list of reasons, also when that is empty: a patch keeps what it does not
mention, and reasons that no longer apply have to go. -/
def patchedStatus (status : Status) : Json :=
  status.encodeWith (some (ofTexts status.statusReasons))

/-- The patch that replaces the status of a certain version. -/
def statusPatch (version : String) (status : Status) : Json :=
  obj [("metadata", obj [("resourceVersion", str version)]), ("status", patchedStatus status)]

/-! ## Responses -/

/-- Why a request was not granted. -/
inductive Failure where
  /-- There was no answer that can be used. -/
  | unusable
  | refused (code : Nat) (reason : String)
  deriving DecidableEq, Repr

/-- The fields of a refusal in order. -/
def refusalFields : List Field :=
  [⟨"status", false⟩, ⟨"message", true⟩, ⟨"reason", true⟩, ⟨"code", false⟩]

/-- A code, which has 16 bits. -/
def code? (j : Json) : Option Nat :=
  j.int?.bind fun n => if 0 ≤ n ∧ n < 65536 then some n.toNat else none

/-- A refusal from the values of its fields. -/
def refusalOfFields? : List (Option Json) → Option Failure
  | [status, message, reason, code] => do
    let _ ← required? text? status
    let _ ← defaulted? "" text? message
    return .refused (← required? code? code) (← defaulted? "" text? reason)
  | _ => none

/-- A refusal as the body describes it, or else by the status code of the response. -/
def refusal (r : Http.Response) : Failure :=
  let described := ((Json.read? r.body).bind (fields? refusalFields)).bind refusalOfFields?
  described.getD (.refused r.status "Failed to parse error data")

/-- The resource in a response. -/
def resource : Option Http.Response → Except Failure Resource
  | none => .error .unusable
  | some r =>
    if r.isRefusal then .error (refusal r)
    else
      match (Json.read? r.body).bind Resource.decode? with
      | some stored => .ok stored
      | none => .error .unusable

/-- What a failed reading means: a resource that is not there is no error. -/
def readFailure : Failure → Except Error (Option Resource)
  | .unusable => .error (.apiServer none)
  | .refused code reason =>
    if reason = "NotFound" then .ok none else .error (.apiServer (some code))

/-- What a failed write means. -/
def writeFailure (key : String) : Failure → Error
  | .unusable => .apiServer none
  | .refused code _ =>
    if code = 409 then .conflict key
    else if code = 404 then .notFound key
    else .apiServer (some code)

/-! ## Serving -/

section

variable {m : Type → Type} [Monad m] (send : Http.Request → m (Option Http.Response))

/-- Sends a request, if there is a target to send it to. -/
def submit (method : String) (target : Option Http.Target) (patch : Option Json) :
    m (Except Failure Resource) :=
  match target with
  | none => pure (.error .unusable)
  | some t => do
    return resource (← send {
      method, path := t.path, query := t.query
      contentType := patch.map fun _ => "application/merge-patch+json"
      body := patch })

/-- Patches a resource or a part of it. The options of a patch follow a question mark; there are
none. The copy has to say where the resource is and which version of it was copied. -/
def write (copy : Resource) (part : String) (patch : (version : String) → Json) :
    m (Except Error Resource) :=
  match copy.metadata.ns, copy.metadata.name, copy.metadata.resourceVersion with
  | none, _, _ => pure (.error (.missingMetadata "namespace"))
  | _, none, _ => pure (.error (.missingMetadata "name"))
  | _, _, none => pure (.error (.missingMetadata "resourceVersion"))
  | some ns, some name, some version => do
    match ← submit send "PATCH" (target? ns name (part ++ "?")) (some (patch version)) with
    | .ok stored => return .ok stored
    | .error f => return .error (writeFailure copy.key f)

/-- Serves a request to the store. -/
def serve : (request : Request) → m request.Outcome
  | .get ns name => do
    match ← submit send "GET" (target? ns name "") none with
    | .ok stored => return .ok (some stored)
    | .error f => return readFailure f
  | .replaceFinalizers copy finalizers =>
    write send copy "" fun version => finalizersPatch version finalizers
  | .replaceStatus copy status =>
    write send copy "/status" fun version => statusPatch version status

end

end TargetRegistrar.Store.ApiServer
