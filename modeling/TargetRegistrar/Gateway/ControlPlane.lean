import TargetRegistrar.Gateway.Target
import TargetRegistrar.Http.Message
import TargetRegistrar.Json.Shape

/-!
# The control plane of remote gateways

Each call of a gateway becomes one HTTP request. Creating and updating send the same configuration;
a create also carries a token. A response to a granted request has to conform to what the service
declares; only a few of its members are used, and one that is missing has a stand-in. A refusal is
told by its error code. If that is a code that the call is declared to have, the body has to conform
as well.

`Answers` holds what the service declares: the shapes of the answers to calls, and of the errors
that each call is declared to have. Targets of every kind appear in answers, not only those that the
controller makes.
-/

namespace TargetRegistrar.Gateway.Answers

open Json Shape

/-! ## Answers -/

/-! ### Targets -/

/-- Where something is stored, or the thing itself as a text or in another form. -/
def stored (inline : Shape) : Shape :=
  choice
    [("s3", record [("uri", text), ("bucketOwnerAccountId", text)]), ("inlinePayload", inline)]

/-- The description of a tool. -/
def toolDefinition : Shape :=
  record
    [("name", text), ("description", text), ("inputSchema", schema), ("outputSchema", schema)]

/-- A function as a target. -/
def lambdaTarget : Shape :=
  record [("lambdaArn", text), ("toolSchema", stored (list toolDefinition))]

/-- A tool server as a target. -/
def serverTarget : Shape :=
  record
    [("endpoint", text), ("resourcePriority", int32), ("listingMode", text),
     ("mcpToolSchema", stored text)]

/-- Which routes of an API are tools. -/
def apiTools : Shape :=
  record
    [("toolOverrides",
        list (record [("name", text), ("description", text), ("path", text), ("method", text)])),
     ("toolFilters", list (record [("filterPath", text), ("methods", list text)]))]

/-- An API as a target. -/
def apiTarget : Shape :=
  record
    [("restApiId", text), ("stage", text), ("apiGatewayToolConfiguration", apiTools)]

/-- What a target is. -/
def targetConfiguration : Shape :=
  choice
    [("mcp", choice
        [("openApiSchema", stored text), ("smithyModel", stored text), ("lambda", lambdaTarget),
         ("mcpServer", serverTarget), ("apiGateway", apiTarget)]),
     ("http", choice [("agentcoreRuntime", record [("arn", text), ("qualifier", text)])])]

/-- How credentials are provided. -/
def credentialProvider : Shape :=
  choice
    [("oauthCredentialProvider", record
        [("providerArn", text), ("scopes", list text), ("customParameters", table text),
         ("grantType", text), ("defaultReturnUrl", text)]),
     ("apiKeyCredentialProvider", record
        [("providerArn", text), ("credentialParameterName", text), ("credentialPrefix", text),
         ("credentialLocation", text)]),
     ("iamCredentialProvider", record [("service", text), ("region", text)])]

/-- What is passed on. -/
def metadataConfiguration : Shape :=
  record
    [("allowedRequestHeaders", list text), ("allowedQueryParameters", list text),
     ("allowedResponseHeaders", list text)]

/-- How a target is reached that is not public. -/
def privateEndpoint : Shape :=
  choice
    [("selfManagedLatticeResource", choice [("resourceConfigurationIdentifier", text)]),
     ("managedVpcResource", record
        [("vpcIdentifier", text), ("subnetIds", list text), ("endpointIpAddressType", text),
         ("securityGroupIds", list text), ("tags", table text), ("routingDomain", text)])]

/-- What the service keeps up for a target that is not public. -/
def managedResource : Shape :=
  record [("domain", text), ("resourceGatewayArn", text), ("resourceAssociationArn", text)]

/-- A certificate for the connection to a target, with fields of any kind. -/
def certificateConfiguration : Shape :=
  record []

/-- A target with its configuration. -/
def target : Shape :=
  record
    [("gatewayArn", text), ("targetId", text), ("createdAt", instant), ("updatedAt", instant),
     ("status", text), ("statusReasons", list text), ("name", text), ("description", text),
     ("targetConfiguration", targetConfiguration),
     ("credentialProviderConfigurations", list (record
        [("credentialProviderType", text), ("credentialProvider", credentialProvider)])),
     ("certificateConfigurations", list certificateConfiguration),
     ("lastSynchronizedAt", instant), ("metadataConfiguration", metadataConfiguration),
     ("privateEndpoint", privateEndpoint),
     ("privateEndpointManagedResources", list managedResource),
     ("authorizationData", choice
        [("oauth2", record [("authorizationUrl", text), ("userId", text)])]),
     ("protocolType", text)]

/-- The answer to a call that is granted. -/
def granted : Operation → Shape
  | .delete =>
    record
      [("gatewayArn", text), ("targetId", text), ("status", text), ("statusReasons", list text)]
  | _ => target

/-! ### Errors -/

/-- An error of which there is no more to say than a message. -/
def plainError : Shape :=
  record [("message", text)]

/-- An error that points at fields of the request. -/
def validationError : Shape :=
  record
    [("message", text), ("reason", text),
     ("fieldList", list (record [("name", text), ("message", text)]))]

/-- The errors that every call is declared to have. -/
def commonErrors : List (String × Shape) :=
  [("AccessDeniedException", plainError), ("InternalServerException", plainError),
   ("ResourceNotFoundException", plainError), ("ThrottlingException", plainError),
   ("ValidationException", validationError)]

/-- The errors that a call is declared to have, by their codes. -/
def refused : Operation → List (String × Shape)
  | .get => commonErrors
  | .delete => ("ConflictException", plainError) :: commonErrors
  | _ =>
    ("ConflictException", plainError) :: ("ServiceQuotaExceededException", plainError) ::
      commonErrors

end TargetRegistrar.Gateway.Answers

namespace TargetRegistrar.Gateway.ControlPlane

open Json

/-! ## Calls -/

/-! ### Requests -/

/-- How credentials are configured. -/
def writtenCredentials : Credentials → Json
  | .gatewayRole => obj [("credentialProviderType", str "GATEWAY_IAM_ROLE")]
  | .oauth providerArn scopes =>
    obj
      [("credentialProvider", obj [("oauthCredentialProvider", obj
          [("grantType", str "CLIENT_CREDENTIALS"), ("providerArn", str providerArn),
           ("scopes", ofTexts scopes)])]),
       ("credentialProviderType", str "OAUTH")]

/-- A list of texts, unless it is empty. -/
def nonEmptyTexts (texts : List String) : Option Json :=
  if texts.isEmpty then none else some (ofTexts texts)

/-- What is passed on: the lists that are not empty. -/
def writtenPropagation (p : Propagation) : Json :=
  ofMembers
    [("allowedQueryParameters", nonEmptyTexts p.queryParameters),
     ("allowedRequestHeaders", nonEmptyTexts p.requestHeaders),
     ("allowedResponseHeaders", nonEmptyTexts p.responseHeaders)]

/-- The configuration of a target as the members of a body. -/
def configMembers (c : TargetConfig) : List (String × Option Json) :=
  [("credentialProviderConfigurations", some (arr [writtenCredentials c.credentials])),
   ("description", c.description.map str),
   ("metadataConfiguration", c.propagation.map writtenPropagation),
   ("name", some (str c.name)),
   ("targetConfiguration",
      some (obj [("mcp", obj [("mcpServer", obj [("endpoint", str c.endpoint)])])]))]

/-- The body that creates a target. -/
def createBody (token : CreateToken) (c : TargetConfig) : Json :=
  ofMembers (("clientToken", some (str token.text)) :: configMembers c)

/-- The body that updates a target. -/
def updateBody (c : TargetConfig) : Json :=
  ofMembers (configMembers c)

/-- The targets of a gateway. -/
def targetsPath (gatewayId : String) : String :=
  "/gateways/" ++ Http.escapedSegment gatewayId ++ "/targets"

/-- A target of a gateway. -/
def targetPath (gatewayId targetId : String) : String :=
  targetsPath gatewayId ++ "/" ++ Http.escapedSegment targetId

/-- The error for an identifier that cannot be part of a path. -/
def emptyIdentifier : Error :=
  .invalidRequest "an identifier is empty"

/-- The request of a call, for which the token is used if it is a create without one of its own. -/
def request (token : CreateToken) : Call → Except Error Http.Request
  | .create r =>
    if r.gatewayId = "" then .error emptyIdentifier
    else .ok {
      method := "POST", path := targetsPath r.gatewayId
      contentType := some "application/json"
      body := some (createBody (r.clientToken.getD token) r.config) }
  | .get gatewayId targetId =>
    if gatewayId = "" ∨ targetId = "" then .error emptyIdentifier
    else .ok { method := "GET", path := targetPath gatewayId targetId }
  | .update r =>
    if r.gatewayId = "" ∨ r.targetId = "" then .error emptyIdentifier
    else .ok {
      method := "PUT", path := targetPath r.gatewayId r.targetId
      contentType := some "application/json", body := some (updateBody r.config) }
  | .delete gatewayId targetId =>
    if gatewayId = "" ∨ targetId = "" then .error emptyIdentifier
    else .ok { method := "DELETE", path := targetPath gatewayId targetId }

/-! ### Granted requests -/

/-- The members of the object in a body, if it has a shape; an empty body has none. -/
def conforming? (shape : Shape) (body : String) : Option (List (List Char × Document)) :=
  match if body = "" then some (.obj []) else Document.read? body with
  | some (.obj members) => if shape.conforms (.obj members) then some members else none
  | _ => none

/-- The state of a target of which the answer names none. -/
def unnamedStatus : String := "no value was set"

/-- A text among the members, or what stands in for it. -/
def textOr (fallback name : String) (members : List (List Char × Document)) : String :=
  ((Document.member? name members).bind Document.text?).getD fallback

/-- The texts of a list among the members. -/
def textsOf (name : String) (members : List (List Char × Document)) : List String :=
  match Document.member? name members with
  | some (.arr items) => items.filterMap Document.text?
  | _ => []

/-- The state of a target among the members. -/
def state (members : List (List Char × Document)) : TargetState :=
  ⟨textOr unnamedStatus "status" members, textsOf "statusReasons" members⟩

/-- A created target among the members. -/
def created (members : List (List Char × Document)) : CreatedTarget :=
  ⟨textOr "" "targetId" members, textOr "" "gatewayArn" members,
    textOr unnamedStatus "status" members⟩

/-- The reply to a call that was granted. -/
def reply : (call : Call) → List (List Char × Document) → call.Reply
  | .create _ => created
  | .get .. => state
  | .update _ => state
  | .delete .. => fun _ => ()

/-! ### Refused requests -/

/-- The error code of a refusal that names none, and of an answer that cannot be used. -/
def unknownCode : String := "Unknown"

/-- The wording of a refusal that has none. -/
def unexplained : String := "the service gave no reason"

/-- The error for an answer that cannot be used. -/
def unusable : Error :=
  .api unknownCode unexplained

/-- An error code without the address after it and the name space before it. -/
def bareCode (code : String) : String :=
  let chars := (Http.Target.cut ':' code.toList).1
  match Http.Target.cut '#' chars with
  | (_, some rest) => String.ofList rest
  | (all, none) => String.ofList all

/-- The members of an error body, all of which can be passed over. A body that starts with something
else than an object has none. -/
def errorMembers? (body : String) : Option (List (List Char × Document)) :=
  if (body.toList.dropWhile Document.isGap).head? = some '\x7b' then
    match Document.read? body with
    | some (.obj members) => if members.all (·.2.isPassable) then some members else none
    | _ => none
  else if Document.beginsWell body.toList then some []
  else none

/-- The last text among the members of which the name is written as one of some names. All those
texts have to be legible. -/
def lastText? (names : List String) (members : List (List Char × Document)) :
    Option (Option String) :=
  let texts := members.filterMap fun m =>
    match m.2 with
    | .text raw => if String.ofList m.1 ∈ names then some raw else none
    | _ => none
  (texts.mapM unescape?).map (·.getLast?)

/-- The code and the message of a refusal, as far as it has them. -/
def explanation? (r : Http.Response) : Option (Option String × Option String) := do
  let members ← errorMembers? r.body
  let code ← lastText? ["code"] members
  let type ← lastText? ["__type"] members
  let message ← lastText? ["message", "Message", "errorMessage"] members
  return ((((r.header? "x-amzn-errortype").or code).or type).map bareCode, message)

/-- The error that the refusal of a call stands for. -/
def refusal (operation : Operation) (r : Http.Response) : Error :=
  match explanation? r with
  | some (some code, message) =>
    let declared := (Shape.field? code (Answers.refused operation)).all fun shape =>
      (conforming? shape r.body).isSome
    if declared then .api code (message.getD unexplained) else unusable
  | _ => unusable

/-! ### Serving -/

/-- How a call ends with a response. -/
def outcome (call : Call) : Option Http.Response → call.Outcome
  | none => .error (.transport "the service could not be reached")
  | some r =>
    if r.isSuccess then
      match conforming? (Answers.granted call.operation) r.body with
      | some members => .ok (reply call members)
      | none => .error unusable
    else .error (refusal call.operation r)

/-- Makes a call; `token` stands ready for a create without one of its own. -/
def serve {m : Type → Type} [Monad m] (send : Http.Request → m (Option Http.Response))
    (token : CreateToken) (call : Call) : m call.Outcome :=
  match request token call with
  | .error e => pure (.error e)
  | .ok r => do return outcome call (← send r)

end TargetRegistrar.Gateway.ControlPlane
