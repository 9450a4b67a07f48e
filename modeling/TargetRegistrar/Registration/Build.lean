import TargetRegistrar.Gateway.Target
import TargetRegistrar.Resource.Basic
import TargetRegistrar.Text

/-!
# Registration

A specification is loosely typed: options may be absent, empty or blank. `validate` checks it and
resolves its defaults. The checks run in the order endpoint, capabilities, authentication, gateway,
and the first one that fails decides the error.

From a validated specification the configuration of a target is built, and the requests that carry
it. A validated specification can still lack a name, since neither it nor its resource need have
one.
-/

namespace TargetRegistrar.Registration

/-! ## Validation -/

/-- Why a specification is refused. -/
inductive ValidationError where
  | missingEndpoint
  /-- The endpoint is not reached over HTTPS. -/
  | insecureEndpoint (endpoint : String)
  | missingCapabilities
  /-- The required capability is not among those given. -/
  | missingRequiredCapability (given : List String)
  /-- Credentials are to be granted, but no provider is given. -/
  | missingOAuthProvider
  /-- There is no such authentication scheme. -/
  | unsupportedAuthType (authType : String)
  /-- The gateway is given as blanks. -/
  | blankGatewayId
  /-- No gateway is given, and there is no default. -/
  | missingGatewayId
  deriving DecidableEq, Repr

namespace ValidationError

/-- The wording of an error. -/
def message : ValidationError → String
  | missingEndpoint => "invalid endpoint: endpoint is required"
  | insecureEndpoint endpoint =>
    s!"invalid endpoint: endpoint must match pattern ^https://.* (got: {endpoint})"
  | missingCapabilities =>
    "invalid capabilities: capabilities are required and must include 'tools'"
  | missingRequiredCapability given =>
    "invalid capabilities: capabilities must include 'tools' (got: " ++ Text.quotedList given ++ ")"
  | missingOAuthProvider => "oauthProviderArn is required when authType is OAuth2"
  | unsupportedAuthType authType =>
    s!"unsupported authType: {authType} (must be NoAuth or OAuth2)"
  | blankGatewayId => "gateway ID not available: gatewayId cannot be empty"
  | missingGatewayId =>
    "gateway ID not available: no gatewayId specified in spec and no default gateway ID configured"

/-- The member of the specification that is at fault. -/
def field : ValidationError → String
  | missingEndpoint => "endpoint"
  | insecureEndpoint _ => "endpoint"
  | missingCapabilities => "capabilities"
  | missingRequiredCapability _ => "capabilities"
  | missingOAuthProvider => "oauthProviderArn"
  | unsupportedAuthType _ => "authType"
  | blankGatewayId => "gatewayId"
  | missingGatewayId => "gatewayId"

end ValidationError

/-- The authentication schemes. -/
inductive AuthScheme where
  /-- The gateway's own role, without further credentials. -/
  | noAuth
  | oauth2
  deriving DecidableEq, Repr

/-- How the gateway is to authenticate. -/
structure Auth where
  scheme : AuthScheme
  providerArn : Option String
  scopes : List String
  deriving DecidableEq, Repr

/-- The lists of what is passed on, as far as the specification has them. -/
structure PropagationLists where
  requestHeaders : Option (List String)
  queryParameters : Option (List String)
  responseHeaders : Option (List String)
  deriving DecidableEq, Repr

/-- A specification that passed, with its defaults resolved. -/
structure Validated where
  endpoint : String
  capabilities : List String
  auth : Auth
  /-- What is passed on; nothing if the specification has none of the lists. -/
  propagation : Option PropagationLists
  gatewayId : String
  targetName : String
  /-- A description, not empty. -/
  description : Option String
  deriving DecidableEq, Repr

/-- The capability that every server has to offer. -/
def requiredCapability : String := "tools"

/-- How an endpoint that is reached over HTTPS starts. -/
def secureStart : String := "https://"

/-- An option with the empty text counting as absent. -/
def nonEmpty (o : Option String) : Option String :=
  o.filter (· ≠ "")

/-- The default gateway as far as it is usable: a blank one counts as absent. -/
def usableDefault (defaultGateway : Option String) : Option String :=
  defaultGateway.filter fun id => Text.trim id ≠ ""

/-- The endpoint, if it is reached over HTTPS. -/
def checkEndpoint (endpoint : String) : Except ValidationError String :=
  if endpoint = "" then .error .missingEndpoint
  else if secureStart.toList.isPrefixOf endpoint.toList then .ok endpoint
  else .error (.insecureEndpoint endpoint)

/-- The capabilities, if the required one is among them. -/
def checkCapabilities (capabilities : List String) : Except ValidationError (List String) :=
  if capabilities = [] then .error .missingCapabilities
  else if requiredCapability ∈ capabilities then .ok capabilities
  else .error (.missingRequiredCapability capabilities)

/-- The authentication; an absent or empty scheme is the one without credentials. -/
def checkAuth (spec : Spec) : Except ValidationError Auth :=
  match nonEmpty spec.authType with
  | none => .ok ⟨.noAuth, none, []⟩
  | some authType =>
    if authType = noAuthName then .ok ⟨.noAuth, none, []⟩
    else if authType = oauth2Name then
      match nonEmpty spec.oauthProviderArn with
      | some arn => .ok ⟨.oauth2, some arn, spec.oauthScopes.getD []⟩
      | none => .error .missingOAuthProvider
    else .error (.unsupportedAuthType authType)

/-- The gateway that a specification names, without blanks around it, else the default one. An empty
name counts as absent; one that consists of blanks is an error. -/
def resolveGateway (defaultGateway : Option String) (spec : Spec) : Except ValidationError String :=
  match nonEmpty spec.gatewayId with
  | some given => if Text.trim given = "" then .error .blankGatewayId else .ok (Text.trim given)
  | none =>
    match usableDefault defaultGateway with
    | some id => .ok id
    | none => .error .missingGatewayId

/-- The lists of a specification, if it has any. -/
def propagationLists (spec : Spec) : Option PropagationLists :=
  let lists : PropagationLists :=
    ⟨spec.allowedRequestHeaders, spec.allowedQueryParameters, spec.allowedResponseHeaders⟩
  if lists = ⟨none, none, none⟩ then none else some lists

/-- Checks a resource's specification and resolves its defaults. -/
def validate (defaultGateway : Option String) (r : Resource) :
    Except ValidationError Validated := do
  let endpoint ← checkEndpoint r.spec.endpoint
  let capabilities ← checkCapabilities r.spec.capabilities
  let auth ← checkAuth r.spec
  let gatewayId ← resolveGateway defaultGateway r.spec
  return {
    endpoint, capabilities, auth, gatewayId
    propagation := propagationLists r.spec
    targetName := ((nonEmpty r.spec.targetName).or r.metadata.name).getD ""
    description := nonEmpty r.spec.description }

/-! ## Requests -/

open Gateway

/-- Why a request cannot be built. -/
inductive BuildError where
  | missingEndpoint
  /-- There is no name for the target. -/
  | missingTargetName
  /-- Credentials are to be granted, but no provider is given. -/
  | missingOAuthProvider
  /-- An update names no target. -/
  | missingTargetId
  deriving DecidableEq, Repr

/-- The wording of an error. -/
def BuildError.message : BuildError → String
  | .missingEndpoint => "endpoint is required"
  | .missingTargetName => "target name is required"
  | .missingOAuthProvider => "oauthProviderArn is required when authType is OAuth2"
  | .missingTargetId => "target ID is required for update"

namespace Validated

/-- The name of the target. -/
def buildName (v : Validated) : Except BuildError String :=
  if v.targetName = "" then .error .missingTargetName else .ok v.targetName

/-- The endpoint of the target, unchanged. -/
def buildEndpoint (v : Validated) : Except BuildError String :=
  if v.endpoint = "" then .error .missingEndpoint else .ok v.endpoint

/-- The credentials of the scheme. -/
def buildCredentials (v : Validated) : Except BuildError Credentials :=
  match v.auth.scheme with
  | .noAuth => .ok .gatewayRole
  | .oauth2 =>
    match nonEmpty v.auth.providerArn with
    | some arn => .ok (.oauth arn v.auth.scopes)
    | none => .error .missingOAuthProvider

/-- What is passed on, unless all lists are empty; an absent list counts as empty. -/
def buildPropagation (v : Validated) : Option Propagation :=
  v.propagation.bind fun lists =>
    let p : Propagation :=
      ⟨lists.requestHeaders.getD [], lists.queryParameters.getD [], lists.responseHeaders.getD []⟩
    if p = ⟨[], [], []⟩ then none else some p

/-- The configuration of the target. -/
def buildConfig (v : Validated) : Except BuildError TargetConfig := do
  let name ← v.buildName
  let endpoint ← v.buildEndpoint
  let credentials ← v.buildCredentials
  return {
    name, description := v.description, endpoint, credentials, propagation := v.buildPropagation }

/-- The request for a new target, without a token. -/
def createRequest (v : Validated) : Except BuildError CreateRequest := do
  let config ← v.buildConfig
  return { gatewayId := v.gatewayId, config, clientToken := none }

/-- The request for the new configuration of a target. -/
def updateRequest (v : Validated) (targetId : String) : Except BuildError UpdateRequest := do
  if targetId = "" then throw .missingTargetId
  let config ← v.buildConfig
  return { gatewayId := v.gatewayId, targetId, config }

end Validated

end TargetRegistrar.Registration
