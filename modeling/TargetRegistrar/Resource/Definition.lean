import TargetRegistrar.Json.Writer
import TargetRegistrar.Resource.Basic

/-!
# The definition of the resource type

What an API server has to know before it can store resources: the names of the type, what is shown
of a resource in a list, and the schema of its parts.
-/

namespace TargetRegistrar.Definition

open Json

/-! ## Schemas -/

/-- The members of a schema that may be `null`. -/
def nullable : List (String × Json) := [("nullable", bool true)]

/-- The schema of a text. -/
def text (description : String) (options : List (String × Json)) : Json :=
  obj (("description", str description) :: options ++ [("type", str "string")])

/-- The schema of a list of texts. -/
def texts (description : String) (options : List (String × Json)) : Json :=
  obj ([("description", str description), ("items", obj [("type", str "string")])] ++ options ++
    [("type", str "array")])

/-- The schema of a generation that may be absent. -/
def generation (description : String) : Json :=
  obj ([("description", str description), ("format", str "int64")] ++ nullable ++
    [("type", str "integer")])

/-- The schema of an instant. -/
def instant (description : String) (options : List (String × Json)) : Json :=
  text description (("format", str "date-time") :: options)

/-- The schema of a specification. -/
def spec : Json :=
  obj
    [("description", str "MCPServerSpec defines the desired gateway target"),
     ("properties", obj
       [("allowedQueryParameters", texts "Query parameters propagated to the target" nullable),
        ("allowedRequestHeaders", texts "Request headers propagated to the target" nullable),
        ("allowedResponseHeaders", texts "Response headers propagated back to the caller" nullable),
        ("authType", text "Authentication type: \"NoAuth\" (default) or \"OAuth2\"" nullable),
        ("capabilities",
          texts "Protocol capabilities offered by the server; must include \"tools\"" []),
        ("description", text "Description of the target" nullable),
        ("endpoint", text "HTTPS endpoint of the MCP server" []),
        ("gatewayId",
          text "Gateway identifier (falls back to the controller's default gateway)" nullable),
        ("oauthProviderArn",
          text "OAuth2 credential provider ARN (required when authType is OAuth2)" nullable),
        ("oauthScopes", texts "OAuth2 scopes requested from the provider" nullable),
        ("targetName",
          text "Display name of the target (defaults to the resource name)" nullable)]),
     ("required", ofTexts ["capabilities", "endpoint"]),
     ("type", str "object")]

/-- The schema of a condition. -/
def condition : Json :=
  obj
    [("description", str "A single observation of one aspect of the resource."),
     ("properties", obj
       [("lastTransitionTime", instant "Last time the status flipped" []),
        ("message", obj
          [("default", str ""), ("description", str "Human-readable detail"),
           ("type", str "string")]),
        ("observedGeneration", generation "Generation the condition was computed from"),
        ("reason", text "Machine-readable reason in CamelCase" []),
        ("status", text "Status of the condition"
          [("enum", ofTexts ([Verdict.holds, .fails, .unknown].map Verdict.word))]),
        ("type", text "Condition type, e.g. \"Ready\"" [])]),
     ("required", ofTexts ["lastTransitionTime", "reason", "status", "type"]),
     ("type", str "object")]

/-- The schema of a status. -/
def status : Json :=
  obj
    [("description", str "MCPServerStatus defines the observed state of the gateway target"),
     ("nullable", bool true),
     ("properties", obj
       [("conditions", obj
          [("default", arr []), ("description", str "Conditions; only \"Ready\" is managed"),
           ("items", condition), ("type", str "array")]),
        ("gatewayArn", text "ARN of the gateway owning the target" nullable),
        ("lastSynchronized",
          instant "Last time the status was synchronized with the gateway" nullable),
        ("observedGeneration", generation "Spec generation last acted on by the controller"),
        ("statusReasons", texts "Reasons reported by the gateway for the current status" []),
        ("targetId", text "Gateway target ID (set after creation)" nullable),
        ("targetStatus",
          text "Remote lifecycle status (CREATING, READY, FAILED, ...)" nullable)]),
     ("type", str "object")]

/-- The schema of a resource. -/
def schema : Json :=
  obj
    [("description", str "Auto-generated derived type for MCPServerSpec via `CustomResource`"),
     ("properties", obj [("spec", spec), ("status", status)]),
     ("required", ofTexts ["spec"]),
     ("title", str "MCPServer"),
     ("type", str "object")]

/-! ## The definition -/

/-- A column of a list of resources. -/
def column (name type path : String) : Json :=
  obj [("jsonPath", str path), ("name", str name), ("type", str type)]

/-- The columns of a list of resources. -/
def columns : Json :=
  arr
    [column "Endpoint" "string" ".spec.endpoint",
     column "Status" "string" ".status.targetStatus",
     column "Ready" "string" ".status.conditions[?(@.type==\"Ready\")].status",
     column "Age" "date" ".metadata.creationTimestamp"]

/-- The names of the type. -/
def names : Json :=
  obj
    [("categories", arr []), ("kind", str "MCPServer"), ("plural", str "mcpservers"),
     ("shortNames", ofTexts ["mcps"]), ("singular", str "mcpserver")]

/-- The version of the type that is served and stored; its status is written on its own. -/
def version : Json :=
  obj
    [("additionalPrinterColumns", columns), ("name", str "v1alpha1"),
     ("schema", obj [("openAPIV3Schema", schema)]), ("served", bool true), ("storage", bool true),
     ("subresources", obj [("status", obj [])])]

/-- The whole definition. -/
def document : Json :=
  obj
    [("apiVersion", str "apiextensions.k8s.io/v1"), ("kind", str "CustomResourceDefinition"),
     ("metadata", obj [("name", str "mcpservers.mcpgateway.bedrock.aws")]),
     ("spec", obj
       [("group", str "mcpgateway.bedrock.aws"), ("names", names), ("scope", str "Namespaced"),
        ("versions", arr [version])])]

/-- The definition as text. -/
def yaml : String :=
  Yaml.write document

/-- Prints the definition, to be given to an API server. -/
def print : IO Unit :=
  IO.print yaml

end TargetRegistrar.Definition
