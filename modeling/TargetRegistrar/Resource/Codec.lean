import TargetRegistrar.Json
import TargetRegistrar.Resource.Basic
import TargetRegistrar.Timestamp

/-!
# Resources as JSON

For each part of a resource a writer (`encode`) and a reader (`decode?`). Absent options and the
empty list of reasons are not written; conditions and messages always are. Readers take both forms
of a record (`Json.fields?`), except that metadata is always an object, in which the last of several
members with one name counts.
-/

namespace TargetRegistrar

open Json

/-- A list of texts. -/
def Json.texts? : Json → Option (List String) :=
  list? text?

/-- An instant. -/
def Json.timestamp? (j : Json) : Option Timestamp :=
  j.text?.bind Timestamp.read?

/-- An instant with its whole fraction. -/
def Json.ofTimestamp (t : Timestamp) : Json :=
  str (t.write .exact)

/-! ## Conditions -/

namespace Verdict

/-- A verdict is written as its word. -/
def encode (v : Verdict) : Json :=
  str v.word

/-- A verdict is read from its word, also from an object with that word as its only member and
nothing in it. -/
def decode? : Json → Option Verdict
  | str s => ofWord? s
  | obj [(s, null)] => ofWord? s
  | _ => none

@[simp] theorem decode?_encode (v : Verdict) : decode? v.encode = some v :=
  ofWord?_word v

end Verdict

namespace Condition

/-- The fields of a condition in order. -/
def fields : List Field :=
  [⟨"type", false⟩, ⟨"status", false⟩, ⟨"reason", false⟩, ⟨"message", true⟩,
   ⟨"lastTransitionTime", false⟩, ⟨"observedGeneration", true⟩]

/-- A condition as an object. -/
def encode (c : Condition) : Json :=
  ofMembers
    [("type", some (str c.type)), ("status", some c.verdict.encode),
     ("reason", some (str c.reason)), ("message", some (str c.message)),
     ("lastTransitionTime", some (ofTimestamp c.lastTransition)),
     ("observedGeneration", c.observedGeneration.map int)]

/-- A condition from the values of its fields. -/
def ofFields? : List (Option Json) → Option Condition
  | [type, verdict, reason, message, lastTransition, observedGeneration] => do
    return {
      type := ← required? text? type
      verdict := ← required? Verdict.decode? verdict
      reason := ← required? text? reason
      message := ← defaulted? "" text? message
      lastTransition := ← required? timestamp? lastTransition
      observedGeneration := ← optional? int64? observedGeneration }
  | _ => none

/-- A condition from either form of record. -/
def decode? (j : Json) : Option Condition :=
  (fields? fields j).bind ofFields?

end Condition

/-! ## Status -/

namespace Status

/-- The fields of a status in order. -/
def fields : List Field :=
  [⟨"observedGeneration", false⟩, ⟨"targetId", false⟩, ⟨"gatewayArn", false⟩,
   ⟨"targetStatus", false⟩, ⟨"statusReasons", true⟩, ⟨"lastSynchronized", false⟩,
   ⟨"conditions", true⟩]

/-- A status as an object with a given member for its reasons. -/
def encodeWith (reasons : Option Json) (s : Status) : Json :=
  ofMembers
    [("observedGeneration", s.observedGeneration.map int), ("targetId", s.targetId.map str),
     ("gatewayArn", s.gatewayArn.map str), ("targetStatus", s.targetStatus.map str),
     ("statusReasons", reasons), ("lastSynchronized", s.lastSynchronized.map ofTimestamp),
     ("conditions", some (arr (s.conditions.map Condition.encode)))]

/-- A status as an object; an empty list of reasons is not written. -/
def encode (s : Status) : Json :=
  s.encodeWith (if s.statusReasons.isEmpty then none else some (ofTexts s.statusReasons))

/-- A status from the values of its fields. -/
def ofFields? : List (Option Json) → Option Status
  | [observedGeneration, targetId, gatewayArn, targetStatus, statusReasons, lastSynchronized,
      conditions] => do
    return {
      observedGeneration := ← optional? int64? observedGeneration
      targetId := ← optional? text? targetId
      gatewayArn := ← optional? text? gatewayArn
      targetStatus := ← optional? text? targetStatus
      statusReasons := ← defaulted? [] texts? statusReasons
      lastSynchronized := ← optional? timestamp? lastSynchronized
      conditions := ← defaulted? [] (list? Condition.decode?) conditions }
  | _ => none

/-- A status from either form of record. -/
def decode? (j : Json) : Option Status :=
  (fields? fields j).bind ofFields?

end Status

/-! ## Specification -/

namespace Spec

/-- The fields of a specification in order. -/
def fields : List Field :=
  [⟨"endpoint", false⟩, ⟨"capabilities", false⟩, ⟨"gatewayId", false⟩, ⟨"targetName", false⟩,
   ⟨"description", false⟩, ⟨"authType", false⟩, ⟨"oauthProviderArn", false⟩,
   ⟨"oauthScopes", false⟩, ⟨"allowedRequestHeaders", false⟩, ⟨"allowedQueryParameters", false⟩,
   ⟨"allowedResponseHeaders", false⟩]

/-- A specification as an object. -/
def encode (s : Spec) : Json :=
  ofMembers
    [("endpoint", some (str s.endpoint)), ("capabilities", some (ofTexts s.capabilities)),
     ("gatewayId", s.gatewayId.map str), ("targetName", s.targetName.map str),
     ("description", s.description.map str), ("authType", s.authType.map str),
     ("oauthProviderArn", s.oauthProviderArn.map str), ("oauthScopes", s.oauthScopes.map ofTexts),
     ("allowedRequestHeaders", s.allowedRequestHeaders.map ofTexts),
     ("allowedQueryParameters", s.allowedQueryParameters.map ofTexts),
     ("allowedResponseHeaders", s.allowedResponseHeaders.map ofTexts)]

/-- A specification from the values of its fields. -/
def ofFields? : List (Option Json) → Option Spec
  | [endpoint, capabilities, gatewayId, targetName, description, authType, oauthProviderArn,
      oauthScopes, allowedRequestHeaders, allowedQueryParameters, allowedResponseHeaders] => do
    return {
      endpoint := ← required? text? endpoint
      capabilities := ← required? texts? capabilities
      gatewayId := ← optional? text? gatewayId
      targetName := ← optional? text? targetName
      description := ← optional? text? description
      authType := ← optional? text? authType
      oauthProviderArn := ← optional? text? oauthProviderArn
      oauthScopes := ← optional? texts? oauthScopes
      allowedRequestHeaders := ← optional? texts? allowedRequestHeaders
      allowedQueryParameters := ← optional? texts? allowedQueryParameters
      allowedResponseHeaders := ← optional? texts? allowedResponseHeaders }
  | _ => none

/-- A specification from either form of record. -/
def decode? (j : Json) : Option Spec :=
  (fields? fields j).bind ofFields?

end Spec

/-! ## Metadata -/

/-- A set of named texts. -/
def Json.namedTexts? : Json → Option (List (String × String))
  | obj members => members.mapM fun m => m.2.text?.map fun s => (m.1, s)
  | _ => none

/-- A value that is kept as it is. -/
def Json.legible? (j : Json) : Option Json :=
  if j.isLegible then some j else none

/-- What the last member with a name holds, where absence and `null` mean nothing. Earlier members
with that name have to be well-formed too. -/
def Json.last? {α : Type} (value? : Json → Option α) (name : String)
    (members : List (String × Json)) : Option (Option α) :=
  ((members.filter fun m => m.1 = name).mapM fun m => nullable? value? m.2).map (·.getLast?.join)

namespace Metadata

/-- Whether every member with a name is `null` or has a given form. -/
def admits {α : Type} (value? : Json → Option α) (members : List (String × Json))
    (name : String) : Bool :=
  (last? value? name members).isSome

/-- Whether a value is a well-formed reference to an owner. -/
def isOwnerReference : Json → Bool
  | obj members =>
    ["apiVersion", "kind", "name", "uid"].all (admits text? members) &&
      ["blockOwnerDeletion", "controller"].all (admits bool? members)
  | _ => false

/-- Whether a value is a well-formed entry on who manages which fields. -/
def isManagedFields : Json → Bool
  | obj members =>
    ["apiVersion", "fieldsType", "manager", "operation", "subresource"].all
        (admits text? members) &&
      admits legible? members "fieldsV1" && admits timestamp? members "time"
  | _ => false

/-- A list of values that satisfy a test. -/
def listOf? (test : Json → Bool) : Json → Option (List Json) :=
  list? fun j => if test j then some j else none

/-- Whether the members that the controller has no use for are well-formed. -/
def unusedMembersValid (members : List (String × Json)) : Bool :=
  ["annotations", "labels"].all (admits namedTexts? members) &&
    admits timestamp? members "creationTimestamp" &&
    admits int64? members "deletionGracePeriodSeconds" &&
    admits (listOf? isManagedFields) members "managedFields" &&
    admits (listOf? isOwnerReference) members "ownerReferences" &&
    admits text? members "selfLink"

/-- Metadata from an object. -/
def decode? : Json → Option Metadata
  | obj members =>
    if unusedMembersValid members then do
      return {
        name := ← last? text? "name" members
        ns := ← last? text? "namespace" members
        generateName := ← last? text? "generateName" members
        uid := ← last? text? "uid" members
        generation := ← last? int64? "generation" members
        resourceVersion := ← last? text? "resourceVersion" members
        finalizers := ← last? texts? "finalizers" members
        deletionTimestamp := ← last? timestamp? "deletionTimestamp" members }
    else none
  | _ => none

end Metadata

/-! ## Resources -/

namespace Resource

/-- The fields of a resource in order. -/
def fields : List Field :=
  [⟨"metadata", false⟩, ⟨"spec", false⟩, ⟨"status", false⟩]

/-- A resource from the values of its fields. -/
def ofFields? : List (Option Json) → Option Resource
  | [metadata, spec, status] => do
    return {
      metadata := ← required? Metadata.decode? metadata
      spec := ← required? Spec.decode? spec
      status := ← optional? Status.decode? status }
  | _ => none

/-- A resource from either form of record. -/
def decode? (j : Json) : Option Resource :=
  (fields? fields j).bind ofFields?

end Resource

end TargetRegistrar
