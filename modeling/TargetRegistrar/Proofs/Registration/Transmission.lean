import TargetRegistrar.Gateway.ControlPlane
import TargetRegistrar.Proofs.Json.MergePatch
import TargetRegistrar.Proofs.Registration.Acceptance

/-!
# What is sent

A configuration takes three steps from a specification to the body of a request, and each step has
its own way to say that a list has nothing in it: it is absent, it is empty, or it is left out.
`Describes` says what must be found in a body, with nothing but the specification to compare it to.

A create and an update differ in the token alone.  So what the body of the update says of a
specification is said by the body of the create as well (`Describes.of_others`).
-/

namespace TargetRegistrar.Registration

open Gateway Json

/-! ## What a body says -/

/-- The credentials in a body: the gateway's own role without a provider, or the provider that the
specification names, with its scopes, which grants them to the gateway as a client. -/
def Credits (spec : Spec) (provider : Json) : Prop :=
  (WithoutCredentials spec ∧
      provider.member? "credentialProviderType" = some (str "GATEWAY_IAM_ROLE") ∧
      provider.member? "credentialProvider" = none) ∨
    ∃ arn oauth, WithProvider spec arn ∧
      provider.member? "credentialProviderType" = some (str "OAUTH") ∧
      provider.member? "credentialProvider" = some (obj [("oauthCredentialProvider", oauth)]) ∧
      oauth.member? "providerArn" = some (str arn) ∧
      oauth.member? "scopes" = some (ofTexts (spec.oauthScopes.getD [])) ∧
      oauth.member? "grantType" = some (str "CLIENT_CREDENTIALS")

/-- The lists of what is passed on, by the names that they have in a body. -/
def listsByName (p : Propagation) : List (String × List String) :=
  [("allowedQueryParameters", p.queryParameters), ("allowedRequestHeaders", p.requestHeaders),
    ("allowedResponseHeaders", p.responseHeaders)]

/-- The value has those of the lists that are not empty, and nothing else. -/
def Lists (p : Propagation) (value : Json) : Prop :=
  ∀ name item, value.member? name = some item ↔
    ∃ texts, (name, texts) ∈ listsByName p ∧ texts ≠ [] ∧ item = ofTexts texts

/-- What the body of a request says of a resource whose target has a name. -/
structure Describes (r : Resource) (name : String) (body : Json) : Prop where
  name : body.member? "name" = some (str name)
  description : ∀ value, body.member? "description" = some value ↔
    ∃ text, r.spec.description = some text ∧ text ≠ "" ∧ value = str text
  endpoint : body.member? "targetConfiguration" =
    some (obj [("mcp", obj [("mcpServer", obj [("endpoint", str r.spec.endpoint)])])])
  credentials : ∃ provider,
    body.member? "credentialProviderConfigurations" = some (arr [provider]) ∧
      Credits r.spec provider
  propagation : (∃ value, body.member? "metadataConfiguration" = some value) ↔
    Populated (propagated r.spec)
  lists : ∀ value, body.member? "metadataConfiguration" = some value →
    Lists (propagated r.spec) value

/-- A body that differs in its token alone says the same. -/
lemma Describes.of_others {r : Resource} {name : String} {body body' : Json}
    (h : Describes r name body)
    (hothers : ∀ member, member ≠ "clientToken" → body'.member? member = body.member? member) :
    Describes r name body' where
  name := by rw [hothers _ (by decide), h.name]
  description value := by rw [hothers _ (by decide), h.description]
  endpoint := by rw [hothers _ (by decide), h.endpoint]
  credentials := by
    rw [hothers _ (by decide)]
    exact h.credentials
  propagation := by
    rw [hothers _ (by decide)]
    exact h.propagation
  lists value := by
    rw [hothers _ (by decide)]
    exact h.lists value

/-! ## The parts of a configuration -/

section Parts

variable {r : Resource} {config : TargetConfig}

lemma credits_of_carries (h : Carries r config) :
    Credits r.spec (ControlPlane.writtenCredentials config.credentials) := by
  obtain ⟨hwithout, hcredentials⟩ | ⟨arn, hprovider, hcredentials⟩ := h.credentials
  · rw [hcredentials]
    exact .inl ⟨hwithout, rfl, rfl⟩
  · rw [hcredentials]
    exact .inr ⟨arn, _, hprovider, rfl, rfl, rfl, rfl, rfl⟩

lemma lists_writtenPropagation (p : Propagation) :
    Lists p (ControlPlane.writtenPropagation p) := by
  intro name item
  have hlisted (texts : List String) :
      ControlPlane.nonEmptyTexts texts = some item ↔ texts ≠ [] ∧ item = ofTexts texts := by
    cases texts with
    | nil => simp [ControlPlane.nonEmptyTexts]
    | cons text texts => simpa [ControlPlane.nonEmptyTexts] using eq_comm
  have hfind : (ControlPlane.writtenPropagation p).member? name = some item ↔
      (name, some item) ∈ (listsByName p).map fun m => (m.1, ControlPlane.nonEmptyTexts m.2) :=
    findMember_present_iff (by simp)
  rw [hfind, List.mem_map]
  constructor
  · rintro ⟨⟨_, texts⟩, hmem, heq⟩
    obtain ⟨rfl, htexts⟩ := Prod.mk.inj heq
    exact ⟨texts, hmem, (hlisted texts).mp htexts⟩
  · rintro ⟨texts, hmem, hitem⟩
    exact ⟨(name, texts), hmem, by rw [(hlisted texts).mpr hitem]⟩

/-- What is listed as a member of a configuration is found in the body of the update. -/
lemma member?_updateBody (name : String) (value : Option Json)
    (h : (name, value) ∈ ControlPlane.configMembers config) :
    (ControlPlane.updateBody config).member? name = value :=
  findMember_present (by simp [ControlPlane.configMembers]) h

lemma describes_updateBody (h : Carries r config) :
    Describes r config.name (ControlPlane.updateBody config) := by
  have hname : (ControlPlane.updateBody config).member? "name" = some (str config.name) :=
    member?_updateBody _ _ (by simp [ControlPlane.configMembers])
  have hdescription : (ControlPlane.updateBody config).member? "description" =
      config.description.map str :=
    member?_updateBody _ _ (by simp [ControlPlane.configMembers])
  have hendpoint : (ControlPlane.updateBody config).member? "targetConfiguration" =
      some (obj [("mcp", obj [("mcpServer", obj [("endpoint", str config.endpoint)])])]) :=
    member?_updateBody _ _ (by simp [ControlPlane.configMembers])
  have hcredentials : (ControlPlane.updateBody config).member? "credentialProviderConfigurations" =
      some (arr [ControlPlane.writtenCredentials config.credentials]) :=
    member?_updateBody _ _ (by simp [ControlPlane.configMembers])
  have hpropagation : (ControlPlane.updateBody config).member? "metadataConfiguration" =
      config.propagation.map ControlPlane.writtenPropagation :=
    member?_updateBody _ _ (by simp [ControlPlane.configMembers])
  refine ⟨hname, fun value => ?_, h.endpoint ▸ hendpoint, ⟨_, hcredentials, credits_of_carries h⟩,
    ?_, fun value hvalue => ?_⟩
  · simp [hdescription, h.description, and_assoc, eq_comm]
  · simp [hpropagation, h.propagation]
  · rw [hpropagation] at hvalue
    obtain ⟨p, hp, rfl⟩ := Option.map_eq_some_iff.mp hvalue
    obtain ⟨rfl, -⟩ := (h.propagation p).mp hp
    exact lists_writtenPropagation _

end Parts

/-! ## The two requests -/

lemma ne_empty_of_resolves {d : Option String} {spec : Spec} {gatewayId : String}
    (h : Resolves d spec gatewayId) : gatewayId ≠ "" := by
  obtain ⟨given, -, hblank, rfl⟩ | ⟨-, -, hblank⟩ := h
  · exact hblank
  · rintro rfl
    exact hblank (by decide)

/-- The body of a create is the body of the update and the token. -/
lemma createBody_eq (token : CreateToken) (config : TargetConfig) :
    ControlPlane.createBody token config =
      obj (("clientToken", str token.text) :: (ControlPlane.updateBody config).members) :=
  rfl

lemma dropMember_token (token : CreateToken) (config : TargetConfig) :
    obj (dropMember "clientToken" (ControlPlane.createBody token config).members) =
      ControlPlane.updateBody config := by
  have hnames : ∀ m ∈ (ControlPlane.updateBody config).members, m.1 ≠ "clientToken" := by
    intro m hm htoken
    have hlisted : m.1 ∈ (ControlPlane.configMembers config).map Prod.fst :=
      present_names_sublist.subset (List.mem_map_of_mem hm)
    rw [htoken] at hlisted
    simp [ControlPlane.configMembers] at hlisted
  have hkept : dropMember "clientToken" (ControlPlane.updateBody config).members =
      (ControlPlane.updateBody config).members :=
    List.filter_eq_self.mpr fun m hm => decide_eq_true (hnames m hm)
  calc obj (dropMember "clientToken" (ControlPlane.createBody token config).members)
      = obj (dropMember "clientToken" (ControlPlane.updateBody config).members) := rfl
    _ = ControlPlane.updateBody config := by rw [hkept]; rfl

/-- A create and an update that are built of one specification send the same configuration: without
its token the body of the create is the body of the update, and both say of the specification what
is to be said.  This does not depend on whether the caller gives a token, or one is drawn. -/
theorem requests_send_same_configuration (d : Option String) (r : Resource) (v : Validated)
    (targetId : String) (given : Option CreateToken) (drawn : CreateToken)
    (hv : validate d r = .ok v) (hname : v.targetName ≠ "") (hid : targetId ≠ "") :
    ∃ create update creating updating created updated,
      v.createRequest = .ok create ∧ v.updateRequest targetId = .ok update ∧
      ControlPlane.request drawn (.create { create with clientToken := given }) = .ok creating ∧
      ControlPlane.request drawn (.update update) = .ok updating ∧
      creating.body = some created ∧ updating.body = some updated ∧
      created.member? "clientToken" = some (str (given.getD drawn).text) ∧
      obj (dropMember "clientToken" created.members) = updated ∧
      Describes r v.targetName created ∧ Describes r v.targetName updated := by
  obtain ⟨config, hconfig, hcarries, hnamed⟩ := exists_carrying hv hname
  have hgateway := ne_empty_of_resolves (settles_of_validate hv).gateway
  have hupdated : Describes r v.targetName (ControlPlane.updateBody config) :=
    hnamed ▸ describes_updateBody hcarries
  refine ⟨⟨v.gatewayId, config, none⟩, ⟨v.gatewayId, targetId, config⟩, _, _,
    ControlPlane.createBody (given.getD drawn) config, ControlPlane.updateBody config, ?_, ?_,
    if_neg hgateway, if_neg (by simp [hgateway, hid]), rfl, rfl, rfl, dropMember_token _ _, ?_,
    hupdated⟩
  · rw [createRequest_eq, hconfig]
    rfl
  · rw [updateRequest_eq v hid, hconfig]
    rfl
  · refine hupdated.of_others fun member hmember => ?_
    rw [createBody_eq, member?, findMember, if_neg (Ne.symm hmember)]
    rfl

/-- The body of the create carries the token that was drawn, since the caller gives none. -/
theorem requests_send_same_configuration_with_provider :
    validate none providedResource = .ok providedValidated ∧ providedValidated.targetName ≠ "" ∧
    "target-1" ≠ "" ∧ ∃ create update creating updating created updated,
      providedValidated.createRequest = .ok create ∧
      providedValidated.updateRequest "target-1" = .ok update ∧
      ControlPlane.request (.drawn 7) (.create { create with clientToken := none }) =
        .ok creating ∧
      ControlPlane.request (.drawn 7) (.update update) = .ok updating ∧
      creating.body = some created ∧ updating.body = some updated ∧
      created.member? "clientToken" = some (str "00000000-0000-4000-8000-000000000007") ∧
      obj (dropMember "clientToken" created.members) = updated ∧
      Describes providedResource "files" created ∧ Describes providedResource "files" updated := by
  have hvalidate : validate none providedResource = .ok providedValidated := by decide +kernel
  have hname : providedValidated.targetName ≠ "" := by decide
  have hid : "target-1" ≠ "" := by decide
  have htoken : (CreateToken.drawn 7).text = "00000000-0000-4000-8000-000000000007" := by
    decide +kernel
  have hsent := requests_send_same_configuration none providedResource providedValidated "target-1"
    none (.drawn 7) hvalidate hname hid
  rw [Option.getD_none, htoken] at hsent
  exact ⟨hvalidate, hname, hid, hsent⟩

end TargetRegistrar.Registration
