import TargetRegistrar.Proofs.Registration.Requests

/-!
# What is accepted, and what is made of it

Validation and building are written apart and check some of the same things, each with a notion of
emptiness of its own.  Here both are held against what a specification says: the four checks as
conditions on it (`Check.Met`), the gateway and the name that it comes to (`Resolves`, `Names`), and
the configuration that carries it (`Carries`).

A specification passes exactly if it meets all checks, and otherwise the first check that it does
not meet decides the error.  Nothing that passed is refused afterwards, unless there is no name for
the target, which no check asks for.
-/

namespace TargetRegistrar.Registration

open Gateway

/-! ## What a specification says -/

/-- An option that is absent or empty. -/
def Unset (o : Option String) : Prop :=
  o = none ∨ o = some ""

/-- The scheme is the one without credentials, which is also meant if none is given. -/
def WithoutCredentials (spec : Spec) : Prop :=
  Unset spec.authType ∨ spec.authType = some "NoAuth"

/-- The scheme is the one with a provider of credentials, and this is the provider. -/
def WithProvider (spec : Spec) (arn : String) : Prop :=
  spec.authType = some "OAuth2" ∧ spec.oauthProviderArn = some arn ∧ arn ≠ ""

/-- The gateway that is meant: the one that the specification names, without the blanks around it,
or the default one if it names none.  Neither may consist of blanks. -/
def Resolves (d : Option String) (spec : Spec) (gatewayId : String) : Prop :=
  (∃ given, spec.gatewayId = some given ∧ Text.trim given ≠ "" ∧ gatewayId = Text.trim given) ∨
    (Unset spec.gatewayId ∧ d = some gatewayId ∧ Text.trim gatewayId ≠ "")

/-- The name of the target: the one that the specification gives, or the one of the resource. -/
def Names (r : Resource) (name : String) : Prop :=
  (r.spec.targetName = some name ∨ Unset r.spec.targetName ∧ r.metadata.name = some name) ∧
    name ≠ ""

/-- The lists of what is passed on; an absent one counts as empty. -/
def propagated (spec : Spec) : Propagation :=
  ⟨spec.allowedRequestHeaders.getD [], spec.allowedQueryParameters.getD [],
    spec.allowedResponseHeaders.getD []⟩

/-- Something is passed on. -/
def Populated (p : Propagation) : Prop :=
  p.requestHeaders ≠ [] ∨ p.queryParameters ≠ [] ∨ p.responseHeaders ≠ []

/-- The checks, in the order in which they run. -/
inductive Check where
  | endpoint
  | capabilities
  | authentication
  | gateway

namespace Check

/-- The checks that run before one. -/
def earlier : Check → List Check
  | endpoint => []
  | capabilities => [endpoint]
  | authentication => [endpoint, capabilities]
  | gateway => [endpoint, capabilities, authentication]

/-- What a check asks for. -/
def Met (d : Option String) (spec : Spec) : Check → Prop
  | endpoint => "https://".toList <+: spec.endpoint.toList
  | capabilities => "tools" ∈ spec.capabilities
  | authentication => WithoutCredentials spec ∨ ∃ arn, WithProvider spec arn
  | gateway => ∃ gatewayId, Resolves d spec gatewayId

/-- The error of a check that is not met. -/
def error (spec : Spec) : Check → ValidationError
  | endpoint =>
    if spec.endpoint = "" then .missingEndpoint else .insecureEndpoint spec.endpoint
  | capabilities =>
    if spec.capabilities = [] then .missingCapabilities
    else .missingRequiredCapability spec.capabilities
  | authentication =>
    if spec.authType = some "OAuth2" then .missingOAuthProvider
    else .unsupportedAuthType (spec.authType.getD "")
  | gateway =>
    if spec.gatewayId.getD "" = "" then .missingGatewayId else .blankGatewayId

/-- The first check that a specification does not meet. -/
structure Decides (check : Check) (d : Option String) (spec : Spec) : Prop where
  unmet : ¬ check.Met d spec
  earlier : ∀ c ∈ check.earlier, c.Met d spec

lemma exists_decides {d : Option String} {spec : Spec} (h : ¬ ∀ check : Check, check.Met d spec) :
    ∃ check : Check, check.Decides d spec := by
  by_contra hnone
  have hnext (check : Check) (hearlier : ∀ c ∈ check.earlier, c.Met d spec) : check.Met d spec := by
    by_contra hunmet
    exact hnone ⟨check, hunmet, hearlier⟩
  have hendpoint := hnext endpoint (by simp [earlier])
  have hcapabilities := hnext capabilities (by simpa [earlier] using hendpoint)
  have hauth := hnext authentication (by simpa [earlier] using ⟨hendpoint, hcapabilities⟩)
  have hgateway := hnext gateway (by simpa [earlier] using ⟨hendpoint, hcapabilities, hauth⟩)
  apply h
  intro check
  cases check with
  | endpoint => exact hendpoint
  | capabilities => exact hcapabilities
  | authentication => exact hauth
  | gateway => exact hgateway

end Check

/-! ## The checks one by one -/

section Checks

variable {d : Option String} {spec : Spec}

lemma nonEmpty_eq_some {o : Option String} {text : String} :
    nonEmpty o = some text ↔ o = some text ∧ text ≠ "" := by
  simp [nonEmpty, Option.filter_eq_some_iff]

lemma nonEmpty_eq_none {o : Option String} : nonEmpty o = none ↔ Unset o := by
  cases o with
  | none => simp [nonEmpty, Unset]
  | some text => simp [nonEmpty, Unset]

lemma usableDefault_eq_some {gatewayId : String} :
    usableDefault d = some gatewayId ↔ d = some gatewayId ∧ Text.trim gatewayId ≠ "" := by
  simp [usableDefault, Option.filter_eq_some_iff]

lemma ne_empty_of_met (h : Check.endpoint.Met d spec) : spec.endpoint ≠ "" := by
  intro hempty
  simp [Check.Met, hempty] at h

lemma checkEndpoint_of_met (h : Check.endpoint.Met d spec) :
    checkEndpoint spec.endpoint = .ok spec.endpoint := by
  have hstart : secureStart.toList.isPrefixOf spec.endpoint.toList :=
    List.isPrefixOf_iff_prefix.mpr h
  rw [checkEndpoint, if_neg (ne_empty_of_met h), if_pos hstart]

lemma checkEndpoint_of_not_met (h : ¬ Check.endpoint.Met d spec) :
    checkEndpoint spec.endpoint = .error (Check.endpoint.error spec) := by
  have hstart : ¬ secureStart.toList.isPrefixOf spec.endpoint.toList := by
    rw [List.isPrefixOf_iff_prefix]
    exact h
  by_cases hempty : spec.endpoint = ""
  · simp [checkEndpoint, Check.error, hempty]
  · rw [checkEndpoint, if_neg hempty, if_neg hstart, Check.error, if_neg hempty]

lemma checkCapabilities_of_met (h : Check.capabilities.Met d spec) :
    checkCapabilities spec.capabilities = .ok spec.capabilities := by
  have hmem : requiredCapability ∈ spec.capabilities := h
  rw [checkCapabilities, if_neg (List.ne_nil_of_mem hmem), if_pos hmem]

lemma checkCapabilities_of_not_met (h : ¬ Check.capabilities.Met d spec) :
    checkCapabilities spec.capabilities = .error (Check.capabilities.error spec) := by
  have hmem : requiredCapability ∉ spec.capabilities := h
  by_cases hempty : spec.capabilities = []
  · simp [checkCapabilities, Check.error, hempty]
  · rw [checkCapabilities, if_neg hempty, if_neg hmem, Check.error, if_neg hempty]

/-- The authentication that a specification asks for. -/
def Authenticates (spec : Spec) (auth : Auth) : Prop :=
  (WithoutCredentials spec ∧ auth = ⟨.noAuth, none, []⟩) ∨
    ∃ arn, WithProvider spec arn ∧ auth = ⟨.oauth2, some arn, spec.oauthScopes.getD []⟩

lemma checkAuth_of_met (h : Check.authentication.Met d spec) :
    ∃ auth, checkAuth spec = .ok auth ∧ Authenticates spec auth := by
  obtain hwithout | ⟨arn, hprovider⟩ := h
  · refine ⟨⟨.noAuth, none, []⟩, ?_, .inl ⟨hwithout, rfl⟩⟩
    obtain hunset | hgiven := hwithout
    · rw [checkAuth, nonEmpty_eq_none.mpr hunset]
    · have hscheme : nonEmpty spec.authType = some "NoAuth" :=
        nonEmpty_eq_some.mpr ⟨hgiven, by decide⟩
      simp [checkAuth, hscheme, noAuthName]
  · refine ⟨_, ?_, .inr ⟨arn, hprovider, rfl⟩⟩
    obtain ⟨hgiven, harn, hne⟩ := hprovider
    have hscheme : nonEmpty spec.authType = some "OAuth2" :=
      nonEmpty_eq_some.mpr ⟨hgiven, by decide⟩
    have hprovider : nonEmpty spec.oauthProviderArn = some arn := nonEmpty_eq_some.mpr ⟨harn, hne⟩
    simp [checkAuth, hscheme, hprovider, noAuthName, oauth2Name]

lemma checkAuth_of_not_met (h : ¬ Check.authentication.Met d spec) :
    checkAuth spec = .error (Check.authentication.error spec) := by
  cases hscheme : nonEmpty spec.authType with
  | none => exact absurd (.inl (.inl (nonEmpty_eq_none.mp hscheme))) h
  | some authType =>
    obtain ⟨hgiven, -⟩ := nonEmpty_eq_some.mp hscheme
    by_cases hplain : authType = "NoAuth"
    · exact absurd (.inl (.inr (hplain ▸ hgiven))) h
    · by_cases hoauth : authType = "OAuth2"
      · -- the scheme is known, so it is the provider that is missing
        have hprovider : nonEmpty spec.oauthProviderArn = none := by
          rw [Option.eq_none_iff_forall_ne_some]
          intro arn harn
          exact h (.inr ⟨arn, hoauth ▸ hgiven, nonEmpty_eq_some.mp harn⟩)
        have herror : Check.authentication.error spec = .missingOAuthProvider :=
          if_pos (hoauth ▸ hgiven)
        simp [checkAuth, herror, hscheme, hoauth, hprovider, noAuthName, oauth2Name]
      · have herror : Check.authentication.error spec = .unsupportedAuthType authType := by
          simp [Check.error, hgiven, hoauth]
        simp [checkAuth, herror, hscheme, hplain, hoauth, noAuthName, oauth2Name]

lemma resolveGateway_of_resolves {gatewayId : String} (h : Resolves d spec gatewayId) :
    resolveGateway d spec = .ok gatewayId := by
  obtain ⟨given, hgiven, hblank, rfl⟩ | ⟨hunset, hdefault, hblank⟩ := h
  · have hne : given ≠ "" := by
      rintro rfl
      exact hblank (by decide)
    rw [resolveGateway, nonEmpty_eq_some.mpr ⟨hgiven, hne⟩]
    exact if_neg hblank
  · have husable : usableDefault d = some gatewayId := usableDefault_eq_some.mpr ⟨hdefault, hblank⟩
    simp only [resolveGateway, nonEmpty_eq_none.mpr hunset, husable]

lemma resolveGateway_of_not_met (h : ¬ Check.gateway.Met d spec) :
    resolveGateway d spec = .error (Check.gateway.error spec) := by
  cases hgiven : nonEmpty spec.gatewayId with
  | none =>
    have hunset := nonEmpty_eq_none.mp hgiven
    have husable : usableDefault d = none := by
      rw [Option.eq_none_iff_forall_ne_some]
      intro gatewayId hdefault
      exact h ⟨gatewayId, .inr ⟨hunset, usableDefault_eq_some.mp hdefault⟩⟩
    have hempty : spec.gatewayId.getD "" = "" := by
      obtain hnone | hempty := hunset
      · rw [hnone, Option.getD_none]
      · rw [hempty, Option.getD_some]
    have herror : Check.gateway.error spec = .missingGatewayId := if_pos hempty
    simp only [resolveGateway, hgiven, husable, herror]
  | some given =>
    obtain ⟨hsome, hne⟩ := nonEmpty_eq_some.mp hgiven
    have hblank : Text.trim given = "" := by
      by_contra hblank
      exact h ⟨_, .inl ⟨given, hsome, hblank, rfl⟩⟩
    have herror : Check.gateway.error spec = .blankGatewayId := by
      simp [Check.error, hsome, hne]
    simp only [resolveGateway, hgiven, herror, if_pos hblank]

lemma resolves_of_resolveGateway {gatewayId : String} (h : resolveGateway d spec = .ok gatewayId) :
    Resolves d spec gatewayId := by
  by_cases hmet : Check.gateway.Met d spec
  · obtain ⟨resolved, hresolves⟩ := hmet
    have heq : Except.ok resolved = Except.ok gatewayId :=
      (resolveGateway_of_resolves hresolves).symm.trans h
    exact Except.ok.inj heq ▸ hresolves
  · rw [resolveGateway_of_not_met hmet] at h
    cases h

end Checks

/-! ## Validation -/

section Validation

variable {d : Option String} {r : Resource} {v : Validated}

/-- What a specification that passed comes to. -/
structure Settles (d : Option String) (r : Resource) (v : Validated) : Prop where
  endpoint : v.endpoint = r.spec.endpoint
  auth : Authenticates r.spec v.auth
  gateway : Resolves d r.spec v.gatewayId
  propagation : v.propagation = propagationLists r.spec
  name : ∀ name, Names r name ↔ v.targetName = name ∧ name ≠ ""
  description : v.description = nonEmpty r.spec.description

lemma names_iff {name : String} :
    Names r name ↔
      ((nonEmpty r.spec.targetName).or r.metadata.name).getD "" = name ∧ name ≠ "" := by
  unfold Names
  refine and_congr_left fun hne => ?_
  cases hgiven : nonEmpty r.spec.targetName with
  | none =>
    have hunset := nonEmpty_eq_none.mp hgiven
    have hother : r.spec.targetName ≠ some name := by
      intro hsome
      obtain hnone | hempty := hunset
      · simp [hnone] at hsome
      · exact hne (Option.some.inj (hsome ▸ hempty))
    cases hname : r.metadata.name with
    | none => simp [hother, Ne.symm hne]
    | some own => simp [hother, hunset]
  | some given =>
    obtain ⟨hsome, hne'⟩ := nonEmpty_eq_some.mp hgiven
    simp [hsome, Unset, hne']

lemma exists_validated (h : ∀ check : Check, check.Met d r.spec) :
    ∃ v, validate d r = .ok v ∧ Settles d r v := by
  obtain ⟨auth, hauth, hauthenticates⟩ := checkAuth_of_met (h .authentication)
  obtain ⟨gatewayId, hgateway⟩ := h .gateway
  have hvalidate : validate d r = .ok {
      endpoint := r.spec.endpoint, capabilities := r.spec.capabilities, auth, gatewayId
      propagation := propagationLists r.spec
      targetName := ((nonEmpty r.spec.targetName).or r.metadata.name).getD ""
      description := nonEmpty r.spec.description } := by
    unfold validate
    rw [checkEndpoint_of_met (h .endpoint), checkCapabilities_of_met (h .capabilities), hauth,
      resolveGateway_of_resolves hgateway]
    rfl
  exact ⟨_, hvalidate, rfl, hauthenticates, hgateway, rfl, fun name => names_iff, rfl⟩

lemma Check.Decides.validate_eq {check : Check} (h : check.Decides d r.spec) :
    validate d r = .error (check.error r.spec) := by
  unfold validate
  cases check with
  | endpoint =>
    rw [checkEndpoint_of_not_met h.unmet]
    rfl
  | capabilities =>
    rw [checkEndpoint_of_met (h.earlier endpoint (by simp [Check.earlier])),
      checkCapabilities_of_not_met h.unmet]
    rfl
  | authentication =>
    rw [checkEndpoint_of_met (h.earlier endpoint (by simp [Check.earlier])),
      checkCapabilities_of_met (h.earlier capabilities (by simp [Check.earlier])),
      checkAuth_of_not_met h.unmet]
    rfl
  | gateway =>
    obtain ⟨auth, hauth, -⟩ :=
      checkAuth_of_met (h.earlier authentication (by simp [Check.earlier]))
    rw [checkEndpoint_of_met (h.earlier endpoint (by simp [Check.earlier])),
      checkCapabilities_of_met (h.earlier capabilities (by simp [Check.earlier])), hauth,
      resolveGateway_of_not_met h.unmet]
    rfl

lemma met_of_validate (h : validate d r = .ok v) (check : Check) : check.Met d r.spec := by
  by_contra hunmet
  obtain ⟨first, hfirst⟩ := Check.exists_decides fun hall => hunmet (hall check)
  rw [hfirst.validate_eq] at h
  cases h

lemma settles_of_validate (h : validate d r = .ok v) : Settles d r v := by
  obtain ⟨v', hv', hsettles⟩ := exists_validated (met_of_validate h)
  obtain rfl : v' = v := Except.ok.inj (hv'.symm.trans h)
  exact hsettles

lemma resolveGateway_of_validate (h : validate d r = .ok v) :
    resolveGateway d r.spec = .ok v.gatewayId :=
  resolveGateway_of_resolves (settles_of_validate h).gateway

lemma validate_eq_error_iff {e : ValidationError} :
    validate d r = .error e ↔ ∃ check : Check, check.Decides d r.spec ∧ check.error r.spec = e := by
  constructor
  · intro h
    have hunmet : ¬ ∀ check : Check, check.Met d r.spec := by
      intro hall
      obtain ⟨v, hv, -⟩ := exists_validated hall
      rw [hv] at h
      cases h
    obtain ⟨check, hcheck⟩ := Check.exists_decides hunmet
    exact ⟨check, hcheck, Except.error.inj (hcheck.validate_eq.symm.trans h)⟩
  · rintro ⟨check, hcheck, rfl⟩
    exact hcheck.validate_eq

end Validation

/-! ## Building -/

section Building

variable {d : Option String} {r : Resource} {v : Validated}

/-- A configuration that carries a specification under a name. -/
structure Carries (r : Resource) (config : TargetConfig) : Prop where
  name : Names r config.name
  endpoint : config.endpoint = r.spec.endpoint
  description : ∀ text, config.description = some text ↔ r.spec.description = some text ∧ text ≠ ""
  credentials :
    (WithoutCredentials r.spec ∧ config.credentials = .gatewayRole) ∨
      ∃ arn, WithProvider r.spec arn ∧
        config.credentials = .oauth arn (r.spec.oauthScopes.getD [])
  propagation : ∀ p, config.propagation = some p ↔ p = propagated r.spec ∧ Populated p

lemma Settles.exists_credentials (h : Settles d r v) :
    ∃ credentials, v.buildCredentials = .ok credentials ∧
      ((WithoutCredentials r.spec ∧ credentials = .gatewayRole) ∨
        ∃ arn, WithProvider r.spec arn ∧
          credentials = .oauth arn (r.spec.oauthScopes.getD [])) := by
  unfold Validated.buildCredentials
  obtain ⟨hwithout, hauth⟩ | ⟨arn, hprovider, hauth⟩ := h.auth
  · rw [hauth]
    exact ⟨.gatewayRole, rfl, .inl ⟨hwithout, rfl⟩⟩
  · rw [hauth]
    refine ⟨_, ?_, .inr ⟨arn, hprovider, rfl⟩⟩
    have hgiven : nonEmpty (some arn) = some arn := nonEmpty_eq_some.mpr ⟨rfl, hprovider.2.2⟩
    simp only [hgiven]

lemma Settles.buildPropagation_eq_some (h : Settles d r v) (p : Propagation) :
    v.buildPropagation = some p ↔ p = propagated r.spec ∧ Populated p := by
  have hlists : v.buildPropagation =
      if propagated r.spec = ⟨[], [], []⟩ then none else some (propagated r.spec) := by
    rw [Validated.buildPropagation, h.propagation, propagationLists]
    by_cases habsent : (⟨r.spec.allowedRequestHeaders, r.spec.allowedQueryParameters,
        r.spec.allowedResponseHeaders⟩ : PropagationLists) = ⟨none, none, none⟩
    · simp only [PropagationLists.mk.injEq] at habsent
      simp [propagated, habsent]
    · rw [if_neg habsent]
      rfl
  have hempty : propagated r.spec = ⟨[], [], []⟩ ↔ ¬ Populated (propagated r.spec) := by
    cases hp : propagated r.spec with
    | mk headers parameters responses => simp [Populated]
  rw [hlists]
  by_cases hpopulated : Populated (propagated r.spec)
  · rw [if_neg (by simp [hempty, hpopulated]), Option.some.injEq, eq_comm]
    exact ⟨fun hp => ⟨hp, hp ▸ hpopulated⟩, And.left⟩
  · rw [if_pos (hempty.mpr hpopulated)]
    simp only [reduceCtorEq, false_iff, not_and]
    rintro rfl
    exact hpopulated

/-- Nothing but a missing name keeps what passed from being built. -/
lemma exists_carrying (h : validate d r = .ok v) (hname : v.targetName ≠ "") :
    ∃ config, v.buildConfig = .ok config ∧ Carries r config ∧ config.name = v.targetName := by
  have hsettles := settles_of_validate h
  obtain ⟨credentials, hbuilt, hcredentials⟩ := hsettles.exists_credentials
  have hname' : v.buildName = .ok v.targetName := if_neg hname
  have hendpoint : v.buildEndpoint = .ok v.endpoint := by
    refine if_neg ?_
    rw [hsettles.endpoint]
    exact ne_empty_of_met (met_of_validate h .endpoint)
  refine ⟨⟨v.targetName, v.description, v.endpoint, credentials, v.buildPropagation⟩, ?_, ?_, rfl⟩
  · unfold Validated.buildConfig
    rw [hname', hendpoint, hbuilt]
    rfl
  · refine ⟨(hsettles.name _).mpr ⟨rfl, hname⟩, hsettles.endpoint, fun text => ?_, hcredentials,
      hsettles.buildPropagation_eq_some⟩
    rw [hsettles.description]
    exact nonEmpty_eq_some

/-- A resource with a name has a name for its target. -/
lemma exists_names {name : String} (hname : r.metadata.name = some name) (hne : name ≠ "") :
    ∃ name', Names r name' := by
  cases hgiven : nonEmpty r.spec.targetName with
  | none => exact ⟨name, .inr ⟨nonEmpty_eq_none.mp hgiven, hname⟩, hne⟩
  | some given =>
    obtain ⟨hsome, hne'⟩ := nonEmpty_eq_some.mp hgiven
    exact ⟨given, .inl hsome, hne'⟩

/-- A valid specification with a name for the target has a configuration. -/
lemma exists_config_of_names {name : String} (h : validate d r = .ok v) (hnames : Names r name) :
    ∃ config, v.buildConfig = .ok config := by
  obtain ⟨htarget, hne⟩ := ((settles_of_validate h).name name).mp hnames
  obtain ⟨config, hconfig, -⟩ := exists_carrying h (htarget ▸ hne)
  exact ⟨config, hconfig⟩

lemma exists_config {name : String} (h : validate d r = .ok v)
    (hname : r.metadata.name = some name) (hne : name ≠ "") :
    ∃ config, v.buildConfig = .ok config := by
  obtain ⟨_, hnames⟩ := exists_names hname hne
  exact exists_config_of_names h hnames

lemma buildConfig_of_unnamed (h : v.targetName = "") :
    v.buildConfig = .error .missingTargetName := by
  have hname : v.buildName = .error .missingTargetName := if_pos h
  unfold Validated.buildConfig
  rw [hname]
  rfl

end Building

/-! ## Validation and building together -/

/-- A resource passes exactly if its specification meets all checks, and fails with the error of the
first one that it does not meet.  If it passed and there is a name for the target, then both
requests can be built: they are for the gateway that the specification comes to, and they carry it
in the same configuration.  Without a name both fail for that reason. -/
theorem validate_exact (d : Option String) (r : Resource) :
    ((∃ v, validate d r = .ok v) ↔ ∀ check : Check, check.Met d r.spec) ∧
    (∀ e, validate d r = .error e ↔
      ∃ check : Check, check.Decides d r.spec ∧ check.error r.spec = e) ∧
    ∀ v targetId, validate d r = .ok v → targetId ≠ "" →
      ((∃ name, Names r name) → ∃ config, Carries r config ∧ Resolves d r.spec v.gatewayId ∧
        v.createRequest = .ok ⟨v.gatewayId, config, none⟩ ∧
        v.updateRequest targetId = .ok ⟨v.gatewayId, targetId, config⟩) ∧
      ((¬ ∃ name, Names r name) → v.createRequest = .error .missingTargetName ∧
        v.updateRequest targetId = .error .missingTargetName) := by
  refine ⟨⟨?_, ?_⟩, fun e => validate_eq_error_iff, fun v targetId hv hid => ⟨?_, ?_⟩⟩
  · rintro ⟨v, hv⟩
    exact met_of_validate hv
  · intro hmet
    obtain ⟨v, hv, -⟩ := exists_validated hmet
    exact ⟨v, hv⟩
  · rintro ⟨name, hnames⟩
    have hsettles := settles_of_validate hv
    obtain ⟨hname, hne⟩ := (hsettles.name name).mp hnames
    obtain ⟨config, hconfig, hcarries, -⟩ := exists_carrying hv (hname ▸ hne)
    refine ⟨config, hcarries, hsettles.gateway, ?_, ?_⟩
    · rw [createRequest_eq, hconfig]
      rfl
    · rw [updateRequest_eq v hid, hconfig]
      rfl
  · intro hunnamed
    have hname : v.targetName = "" := by
      by_contra hne
      exact hunnamed ⟨_, ((settles_of_validate hv).name _).mpr ⟨rfl, hne⟩⟩
    rw [createRequest_eq, updateRequest_eq v hid, buildConfig_of_unnamed hname]
    exact ⟨rfl, rfl⟩

/-- A specification with a provider, a gateway among blanks, and options that are there but
empty. -/
def providedResource : Resource where
  metadata := { name := some "files" }
  spec := {
    endpoint := "https://files.example"
    capabilities := ["prompts", "tools"]
    gatewayId := some "\t gw "
    targetName := some ""
    description := some ""
    authType := some "OAuth2"
    oauthProviderArn := some "arn:provider"
    allowedRequestHeaders := some []
    allowedQueryParameters := some ["region"] }
  status := none

/-- The same with its defaults resolved. -/
def providedValidated : Validated where
  endpoint := "https://files.example"
  capabilities := ["prompts", "tools"]
  auth := ⟨.oauth2, some "arn:provider", []⟩
  propagation := some ⟨some [], some ["region"], none⟩
  gatewayId := "gw"
  targetName := "files"
  description := none

theorem validate_exact_with_provider :
    validate none providedResource = .ok providedValidated ∧ "target-1" ≠ "" ∧
    (∃ name, Names providedResource name) ∧
    ∃ config, Carries providedResource config ∧ Resolves none providedResource.spec "gw" ∧
      providedValidated.createRequest = .ok ⟨"gw", config, none⟩ ∧
      providedValidated.updateRequest "target-1" = .ok ⟨"gw", "target-1", config⟩ := by
  have hvalidate : validate none providedResource = .ok providedValidated := by decide +kernel
  have hid : "target-1" ≠ "" := by decide
  have hnames : ∃ name, Names providedResource name :=
    ⟨"files", .inr ⟨.inr rfl, rfl⟩, by decide⟩
  exact ⟨hvalidate, hid, hnames,
    ((validate_exact none providedResource).2.2 providedValidated "target-1" hvalidate hid).1
      hnames⟩

end TargetRegistrar.Registration
