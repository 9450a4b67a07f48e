import Mathlib.Tactic.Common
import TargetRegistrar.Registration.Build

/-!
# What a request is made of

A request carries the configuration of its specification and nothing else of the resource: two
copies with one specification and one name validate alike, and the token of a create is left to the
caller.
-/

namespace TargetRegistrar.Registration

open Gateway

/-- Validation reads the specification and the name, and no other part of a resource. -/
lemma validate_congr {r s : Resource} (d : Option String) (hspec : r.spec = s.spec)
    (hname : r.metadata.name = s.metadata.name) : validate d r = validate d s := by
  simp only [validate, hspec, hname]

/-- The gateway of a specification depends on nothing else in it. -/
lemma resolveGateway_congr {spec spec' : Spec} (d : Option String)
    (h : spec'.gatewayId = spec.gatewayId) : resolveGateway d spec' = resolveGateway d spec := by
  simp only [resolveGateway, h]

/-- Both requests are made of the one configuration, or fail as it does. -/
lemma createRequest_eq (v : Validated) :
    v.createRequest = v.buildConfig.map fun config => ⟨v.gatewayId, config, none⟩ := by
  unfold Validated.createRequest
  cases v.buildConfig with
  | error e => rfl
  | ok config => rfl

lemma updateRequest_eq {targetId : String} (v : Validated) (h : targetId ≠ "") :
    v.updateRequest targetId =
      v.buildConfig.map fun config => ⟨v.gatewayId, targetId, config⟩ := by
  unfold Validated.updateRequest
  rw [if_neg h]
  cases v.buildConfig with
  | error e => rfl
  | ok config => rfl

lemma createRequest_eq_ok {v : Validated} {request : CreateRequest}
    (h : v.createRequest = .ok request) :
    ∃ config, v.buildConfig = .ok config ∧ request = ⟨v.gatewayId, config, none⟩ := by
  rw [createRequest_eq] at h
  cases hconfig : v.buildConfig with
  | error e =>
    rw [hconfig] at h
    cases h
  | ok config =>
    rw [hconfig] at h
    exact ⟨config, rfl, (Except.ok.inj h).symm⟩

lemma updateRequest_eq_ok {v : Validated} {targetId : String} {request : UpdateRequest}
    (h : v.updateRequest targetId = .ok request) :
    ∃ config, v.buildConfig = .ok config ∧ request = ⟨v.gatewayId, targetId, config⟩ := by
  by_cases hid : targetId = ""
  · rw [Validated.updateRequest, if_pos hid] at h
    cases h
  · rw [updateRequest_eq v hid] at h
    cases hconfig : v.buildConfig with
    | error e =>
      rw [hconfig] at h
      cases h
    | ok config =>
      rw [hconfig] at h
      exact ⟨config, rfl, (Except.ok.inj h).symm⟩

end TargetRegistrar.Registration
