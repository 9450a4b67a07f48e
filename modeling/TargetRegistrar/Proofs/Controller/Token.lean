import Mathlib.Data.List.Basic
import Std.Data.String.ToInt
import TargetRegistrar.Controller.Reconcile

/-!
# Tokens of creates

The token of a create is made of the identity of the resource and its generation.  It stands for
the two of them: the generation is written without a hyphen as long as it is not negative, so that
the last hyphen of the token is the one between the two, whatever the identity looks like.
-/

namespace TargetRegistrar.Controller

open Gateway

/-- A resource that has an identity, and whose generation is absent or not negative. -/
structure Counted (r : Resource) : Prop where
  identity : ∃ uid, uid ≠ "" ∧ r.metadata.uid = some uid
  generation : 0 ≤ r.metadata.generation.getD 0

lemma Counted.congr {r s : Resource} (h : Counted r) (huid : s.metadata.uid = r.metadata.uid)
    (hgen : s.metadata.generation = r.metadata.generation) : Counted s := by
  refine ⟨?_, ?_⟩
  · rw [huid]
    exact h.identity
  · rw [hgen]
    exact h.generation

lemma createToken_of_uid {r : Resource} {uid : String} (h : r.metadata.uid = some uid)
    (hne : uid ≠ "") :
    createToken r = some (.chosen (uid ++ "-" ++ toString (r.metadata.generation.getD 0))) := by
  simp [createToken, Registration.nonEmpty, h, hne]

/-- Two lists that are the same before and after their last separator. -/
lemma eq_of_append_separator {α : Type} {x : α} {as bs cs ds : List α}
    (h : as ++ x :: cs = bs ++ x :: ds) (hcs : x ∉ cs) (hds : x ∉ ds) : as = bs ∧ cs = ds := by
  obtain ⟨es, rfl, hes⟩ | ⟨es, rfl, hes⟩ := List.append_eq_append_iff.mp h
  · cases es with
    | nil => exact ⟨(List.append_nil as).symm, (List.cons.inj hes).2⟩
    | cons e es =>
      obtain ⟨-, rfl⟩ := List.cons.inj hes
      exact absurd (List.mem_append_right es List.mem_cons_self) hcs
  · cases es with
    | nil => exact ⟨List.append_nil bs, (List.cons.inj hes).2.symm⟩
    | cons e es =>
      obtain ⟨-, rfl⟩ := List.cons.inj hes
      exact absurd (List.mem_append_right es List.mem_cons_self) hds

lemma hyphen_notMem_toString (n : Nat) : '-' ∉ (toString (n : Int)).toList := by
  intro h
  have hdigits : '-' ∈ Nat.toDigits 10 n := by
    simpa [Int.toString_eq_repr, Int.repr, Nat.repr] using h
  have hdigit := Nat.isDigit_of_mem_toDigits (by decide) (by decide) hdigits
  revert hdigit
  decide

/-- Two copies with one token are copies of one incarnation of a resource, at one generation. -/
theorem createToken_injective {r r' : Resource} (hr : Counted r) (hr' : Counted r')
    (h : createToken r = createToken r') :
    r.metadata.uid = r'.metadata.uid ∧
      r.metadata.generation.getD 0 = r'.metadata.generation.getD 0 := by
  obtain ⟨uid, hne, huid⟩ := hr.identity
  obtain ⟨uid', hne', huid'⟩ := hr'.identity
  obtain ⟨n, hn⟩ := Int.eq_ofNat_of_zero_le hr.generation
  obtain ⟨n', hn'⟩ := Int.eq_ofNat_of_zero_le hr'.generation
  rw [createToken_of_uid huid hne, createToken_of_uid huid' hne', hn, hn'] at h
  have htext : uid ++ "-" ++ toString (n : Int) = uid' ++ "-" ++ toString (n' : Int) := by
    simpa using h
  have hlist := congrArg String.toList htext
  simp only [String.toList_append, List.append_assoc] at hlist
  obtain ⟨huids, hnumbers⟩ := eq_of_append_separator hlist (hyphen_notMem_toString n)
    (hyphen_notMem_toString n')
  refine ⟨?_, ?_⟩
  · rw [huid, huid', String.toList_inj.mp huids]
  · rw [hn, hn']
    exact Int.repr_injective (String.toList_inj.mp hnumbers)

end TargetRegistrar.Controller
