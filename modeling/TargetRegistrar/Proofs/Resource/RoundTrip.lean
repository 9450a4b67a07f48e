import TargetRegistrar.Proofs.Json.Record
import TargetRegistrar.Proofs.Timestamp.RoundTrip
import TargetRegistrar.Resource.Codec

/-!
# Written statuses are read

What is written of a condition or a status is read as the same condition or status, provided that
the years of its instants have four digits and its generations 64 bits (`IsWritable`).  A year
beyond is written too, but not in the form that is read.
-/

namespace TargetRegistrar

open Json

lemma Json.timestamp?_ofTimestamp {t : Timestamp} (h : t.HasFourDigitYear) :
    timestamp? (ofTimestamp t) = some t := by
  rw [timestamp?, ofTimestamp, text?_str, Option.bind_some, Timestamp.read?_write h]

/-! ## Conditions -/

namespace Condition

/-- The conditions that can be written and read again. -/
structure IsWritable (c : Condition) : Prop where
  transition : c.lastTransition.HasFourDigitYear
  generation : ∀ n ∈ c.observedGeneration, FitsIn64Bits n

variable {c : Condition}

lemma fields_nodup : (fields.map (·.name)).Nodup := by
  decide

theorem decode?_encode (h : c.IsWritable) : decode? c.encode = some c := by
  have hfields : fields? fields c.encode = some [some (str c.type), some c.verdict.encode,
      some (str c.reason), some (str c.message), some (ofTimestamp c.lastTransition),
      c.observedGeneration.map int] :=
    fields?_ofMembers fields_nodup rfl
  have hgeneration : optional? int64? (c.observedGeneration.map int) = some c.observedGeneration :=
    optional?_map (fun _ => Json.noConfusion) fun n hn => int64?_int (h.generation n hn)
  have htransition : timestamp? (ofTimestamp c.lastTransition) = some c.lastTransition :=
    timestamp?_ofTimestamp h.transition
  simp [decode?, hfields, ofFields?, required?, defaulted?, hgeneration, htransition]

end Condition

/-! ## Statuses -/

namespace Status

/-- The statuses that can be written and read again. -/
structure IsWritable (s : Status) : Prop where
  generation : ∀ n ∈ s.observedGeneration, FitsIn64Bits n
  synchronized : ∀ t ∈ s.lastSynchronized, t.HasFourDigitYear
  conditions : ∀ c ∈ s.conditions, c.IsWritable

variable {s : Status}

lemma fields_nodup : (fields.map (·.name)).Nodup := by
  decide

/-- The values of the fields are read as the status, whether or not an empty list of reasons is
among them. -/
lemma ofFields?_written {reasons : Option Json} (h : s.IsWritable)
    (hreasons : defaulted? [] texts? reasons = some s.statusReasons) :
    ofFields? [s.observedGeneration.map int, s.targetId.map str, s.gatewayArn.map str,
      s.targetStatus.map str, reasons, s.lastSynchronized.map ofTimestamp,
      some (arr (s.conditions.map Condition.encode))] = some s := by
  have hgeneration : optional? int64? (s.observedGeneration.map int) = some s.observedGeneration :=
    optional?_map (fun _ => Json.noConfusion) fun n hn => int64?_int (h.generation n hn)
  have htext : ∀ o : Option String, optional? text? (o.map str) = some o := fun o =>
    optional?_map (fun _ => Json.noConfusion) fun s _ => text?_str s
  have hsynchronized :
      optional? timestamp? (s.lastSynchronized.map ofTimestamp) = some s.lastSynchronized :=
    optional?_map (fun _ => Json.noConfusion) fun t ht =>
      timestamp?_ofTimestamp (h.synchronized t ht)
  have hconditions : defaulted? [] (list? Condition.decode?)
      (some (arr (s.conditions.map Condition.encode))) = some s.conditions :=
    list?_map fun c hc => Condition.decode?_encode (h.conditions c hc)
  simp [ofFields?, hgeneration, htext, hreasons, hsynchronized, hconditions]

theorem decode?_encode (h : s.IsWritable) : decode? s.encode = some s := by
  have hreasons : defaulted? [] texts?
      (if s.statusReasons.isEmpty then none else some (ofTexts s.statusReasons)) =
        some s.statusReasons := by
    cases s.statusReasons with
    | nil => rfl
    | cons reason reasons => exact texts?_ofTexts (reason :: reasons)
  rw [decode?, encode, encodeWith, fields?_ofMembers fields_nodup rfl]
  exact ofFields?_written h hreasons

end Status

end TargetRegistrar
