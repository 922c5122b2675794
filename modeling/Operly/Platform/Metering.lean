import Operly.Platform.Budgets

/-! Effects that are charged to a budget: whether each has its entry in the ledger, and how many
of them fall into a window. -/

namespace Operly.Platform
open Python

/-- Something that was done, and the entry that was to charge it. -/
structure Effect where
  entry : LedgerEntry
  doneAt : Int
  deriving DecidableEq

/-- Between two states of the tables, the ledger has got an entry for the effect. -/
def Effect.ChargedIn (effect : Effect) (before after : Usage) : Prop :=
  ∃ rest, after.ledger = before.ledger ++ effect.entry :: rest

theorem Effect.not_chargedIn_self (effect : Effect) (usage : Usage) : ¬ effect.ChargedIn usage usage := by
  rintro ⟨rest, grown⟩
  exact absurd (List.append_right_eq_self.mp grown.symm) (by simp)

structure Metering where
  usage : Usage := {}
  effects : List Effect := []

inductive TableMove where
  | configure (meter : Meter) (windowSeconds hardLimit : Int) (softLimit : Option Int)
  | consume (entry : LedgerEntry)

def Usage.apply (usage : Usage) : TableMove → Usage
  | .configure meter windowSeconds hardLimit softLimit =>
      match usage.configure meter windowSeconds hardLimit softLimit with
      | .ok after => after
      | .error _ => usage
  | .consume entry =>
      match usage.consume entry with
      | .ok (_, after) => after
      | .error _ => usage

def TableMove.Governed (bucket : Bucket) (hardLimit : Nat) (usage : Usage) : TableMove → Prop
  | .configure .. => True
  | .consume entry => bucketAt entry.meter entry.recordedAt bucket.windowSeconds = bucket →
      usage.Governed bucket hardLimit

inductive Usage.Applied (usage : Usage) (move : TableMove) (after : Usage) : Prop
  | kept (ledger : after.ledger = usage.ledger) (quantity : after.quantity = usage.quantity)
  | consumed (entry : LedgerEntry) (moved : move = .consume entry) (consumes : usage.Consumes entry after)

theorem Usage.apply_applied (usage : Usage) (move : TableMove) : usage.Applied move (usage.apply move) := by
  cases move with
  | configure meter windowSeconds hardLimit softLimit =>
    cases configured : usage.configure meter windowSeconds hardLimit softLimit with
    | error error => exact .kept (by simp only [Usage.apply, configured]) (by simp only [Usage.apply, configured])
    | ok after =>
      obtain ⟨ledger, quantity⟩ := Usage.configure_ok configured
      apply Usage.Applied.kept
      · simpa only [Usage.apply, configured] using ledger
      · simpa only [Usage.apply, configured] using quantity
  | consume entry =>
    cases consumed : usage.consume entry with
    | error error => exact .kept (by simp only [Usage.apply, consumed]) (by simp only [Usage.apply, consumed])
    | ok result =>
      apply Usage.Applied.consumed entry rfl
      simpa only [Usage.apply, consumed] using Usage.consume_ok consumed

namespace Metering
variable {metering : Metering} {move : TableMove} {bucket : Bucket} {hardLimit : Nat}
variable {effect : Effect} {rest : List LedgerEntry} {after : Usage}

def Charged (metering : Metering) : Prop :=
  (metering.effects.map (·.entry)).Sublist metering.usage.ledger

def effectsIn (metering : Metering) (bucket : Bucket) : List Effect :=
  metering.effects.filter fun effect =>
    bucketAt effect.entry.meter effect.doneAt bucket.windowSeconds = bucket

theorem Charged.apply (charged : metering.Charged) :
    Charged { metering with usage := metering.usage.apply move } := by
  unfold Charged at *
  cases metering.usage.apply_applied move with
  | kept ledger => rwa [ledger]
  | consumed entry _ consumes =>
    rw [consumes.ledger]
    exact charged.trans (List.sublist_append_left ..)

theorem Charged.perform (charged : metering.Charged)
    (consumed : Usage.Consumed metering.usage (effect.entry :: rest) after) :
    Charged ⟨after, metering.effects ++ [effect]⟩ := by
  unfold Charged at *
  rw [consumed.ledger.2, List.map_append]
  exact charged.append (List.singleton_sublist.mpr List.mem_cons_self)

theorem Charged.spend {entries : List LedgerEntry} (charged : metering.Charged)
    (consumed : Usage.Consumed metering.usage entries after) : Charged { metering with usage := after } := by
  unfold Charged at *
  rw [consumed.ledger.2]
  exact charged.trans (List.sublist_append_left ..)

/-- The invariant of one window: every effect is charged, the window is within its limit, and the
effects that take place in it are charged in it. -/
structure Within (bucket : Bucket) (hardLimit : Nat) (metering : Metering) : Prop where
  charged : metering.Charged
  spent : metering.usage.Within bucket hardLimit
  positive : ∀ entry ∈ metering.usage.ledger, 0 < entry.quantity
  prompt : ∀ effect ∈ metering.effects,
    bucketAt effect.entry.meter effect.doneAt bucket.windowSeconds = bucket →
      bucketAt effect.entry.meter effect.entry.recordedAt bucket.windowSeconds = bucket

theorem Within.empty (bucket : Bucket) (hardLimit : Nat) : Within bucket hardLimit {} := by
  refine ⟨List.Sublist.refl _, ⟨Int.le_refl 0, Int.natCast_nonneg hardLimit⟩, ?_, ?_⟩
  · intro entry member
    cases member
  · intro effect member
    cases member

theorem Within.apply (within : Within bucket hardLimit metering)
    (governed : move.Governed bucket hardLimit metering.usage) :
    Within bucket hardLimit { metering with usage := metering.usage.apply move } := by
  have charged : Charged { metering with usage := metering.usage.apply move } := within.charged.apply
  have spent := within.spent
  cases metering.usage.apply_applied move with
  | kept ledger quantity =>
    refine ⟨charged, ⟨?_, ?_⟩, ?_, within.prompt⟩
    · rw [ledger, quantity]
      exact spent.counted
    · rw [quantity]
      exact spent.limited
    · rw [ledger]
      exact within.positive
  | consumed entry moved consumes =>
    subst moved
    refine ⟨charged, spent.consume consumes governed, ?_, within.prompt⟩
    rw [consumes.ledger]
    exact List.forall_mem_append.mpr ⟨within.positive, by simpa using consumes.positive⟩

theorem Within.spend {entries : List LedgerEntry} (within : Within bucket hardLimit metering)
    (consumed : Usage.Consumed metering.usage entries after)
    (governed : ∀ entry ∈ entries, bucketAt entry.meter entry.recordedAt bucket.windowSeconds = bucket →
      metering.usage.Governed bucket hardLimit) : Within bucket hardLimit { metering with usage := after } := by
  refine ⟨within.charged.spend consumed, within.spent.consumed consumed governed, ?_, within.prompt⟩
  rw [consumed.ledger.2]
  exact List.forall_mem_append.mpr ⟨within.positive, consumed.positive⟩

theorem Within.perform (within : Within bucket hardLimit metering)
    (consumed : Usage.Consumed metering.usage (effect.entry :: rest) after)
    (governed : ∀ entry ∈ effect.entry :: rest,
      bucketAt entry.meter entry.recordedAt bucket.windowSeconds = bucket →
        metering.usage.Governed bucket hardLimit)
    (prompt : bucketAt effect.entry.meter effect.doneAt bucket.windowSeconds = bucket →
      bucketAt effect.entry.meter effect.entry.recordedAt bucket.windowSeconds = bucket) :
    Within bucket hardLimit ⟨after, metering.effects ++ [effect]⟩ := by
  have spends := within.spend consumed governed
  refine ⟨within.charged.perform consumed, spends.spent, spends.positive, ?_⟩
  exact List.forall_mem_append.mpr ⟨within.prompt, by simpa using prompt⟩

theorem Within.bounded (within : Within bucket hardLimit metering) :
    (metering.effectsIn bucket).length ≤ hardLimit := by
  have counted : (metering.effectsIn bucket).length ≤
      (Usage.entriesIn metering.usage.ledger bucket).length := by
    have early : (metering.effectsIn bucket).Sublist (metering.effects.filter fun effect =>
        bucketAt effect.entry.meter effect.entry.recordedAt bucket.windowSeconds = bucket) := by
      have narrowed : metering.effectsIn bucket = (metering.effectsIn bucket).filter fun effect =>
          bucketAt effect.entry.meter effect.entry.recordedAt bucket.windowSeconds = bucket := by
        symm
        rw [List.filter_eq_self]
        intro effect member
        obtain ⟨present, inside⟩ := List.mem_filter.mp member
        exact decide_eq_true (within.prompt effect present (of_decide_eq_true inside))
      rw [narrowed]
      exact List.filter_sublist.filter _
    have kept : ((metering.effectsIn bucket).map (·.entry)).Sublist
        (Usage.entriesIn metering.usage.ledger bucket) := by
      refine (early.map _).trans ?_
      have mapped := within.charged.filter fun entry =>
        decide (bucketAt entry.meter entry.recordedAt bucket.windowSeconds = bucket)
      rwa [List.filter_map] at mapped
    simpa using kept.length_le
  have ones : _ ≤ Usage.spent metering.usage.ledger bucket := Usage.length_le_spent within.positive
  have spent := within.spent.counted
  have limited := within.spent.limited
  omega

end Metering

end Operly.Platform
