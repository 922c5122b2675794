import Mathlib.Data.Finset.Card

/-! Sets that contain what their members depend on. Adding a member with all that it reaches keeps such a set,
and so does taking out a member on which no other depends. -/

namespace Dependencies
open Relation

variable {α : Type} (needs : α → α → Prop)

def Closed (on : Set α) : Prop := ∀ ⦃item other⦄, item ∈ on → needs item other → other ∈ on

def closure (item : α) : Set α := {other | ReflTransGen needs item other}

def Acyclic : Prop := ∀ item, ¬ TransGen needs item item

variable {needs}

theorem mem_closure_self (item : α) : item ∈ closure needs item := ReflTransGen.refl

variable {item other : α} {on : Set α}

theorem closure_subset (needed : needs item other) : closure needs other ⊆ closure needs item :=
  fun _ reached => ReflTransGen.head needed reached

theorem closure_closed (item : α) : Closed needs (closure needs item) :=
  fun _ _ reached needed => ReflTransGen.tail reached needed

theorem mem_closure_iff :
    other ∈ closure needs item ↔ other = item ∨ ∃ middle, needs item middle ∧ other ∈ closure needs middle := by
  constructor
  · intro reached
    rcases ReflTransGen.cases_head reached with same | found
    · exact .inl same.symm
    · exact .inr found
  · intro either
    rcases either with rfl | ⟨middle, needed, reached⟩
    · exact mem_closure_self other
    · exact closure_subset needed reached

theorem Closed.reaches (closed : Closed needs on) (member : item ∈ on) (reached : ReflTransGen needs item other) :
    other ∈ on := by
  induction reached with
  | refl => exact member
  | tail _ needed ih => exact closed ih needed

theorem Closed.union {first second : Set α} (closed : Closed needs first) (other : Closed needs second) :
    Closed needs (first ∪ second) := by
  intro item needed member depends
  rcases member with left | right
  · exact .inl (closed left depends)
  · exact .inr (other right depends)

theorem Closed.disable (closed : Closed needs on) (free : ∀ other ∈ on, ¬ needs other item) :
    Closed needs (on \ {item}) := by
  intro other needed member depends
  refine ⟨closed member.1 depends, ?_⟩
  intro same
  exact free other member.1 (Set.mem_singleton_iff.mp same ▸ depends)

theorem Acyclic.of_rank (rank : α → Nat) (lower : ∀ item other, needs item other → rank other < rank item) :
    Acyclic needs := by
  have below : ∀ item other, TransGen needs item other → rank other < rank item := by
    intro item other reached
    induction reached with
    | single needed => exact lower _ _ needed
    | tail _ needed ih => exact (lower _ _ needed).trans ih
  exact fun item cycle => (below item item cycle).false

open Classical in
noncomputable def depth (items : Finset α) (needs : α → α → Prop) (item : α) : Nat :=
  (items.filter fun other => TransGen needs item other).card

theorem depth_lt {items : Finset α} (acyclic : Acyclic needs) (needed : needs item other) (member : other ∈ items) :
    depth items needs other < depth items needs item := by
  classical
  unfold depth
  refine Finset.card_lt_card ⟨?_, ?_⟩
  · intro last below
    rw [Finset.mem_filter] at below ⊢
    exact ⟨below.1, TransGen.head needed below.2⟩
  · intro subset
    have inside : other ∈ items.filter fun last => TransGen needs item last :=
      Finset.mem_filter.mpr ⟨member, TransGen.single needed⟩
    exact acyclic other (Finset.mem_filter.mp (subset inside)).2

theorem depth_lt_card {items : Finset α} (acyclic : Acyclic needs) (member : item ∈ items) :
    depth items needs item < items.card := by
  classical
  refine Finset.card_lt_card ⟨Finset.filter_subset _ _, ?_⟩
  intro subset
  exact acyclic item (Finset.mem_filter.mp (subset member)).2

end Dependencies
