import Mathlib.Data.Int.ConditionallyCompleteOrder
import Mathlib.Data.List.Sort
import Mathlib.Tactic.Linarith

/-! A queue of which each pass looks at a bounded number of the first items, takes away those that
are ready, and leaves the others where they are. -/

namespace Scheduling
variable {α : Type} {ready : Int → α → Bool} {stuck : α → Bool} {limit : Nat} {now : Int}

def scan (ready : Int → α → Bool) (limit : Nat) (now : Int) (queue : List α) : List α :=
  (queue.take limit).filter (fun item => !ready now item) ++ queue.drop limit

theorem scan_zero (queue : List α) : scan ready 0 now queue = queue := by simp [scan]

theorem scan_cons (item : α) (rest : List α) : scan ready (limit + 1) now (item :: rest) =
    if ready now item then scan ready limit now rest else item :: scan ready limit now rest := by
  by_cases leaves : ready now item = true <;> simp [scan, leaves]

theorem scan_append (early late : List α) : scan ready limit now (early ++ late) =
    scan ready limit now early ++ scan ready (limit - early.length) now late := by
  induction early generalizing limit with
  | nil => simp [scan]
  | cons item rest ih =>
    cases limit with
    | zero => simp [scan_zero]
    | succ limit =>
      have steps : limit + 1 - (item :: rest).length = limit - rest.length := by
        rw [List.length_cons]
        omega
      rw [List.cons_append, scan_cons, scan_cons, ih, steps]
      split
      · rfl
      · rw [List.cons_append]

theorem scan_sublist (queue : List α) : (scan ready limit now queue).Sublist queue := by
  conv_rhs => rw [← List.take_append_drop limit queue]
  exact List.Sublist.append List.filter_sublist (List.Sublist.refl _)

theorem countP_scan (waits : ∀ item, stuck item = true → ready now item = false) (queue : List α) :
    (scan ready limit now queue).countP stuck = queue.countP stuck := by
  conv_rhs => rw [← List.take_append_drop limit queue, List.countP_append]
  rw [scan, List.countP_append, List.countP_filter]
  congr 1
  apply List.countP_congr
  intro item _
  cases held : stuck item with
  | false => simp
  | true => simp [waits item held]

theorem scan_eq_filter [DecidableEq α] {queue : List α} (distinct : queue.Nodup) :
    scan ready limit now queue =
      queue.filter fun item => item ∉ (queue.take limit).filter (ready now) := by
  have split := List.take_append_drop limit queue
  rw [← split, List.nodup_append] at distinct
  have early : (queue.take limit).filter (fun item => item ∉ (queue.take limit).filter (ready now)) =
      (queue.take limit).filter fun item => !ready now item := by
    apply List.filter_congr
    intro item member
    cases leaves : ready now item <;> simp [member, leaves]
  have late : (queue.drop limit).filter (fun item => item ∉ (queue.take limit).filter (ready now)) =
      queue.drop limit := by
    rw [List.filter_eq_self]
    intro item member
    have apart : item ∉ queue.take limit := fun taken => distinct.2.2 item taken item member rfl
    simp [apart]
  conv_rhs => rw [← split, List.filter_append, split, early, late]
  rfl

theorem not_mem_scan {item : α} {before after : List α} (distinct : (before ++ item :: after).Nodup)
    (near : before.length < limit) (gets : ready now item = true) :
    item ∉ scan ready limit now (before ++ item :: after) := by
  obtain ⟨left, reached⟩ : ∃ left, limit - before.length = left + 1 :=
    ⟨limit - before.length - 1, by omega⟩
  rw [scan_append, reached, scan_cons, if_pos gets, List.mem_append]
  rw [List.nodup_append] at distinct
  rintro (member | member)
  · exact distinct.2.2 item ((scan_sublist _).subset member) item List.mem_cons_self rfl
  · exact (List.nodup_cons.mp distinct.2.1).1 ((scan_sublist _).subset member)

structure Scans (ready : Int → α → Bool) (limit : Nat) (queues : Nat → List α) (times : Nat → Int) : Prop where
  next : ∀ n, queues (n + 1) = scan ready limit (times n) (queues n)
  ordered : Monotone times
  distinct : (queues 0).Nodup

/-- Readiness lasts, and the stuck items are those that never get ready. -/
structure Lasting (ready : Int → α → Bool) (stuck : α → Bool) : Prop where
  lasts : ∀ early late item, early ≤ late → ready early item = true → ready late item = true
  stuck_iff : ∀ item, stuck item = true ↔ ∀ now, ready now item = false

section Runs
variable {queues : Nat → List α} {times : Nat → Int} {item : α} {early late : List α}

theorem Lasting.waits (lasting : Lasting ready stuck) (now : Int) :
    ∀ item, stuck item = true → ready now item = false :=
  fun item held => (lasting.stuck_iff item).mp held now

theorem Lasting.eventually (lasting : Lasting ready stuck) (items : List α) :
    ∃ now, ∀ item ∈ items, stuck item = false → ready now item = true := by
  induction items with
  | nil => exact ⟨0, by simp⟩
  | cons first rest ih =>
    obtain ⟨now, later⟩ := ih
    cases held : stuck first with
    | true =>
      refine ⟨now, fun item member free => ?_⟩
      rcases List.mem_cons.mp member with rfl | tail
      · rw [held] at free
        cases free
      · exact later item tail free
    | false =>
      have ready_once : ∃ time, ready time first = true := by
        by_contra never
        push Not at never
        have stays := (lasting.stuck_iff first).mpr fun time => by simpa using never time
        rw [held] at stays
        cases stays
      obtain ⟨time, gets⟩ := ready_once
      refine ⟨max now time, fun item member free => ?_⟩
      rcases List.mem_cons.mp member with rfl | tail
      · exact lasting.lasts _ _ _ (le_max_right now time) gets
      · exact lasting.lasts _ _ _ (le_max_left now time) (later item tail free)

theorem Scans.nodup (scans : Scans ready limit queues times) (n : Nat) : (queues n).Nodup := by
  induction n with
  | zero => exact scans.distinct
  | succ n ih =>
    rw [scans.next]
    exact (scan_sublist _).nodup ih

theorem Scans.hidden (scans : Scans ready limit queues times) (lasting : Lasting ready stuck)
    (start : queues 0 = early ++ item :: late) (full : limit ≤ early.countP stuck) (n : Nat) :
    ∃ before after, queues n = before ++ item :: after ∧ limit ≤ before.countP stuck := by
  induction n with
  | zero => exact ⟨early, late, start, full⟩
  | succ n ih =>
    obtain ⟨before, after, shape, covered⟩ := ih
    have longer : before.countP stuck ≤ before.length := List.countP_le_length
    have beyond : limit - before.length = 0 := by omega
    refine ⟨scan ready limit (times n) before, after, ?_, ?_⟩
    · rw [scans.next, shape, scan_append, beyond, scan_zero]
    · rw [countP_scan (lasting.waits _)]
      exact covered

theorem Scans.place (scans : Scans ready limit queues times) (lasting : Lasting ready stuck)
    (start : queues 0 = early ++ item :: late) (n : Nat) :
    item ∉ queues n ∨ ∃ before after, queues n = before ++ item :: after ∧ before.Sublist early ∧
      before.countP stuck = early.countP stuck := by
  induction n with
  | zero => exact .inr ⟨early, late, start, .refl _, rfl⟩
  | succ n ih =>
    rcases ih with gone | ⟨before, after, shape, fewer, same⟩
    · left
      rw [scans.next]
      exact fun member => gone ((scan_sublist _).subset member)
    · have distinct := scans.nodup n
      rw [shape] at distinct
      have kept : (scan ready limit (times n) before).Sublist before := scan_sublist before
      have counted : (scan ready limit (times n) before).countP stuck = early.countP stuck := by
        rw [countP_scan (lasting.waits _), same]
      rw [scans.next, shape]
      by_cases near : before.length < limit
      · by_cases leaves : ready (times n) item = true
        · exact .inl (not_mem_scan distinct near leaves)
        · right
          obtain ⟨left, reached⟩ : ∃ left, limit - before.length = left + 1 :=
            ⟨limit - before.length - 1, by omega⟩
          rw [scan_append, reached, scan_cons, if_neg leaves]
          exact ⟨_, _, rfl, kept.trans fewer, counted⟩
      · right
        have beyond : limit - before.length = 0 := by omega
        rw [scan_append, beyond, scan_zero]
        exact ⟨_, after, rfl, kept.trans fewer, counted⟩

theorem Scans.closer (scans : Scans ready limit queues times) (lasting : Lasting ready stuck) {n : Nat}
    {before after : List α} (shape : queues n = before ++ item :: after)
    (room : before.countP stuck < limit) (gets : ready (times n) item = true)
    (all : ∀ other ∈ before, stuck other = false → ready (times n) other = true) :
    item ∉ queues (n + 1) ∨ ∃ nearer, queues (n + 1) = nearer ++ item :: after ∧
      nearer.Sublist before ∧ nearer.countP stuck = before.countP stuck ∧
      nearer.length < before.length := by
  have distinct := scans.nodup n
  rw [shape] at distinct
  rw [scans.next, shape]
  by_cases near : before.length < limit
  · exact .inl (not_mem_scan distinct near gets)
  · right
    have beyond : limit - before.length = 0 := by omega
    rw [scan_append, beyond, scan_zero]
    refine ⟨_, rfl, scan_sublist before, countP_scan (lasting.waits _) before, ?_⟩
    -- the first `limit` items are more than the stuck ones, so one of them leaves
    have leaving : ∃ other ∈ before.take limit, stuck other = false := by
      by_contra none
      push Not at none
      have all_stuck : (before.take limit).countP stuck = (before.take limit).length :=
        List.countP_eq_length.mpr fun other member => by simpa using none other member
      have counted := (List.take_sublist limit before).countP_le (p := stuck)
      rw [all_stuck, List.length_take] at counted
      omega
    obtain ⟨other, member, free⟩ := leaving
    have shorter : ((before.take limit).filter fun item => !ready (times n) item).length <
        (before.take limit).length := by
      apply List.length_filter_lt_length_iff_exists.mpr
      exact ⟨other, member, by simp [all other (List.mem_of_mem_take member) free]⟩
    have total := congrArg List.length (List.take_append_drop limit before)
    rw [List.length_append] at total
    rw [scan, List.length_append]
    omega

theorem Scans.leaves (scans : Scans ready limit queues times) (lasting : Lasting ready stuck)
    (diverges : ∀ time, ∃ n, time ≤ times n) (start : queues 0 = early ++ item :: late)
    (room : early.countP stuck < limit) (free : stuck item = false) : ∃ n, item ∉ queues n := by
  obtain ⟨time, all⟩ := lasting.eventually (item :: early)
  obtain ⟨first, late_enough⟩ := diverges time
  have always : ∀ n, first ≤ n → ∀ other ∈ item :: early, stuck other = false →
      ready (times n) other = true := by
    intro n after other member held
    exact lasting.lasts _ _ _ (late_enough.trans (scans.ordered after)) (all other member held)
  have approach : ∀ length n before after, first ≤ n → before.length ≤ length →
      queues n = before ++ item :: after → before.Sublist early → before.countP stuck < limit →
      ∃ n, item ∉ queues n := by
    intro length
    induction length with
    | zero =>
      intro n before after reached short shape fewer less
      have gets := always n reached
      rcases scans.closer lasting shape less (gets item List.mem_cons_self free)
          (fun other member => gets other (List.mem_cons_of_mem _ (fewer.subset member)))
        with gone | ⟨nearer, _, _, _, shorter⟩
      · exact ⟨n + 1, gone⟩
      · omega
    | succ length ih =>
      intro n before after reached short shape fewer less
      have gets := always n reached
      rcases scans.closer lasting shape less (gets item List.mem_cons_self free)
          (fun other member => gets other (List.mem_cons_of_mem _ (fewer.subset member)))
        with gone | ⟨nearer, next, sub, same, shorter⟩
      · exact ⟨n + 1, gone⟩
      · exact ih (n + 1) nearer after (by omega) (by omega) next (sub.trans fewer) (by omega)
  rcases scans.place lasting start first with gone | ⟨before, after, shape, fewer, same⟩
  · exact ⟨first, gone⟩
  · exact approach before.length first before after (le_refl first) (le_refl _) shape fewer (by omega)

end Runs

section Order
variable {r : α → α → Prop} [DecidableRel r]

theorem filter_orderedInsert [IsTrans α r] (keep : α → Bool) (item : α) {sorted : List α}
    (order : sorted.Pairwise r) : (sorted.orderedInsert r item).filter keep =
      if keep item then (sorted.filter keep).orderedInsert r item else sorted.filter keep := by
  induction sorted with
  | nil => cases kept : keep item <;> simp [kept]
  | cons first rest ih =>
    obtain ⟨least, tail⟩ := List.pairwise_cons.mp order
    by_cases below : r item first
    · rw [List.orderedInsert_cons, if_pos below]
      by_cases kept : keep item = true
      · -- the item is below all of the list, and so below what is kept of it
        have front : ∀ other ∈ (first :: rest).filter keep, r item other := by
          intro other member
          rcases List.mem_cons.mp (List.mem_of_mem_filter member) with rfl | later
          · exact below
          · exact IsTrans.trans _ _ _ below (least other later)
        rw [List.filter_cons_of_pos kept, if_pos kept]
        cases remains : (first :: rest).filter keep with
        | nil => rfl
        | cons head others =>
          rw [List.orderedInsert_cons, if_pos (front head (remains ▸ List.mem_cons_self))]
      · rw [List.filter_cons_of_neg kept, if_neg kept]
    · rw [List.orderedInsert_cons, if_neg below]
      cases kept : keep first with
      | true =>
        rw [List.filter_cons_of_pos kept, List.filter_cons_of_pos kept, ih tail]
        split
        · rw [List.orderedInsert_cons, if_neg below]
        · rfl
      | false => rw [List.filter_cons_of_neg (by simp [kept]), List.filter_cons_of_neg (by simp [kept]), ih tail]

theorem filter_insertionSort [IsTrans α r] [Std.Total r] (keep : α → Bool) (items : List α) :
    (items.insertionSort r).filter keep = (items.filter keep).insertionSort r := by
  induction items with
  | nil => rfl
  | cons first rest ih =>
    rw [List.insertionSort_cons, filter_orderedInsert keep first (List.pairwise_insertionSort r rest), ih]
    cases kept : keep first with
    | true => simp [kept]
    | false => simp [kept]

end Order

end Scheduling
