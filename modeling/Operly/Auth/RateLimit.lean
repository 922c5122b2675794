import Mathlib.Data.Finset.Max
import Operly.Auth.Session

/-! The limiter of the authentication endpoints: the events of a call are committed before any is counted. -/

namespace Operly.Auth.Limiter
open Python Concurrent Fallible

structure AuthRateLimitEvent where
  id : String
  endpoint : String
  keyHash : String
  createdAt : Int
  deriving DecidableEq

/-- What an endpoint passes to `_rate_limit` -/
structure Policy where
  combinedLimit : Nat := 8
  ipLimit : Nat := 60
  accountLimit : Nat := 60
  windowSeconds : Nat := 60

structure Call where
  endpoint : String
  /-- `request.client.host`, when there is a client -/
  host : Option String
  account : Option String
  now : Int
  deriving Inhabited, DecidableEq

inductive Signal where
  | ip (address : String)
  | account (name : String)
  | combined (name address : String)
  deriving DecidableEq

def Signal.text : Signal → String
  | .ip address => s!"ip:{address}"
  | .account name => s!"account:{name}"
  | .combined name address => s!"combined:{name}:{address}"

def Signal.limit (policy : Policy) : Signal → Nat
  | .ip _ => policy.ipLimit
  | .account _ => policy.accountLimit
  | .combined _ _ => policy.combinedLimit

structure Refusal where
  error : AuthError
  retryAfter : Option Nat
  deriving DecidableEq

section Source
variable (primitives : Primitives)

def privacyHash (value purpose : String) : String := primitives.hashToken s!"privacy:{purpose}" value

def ipHash (call : Call) : String := privacyHash primitives (call.host.getD "unknown") "ip"

def signals (call : Call) : List Signal :=
  let ip := ipHash primitives call
  match call.account.filter (· ≠ "") with
  | some account =>
      let accountHash := privacyHash primitives account "rate-account"
      [.ip ip, .account accountHash, .combined accountHash ip]
  | none => [.ip ip]

def keyHash (endpoint : String) (signal : Signal) : String :=
  privacyHash primitives signal.text s!"rate:{endpoint}"

end Source

/-! ### The table -/

inductive Query where
  | uid
  | createdBefore (time : Int)
  | count (endpoint keyHash : String) (cutoff : Int)

/-- What is committed: the events of a call and the ones that it has found outdated, or an audit. The ticket tells
the call apart from others; it is for the record only. -/
inductive Change where
  | recorded (ticket : Nat) (call : Call) (events outdated : List AuthRateLimitEvent)
  | audited (event : SecurityEvent)

def queries : Interface where
  Op := Query
  Answer
    | .uid => String
    | .createdBefore _ => List AuthRateLimitEvent
    | .count .. => Nat

structure State where
  events : List AuthRateLimitEvent
  audits : List SecurityEvent := []
  recorded : List (Nat × Call) := []

def counted (endpoint keyHash : String) (cutoff : Int) (event : AuthRateLimitEvent) : Bool :=
  event.endpoint = endpoint && event.keyHash = keyHash && cutoff ≤ event.createdAt

def database : Database queries Change State String where
  select
    | .uid, drawn, state => (drawn, state)
    | .createdBefore time, _, state => (state.events.filter (·.createdAt < time), state)
    | .count endpoint keyHash cutoff, _, state => (state.events.countP (counted endpoint keyHash cutoff), state)
  commit
    | .recorded ticket call events outdated, state =>
        let kept := state.events.filter (· ∉ outdated)
        if ((kept ++ events).map (·.id)).Nodup then
          some { state with events := kept ++ events, recorded := state.recorded ++ [(ticket, call)] }
        else none
    | .audited event, state => some { state with audits := state.audits ++ [event] }

abbrev Session (α : Type) := Transaction queries Change Refusal α

def ask (query : Query) : Session (queries.Answer query) := Transaction.select (show queries.Op from query)

def commit (change : Change) : Session Unit := do
  let committed : Bool ← Fallible.ask (show (sessions queries Change).Op from .commit change)
  if committed then return () else raise ⟨.database, none⟩

section Source
variable (primitives : Primitives) (policies : String → Policy)

def newEvents (call : Call) : List Signal → Session (List AuthRateLimitEvent)
  | [] => return []
  | signal :: rest => do
      let id : String ← ask .uid
      let events ← newEvents call rest
      return ⟨id, call.endpoint, keyHash primitives call.endpoint signal, call.now⟩ :: events

def cutoff (call : Call) : Int := call.now - (policies call.endpoint).windowSeconds * Time.second

def countSignals (call : Call) : List Signal → Bool → Session Bool
  | [], exceeded => return exceeded
  | signal :: rest, exceeded => do
      let count : Nat ← ask (.count call.endpoint (keyHash primitives call.endpoint signal) (cutoff policies call))
      countSignals call rest (exceeded || signal.limit (policies call.endpoint) < count)

def rateLimit (ticket : Nat) (call : Call) : Session Unit := do
  let events ← newEvents primitives call (signals primitives call)
  let outdated : List AuthRateLimitEvent ← ask (.createdBefore (call.now - Time.day))
  commit (.recorded ticket call events outdated)
  let exceeded ← countSignals primitives policies call (signals primitives call) false
  if exceeded then
    commit (.audited (securityEvent "rate_limit_triggered" "blocked" none none [("endpoint", .str call.endpoint)]))
    raise ⟨.auth 429 "RATE_LIMITED" "Too many attempts. Please wait and try again.",
      some (policies call.endpoint).windowSeconds⟩

def main (ticket : Nat) (call : Call) : Program (sessions queries Change) (Except Refusal Unit) :=
  (rateLimit primitives policies ticket call).run

end Source

section Proofs
variable {primitives : Primitives} {policies : String → Policy}

def Marks (primitives : Primitives) (endpoint : String) (signal : Signal) (cutoff : Int) (call : Call) : Prop :=
  call.endpoint = endpoint ∧ signal ∈ signals primitives call ∧ cutoff ≤ call.now

instance (endpoint : String) (signal : Signal) (cutoff : Int) : DecidablePred (Marks primitives endpoint signal cutoff) :=
  fun call => inferInstanceAs (Decidable (call.endpoint = endpoint ∧ signal ∈ signals primitives call ∧ cutoff ≤ call.now))

def marking (primitives : Primitives) (endpoint : String) (signal : Signal) (cutoff : Int)
    (calls : List (Nat × Call)) : Nat :=
  calls.countP fun call => Marks primitives endpoint signal cutoff call.2

def EventsOf (primitives : Primitives) (call : Call) (signals : List Signal) (events : List AuthRateLimitEvent) : Prop :=
  ∀ signal ∈ signals, ∃ event ∈ events, event.endpoint = call.endpoint ∧
    event.keyHash = keyHash primitives call.endpoint signal ∧ event.createdAt = call.now

def Spared (cutoff : Int) (calls : List (Nat × Call)) : Prop := ∀ call ∈ calls, call.2.now - Time.day ≤ cutoff

def Counts (primitives : Primitives) (state : State) : Prop :=
  ∀ endpoint signal cutoff, Spared cutoff state.recorded →
    marking primitives endpoint signal cutoff state.recorded ≤
      state.events.countP (counted endpoint (keyHash primitives endpoint signal) cutoff)

theorem commit_recorded {state after : State} {ticket : Nat} {call : Call} {events outdated : List AuthRateLimitEvent}
    (committed : database.commit (.recorded ticket call events outdated) state = some after) :
    after.events = state.events.filter (· ∉ outdated) ++ events ∧ after.recorded = state.recorded ++ [(ticket, call)] := by
  simp only [database] at committed
  split at committed
  · cases committed
    exact ⟨rfl, rfl⟩
  · cases committed

theorem Counts.recorded {state after : State} {ticket : Nat} {call : Call} {events outdated : List AuthRateLimitEvent}
    (counts : Counts primitives state) (own : EventsOf primitives call (signals primitives call) events)
    (old : ∀ event ∈ outdated, event.createdAt < call.now - Time.day)
    (committed : database.commit (.recorded ticket call events outdated) state = some after) :
    Counts primitives after := by
  obtain ⟨rows, calls⟩ := commit_recorded committed
  intro endpoint signal cutoff spared
  rw [calls] at spared
  have before : Spared cutoff state.recorded := fun other member => spared other (List.mem_append_left _ member)
  have last : call.now - Time.day ≤ cutoff :=
    spared (ticket, call) (List.mem_append_right _ (List.mem_singleton_self _))
  have kept : (state.events.filter (· ∉ outdated)).countP (counted endpoint (keyHash primitives endpoint signal) cutoff) =
      state.events.countP (counted endpoint (keyHash primitives endpoint signal) cutoff) := by
    rw [List.countP_filter]
    apply List.countP_congr
    intro event _
    simp only [counted, Bool.and_eq_true, decide_eq_true_eq, and_iff_left_iff_imp]
    rintro ⟨-, recent⟩ pruned
    have := old event pruned
    omega
  have mine : marking primitives endpoint signal cutoff [(ticket, call)] ≤
      events.countP (counted endpoint (keyHash primitives endpoint signal) cutoff) := by
    rw [marking, List.countP_singleton]
    split
    · next marks =>
      obtain ⟨rfl, member, recent⟩ : Marks primitives endpoint signal cutoff call := of_decide_eq_true marks
      obtain ⟨event, held, endpoint', hash, time⟩ := own signal member
      apply List.countP_pos_iff.mpr ⟨event, held, ?_⟩
      simp only [counted, endpoint', hash, time, Bool.and_eq_true, decide_eq_true_eq, true_and]
      exact recent
    · exact Nat.zero_le _
  have others := counts endpoint signal cutoff before
  rw [rows, calls]
  simp only [marking, List.countP_append] at others mine ⊢
  omega

/-! ### One call among others -/

def Grown (before after : State) : Prop := before.recorded <+: after.recorded

/-- When a call counts, none that has committed read its clock more than a day less the window after it. -/
def Timely (policies : String → Policy) (call : Call) (state : State) : Prop :=
  ∀ other ∈ state.recorded,
    other.2.now ≤ call.now + (Time.day - (policies call.endpoint).windowSeconds * Time.second)

def setting (primitives : Primitives) (policies : String → Policy) : Setting (sessions queries Change) Call State String where
  world := database.world
  permitted _ call op _ state := match op with
    | .select (.count ..) => Timely policies call state
    | _ => True
  issued ticket call op _ := match op with
    | .commit (.recorded ticket' call' events outdated) => ticket' = ticket ∧ call' = call ∧
        EventsOf primitives call (signals primitives call) events ∧
        ∀ event ∈ outdated, event.createdAt < call.now - Time.day
    | _ => True
  discipline := {
    invariant := Counts primitives
    rely := fun _ => Grown
    guarantee := fun _ _ => Grown
    rely_refl := fun _ _ => List.prefix_rfl
    rely_trans := List.IsPrefix.trans
    guarantee_rely := fun _ grown => grown }

theorem Timely.spared {call : Call} {state : State} (timely : Timely policies call state) :
    Spared (cutoff policies call) state.recorded := by
  intro other member
  have := timely other member
  rw [cutoff]
  omega

theorem setting_lawful : (setting primitives policies).Lawful := by
  intro ticket call op choice before answer after kept issued _ performed
  cases op with
  | select query =>
    have same : (database.select query choice before).2 = after := congrArg Prod.snd (Option.some.inj performed)
    have unchanged : after = before := by
      rw [← same]
      cases query <;> rfl
    rw [unchanged]
    exact ⟨kept, List.prefix_rfl⟩
  | commit change =>
    simp only [setting, Database.world] at performed
    split at performed
    · next committed =>
      cases performed
      cases change with
      | recorded ticket' call' events outdated =>
        obtain ⟨rfl, rfl, own, old⟩ := issued
        refine ⟨kept.recorded own old committed, ?_⟩
        exact ⟨_, (commit_recorded committed).2.symm⟩
      | audited event =>
        cases committed
        exact ⟨kept, List.prefix_rfl⟩
    · cases performed
      exact ⟨kept, List.prefix_rfl⟩

section Call
variable {ticket : Nat} {call : Call} {before fact : State → Prop}

theorem statement {query : Query} {post : queries.Answer query → State → Prop}
    (settled : (setting primitives policies).Stable ticket before)
    (lasting : ∀ answer, (setting primitives policies).Stable ticket (post answer))
    (told : ∀ drawn state, Counts primitives state → before state →
      (setting primitives policies).permitted ticket call (.select query) drawn state →
        post (database.select query drawn state).1 state) :
    (setting primitives policies).Triple ticket call before (ask query) post := by
  refine Triple.ask_lawful setting_lawful settled lasting (fun _ _ _ => trivial) ?_
  intro state drawn answer after kept asserted permitted performed
  have same : database.select query drawn state = (answer, after) := Option.some.inj performed
  have known := told drawn state kept asserted permitted
  have unchanged : after = state := by
    rw [← show (database.select query drawn state).2 = after from congrArg Prod.snd same]
    cases query <;> rfl
  rw [unchanged]
  rw [same] at known
  exact known

theorem stable_const (holds : Prop) : (setting primitives policies).Stable ticket fun _ => holds :=
  fun _ _ known _ => known

theorem newEvents_spec (list : List Signal) :
    (setting primitives policies).Triple ticket call (fun _ => True) (newEvents primitives call list)
      fun events _ => EventsOf primitives call list events := by
  induction list with
  | nil => exact Triple.pure (stable_const _) fun _ _ signal member => absurd member List.not_mem_nil
  | cons signal rest ih =>
    rw [newEvents]
    apply Triple.bind (fun _ _ => True)
    · exact statement (stable_const _) (fun _ => stable_const _) fun _ _ _ _ _ => trivial
    · intro id
      apply Triple.bind _ ih
      intro events
      refine Triple.pure (stable_const _) ?_
      intro _ own other member
      cases List.mem_cons.mp member with
      | inl same =>
        subst same
        exact ⟨_, List.mem_cons_self, rfl, rfl, rfl⟩
      | inr later =>
        obtain ⟨event, held, known⟩ := own other later
        exact ⟨event, List.mem_cons_of_mem _ held, known⟩

def Recorded (ticket : Nat) (call : Call) (state : State) : Prop := (ticket, call) ∈ state.recorded

/-- Among the calls that had committed when this one did, at most as many share the signal as its limit is. -/
def Within (primitives : Primitives) (policies : String → Policy) (ticket : Nat) (call : Call) (signal : Signal)
    (state : State) : Prop :=
  ∃ earlier, earlier ++ [(ticket, call)] <+: state.recorded ∧
    marking primitives call.endpoint signal (cutoff policies call) (earlier ++ [(ticket, call)]) ≤
      signal.limit (policies call.endpoint)

theorem recorded_stable : (setting primitives policies).Stable ticket (Recorded ticket call) :=
  fun _ _ known grown => grown.subset known

theorem within_stable (signal : Signal) :
    (setting primitives policies).Stable ticket (Within primitives policies ticket call signal) := by
  rintro state after ⟨earlier, first, few⟩ grown
  exact ⟨earlier, first.trans grown, few⟩

theorem count_spec (signal : Signal) (lasting : (setting primitives policies).Stable ticket fact) :
    (setting primitives policies).Triple ticket call (fun state => Recorded ticket call state ∧ fact state)
      (ask (.count call.endpoint (keyHash primitives call.endpoint signal) (cutoff policies call)))
      fun (count : Nat) state => Recorded ticket call state ∧ fact state ∧
        (count ≤ signal.limit (policies call.endpoint) → Within primitives policies ticket call signal state) := by
  apply statement
  · exact fun state after known grown => ⟨recorded_stable state after known.1 grown, lasting state after known.2 grown⟩
  · intro count state after known grown
    exact ⟨recorded_stable state after known.1 grown, lasting state after known.2.1 grown,
      fun few => within_stable signal state after (known.2.2 few) grown⟩
  · intro _ state counts known timely
    refine ⟨known.1, known.2, ?_⟩
    intro few
    obtain ⟨earlier, later, shape⟩ := List.append_of_mem known.1
    have first : earlier ++ [(ticket, call)] <+: state.recorded := ⟨later, by rw [shape, List.append_assoc]; rfl⟩
    refine ⟨earlier, first, ?_⟩
    have all := counts call.endpoint signal (cutoff policies call) (Timely.spared timely)
    have part : marking primitives call.endpoint signal (cutoff policies call) (earlier ++ [(ticket, call)]) ≤
        marking primitives call.endpoint signal (cutoff policies call) state.recorded := first.sublist.countP_le
    exact part.trans (all.trans few)

theorem countSignals_spec (list : List Signal) (exceeded : Bool)
    (lasting : (setting primitives policies).Stable ticket fact) :
    (setting primitives policies).Triple ticket call (fun state => Recorded ticket call state ∧ fact state)
      (countSignals primitives policies call list exceeded)
      fun result state => fact state ∧ (result = false → exceeded = false ∧
        ∀ signal ∈ list, Within primitives policies ticket call signal state) := by
  induction list generalizing exceeded fact with
  | nil =>
    refine Triple.pure ?_ fun state known => ⟨known.2, fun same => ⟨same, fun _ absent => absurd absent List.not_mem_nil⟩⟩
    exact fun state after known grown => ⟨lasting state after known.1 grown,
      fun same => ⟨(known.2 same).1, fun _ absent => absurd absent List.not_mem_nil⟩⟩
  | cons signal rest ih =>
    rw [countSignals]
    apply Triple.bind _ (count_spec signal lasting)
    intro (count : Nat)
    have carried : (setting primitives policies).Stable ticket fun state => fact state ∧
        (count ≤ signal.limit (policies call.endpoint) →
          Within primitives policies ticket call signal state) :=
      fun state after known grown => ⟨lasting state after known.1 grown,
        fun few => within_stable signal state after (known.2 few) grown⟩
    apply Triple.weaken (ih (exceeded || decide (signal.limit (policies call.endpoint) < count)) carried)
    · exact fun state known => known
    · rintro result state ⟨⟨kept, first⟩, passed⟩
      refine ⟨kept, ?_⟩
      intro same
      obtain ⟨none, others⟩ := passed same
      rw [Bool.or_eq_false_iff, decide_eq_false_iff_not] at none
      exact ⟨none.1, List.forall_mem_cons.mpr ⟨first (by omega), others⟩⟩

theorem commit_spec {change : Change} (settled : (setting primitives policies).Stable ticket before)
    (lasting : (setting primitives policies).Stable ticket fact)
    (issued : ∀ state, before state → (setting primitives policies).issued ticket call (.commit change) state)
    (written : ∀ state after, before state → database.commit change state = some after → fact after) :
    (setting primitives policies).Triple ticket call before (commit change) fun _ => fact := by
  apply Triple.bind (fun committed state => committed = true → fact state)
  · refine Triple.ask_lawful setting_lawful settled ?_ (fun state _ known => issued state known) ?_
    · exact fun _ state after known grown same => lasting state after (known same) grown
    · intro state drawn answer after _ known _ performed
      simp only [setting, Database.world] at performed
      split at performed
      · next committed =>
        cases performed
        exact fun _ => written state _ known committed
      · cases performed
        exact fun impossible => by cases impossible
  · intro (committed : Bool)
    cases committed with
    | true => exact Triple.pure lasting fun _ known => known rfl
    | false => exact Triple.raise

theorem rateLimit_spec :
    (setting primitives policies).Triple ticket call (fun _ => True) (rateLimit primitives policies ticket call)
      fun _ state => ∀ signal ∈ signals primitives call, Within primitives policies ticket call signal state := by
  have lasting : (setting primitives policies).Stable ticket fun state =>
      ∀ signal ∈ signals primitives call, Within primitives policies ticket call signal state :=
    fun state after known grown signal member => within_stable signal state after (known signal member) grown
  apply Triple.bind _ (newEvents_spec (signals primitives call))
  intro events
  apply Triple.bind fun (outdated : List AuthRateLimitEvent) _ =>
    EventsOf primitives call (signals primitives call) events ∧ ∀ event ∈ outdated, event.createdAt < call.now - Time.day
  · apply statement (stable_const _) fun _ => stable_const _
    intro _ state _ own _
    refine ⟨own, ?_⟩
    intro event member
    exact of_decide_eq_true (List.mem_filter.mp member).2
  intro outdated
  apply Triple.bind fun _ => Recorded ticket call
  · apply commit_spec (stable_const _) recorded_stable
    · exact fun _ known => ⟨rfl, rfl, known⟩
    · intro state after _ committed
      rw [Recorded, (commit_recorded committed).2]
      exact List.mem_append_right _ (List.mem_singleton_self _)
  intro _
  apply Triple.bind fun exceeded state => exceeded = false →
    ∀ signal ∈ signals primitives call, Within primitives policies ticket call signal state
  · apply Triple.weaken (countSignals_spec (signals primitives call) false (stable_const True))
    · exact fun state known => ⟨known, trivial⟩
    · exact fun result state known same => (known.2 same).2
  intro (exceeded : Bool)
  cases exceeded with
  | true =>
    rw [if_pos rfl]
    apply Triple.bind fun _ _ => True
    · apply commit_spec
      · intro state after known _ impossible
        cases impossible
      · exact stable_const _
      · exact fun _ _ => trivial
      · exact fun _ _ _ _ => trivial
    · exact fun _ => Triple.raise
  | false =>
    rw [if_neg Bool.false_ne_true]
    exact Triple.pure lasting fun state known => known rfl

end Call

theorem verified : Verified (setting primitives policies) (main primitives policies) (fun _ _ => True)
    fun ticket call result state => ∀ value, result = .ok value →
      ∀ signal ∈ signals primitives call, Within primitives policies ticket call signal state where
  fresh_stable := fun _ _ _ _ _ => trivial
  starts := fun _ _ state _ _ => rateLimit_spec.safe state trivial
  crashes := fun _ _ _ kept => ⟨kept, List.prefix_rfl⟩

/-! ### The bound -/

theorem card_le_marking {calls : Finset Nat} {record : List (Nat × Call)} {endpoint : String} {signal : Signal}
    {cutoff : Int} (each : ∀ ticket ∈ calls, ∃ call, (ticket, call) ∈ record ∧ Marks primitives endpoint signal cutoff call) :
    calls.card ≤ marking primitives endpoint signal cutoff record := by
  have covered : calls ⊆ ((record.filter fun call => Marks primitives endpoint signal cutoff call.2).map Prod.fst).toFinset := by
    intro ticket member
    obtain ⟨call, held, marks⟩ := each ticket member
    rw [List.mem_toFinset, List.mem_map]
    exact ⟨(ticket, call), List.mem_filter.mpr ⟨held, decide_eq_true marks⟩, rfl⟩
  calc calls.card
      ≤ _ := Finset.card_le_card covered
    _ ≤ _ := List.toFinset_card_le _
    _ = marking primitives endpoint signal cutoff record := by rw [List.length_map, marking, List.countP_eq_length_filter]

def LetThrough (primitives : Primitives) (policies : String → Policy)
    (pool : Pool (sessions queries Change) Call (Except Refusal Unit) State) (endpoint : String) (signal : Signal)
    (start : Int) (ticket : Nat) : Prop :=
  ∃ call, pool.tasks ticket = some ⟨call, some (.done (.ok ()))⟩ ∧ call.endpoint = endpoint ∧
    signal ∈ signals primitives call ∧ start ≤ call.now ∧
      call.now ≤ start + (policies endpoint).windowSeconds * Time.second

/-- In every run, the calls of a window that are let through are at most the limit of each of their signals. -/
theorem limiter_exact {events : List AuthRateLimitEvent} {moves : List (Move Call String)}
    {final : Pool (sessions queries Change) Call (Except Refusal Unit) State}
    (run : Runs (Pool.step database.world (main primitives policies)) (setting primitives policies).permits
      (Pool.initial { events := events }) moves final)
    (endpoint : String) (signal : Signal) (start : Int) (calls : Finset Nat)
    (each : ∀ ticket ∈ calls, LetThrough primitives policies final endpoint signal start ticket) :
    calls.card ≤ signal.limit (policies endpoint) := by
  have sound := (@verified primitives policies).sound
    ⟨fun _ _ _ _ => Nat.zero_le _, fun _ _ => trivial, fun _ _ _ absent => by cases absent⟩ run
  have placed : ∀ ticket ∈ calls, ∃ call earlier,
      earlier ++ [(ticket, call)] <+: final.shared.recorded ∧
      marking primitives endpoint signal (cutoff policies call) (earlier ++ [(ticket, call)]) ≤
        signal.limit (policies endpoint) ∧
      call.endpoint = endpoint ∧ signal ∈ signals primitives call ∧ start ≤ call.now ∧
        call.now ≤ start + (policies endpoint).windowSeconds * Time.second := by
    intro ticket member
    obtain ⟨call, returned, rfl, signed, window⟩ := each ticket member
    obtain ⟨earlier, first, few⟩ := Safe.result (sound.running ticket call _ returned) () rfl signal signed
    exact ⟨call, earlier, first, few, rfl, signed, window⟩
  rcases calls.eq_empty_or_nonempty with rfl | nonempty
  · exact Nat.zero_le _
  choose! call earlier first few same signed after before using placed
  -- the call that has committed last has seen all the others
  obtain ⟨last, member, longest⟩ := calls.exists_max_image (fun ticket => (earlier ticket).length) nonempty
  refine (card_le_marking ?_).trans (few last member)
  intro ticket held
  refine ⟨call ticket, ?_, same ticket held, signed ticket held, ?_⟩
  · have shorter : (earlier ticket ++ [(ticket, call ticket)]).length ≤ (earlier last ++ [(last, call last)]).length := by
      simpa using longest ticket held
    have inside := List.prefix_of_prefix_length_le (first ticket held) (first last member) shorter
    exact inside.subset (List.mem_append_right _ (List.mem_singleton_self _))
  · have late := before last member
    have early := after ticket held
    rw [cutoff, same last member]
    omega

def timely (policies : String → Policy) (pool : Pool (sessions queries Change) Call (Except Refusal Unit) State) :
    Move Call String → Bool
  | .act ticket _ =>
      match pool.tasks ticket with
      | some ⟨call, some (.request (.select (.count ..)) _)⟩ => pool.shared.recorded.all fun other =>
          other.2.now ≤ call.now + (Time.day - (policies call.endpoint).windowSeconds * Time.second)
      | _ => true
  | _ => true

theorem permits_of_timely (pool : Pool (sessions queries Change) Call (Except Refusal Unit) State)
    (move : Move Call String) (checked : timely policies pool move = true) :
    (setting primitives policies).permits pool move := by
  cases move with
  | start | crash => trivial
  | act ticket drawn =>
    intro call op next present
    cases op with
    | commit change => trivial
    | select query =>
      cases query with
      | uid | createdBefore _ => trivial
      | count endpoint keyHash cutoff =>
        intro other member
        simp only [timely, present, List.all_eq_true, decide_eq_true_eq] at checked
        exact checked other member

end Proofs

def strict : String → Policy := fun _ => { ipLimit := 1 }

def attempt (now : Int) : Call := ⟨"google", some "192.0.2.1", none, now⟩

/-- The second call starts an hour after the first, while that is still under way. -/
def hourly : List (Move Call String) :=
  [.start 0 (attempt 0), .act 0 "a", .act 0 "", .start 1 (attempt (60 * Time.minute)), .act 1 "b", .act 1 "",
    .act 0 "", .act 0 "", .act 1 "", .act 1 ""]

def passed (pool : Pool (sessions queries Change) Call (Except Refusal Unit) State) (ticket : Nat) : Option Call :=
  match pool.tasks ticket with
  | some ⟨call, some (.done (.ok ()))⟩ => some call
  | _ => none

theorem hourly_passed : (hourly.foldlM (fun pool move =>
    if timely strict pool move then pool.step database.world (main legible strict) move else none)
      (Pool.initial { events := [] })).map (fun pool => passed pool 1) = some (some (attempt (60 * Time.minute))) := by
  decide

theorem limiter_exact_hourly : ∃ final,
    Runs (Pool.step database.world (main legible strict)) (setting legible strict).permits (Pool.initial { events := [] })
      hourly final ∧ LetThrough legible strict final "google" (.ip (ipHash legible (attempt 0))) (60 * Time.minute) 1 ∧
      ({1} : Finset Nat).card ≤ 1 := by
  obtain ⟨final, evaluated, returned⟩ := Option.map_eq_some_iff.mp hourly_passed
  have run := Runs.of_checked (@permits_of_timely legible strict) evaluated
  have through : LetThrough legible strict final "google" (.ip (ipHash legible (attempt 0))) (60 * Time.minute) 1 := by
    unfold passed at returned
    split at returned
    · next call present =>
      cases returned
      exact ⟨_, present, rfl, List.mem_cons_self, le_rfl, by decide⟩
    · cases returned
  refine ⟨final, run, through, limiter_exact run "google" (.ip (ipHash legible (attempt 0))) (60 * Time.minute) {1} ?_⟩
  intro ticket member
  rw [Finset.mem_singleton.mp member]
  exact through

end Operly.Auth.Limiter
