import Operly.Security.Claims

/-! Accounts of other providers stay with their user. A guest is claimed after unlocked checks, so two claims of one
guest may overlap. -/

namespace Operly.Security.Principals
open Python Concurrent Relational

variable {state after : State}

/-! ### Hands -/

def State.ownerOf (state : State) (principalId : String) : Option String :=
  (state.principals.find principalId).bind (·.userId)

def State.claimant (state : State) (guestId : String) : Option String :=
  (state.principals.find guestId).bind (·.claimedByUserId)

def Verified (state : State) (subject : String × String) (userId : String) : Prop :=
  ∃ binding, state.bindings.find subject = some binding ∧ binding.verified = true ∧
    state.ownerOf binding.principalId = some userId

def Unclaimed (state : State) (guestId : String) : Prop :=
  ∃ row, state.principals.find guestId = some row ∧ row.kind = .guest ∧ row.claimedByUserId = none

structure Steady (state after : State) : Prop where
  grows : Grows state after
  claimants : ∀ id row, state.principals.find id = some row → after.claimant id = state.claimant id
  bindings : ∀ subject row, state.bindings.find subject = some row → ∃ now, after.bindings.find subject = some now ∧
    now.principalId = row.principalId ∧ (row.verified = true → now.verified = true)
  channels : after.channelConversations = state.channelConversations
  conversations : after.principalConversations = state.principalConversations
  agents : after.agentConversations = state.agentConversations

structure Moves (claim : Claim) (state after : State) : Prop where
  grows : Grows state after
  guest : ∃ row, state.principals.find claim.guest.id = some row ∧ row.kind = .guest
  binding : ∃ row, state.bindings.find claim.binding.subject = some row
  owner : after.ownerOf claim.owner.row.id = some claim.userId
  claimed : after.claimant claim.guest.id = some claim.userId
  claimants : ∀ id row, id ≠ claim.guest.id → state.principals.find id = some row → after.claimant id = state.claimant id
  bindings : ∀ subject row, state.bindings.find subject = some row → ∃ now, after.bindings.find subject = some now ∧
    now.principalId = (if subject = claim.binding.subject then claim.owner.row.id else row.principalId) ∧
    (row.verified = true → now.verified = true)
  channels : ∀ id row, state.channelConversations.find id = some row → ∃ now, after.channelConversations.find id = some now ∧
    (now.provider, now.externalUserId) = (row.provider, row.externalUserId) ∧
    now.userId = if (row.provider, row.externalUserId) = claim.binding.subject then some claim.userId else row.userId
  conversations : ∀ id row, state.principalConversations.find id = some row →
    ∃ now, after.principalConversations.find id = some now ∧
      now.principalId = if row.principalId = claim.guest.id then claim.owner.row.id else row.principalId
  agents : ∀ id row, state.agentConversations.find id = some row → ∃ now, after.agentConversations.find id = some now ∧
    now.principalId = if row.principalId = "guest:" ++ claim.guest.id then "user:" ++ claim.userId else row.principalId

variable {userId guestId : String} {row : Principal} {details : Option Details} {claim : Claim} {before : State}

theorem Grows.ownerOf (grown : Grows state after) {principalId : String}
    (owned : state.ownerOf principalId = some userId) : after.ownerOf principalId = some userId := by
  obtain ⟨row, found, user⟩ := Option.bind_eq_some_iff.mp owned
  obtain ⟨now, found', -, user'⟩ := grown principalId row found
  exact Option.bind_eq_some_iff.mpr ⟨now, found', user'.trans user⟩

theorem claimant_eq {id : String} (found : state.principals.find id = some row) :
    state.claimant id = row.claimedByUserId := by
  rw [State.claimant, found, Option.bind_some]

theorem addPrincipal_steady (added : state.addPrincipal row = some after) : Steady state after := by
  have grown := addPrincipal_grows added
  obtain ⟨-, rfl⟩ := addPrincipal_eq_some added
  refine ⟨grown, ?_, fun _ row found => ⟨row, found, rfl, id⟩, rfl, rfl, rfl⟩
  intro id old found
  rw [claimant_eq found]
  exact claimant_eq (find_insert_of_some found)

theorem addOwner_steady {owner : Owner} (added : state.addOwner owner = some after) : Steady state after := by
  cases owner with
  | existing row =>
    cases added
    exact ⟨Grows.refl state, fun _ _ _ => rfl, fun _ row found => ⟨row, found, rfl, id⟩, rfl, rfl, rfl⟩
  | fresh row => exact addPrincipal_steady added

theorem addOwner_bindings {owner : Owner} (added : state.addOwner owner = some after) : after.bindings = state.bindings := by
  cases owner with
  | existing row =>
    cases added
    rfl
  | fresh row =>
    obtain ⟨-, rfl⟩ := addPrincipal_eq_some added
    rfl

theorem addBinding_steady {row : ExternalPrincipalBinding} (added : state.addBinding row = some after) :
    Steady state after := by
  obtain ⟨-, rfl⟩ := addBinding_eq_some added
  refine ⟨Grows.refl state, fun _ _ _ => rfl, ?_, rfl, rfl, rfl⟩
  intro subject old found
  refine ⟨old, ?_, rfl, id⟩
  show (state.bindings.insert row).find subject = some old
  rw [Table.find_insert, found]
  rfl

theorem updateBinding_find {loaded : ExternalPrincipalBinding} {principalId : String}
    (updated : state.updateBinding loaded principalId details = some after) {subject : String × String}
    {row : ExternalPrincipalBinding} (found : state.bindings.find subject = some row) :
    ∃ now, after.bindings.find subject = some now ∧
      now.principalId = (if subject = loaded.subject then written loaded.principalId principalId row.principalId
        else row.principalId) ∧ (row.verified = true → now.verified = true) := by
  obtain ⟨current, known, rfl⟩ := updateBinding_eq_some updated
  have key : (current.updated loaded principalId details).subject = loaded.subject :=
    (Table.find_key known : current.subject = loaded.subject)
  show ∃ now, (state.bindings.replace _).find subject = some now ∧ _
  rw [Table.find_replace, key]
  split
  · next same =>
    subst same
    cases known.symm.trans found
    refine ⟨row.updated loaded principalId details, by rw [found]; rfl, rfl, fun verified => ?_⟩
    show written loaded.verified true row.verified = true
    rw [written, verified, ite_self]
  · exact ⟨row, found, rfl, id⟩

theorem updateBinding_steady {loaded : ExternalPrincipalBinding}
    (updated : state.updateBinding loaded loaded.principalId details = some after) : Steady state after := by
  have bindings : ∀ subject row, state.bindings.find subject = some row → ∃ now, after.bindings.find subject = some now ∧
      now.principalId = row.principalId ∧ (row.verified = true → now.verified = true) := by
    intro subject row found
    obtain ⟨now, found', principal, verified⟩ := updateBinding_find updated found
    rw [written_same, ite_self] at principal
    exact ⟨now, found', principal, verified⟩
  obtain ⟨current, -, rfl⟩ := updateBinding_eq_some updated
  exact ⟨Grows.refl state, fun _ _ _ => rfl, bindings, rfl, rfl, rfl⟩

theorem Steady.trans {first second third : State} (left : Steady first second) (right : Steady second third) :
    Steady first third where
  grows := left.grows.trans right.grows
  claimants := by
    intro id row found
    obtain ⟨now, found', -⟩ := left.grows id row found
    exact (right.claimants id now found').trans (left.claimants id row found)
  bindings := by
    intro subject row found
    obtain ⟨now, found', principal, verified⟩ := left.bindings subject row found
    obtain ⟨later, found'', principal', verified'⟩ := right.bindings subject now found'
    exact ⟨later, found'', principal'.trans principal, fun known => verified' (verified known)⟩
  channels := right.channels.trans left.channels
  conversations := right.conversations.trans left.conversations
  agents := right.agents.trans left.agents

theorem handOver_find {ownerId : String} {subject : String × String}
    (handed : state.handOver guestId ownerId userId subject = some after) :
    (∀ id row, state.channelConversations.find id = some row → ∃ now, after.channelConversations.find id = some now ∧
      (now.provider, now.externalUserId) = (row.provider, row.externalUserId) ∧
      now.userId = if (row.provider, row.externalUserId) = subject then some userId else row.userId) ∧
    (∀ id row, state.principalConversations.find id = some row → ∃ now, after.principalConversations.find id = some now ∧
      now.principalId = if row.principalId = guestId then ownerId else row.principalId) ∧
    ∀ id row, state.agentConversations.find id = some row → ∃ now, after.agentConversations.find id = some now ∧
      now.principalId = if row.principalId = "guest:" ++ guestId then "user:" ++ userId else row.principalId := by
  unfold State.handOver at handed
  dsimp only at handed
  split at handed
  · cases handed
  · cases handed
    refine ⟨?_, ?_, ?_⟩
    · intro id row found
      refine ⟨_, by rw [Table.find_modify, found, Option.map_some], ?_⟩
      split <;> exact ⟨rfl, rfl⟩
    · intro id row found
      refine ⟨_, by rw [Table.find_modify, found, Option.map_some], ?_⟩
      split <;> rfl
    · intro id row found
      refine ⟨_, by rw [Table.find_modify, found, Option.map_some], ?_⟩
      split <;> rfl

theorem owner_found (ready : claim.Ready state) (added : state.addOwner claim.owner = some after) :
    after.ownerOf claim.owner.row.id = some claim.userId ∧ claim.owner.row.id ≠ claim.guest.id := by
  have known : ∃ row, after.principals.find claim.owner.row.id = some row ∧ row.userId = some claim.userId ∧
      row.kind ≠ .guest := by
    obtain ⟨user, kind, standing⟩ := ready.owner
    cases shape : claim.owner with
    | existing row =>
      rw [shape] at added standing user kind
      cases added
      obtain ⟨now, found, kind', user'⟩ := standing
      exact ⟨now, found, user'.trans user, kind' ▸ kind⟩
    | fresh row =>
      rw [shape] at added user kind
      obtain ⟨absent, rfl⟩ := addPrincipal_eq_some added
      refine ⟨row, ?_, user, kind⟩
      show (state.principals.insert row).find row.id = some row
      rw [Table.find_insert, absent, if_pos rfl]
      rfl
  obtain ⟨row, found, user, kind⟩ := known
  refine ⟨Option.bind_eq_some_iff.mpr ⟨row, found, user⟩, fun same => ?_⟩
  obtain ⟨guest, found', guestKind, -⟩ := ready.standing.grows (addOwner_grows added)
  rw [same, found'] at found
  cases found
  exact kind (guestKind.trans ready.guest)

theorem commit_steady {change : Change} (other : ∀ claim details, change ≠ .claimed claim details)
    (committed : commit change state = some after) : Steady state after := by
  cases change with
  | unchanged =>
    cases committed
    exact ⟨Grows.refl state, fun _ _ _ => rfl, fun _ row found => ⟨row, found, rfl, id⟩, rfl, rfl, rfl⟩
  | guest principal binding =>
    obtain ⟨middle, added, inserted⟩ := Option.bind_eq_some_iff.mp committed
    exact (addPrincipal_steady added).trans (addBinding_steady inserted)
  | bound owner binding =>
    obtain ⟨middle, added, inserted⟩ := Option.bind_eq_some_iff.mp committed
    exact (addOwner_steady added).trans (addBinding_steady inserted)
  | refreshed loaded details => exact updateBinding_steady committed
  | claimed claim details => exact absurd rfl (other claim details)

theorem commit_moves (ready : claim.Ready state) (committed : commit (.claimed claim details) state = some after) :
    Moves claim state after := by
  obtain ⟨first, added, rest⟩ := Option.bind_eq_some_iff.mp committed
  obtain ⟨second, claimed, rest⟩ := Option.bind_eq_some_iff.mp rest
  obtain ⟨third, updated, handed⟩ := Option.bind_eq_some_iff.mp rest
  have steady := addOwner_steady added
  obtain ⟨owner, apart⟩ := owner_found ready added
  obtain ⟨row, found, kind, -⟩ := ready.standing
  obtain ⟨handedPrincipals, handedBindings⟩ := handOver_kept handed
  obtain ⟨channels, conversations, agents⟩ := handOver_find handed
  have grown : Grows first second := claimPrincipal_grows claimed
  have rebound : ∀ subject row, second.bindings.find subject = some row → ∃ now, third.bindings.find subject = some now ∧
      now.principalId = (if subject = claim.binding.subject then claim.owner.row.id else row.principalId) ∧
      (row.verified = true → now.verified = true) := by
    intro subject row found
    obtain ⟨now, found', principal, verified⟩ := updateBinding_find updated found
    rw [ready.binding, written_of_ne apart] at principal
    exact ⟨now, found', principal, verified⟩
  obtain ⟨bound, boundFound, rfl⟩ := updateBinding_eq_some updated
  obtain ⟨now, current, rfl⟩ := claimPrincipal_eq_some claimed
  have principals : after.principals = first.principals.replace (now.claimed claim) := handedPrincipals
  constructor
  · exact (steady.grows.trans grown).of_principals principals
  · exact ⟨row, found, kind.trans ready.guest⟩
  · exact ⟨bound, addOwner_bindings added ▸ boundFound⟩
  · exact (grown.of_principals principals).ownerOf owner
  · have key : (now.claimed claim).id = claim.guest.id := (Table.find_key current : now.id = claim.guest.id)
    rw [State.claimant, principals, Table.find_replace, key, if_pos rfl, current, Option.map_some, Option.bind_some]
    show written claim.guest.claimedByUserId (some claim.userId) now.claimedByUserId = some claim.userId
    rw [ready.unclaimed, written_of_ne (Option.some_ne_none _)]
  · intro id old other known
    have key : (now.claimed claim).id = claim.guest.id := (Table.find_key current : now.id = claim.guest.id)
    rw [← steady.claimants id old known, State.claimant, State.claimant, principals, Table.find_replace, key, if_neg other]
  · intro subject old known
    obtain ⟨middle, known', same, verified⟩ := steady.bindings subject old known
    obtain ⟨last, known'', principal, verified'⟩ := rebound subject middle known'
    refine ⟨last, ?_, same ▸ principal, fun holds => verified' (verified holds)⟩
    rw [handedBindings]
    exact known''
  · exact fun id old known => channels id old (steady.channels.symm ▸ known)
  · exact fun id old known => conversations id old (steady.conversations.symm ▸ known)
  · exact fun id old known => agents id old (steady.agents.symm ▸ known)

/-! ### Every run -/

structure Kept (before state : State) : Prop where
  verified : ∀ subject userId, Verified before subject userId → Verified state subject userId
  conversations : ∀ guestId id row, Unclaimed before guestId → before.principalConversations.find id = some row →
    row.principalId = guestId → ∃ now, state.principalConversations.find id = some now ∧
      match state.claimant guestId with
      | none => now.principalId = guestId
      | some userId => state.ownerOf now.principalId = some userId
  agents : ∀ guestId id row, Unclaimed before guestId → before.agentConversations.find id = some row →
    row.principalId = "guest:" ++ guestId → ∃ now, state.agentConversations.find id = some now ∧
      match state.claimant guestId with
      | none => now.principalId = "guest:" ++ guestId
      | some userId => now.principalId = "user:" ++ userId
  channels : ∀ guestId id row binding, Unclaimed before guestId →
    before.bindings.find (row.provider, row.externalUserId) = some binding → binding.principalId = guestId →
    before.channelConversations.find id = some row → ∃ bound now,
      state.bindings.find (row.provider, row.externalUserId) = some bound ∧ state.channelConversations.find id = some now ∧
      (now.provider, now.externalUserId) = (row.provider, row.externalUserId) ∧
      (bound.principalId = guestId ∧ now.userId = row.userId ∨
        ∃ userId, state.claimant guestId = some userId ∧ state.ownerOf bound.principalId = some userId ∧
          now.userId = some userId)

/-- A claim is not overtaken: the guest is still active and still has the binding, or both are the same user's by now. -/
def Unovertaken : Change → State → Prop
  | .claimed claim _, state => ∀ guest ∈ state.principals.find claim.guest.id,
      ∀ binding ∈ state.bindings.find claim.binding.subject,
        guest.status = .active ∧ binding.principalId = guest.id ∨
          guest.claimedByUserId = some claim.userId ∧ state.ownerOf binding.principalId = some claim.userId
  | _, _ => True

theorem guest_inj {first second : String} (same : "guest:" ++ first = "guest:" ++ second) : first = second := by
  have chars := congrArg String.toList same
  rw [String.toList_append, String.toList_append] at chars
  exact String.toList_inj.mp (List.append_cancel_left chars)

theorem user_ne_guest (first second : String) : "user:" ++ first ≠ "guest:" ++ second := by
  intro same
  have chars := congrArg String.toList same
  rw [String.toList_append, String.toList_append] at chars
  exact absurd (List.cons.inj chars).1 (by decide)

theorem no_owner {id : String} (proper : Proper state) (found : state.principals.find id = some row)
    (guest : row.kind = .guest) : state.ownerOf id = none := by
  rw [State.ownerOf, found, Option.bind_some]
  exact (proper id row found guest).1

theorem claim_fair {bound : ExternalPrincipalBinding} (proper : Proper state) (moves : Moves claim state after)
    (allowed : Unovertaken (.claimed claim details) state)
    (found : state.bindings.find claim.binding.subject = some bound) :
    (state.claimant claim.guest.id = none ∧ bound.principalId = claim.guest.id) ∨
      (state.claimant claim.guest.id = some claim.userId ∧ state.ownerOf bound.principalId = some claim.userId) := by
  obtain ⟨guest, current, kind⟩ := moves.guest
  rw [claimant_eq current]
  refine (allowed guest current bound found).imp ?_ id
  rintro ⟨active, own⟩
  have key : guest.id = claim.guest.id := Table.find_key current
  exact ⟨(proper _ guest current kind).2 active, own.trans key⟩

theorem Kept.refl (state : State) : Kept state state where
  verified _ _ known := known
  conversations := by
    rintro guestId id row ⟨guest, found, -, unclaimed⟩ known own
    refine ⟨row, known, ?_⟩
    rw [claimant_eq found, unclaimed]
    exact own
  agents := by
    rintro guestId id row ⟨guest, found, -, unclaimed⟩ known own
    refine ⟨row, known, ?_⟩
    rw [claimant_eq found, unclaimed]
    exact own
  channels _ _ row binding _ bound own known := ⟨binding, row, bound, known, rfl, .inl ⟨own, rfl⟩⟩

theorem Unclaimed.later (unclaimed : Unclaimed before guestId) (grown : Grows before state) :
    ∃ row, state.principals.find guestId = some row ∧ row.kind = .guest := by
  obtain ⟨row, found, kind, -⟩ := unclaimed
  obtain ⟨now, found', kind', -⟩ := grown guestId row found
  exact ⟨now, found', kind'.trans kind⟩

theorem Kept.steady (kept : Kept before state) (grown : Grows before state) (steady : Steady state after) :
    Kept before after where
  verified := by
    intro subject userId known
    obtain ⟨binding, found, verified, owner⟩ := kept.verified subject userId known
    obtain ⟨now, found', principal, verified'⟩ := steady.bindings subject binding found
    exact ⟨now, found', verified' verified, steady.grows.ownerOf (principal ▸ owner)⟩
  conversations := by
    intro guestId id row unclaimed known own
    obtain ⟨guest, present, -⟩ := unclaimed.later grown
    obtain ⟨now, found, hands⟩ := kept.conversations guestId id row unclaimed known own
    refine ⟨now, steady.conversations ▸ found, ?_⟩
    rw [steady.claimants guestId guest present]
    cases claimant : state.claimant guestId with
    | none =>
      rw [claimant] at hands
      exact hands
    | some userId =>
      rw [claimant] at hands
      exact steady.grows.ownerOf hands
  agents := by
    intro guestId id row unclaimed known own
    obtain ⟨guest, present, -⟩ := unclaimed.later grown
    obtain ⟨now, found, hands⟩ := kept.agents guestId id row unclaimed known own
    refine ⟨now, steady.agents ▸ found, ?_⟩
    rw [steady.claimants guestId guest present]
    exact hands
  channels := by
    intro guestId id row binding unclaimed bound own known
    obtain ⟨guest, present, -⟩ := unclaimed.later grown
    obtain ⟨current, now, found, found', same, hands⟩ := kept.channels guestId id row binding unclaimed bound own known
    obtain ⟨next, found'', principal, -⟩ := steady.bindings _ current found
    refine ⟨next, now, found'', steady.channels ▸ found', same, ?_⟩
    rw [steady.claimants guestId guest present, principal]
    refine hands.imp_right ?_
    rintro ⟨userId, claimant, owner, user⟩
    exact ⟨userId, claimant, steady.grows.ownerOf owner, user⟩

theorem claimant_moves {guest : Principal} (moves : Moves claim state after)
    (fair : state.claimant claim.guest.id = none ∨ state.claimant claim.guest.id = some claim.userId)
    (present : state.principals.find guestId = some guest) (claimant : state.claimant guestId = some userId) :
    after.claimant guestId = some userId := by
  by_cases same : guestId = claim.guest.id
  · subst same
    rw [claimant] at fair
    cases fair with
    | inl impossible => cases impossible
    | inr same => exact same ▸ moves.claimed
  · rw [moves.claimants guestId guest same present]
    exact claimant

theorem Kept.moves (kept : Kept before state) (grown : Grows before state) (proper : Proper state)
    (moves : Moves claim state after) (allowed : Unovertaken (.claimed claim details) state) : Kept before after := by
  obtain ⟨guest, current, guestKind⟩ := moves.guest
  have ownerless : state.ownerOf claim.guest.id = none := no_owner proper current guestKind
  have owned : ∀ {principalId userId : String}, state.ownerOf principalId = some userId → principalId ≠ claim.guest.id := by
    rintro principalId userId owner rfl
    rw [ownerless] at owner
    cases owner
  have claimable : state.claimant claim.guest.id = none ∨ state.claimant claim.guest.id = some claim.userId := by
    obtain ⟨bound, found⟩ := moves.binding
    exact (claim_fair proper moves allowed found).imp And.left And.left
  constructor
  · intro subject userId known
    obtain ⟨binding, found, verified, owner⟩ := kept.verified subject userId known
    obtain ⟨now, found', principal, verified'⟩ := moves.bindings subject binding found
    refine ⟨now, found', verified' verified, ?_⟩
    rw [principal]
    split
    · next same =>
      subst same
      cases claim_fair proper moves allowed found with
      | inl still => exact absurd still.2 (owned owner)
      | inr theirs =>
        rw [theirs.2] at owner
        exact owner ▸ moves.owner
    · exact moves.grows.ownerOf owner
  · intro guestId id row unclaimed known own
    obtain ⟨other, present, -⟩ := unclaimed.later grown
    obtain ⟨now, found, hands⟩ := kept.conversations guestId id row unclaimed known own
    obtain ⟨next, found', principal⟩ := moves.conversations id now found
    refine ⟨next, found', ?_⟩
    cases claimant : state.claimant guestId with
    | some userId =>
      rw [claimant] at hands
      rw [claimant_moves moves claimable present claimant, principal, if_neg (owned hands)]
      exact moves.grows.ownerOf hands
    | none =>
      rw [claimant] at hands
      by_cases same : guestId = claim.guest.id
      · rw [same, moves.claimed, principal, if_pos (hands.trans same)]
        exact moves.owner
      · rw [moves.claimants guestId other same present, claimant, principal, if_neg (hands ▸ same)]
        exact hands
  · intro guestId id row unclaimed known own
    obtain ⟨other, present, -⟩ := unclaimed.later grown
    obtain ⟨now, found, hands⟩ := kept.agents guestId id row unclaimed known own
    obtain ⟨next, found', principal⟩ := moves.agents id now found
    refine ⟨next, found', ?_⟩
    cases claimant : state.claimant guestId with
    | some userId =>
      rw [claimant] at hands
      have apart : now.principalId ≠ "guest:" ++ claim.guest.id := by
        rw [hands]
        exact user_ne_guest userId claim.guest.id
      rw [claimant_moves moves claimable present claimant, principal, if_neg apart]
      exact hands
    | none =>
      rw [claimant] at hands
      by_cases same : guestId = claim.guest.id
      · rw [same, moves.claimed, principal, if_pos (same ▸ hands)]
      · have apart : now.principalId ≠ "guest:" ++ claim.guest.id := by
          rw [hands]
          exact fun equal => same (guest_inj equal)
        rw [moves.claimants guestId other same present, claimant, principal, if_neg apart]
        exact hands
  · intro guestId id row binding unclaimed bound own known
    obtain ⟨other, present, otherKind⟩ := unclaimed.later grown
    obtain ⟨before', now, found, shown, same, hands⟩ := kept.channels guestId id row binding unclaimed bound own known
    obtain ⟨next, found', principal, -⟩ := moves.bindings _ before' found
    obtain ⟨last, shown', same', user⟩ := moves.channels id now shown
    refine ⟨next, last, found', shown', same'.trans same, ?_⟩
    rw [same] at user
    by_cases mine : (row.provider, row.externalUserId) = claim.binding.subject
    · rw [if_pos mine] at principal user
      refine .inr ⟨claim.userId, ?_, principal ▸ moves.owner, user⟩
      have subject := claim_fair proper moves allowed (mine ▸ found)
      rcases hands with ⟨still, -⟩ | ⟨userId, claimant, owner, -⟩
      · cases subject with
        | inl free => rw [← still, free.2, moves.claimed]
        | inr theirs =>
          rw [still, no_owner proper present otherKind] at theirs
          cases theirs.2
      · cases subject with
        | inl free => exact absurd free.2 (owned owner)
        | inr theirs =>
          have equal : userId = claim.userId := Option.some.inj (owner.symm.trans theirs.2)
          exact equal ▸ claimant_moves moves claimable present claimant
    · rw [if_neg mine] at principal user
      rw [principal, user]
      rcases hands with still | ⟨userId, claimant, owner, user⟩
      · exact .inl still
      · exact .inr ⟨userId, claimant_moves moves claimable present claimant, moves.grows.ownerOf owner, user⟩

/-- As long as no claim is overtaken, a verified account stays with its user, and the conversations of a guest go to the
user who has claimed it. -/
theorem identities_stay {start : State} (proper : Proper start) {moves later : List (Move Request Drawn)}
    {middle final : Pool (sessions queries Change) Request (Except PrincipalError Unit) State}
    (run : Runs (Pool.step database.world fun pid request => (main pid request).run) (fun _ _ => True)
      (Pool.initial start) moves middle)
    (rest : Runs (Pool.step database.world fun pid request => (main pid request).run) (database.admitted Unovertaken)
      middle later final) : Kept middle.shared final.shared := by
  obtain ⟨composing, -⟩ := Growth.kept main_spec (fun _ _ _ _ => trivial) (fun _ _ _ _ _ _ _ _ => trivial)
    (Growth.composing_initial proper) trivial (run.weaken (Database.admitted_true database))
  let known (state : State) : Prop := Grows middle.shared state ∧ Kept middle.shared state
  have first : known middle.shared := ⟨Grows.refl _, Kept.refl _⟩
  refine (Growth.kept main_spec ?_ ?_ composing first rest).2.2
  · intro query drawn state holds
    exact (database_reads query drawn state).symm ▸ holds
  · rintro change state after proper allowed admitted ⟨grown, kept⟩ committed
    have committed : commit change state = some after := committed
    refine ⟨grown.trans (commit_principals proper allowed committed).2, ?_⟩
    cases change with
    | claimed claim details => exact kept.moves grown proper (commit_moves allowed committed) admitted
    | unchanged | guest | bound | refreshed =>
      exact kept.steady grown (commit_steady (fun _ _ same => by cases same) committed)

/-! ### Two users link one account -/

instance (change : Change) (state : State) : Decidable (Unovertaken change state) :=
  match change with
  | .claimed claim _ => inferInstanceAs (Decidable (∀ guest ∈ state.principals.find claim.guest.id,
      ∀ binding ∈ state.bindings.find claim.binding.subject,
        guest.status = .active ∧ binding.principalId = guest.id ∨
          guest.claimedByUserId = some claim.userId ∧ state.ownerOf binding.principalId = some claim.userId))
  | .unchanged | .guest .. | .bound .. | .refreshed .. => .isTrue trivial

namespace Linked

def userOf (id userId : String) : Principal := ⟨id, .user, some userId, none, .active, none, none, none, "\x7b\x7d"⟩

def start : State where
  users := [⟨"ada", "Ada", true⟩, ⟨"bob", "Bob", true⟩]
  principals := [⟨"guest", .guest, none, none, .active, some 900, none, none, "\x7b\x7d"⟩, userOf "ada's" "ada",
    userOf "bob's" "bob"].foldl .insert .empty
  bindings := Table.empty.insert ⟨"discord", "42", "guest", none, false, "\x7b\x7d"⟩
  channelConversations := .empty
  principalConversations := Table.empty.insert ⟨"chat", "guest", "discord", "dm"⟩
  agentConversations := .empty

def link (pid : Nat) (userId : String) : Move Request Drawn :=
  .start pid (.bindExternalIdentity userId "discord" "42" none none)

def reading : List (Move Request Drawn) := link 0 "ada" :: List.replicate 7 (.act 0 {})

def together : List (Move Request Drawn) := reading ++ link 1 "bob" :: List.replicate 7 (.act 1 {}) ++ [.act 0 {}]

def inTurn : List (Move Request Drawn) := .act 0 {} :: link 1 "bob" :: List.replicate 2 (.act 1 {})

def hands (state : State) : Option String × Option String × Option String :=
  ((state.bindings.find ("discord", "42")).bind fun row => if row.verified then state.ownerOf row.principalId else none,
    state.claimant "guest", (state.principalConversations.find "chat").bind fun row => state.ownerOf row.principalId)

abbrev advance (pool : Pool (sessions queries Change) Request (Except PrincipalError Unit) State) (move : Move Request Drawn) :=
  pool.step database.world (fun pid request => (main pid request).run) move

theorem together_hands : ((together.foldlM advance (Pool.initial start)).bind fun pool =>
    (advance pool (.act 1 {})).map fun next => (hands pool.shared, hands next.shared)) =
      some ((some "ada", some "ada", some "ada"), (some "bob", some "bob", some "ada")) := by
  decide

theorem inTurn_hands : ((reading.foldlM advance (Pool.initial start)).bind fun pool =>
    (inTurn.foldlM (fun pool move =>
      if database.checked (fun change state => Unovertaken change state) pool move then advance pool move else none)
        pool).map fun next => hands next.shared) = some (some "ada", some "ada", some "ada") := by
  decide

theorem hands_verified : (hands state).1 = some userId ↔ Verified state ("discord", "42") userId := by
  constructor
  · intro shown
    obtain ⟨binding, found, owner⟩ := Option.bind_eq_some_iff.mp shown
    split at owner
    · next verified => exact ⟨binding, found, verified, owner⟩
    · cases owner
  · rintro ⟨binding, found, verified, owner⟩
    refine Option.bind_eq_some_iff.mpr ⟨binding, found, ?_⟩
    rw [if_pos verified]
    exact owner

theorem start_proper : Proper start := by
  have rows : ∀ row ∈ start.principals.rows, row.kind = .guest →
      row.userId = none ∧ (row.status = .active → row.claimedByUserId = none) := by decide
  exact fun _ row found => rows row (Table.find_mem found)

end Linked

theorem identities_stay_in_turn : ∃ middle final : Pool (sessions queries Change) Request (Except PrincipalError Unit) State,
    Runs Linked.advance (fun _ _ => True) (Pool.initial Linked.start) Linked.reading middle ∧
      Runs Linked.advance (database.admitted Unovertaken) middle Linked.inTurn final ∧
      Kept middle.shared final.shared ∧ Linked.hands final.shared = (some "ada", some "ada", some "ada") := by
  obtain ⟨middle, first, rest⟩ := Option.bind_eq_some_iff.mp Linked.inTurn_hands
  obtain ⟨final, second, shown⟩ := Option.map_eq_some_iff.mp rest
  have run := Runs.of_foldlM first
  have later := Runs.of_checked (Database.admitted_of_checked fun _ _ => of_decide_eq_true) second
  exact ⟨middle, final, run, later, identities_stay Linked.start_proper run later, shown⟩

/-- The account that was verified as one user's becomes another's, who has claimed the guest but has not its conversation. -/
theorem account_changes_hands : ∃ (middle final : Pool (sessions queries Change) Request (Except PrincipalError Unit) State),
    Runs Linked.advance (fun _ _ => True) (Pool.initial Linked.start) Linked.together middle ∧
      Runs Linked.advance (fun _ _ => True) middle [.act 1 {}] final ∧ ¬Kept middle.shared final.shared ∧
      Linked.hands middle.shared = (some "ada", some "ada", some "ada") ∧
      Linked.hands final.shared = (some "bob", some "bob", some "ada") := by
  obtain ⟨middle, first, rest⟩ := Option.bind_eq_some_iff.mp Linked.together_hands
  obtain ⟨final, second, shown⟩ := Option.map_eq_some_iff.mp rest
  obtain ⟨before, after⟩ := Prod.mk.inj shown
  refine ⟨middle, final, Runs.of_foldlM first, .cons trivial second (.nil _), fun kept => ?_, before, after⟩
  have stays := kept.verified _ "ada" (Linked.hands_verified.mp (congrArg Prod.fst before))
  have moved := Linked.hands_verified.mpr stays
  rw [after] at moved
  exact absurd moved (by decide)

/-- Overtaken or not, an active guest is unclaimed and has no user, and no principal changes its kind or its user. -/
theorem principals_stay {start : State} (proper : Proper start) {moves later : List (Move Request Drawn)}
    {middle final : Pool (sessions queries Change) Request (Except PrincipalError Unit) State}
    (run : Runs (Pool.step database.world fun pid request => (main pid request).run) (fun _ _ => True)
      (Pool.initial start) moves middle)
    (rest : Runs (Pool.step database.world fun pid request => (main pid request).run) (fun _ _ => True) middle later final) :
    Proper final.shared ∧ Grows middle.shared final.shared := by
  obtain ⟨composing, -⟩ := Growth.kept main_spec (fun _ _ _ _ => trivial) (fun _ _ _ _ _ _ _ _ => trivial)
    (Growth.composing_initial proper) trivial (run.weaken (Database.admitted_true database))
  have kept := Growth.kept main_spec ?_ ?_ composing (Grows.refl middle.shared)
    (rest.weaken (Database.admitted_true database))
  · exact ⟨kept.1.invariant, kept.2⟩
  · exact fun query drawn state grown => (database_reads query drawn state).symm ▸ grown
  · exact fun change state after proper allowed _ grown committed =>
      grown.trans (commit_principals proper allowed committed).2

theorem principals_stay_overtaken : ∃ middle final : Pool (sessions queries Change) Request (Except PrincipalError Unit) State,
    Runs Linked.advance (fun _ _ => True) (Pool.initial Linked.start) Linked.together middle ∧
      Runs Linked.advance (fun _ _ => True) middle [.act 1 {}] final ∧ Proper final.shared ∧ Grows middle.shared final.shared ∧
      Linked.hands final.shared = (some "bob", some "bob", some "ada") := by
  obtain ⟨middle, first, rest⟩ := Option.bind_eq_some_iff.mp Linked.together_hands
  obtain ⟨final, second, shown⟩ := Option.map_eq_some_iff.mp rest
  have run := Runs.of_foldlM first
  have later : Runs Linked.advance (fun _ _ => True) middle [.act 1 {}] final := .cons trivial second (.nil _)
  have stays := principals_stay Linked.start_proper run later
  exact ⟨middle, final, run, later, stays.1, stays.2, (Prod.mk.inj shown).2⟩

end Operly.Security.Principals
