import Operly.Security.Principals

/-! What a session knows of the principals when it commits: their kinds and their users stay. -/

namespace Operly.Security.Principals
open Python Concurrent Relational

def Grows (before after : State) : Prop :=
  ∀ id row, before.principals.find id = some row →
    ∃ now, after.principals.find id = some now ∧ now.kind = row.kind ∧ now.userId = row.userId

def Proper (state : State) : Prop :=
  ∀ id row, state.principals.find id = some row → row.kind = .guest →
    row.userId = none ∧ (row.status = .active → row.claimedByUserId = none)

def Standing (row : Principal) (state : State) : Prop :=
  ∃ now, state.principals.find row.id = some now ∧ now.kind = row.kind ∧ now.userId = row.userId

def Owner.Of (owner : Owner) (userId : String) (state : State) : Prop :=
  owner.row.userId = some userId ∧ owner.row.kind ≠ .guest ∧
    match owner with
    | .existing row => Standing row state
    | .fresh _ => True

structure Claim.Ready (claim : Claim) (state : State) : Prop where
  guest : claim.guest.kind = .guest
  active : claim.guest.status = .active
  unclaimed : claim.guest.claimedByUserId = none
  standing : Standing claim.guest state
  binding : claim.binding.principalId = claim.guest.id
  owner : claim.owner.Of claim.userId state

def Allowed : Change → State → Prop
  | .guest principal _, _ => principal.kind = .guest ∧ principal.userId = none ∧ principal.claimedByUserId = none
  | .bound owner _, _ => owner.row.kind ≠ .guest
  | .claimed claim _, state => claim.Ready state
  | .unchanged, _ | .refreshed .., _ => True

variable {state after : State}

theorem Grows.refl (state : State) : Grows state state := fun _ row found => ⟨row, found, rfl, rfl⟩

theorem Grows.trans {first second third : State} (left : Grows first second) (right : Grows second third) :
    Grows first third := by
  intro id row found
  obtain ⟨now, found, kind, user⟩ := left id row found
  obtain ⟨later, found, kind', user'⟩ := right id now found
  exact ⟨later, found, kind'.trans kind, user'.trans user⟩

variable {row : Principal} {owner : Owner} {claim : Claim} {id : String}

theorem Standing.grows (standing : Standing row state) (grown : Grows state after) : Standing row after := by
  obtain ⟨now, found, kind, user⟩ := standing
  obtain ⟨later, found, kind', user'⟩ := grown _ now found
  exact ⟨later, found, kind'.trans kind, user'.trans user⟩

theorem Owner.Of.grows {userId : String} (known : owner.Of userId state) (grown : Grows state after) :
    owner.Of userId after := by
  obtain ⟨user, kind, standing⟩ := known
  refine ⟨user, kind, ?_⟩
  cases owner with
  | existing row => exact Standing.grows standing grown
  | fresh row => trivial

theorem Claim.Ready.grows (ready : claim.Ready state) (grown : Grows state after) : claim.Ready after :=
  ⟨ready.guest, ready.active, ready.unclaimed, ready.standing.grows grown, ready.binding, ready.owner.grows grown⟩

/-! ### What a commit does to the principals -/

theorem addPrincipal_eq_some (added : state.addPrincipal row = some after) :
    state.principals.find row.id = none ∧ after = { state with principals := state.principals.insert row } := by
  unfold State.addPrincipal at added
  split at added
  · cases added
  · next absent =>
    cases added
    obtain ⟨unused, -⟩ := not_or.mp absent
    exact ⟨by simpa using unused, rfl⟩

theorem addBinding_eq_some {row : ExternalPrincipalBinding} (added : state.addBinding row = some after) :
    state.bindings.find row.subject = none ∧ after = { state with bindings := state.bindings.insert row } := by
  unfold State.addBinding at added
  split at added
  · cases added
  · next absent =>
    cases added
    exact ⟨by simpa using absent, rfl⟩

theorem updateBinding_eq_some {loaded : ExternalPrincipalBinding} {principalId : String} {details : Option Details}
    (updated : state.updateBinding loaded principalId details = some after) :
    ∃ now, state.bindings.find loaded.subject = some now ∧
      after = { state with bindings := state.bindings.replace (now.updated loaded principalId details) } := by
  obtain ⟨now, found, rfl⟩ := Option.map_eq_some_iff.mp updated
  exact ⟨now, found, rfl⟩

theorem claimPrincipal_eq_some (claimed : state.claimPrincipal claim = some after) :
    ∃ now, state.principals.find claim.guest.id = some now ∧
      after = { state with principals := state.principals.replace (now.claimed claim) } := by
  obtain ⟨now, found, rfl⟩ := Option.map_eq_some_iff.mp claimed
  exact ⟨now, found, rfl⟩

theorem find_insert_of_some {principals : Table Principal String (·.id)} {new : Principal}
    (found : principals.find id = some row) : (principals.insert new).find id = some row := by
  rw [Table.find_insert, found]
  rfl

theorem find_insert_cases {principals : Table Principal String (·.id)} {new : Principal}
    (found : (principals.insert new).find id = some row) : principals.find id = some row ∨ (id = new.id ∧ row = new) := by
  rw [Table.find_insert] at found
  cases known : principals.find id with
  | some old =>
    rw [known] at found
    exact .inl found
  | none =>
    rw [known] at found
    split at found
    · next same =>
      cases found
      exact .inr ⟨same, rfl⟩
    · cases found

theorem addPrincipal_grows (added : state.addPrincipal row = some after) : Grows state after := by
  obtain ⟨-, rfl⟩ := addPrincipal_eq_some added
  exact fun _ old found => ⟨old, find_insert_of_some found, rfl, rfl⟩

theorem addOwner_grows (added : state.addOwner owner = some after) : Grows state after := by
  cases owner with
  | existing row =>
    cases added
    exact Grows.refl state
  | fresh row => exact addPrincipal_grows added

theorem find_claimed {principals : Table Principal String (·.id)} {now : Principal}
    (current : principals.find claim.guest.id = some now)
    (found : (principals.replace (now.claimed claim)).find id = some row) :
    (id = claim.guest.id ∧ row = now.claimed claim) ∨ (id ≠ claim.guest.id ∧ principals.find id = some row) := by
  have key : (now.claimed claim).id = claim.guest.id := (Table.find_key current : now.id = claim.guest.id)
  rw [Table.find_replace, key] at found
  split at found
  · next same =>
    subst same
    rw [current] at found
    cases found
    exact .inl ⟨rfl, rfl⟩
  · next other => exact .inr ⟨other, found⟩

theorem claimPrincipal_grows (claimed : state.claimPrincipal claim = some after) : Grows state after := by
  obtain ⟨now, current, rfl⟩ := claimPrincipal_eq_some claimed
  intro id row found
  show ∃ next, (state.principals.replace (now.claimed claim)).find id = some next ∧ _
  have key : (now.claimed claim).id = claim.guest.id := (Table.find_key current : now.id = claim.guest.id)
  rw [Table.find_replace, key]
  split
  · next same =>
    subst same
    cases current.symm.trans found
    exact ⟨now.claimed claim, by rw [current]; rfl, rfl, rfl⟩
  · exact ⟨row, found, rfl, rfl⟩

theorem addPrincipal_proper (proper : Proper state)
    (new : row.kind = .guest → row.userId = none ∧ (row.status = .active → row.claimedByUserId = none))
    (added : state.addPrincipal row = some after) : Proper after := by
  obtain ⟨-, rfl⟩ := addPrincipal_eq_some added
  intro id other found guest
  rcases find_insert_cases found with old | ⟨-, rfl⟩
  · exact proper id other old guest
  · exact new guest

theorem addOwner_proper (proper : Proper state) (kind : owner.row.kind ≠ .guest)
    (added : state.addOwner owner = some after) : Proper after := by
  cases owner with
  | existing row =>
    cases added
    exact proper
  | fresh row => exact addPrincipal_proper proper (fun guest => absurd guest kind) added

theorem claimPrincipal_proper (proper : Proper state) (active : claim.guest.status = .active)
    (claimed : state.claimPrincipal claim = some after) : Proper after := by
  obtain ⟨now, current, rfl⟩ := claimPrincipal_eq_some claimed
  intro id row found guest
  rcases find_claimed current found with ⟨-, rfl⟩ | ⟨-, old⟩
  · refine ⟨(proper _ now current guest).1, fun impossible => ?_⟩
    change written claim.guest.status .claimed now.status = .active at impossible
    rw [active, written_of_ne PrincipalStatus.noConfusion] at impossible
    cases impossible
  · exact proper id row old guest

theorem handOver_kept {guestId ownerId userId : String} {subject : String × String}
    (handed : state.handOver guestId ownerId userId subject = some after) :
    after.principals = state.principals ∧ after.bindings = state.bindings := by
  unfold State.handOver at handed
  dsimp only at handed
  split at handed
  · cases handed
  · cases handed
    exact ⟨rfl, rfl⟩

theorem Proper.of_principals (proper : Proper state) (same : after.principals = state.principals) : Proper after := by
  unfold Proper
  rw [same]
  exact proper

theorem Grows.of_principals {middle : State} (grown : Grows state middle) (same : after.principals = middle.principals) :
    Grows state after := by
  unfold Grows
  rw [same]
  exact grown

theorem commit_principals {change : Change} (proper : Proper state) (allowed : Allowed change state)
    (committed : commit change state = some after) : Proper after ∧ Grows state after := by
  cases change with
  | unchanged =>
    cases committed
    exact ⟨proper, Grows.refl state⟩
  | guest principal binding =>
    obtain ⟨middle, added, inserted⟩ := Option.bind_eq_some_iff.mp committed
    have kept : Proper middle := addPrincipal_proper proper (fun _ => ⟨allowed.2.1, fun _ => allowed.2.2⟩) added
    obtain ⟨-, rfl⟩ := addBinding_eq_some inserted
    exact ⟨kept, (addPrincipal_grows added).of_principals rfl⟩
  | bound owner binding =>
    obtain ⟨middle, added, inserted⟩ := Option.bind_eq_some_iff.mp committed
    have kept : Proper middle := addOwner_proper proper allowed added
    obtain ⟨-, rfl⟩ := addBinding_eq_some inserted
    exact ⟨kept, (addOwner_grows added).of_principals rfl⟩
  | refreshed loaded details =>
    obtain ⟨now, -, rfl⟩ := updateBinding_eq_some committed
    exact ⟨proper, Grows.refl state⟩
  | claimed claim details =>
    obtain ⟨first, added, rest⟩ := Option.bind_eq_some_iff.mp committed
    obtain ⟨second, claimed, rest⟩ := Option.bind_eq_some_iff.mp rest
    obtain ⟨third, updated, handed⟩ := Option.bind_eq_some_iff.mp rest
    obtain ⟨now, -, rfl⟩ := updateBinding_eq_some updated
    obtain ⟨principals, -⟩ := handOver_kept handed
    have kept : Proper second := claimPrincipal_proper (addOwner_proper proper allowed.owner.2.1 added) allowed.active claimed
    have grown : Grows state second := (addOwner_grows added).trans (claimPrincipal_grows claimed)
    exact ⟨kept.of_principals principals, grown.of_principals principals⟩

theorem database_reads (query : queries.Op) (drawn : Drawn) (state : State) : (database.select query drawn state).2 = state := by
  cases query <;> rfl

def growth : Growth database where
  invariant := Proper
  grows := Grows
  allowed := Allowed
  refl := Grows.refl
  trans := Grows.trans
  selects query drawn state proper := by
    rw [database_reads]
    exact ⟨proper, Grows.refl state⟩
  commits := commit_principals

theorem allowed_lasting (change : Change) : growth.Lasting (Allowed change) := by
  intro before after known grown
  cases change with
  | claimed claim details => exact Claim.Ready.grows known grown
  | unchanged | guest | bound | refreshed => exact known

theorem standing_lasting (row : Principal) : growth.Lasting (Standing row) := fun _ _ known grown => known.grows grown

/-! ### The statements -/

section Session
variable {pid : Nat} {request : Request} {fact : State → Prop}

theorem ask_spec {query : Query} {told : queries.Answer query → State → Prop} (settled : growth.Lasting fact)
    (lasting : ∀ answer, growth.Lasting (told answer))
    (tells : ∀ drawn state, Proper state → told (database.select query drawn state).1 state) :
    (growth.setting Request).Triple pid request fact (ask query) fun answer state => fact state ∧ told answer state := by
  apply Growth.query settled fun answer => settled.and (lasting answer)
  intro drawn state proper known
  have same : (database.select (show queries.Op from query) drawn state).2 = state := database_reads query drawn state
  show fact (database.select (show queries.Op from query) drawn state).2 ∧
    told _ (database.select (show queries.Op from query) drawn state).2
  rw [same]
  exact ⟨known, tells drawn state proper⟩

theorem ask_any (query : Query) (settled : growth.Lasting fact) :
    (growth.setting Request).Triple pid request fact (ask query) fun _ => fact := by
  apply Triple.weaken (ask_spec settled (fun _ => Growth.Lasting.const growth True) fun _ _ _ => trivial)
  · exact fun _ known => known
  · exact fun _ _ known => known.1

theorem principalOf_spec (kind : PrincipalKind) (userId : String) (other : kind ≠ .guest) (settled : growth.Lasting fact) :
    (growth.setting Request).Triple pid request fact (ask (.principalOf kind userId)) fun (found : Option Principal) state =>
      fact state ∧ ∀ row, found = some row → (Owner.existing row).Of userId state := by
  refine @ask_spec pid request fact (.principalOf kind userId) _ settled ?_ ?_
  · intro found before after known grown row same
    exact (known row same).grows grown
  · intro drawn state _ row found
    obtain ⟨member, rightKind, user, -⟩ := Table.first_spec found
    exact ⟨user, rightKind ▸ other, row, Table.find_of_mem member, rfl, rfl⟩

theorem userPrincipal_spec (userId : String) (settled : growth.Lasting fact) :
    (growth.setting Request).Triple pid request fact (userPrincipal userId) fun owner state =>
      fact state ∧ owner.Of userId state := by
  have lasting : ∀ owner : Owner, growth.Lasting fun state => fact state ∧ owner.Of userId state :=
    fun _ => settled.and fun _ _ known grown => known.grows grown
  apply Triple.bind _ (principalOf_spec .user userId PrincipalKind.noConfusion settled)
  intro (row : Option Principal)
  cases row with
  | some row => exact Triple.pure (lasting _) fun state known => ⟨known.1, known.2 row rfl⟩
  | none =>
    apply Triple.bind fun (found : Option AppUser) state => fact state ∧ ∀ user, found = some user → user.id = userId
    · apply Triple.weaken (@ask_spec pid request fact (.user userId)
        (fun (found : Option AppUser) _ => ∀ user, found = some user → user.id = userId) settled
        (fun _ => Growth.Lasting.const growth _) ?_) (fun _ known => known.1) fun _ _ known => known
      intro drawn state _ user found
      simpa using List.find?_some found
    · intro (found : Option AppUser)
      split
      · exact Triple.raise
      · next user shown =>
        obtain ⟨rfl, -⟩ := Option.filter_eq_some_iff.mp shown
        apply Triple.bind _ (ask_any .uid (settled.and (Growth.Lasting.const growth _)))
        intro (id : String)
        refine Triple.pure (lasting _) fun state known => ⟨known.1, ?_, PrincipalKind.noConfusion, trivial⟩
        exact congrArg some (known.2 user rfl)

theorem identityPrincipal_spec (userId : String) (settled : growth.Lasting fact) :
    (growth.setting Request).Triple pid request fact (identityPrincipal userId) fun owner state =>
      fact state ∧ owner.Of userId state := by
  apply Triple.bind _ (principalOf_spec .human userId PrincipalKind.noConfusion settled)
  intro (row : Option Principal)
  cases row with
  | some row =>
    refine Triple.pure (settled.and fun _ _ known grown => ?_) fun state known => ⟨known.1, known.2 row rfl⟩
    exact Owner.Of.grows known grown
  | none => exact Triple.weaken (userPrincipal_spec userId settled) (fun _ known => known.1) fun _ _ known => known

def Found (row : Principal) (state : State) : Prop :=
  (row.kind = .guest → row.status = .active → row.claimedByUserId = none) ∧ Standing row state

theorem found_lasting (row : Principal) : growth.Lasting (Found row) :=
  (Growth.Lasting.const growth _).and (standing_lasting row)

theorem principal_spec (id : String) (settled : growth.Lasting fact) :
    (growth.setting Request).Triple pid request fact (ask (.principal id)) fun (found : Option Principal) state =>
      fact state ∧ ∀ row, found = some row → row.id = id ∧ Found row state := by
  refine @ask_spec pid request fact (.principal id) _ settled ?_ ?_
  · exact fun found before after known grown row same => ⟨(known row same).1, found_lasting row _ _ (known row same).2 grown⟩
  · intro drawn state proper row found
    have key : row.id = id := Table.find_key found
    exact ⟨key, fun guest => (proper id row found guest).2, row, key ▸ found, rfl, rfl⟩

theorem claimLoaded_spec (guest : Principal) (loaded : Option ExternalPrincipalBinding)
    (userId provider providerSubject : String) (claimable : guest.claimable = true) :
    (growth.setting Request).Triple pid request (Found guest) (claimLoaded guest loaded userId provider providerSubject)
      fun claim => claim.Ready := by
  obtain ⟨kind, active⟩ := of_decide_eq_true claimable
  apply Triple.bind _ (identityPrincipal_spec userId (found_lasting guest))
  intro owner
  have settled : growth.Lasting fun state => Found guest state ∧ owner.Of userId state :=
    (found_lasting guest).and fun _ _ known grown => known.grows grown
  apply Triple.bind _ (ask_any (.binding provider providerSubject) settled)
  intro (found : Option ExternalPrincipalBinding)
  split
  · exact Triple.raise
  · next binding shown =>
    obtain ⟨-, own⟩ := Option.filter_eq_some_iff.mp shown
    apply Triple.bind _ (ask_any .utcnow settled)
    intro (claimedAt : Int)
    refine Triple.pure (fun _ _ known grown => Claim.Ready.grows known grown) ?_
    rintro state ⟨⟨unclaimed, standing⟩, known⟩
    exact ⟨kind, active, unclaimed kind active, standing, of_decide_eq_true own, known⟩

theorem externalPrincipal_spec (provider providerSubject : String) :
    (growth.setting Request).Triple pid request (fun _ => True) (externalPrincipal provider providerSubject)
      fun found state => ∀ principal binding, found = some (principal, binding) → Found principal state := by
  apply Triple.bind _ (ask_any (.binding provider providerSubject) (Growth.Lasting.const growth True))
  intro (binding : Option ExternalPrincipalBinding)
  cases binding with
  | none => exact Triple.pure (fun _ _ _ _ _ _ impossible => by cases impossible) fun _ _ _ _ impossible => by cases impossible
  | some binding =>
    apply Triple.bind _ (principal_spec binding.principalId (Growth.Lasting.const growth True))
    intro (principal : Option Principal)
    refine Triple.pure ?_ ?_
    · exact fun before after known grown row other same => found_lasting row _ _ (known row other same) grown
    · intro state known row other same
      obtain ⟨_, found, same⟩ := Option.map_eq_some_iff.mp same
      cases same
      exact (known.2 row found).2

theorem known_lasting (found : Option (Principal × ExternalPrincipalBinding)) :
    growth.Lasting fun state => ∀ principal binding, found = some (principal, binding) → Found principal state :=
  fun _ _ known grown principal binding same => found_lasting principal _ _ (known principal binding same) grown

theorem bindExternalIdentity_spec (userId provider providerSubject : String) (displayName metadataJson : Option String) :
    (growth.setting Request).Triple pid request (fun _ => True)
      (bindExternalIdentity userId provider providerSubject displayName metadataJson) Allowed := by
  apply Triple.bind _ (externalPrincipal_spec provider providerSubject)
  intro found
  cases found with
  | some existing =>
    obtain ⟨principal, binding⟩ := existing
    dsimp only
    split
    · next claimable =>
      apply Triple.bind _ (Triple.weaken (claimLoaded_spec principal (some binding) userId provider providerSubject claimable)
        (fun _ known => known principal binding rfl) fun _ _ known => known)
      intro claim
      have lasting : growth.Lasting claim.Ready := fun _ _ known grown => known.grows grown
      apply Triple.bind _ (ask_any (.binding provider providerSubject) lasting)
      intro (rebound : Option ExternalPrincipalBinding)
      cases rebound with
      | none => exact Triple.raise
      | some row => exact Triple.pure (allowed_lasting _) fun _ ready => ready
    · split
      · exact Triple.raise
      · exact Triple.pure (allowed_lasting _) fun _ _ => trivial
  | none =>
    apply Triple.bind _ (identityPrincipal_spec userId (known_lasting none))
    intro owner
    exact Triple.pure (allowed_lasting _) fun _ known => known.2.2.1

theorem resolveOrCreateGuest_spec (provider providerSubject : String) (displayName : Option String) (origin : String) :
    (growth.setting Request).Triple pid request (fun _ => True)
      (resolveOrCreateGuest provider providerSubject displayName origin) Allowed := by
  apply Triple.bind _ (externalPrincipal_spec provider providerSubject)
  intro found
  cases found with
  | some existing => exact Triple.pure (allowed_lasting _) fun _ _ => trivial
  | none =>
    apply Triple.bind _ (ask_any .utcnow (known_lasting none))
    intro (now : Int)
    apply Triple.bind _ (ask_any .uid (known_lasting none))
    intro (id : String)
    exact Triple.pure (allowed_lasting _) fun _ _ => ⟨rfl, rfl, rfl⟩

theorem claimGuest_spec (guestPrincipalId userId provider providerSubject : String) :
    (growth.setting Request).Triple pid request (fun _ => True)
      (claimGuest guestPrincipalId userId provider providerSubject) fun claim => claim.Ready := by
  apply Triple.bind _ (principal_spec guestPrincipalId (Growth.Lasting.const growth True))
  intro (found : Option Principal)
  split
  · exact Triple.raise
  · next guest shown =>
    obtain ⟨rfl, claimable⟩ := Option.filter_eq_some_iff.mp shown
    exact Triple.weaken (claimLoaded_spec guest none userId provider providerSubject claimable)
      (fun _ known => (known.2 guest rfl).2) fun _ _ known => known

theorem answer_spec (request' : Request) :
    (growth.setting Request).Triple pid request (fun _ => True) (answer request') Allowed := by
  cases request' with
  | resolveOrCreateGuest provider providerSubject displayName origin =>
    exact resolveOrCreateGuest_spec provider providerSubject displayName origin
  | bindExternalIdentity userId provider providerSubject displayName metadataJson =>
    exact bindExternalIdentity_spec userId provider providerSubject displayName metadataJson
  | claimGuest guestPrincipalId userId provider providerSubject =>
    apply Triple.bind _ (claimGuest_spec guestPrincipalId userId provider providerSubject)
    intro claim
    exact Triple.pure (allowed_lasting _) fun _ ready => ready

theorem main_spec (pid : Nat) (request : Request) :
    (growth.setting Request).Triple pid request (fun _ => True) (main pid request) fun _ _ => True := by
  refine Growth.transaction (fun _ _ => True) allowed_lasting (fun _ => Growth.Lasting.const growth True) ?_
    fun _ _ _ _ _ _ => trivial
  apply Triple.bind _ (answer_spec request)
  intro change
  exact Triple.pure ((allowed_lasting change).and (Growth.Lasting.const growth True)) fun _ allowed => ⟨allowed, trivial⟩

end Session

end Operly.Security.Principals
