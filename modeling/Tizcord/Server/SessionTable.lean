/-
This file compares the table of connections with the authentication events on
record: the table says that a connection is that of a user exactly when the record
does, and no two connections are of one user.
-/

import Tizcord.Server.Administration
import Tizcord.Server.AuthChanges

namespace Tizcord

open CModel

/-! ### Sessions and accounts by the log -/

/-- `crypt` gives a hash back for the password it was made from, and for no other. -/
def Env.CryptIsFaithful (env : Env) : Prop :=
  ∀ password setting hash, env.crypt password setting = some hash →
    ∀ phrase, env.crypt phrase hash = some hash ↔ phrase = password

/-- The identity of a connection is that of a user. -/
def HasIdentity (identities : List Identity) (fd userId : Int) : Prop :=
  ∃ identity ∈ identities, identity.socketFd = fd ∧ identity.isAuthenticated = true ∧
    identity.id = userId

/-- The table of connections and the accounts are what the events make of them: a connection is
that of the user whose session it has, with the name of the account, and no two are of one user;
and the accounts are those that were registered, with a hash of the password. -/
structure SessionsAgree (env : Env) (identities : List Identity) (accounts : List Account)
    (events : List SessionEvent) : Prop where
  sessions : ∀ fd userId, HasIdentity identities fd userId ↔ HasSession events fd userId
  named : ∀ identity ∈ identities, identity.isAuthenticated = true →
    ∃ account ∈ accounts, account.userId = identity.id ∧ account.username = identity.username
  alone : ∀ first ∈ identities, ∀ second ∈ identities, first.isAuthenticated = true →
    second.isAuthenticated = true → first.id = second.id → first.socketFd = second.socketFd
  positive : ∀ identity ∈ identities, identity.isAuthenticated = true → 0 < identity.socketFd
  known : ∀ account ∈ accounts, ∃ password setting,
    Registered events account.userId account.username password ∧
      env.crypt password setting = some account.passwordHash
  registered : ∀ userId username password, Registered events userId username password →
    ∃ account ∈ accounts, (account.userId = userId ∧ account.username = username) ∧
      ∃ setting, env.crypt password setting = some account.passwordHash

section Agreement

variable {env : Env} {identities : List Identity} {accounts : List Account}
  {events : List SessionEvent} {fd userId own created : Int} {username password hash : Text}

theorem hasIdentity_map {change : Identity → Identity} :
    HasIdentity (identities.map change) fd userId ↔ ∃ identity ∈ identities,
      (change identity).socketFd = fd ∧ (change identity).isAuthenticated = true ∧
        (change identity).id = userId := by
  simp [HasIdentity]

theorem hasIdentity_linked (present : own ∈ identities.map Identity.socketFd) :
    HasIdentity (changeIdentity own (.linked created username) identities) fd userId ↔
      fd = own ∧ userId = created ∨ fd ≠ own ∧ HasIdentity identities fd userId := by
  rw [changeIdentity, hasIdentity_map]
  constructor
  · rintro ⟨identity, member, here, authenticated, is⟩
    by_cases same : identity.socketFd = own
    · rw [if_pos same] at here is
      exact Or.inl ⟨here.symm.trans same, is.symm⟩
    · rw [if_neg same] at here authenticated is
      exact Or.inr ⟨here ▸ same, identity, member, here, authenticated, is⟩
  · rintro (⟨rfl, rfl⟩ | ⟨other, identity, member, rfl, authenticated, is⟩)
    · obtain ⟨identity, member, rfl⟩ := List.mem_map.mp present
      refine ⟨identity, member, ?_⟩
      rw [if_pos rfl]
      exact ⟨rfl, rfl, rfl⟩
    · refine ⟨identity, member, ?_⟩
      rw [if_neg other]
      exact ⟨rfl, authenticated, is⟩

theorem hasIdentity_cleared :
    HasIdentity (changeIdentity own .cleared identities) fd userId ↔
      fd ≠ own ∧ HasIdentity identities fd userId := by
  rw [changeIdentity, hasIdentity_map]
  constructor
  · rintro ⟨identity, member, here, authenticated, is⟩
    by_cases same : identity.socketFd = own
    · rw [if_pos same] at authenticated
      cases authenticated
    · rw [if_neg same] at here authenticated is
      exact ⟨here ▸ same, identity, member, here, authenticated, is⟩
  · rintro ⟨other, identity, member, rfl, authenticated, is⟩
    refine ⟨identity, member, ?_⟩
    rw [if_neg other]
    exact ⟨rfl, authenticated, is⟩

theorem hasIdentity_revoked (positive : ∀ identity ∈ identities,
      identity.isAuthenticated = true → 0 < identity.socketFd) :
    HasIdentity (revokeIdentities own created identities) fd userId ↔
      ¬ (fd ≠ own ∧ userId = created) ∧ HasIdentity identities fd userId := by
  rw [revokeIdentities, hasIdentity_map]
  constructor
  · rintro ⟨identity, member, here, authenticated, is⟩
    by_cases revoked : identity.Revoked own created
    · rw [if_pos revoked] at authenticated
      cases authenticated
    · rw [if_neg revoked] at here authenticated is
      refine ⟨fun apart => revoked ?_, identity, member, here, authenticated, is⟩
      exact ⟨⟨positive identity member authenticated, here ▸ apart.1⟩, authenticated,
        is.trans apart.2⟩
  · rintro ⟨kept, identity, member, rfl, authenticated, rfl⟩
    have stays : ¬ identity.Revoked own created := fun revoked =>
      kept ⟨revoked.1.2, revoked.2.2⟩
    refine ⟨identity, member, ?_⟩
    rw [if_neg stays]
    exact ⟨rfl, authenticated, rfl⟩

/-- What may happen to a table without touching the sessions of others: all authenticated
identities were there before. -/
theorem SessionsAgree.of_fewer {fewer : List Identity} {later : List SessionEvent}
    (agree : SessionsAgree env identities accounts events)
    (fewer' : ∀ identity ∈ fewer, identity.isAuthenticated = true → identity ∈ identities)
    (sessions : ∀ fd userId, HasIdentity fewer fd userId ↔ HasSession later fd userId)
    (same : ∀ userId username password,
      Registered later userId username password ↔ Registered events userId username password) :
    SessionsAgree env fewer accounts later where
  sessions := sessions
  named identity member authenticated :=
    agree.named identity (fewer' identity member authenticated) authenticated
  alone first firstMember second secondMember firstIs secondIs :=
    agree.alone first (fewer' first firstMember firstIs) second
      (fewer' second secondMember secondIs) firstIs secondIs
  positive identity member authenticated :=
    agree.positive identity (fewer' identity member authenticated) authenticated
  known account member := by
    obtain ⟨password, setting, registered, hashed⟩ := agree.known account member
    exact ⟨password, setting, (same _ _ _).mpr registered, hashed⟩
  registered userId username password registered :=
    agree.registered userId username password ((same _ _ _).mp registered)

theorem registered_append {event : SessionEvent}
    (other : ∀ own created username password, event ≠ .registered own created username password) :
    Registered (events ++ [event]) userId username password ↔
      Registered events userId username password := by
  constructor
  · rintro ⟨fd, member⟩
    rcases List.mem_append.mp member with early | last
    · exact ⟨fd, early⟩
    · exact absurd (List.mem_singleton.mp last).symm (other _ _ _ _)
  · rintro ⟨fd, member⟩
    exact ⟨fd, List.mem_append_left _ member⟩

theorem SessionsAgree.logout (agree : SessionsAgree env identities accounts events) :
    SessionsAgree env (changeIdentity own .cleared identities) accounts
      (events ++ [.logout own]) := by
  refine agree.of_fewer (fun identity => mem_cleared) (fun fd userId => ?_) fun _ _ _ =>
    registered_append fun _ _ _ _ => SessionEvent.noConfusion
  rw [hasIdentity_cleared, hasSession_logout, agree.sessions]

theorem SessionsAgree.started (agree : SessionsAgree env identities accounts events) :
    SessionsAgree env [] accounts (events ++ [.started]) := by
  refine agree.of_fewer (fun _ member => absurd member List.not_mem_nil) (fun fd userId => ?_)
    fun _ _ _ => registered_append fun _ _ _ _ => SessionEvent.noConfusion
  exact iff_of_false (fun ⟨_, member, _⟩ => absurd member List.not_mem_nil)
    not_hasSession_started

theorem SessionsAgree.closed {index : Nat} {identity : Identity}
    (agree : SessionsAgree env identities accounts events)
    (distinct : (identities.map Identity.socketFd).Nodup) (is : identities[index]? = some identity) :
    SessionsAgree env (identities.eraseIdx index) accounts
      (events ++ [.closed identity.socketFd]) := by
  refine agree.of_fewer (fun _ member _ => List.mem_of_mem_eraseIdx member) (fun fd userId => ?_)
    fun _ _ _ => registered_append fun _ _ _ _ => SessionEvent.noConfusion
  rw [hasSession_closed, ← agree.sessions]
  have fdAt : (identities.map Identity.socketFd)[index]? = some identity.socketFd := by
    rw [List.getElem?_map, is]
    rfl
  constructor
  · rintro ⟨other, member, rfl, rest⟩
    obtain ⟨place, elsewhere, there⟩ := List.mem_eraseIdx_iff_getElem?.mp member
    refine ⟨fun same => elsewhere ?_, other, List.mem_of_getElem? there, rfl, rest⟩
    have otherAt : (identities.map Identity.socketFd)[place]? = some identity.socketFd := by
      rw [List.getElem?_map, there, ← same]
      rfl
    exact (List.getElem?_inj (List.getElem?_eq_some_iff.mp otherAt).1 distinct).mp
      (otherAt.trans fdAt.symm)
  · rintro ⟨different, other, member, rfl, rest⟩
    refine ⟨other, List.mem_eraseIdx_iff_getElem?.mpr ?_, rfl, rest⟩
    obtain ⟨place, there⟩ := List.mem_iff_getElem?.mp member
    refine ⟨place, ?_, there⟩
    rintro rfl
    exact different (congrArg Identity.socketFd (Option.some.inj (there.symm.trans is)))

theorem SessionsAgree.login_wrong (agree : SessionsAgree env identities accounts events)
    (faithful : env.CryptIsFaithful)
    (wrong : ∀ account ∈ accounts, account.username = username →
      env.crypt password account.passwordHash ≠ some account.passwordHash) :
    SessionsAgree env identities accounts (events ++ [.login own username password]) := by
  refine agree.of_fewer (fun _ member _ => member) (fun fd userId => ?_) fun _ _ _ =>
    registered_append fun _ _ _ _ => SessionEvent.noConfusion
  rw [hasSession_login_wrong, agree.sessions]
  intro other registered
  obtain ⟨account, member, ⟨-, named⟩, setting, hashed⟩ := agree.registered _ _ _ registered
  exact wrong account member named ((faithful _ _ _ hashed _).mpr rfl)

/-- The users who are registered with the name and the password of an account. -/
theorem SessionsAgree.registered_iff {account : Account}
    (agree : SessionsAgree env identities accounts events) (faithful : env.CryptIsFaithful)
    (unique : (accounts.map Account.username).Nodup) (known : account ∈ accounts)
    (hashed : env.crypt password account.passwordHash = some account.passwordHash) (userId : Int) :
    Registered events userId account.username password ↔ userId = account.userId := by
  constructor
  · intro registered
    obtain ⟨other, member, ⟨rfl, named⟩, -⟩ := agree.registered _ _ _ registered
    rw [List.inj_on_of_nodup_map unique member known named]
  · rintro rfl
    obtain ⟨word, setting, registered, made⟩ := agree.known account known
    rw [(faithful _ _ _ made _).mp hashed]
    exact registered

/-- A connection becomes that of a user whom no other connection is of. -/
theorem SessionsAgree.linked {others : List Identity} {later : List SessionEvent}
    {accounts' : List Account}
    (agree : SessionsAgree env identities accounts events)
    (others' : ∀ identity ∈ others, identity.isAuthenticated = true →
      identity ∈ identities ∧ (identity.socketFd ≠ own → identity.id ≠ created))
    (grown : accounts ⊆ accounts')
    (own' : ∃ account ∈ accounts', account.userId = created ∧ account.username = username)
    (short : username.bytes.length < maxNameLen) (positive : 0 < own)
    (sessions : ∀ fd userId, HasIdentity (changeIdentity own (.linked created username) others) fd
      userId ↔ HasSession later fd userId)
    (known : ∀ account ∈ accounts', ∃ password setting,
      Registered later account.userId account.username password ∧
        env.crypt password setting = some account.passwordHash)
    (registered : ∀ userId username password, Registered later userId username password →
      ∃ account ∈ accounts', (account.userId = userId ∧ account.username = username) ∧
        ∃ setting, env.crypt password setting = some account.passwordHash) :
    SessionsAgree env (changeIdentity own (.linked created username) others) accounts' later where
  sessions := sessions
  known := known
  registered := registered
  named identity member authenticated := by
    rcases mem_linked member with ⟨old, -⟩ | ⟨old, -, -, rfl⟩
    · obtain ⟨account, present, is⟩ :=
        agree.named identity (others' identity old authenticated).1 authenticated
      exact ⟨account, grown present, is⟩
    · obtain ⟨account, present, is, named⟩ := own'
      refine ⟨account, present, is, named.trans ?_⟩
      exact (Text.take_of_length_le (Nat.le_sub_one_of_lt short)).symm
  alone first firstMember second secondMember firstIs secondIs same := by
    rcases mem_linked firstMember with ⟨firstOld, firstElse⟩ | ⟨firstOld, -, firstOwn, rfl⟩
    · rcases mem_linked secondMember with ⟨secondOld, -⟩ | ⟨_, -, -, rfl⟩
      · exact agree.alone first (others' first firstOld firstIs).1 second
          (others' second secondOld secondIs).1 firstIs secondIs same
      · exact absurd same ((others' first firstOld firstIs).2 firstElse)
    · rcases mem_linked secondMember with ⟨secondOld, secondElse⟩ | ⟨_, -, secondOwn, rfl⟩
      · exact absurd same.symm ((others' second secondOld secondIs).2 secondElse)
      · exact firstOwn.trans secondOwn.symm
  positive identity member authenticated := by
    rcases mem_linked member with ⟨old, -⟩ | ⟨old, -, here, rfl⟩
    · exact agree.positive identity (others' identity old authenticated).1 authenticated
    · exact here ▸ positive

theorem SessionsAgree.login {account : Account}
    (agree : SessionsAgree env identities accounts events) (faithful : env.CryptIsFaithful)
    (unique : (accounts.map Account.username).Nodup) (known : account ∈ accounts)
    (named : account.username = username) (short : username.bytes.length < maxNameLen)
    (hashed : env.crypt password account.passwordHash = some account.passwordHash)
    (present : own ∈ identities.map Identity.socketFd) (positive : 0 < own) :
    SessionsAgree env (changeIdentity own (.linked account.userId username)
      (revokeIdentities own account.userId identities)) accounts
      (events ++ [.login own username password]) := by
  subst named
  have same : ∀ userId name word, Registered (events ++ [.login own account.username password])
      userId name word ↔ Registered events userId name word := fun _ _ _ =>
    registered_append fun _ _ _ _ => SessionEvent.noConfusion
  have presentStill : own ∈ (revokeIdentities own account.userId identities).map
      Identity.socketFd := by
    rw [fds_revokeIdentities]
    exact present
  refine agree.linked (fun identity member authenticated => ?_) (List.Subset.refl _)
    ⟨account, known, rfl, rfl⟩ short positive (fun fd userId => ?_) (fun other member => ?_)
    fun userId name word registered => agree.registered _ _ _ ((same _ _ _).mp registered)
  · obtain ⟨old, kept⟩ := mem_revoked member authenticated
    exact ⟨old, fun different is =>
      kept ⟨⟨agree.positive identity old authenticated, different⟩, authenticated, is⟩⟩
  · rw [hasIdentity_linked presentStill, hasIdentity_revoked agree.positive,
      hasSession_login (agree.registered_iff faithful unique known hashed), agree.sessions]
    tauto
  · obtain ⟨word, setting, registered, made⟩ := agree.known other member
    exact ⟨word, setting, (same _ _ _).mpr registered, made⟩

theorem SessionsAgree.register (agree : SessionsAgree env identities accounts events)
    (fresh : created ∉ accounts.map Account.userId) (short : username.bytes.length < maxNameLen)
    (hashed : ∃ setting, env.crypt password setting = some hash)
    (present : own ∈ identities.map Identity.socketFd) (positive : 0 < own) :
    SessionsAgree env (changeIdentity own (.linked created username) identities)
      (accounts ++ [⟨created, username, hash⟩])
      (events ++ [.registered own created username password]) := by
  refine agree.linked (fun identity member authenticated => ⟨member, fun _ is => ?_⟩)
    (List.subset_append_left _ _)
    ⟨_, List.mem_append_right _ List.mem_cons_self, rfl, rfl⟩ short positive
    (fun fd userId => ?_) (fun account member => ?_) fun userId name word registered => ?_
  · obtain ⟨account, known, own', -⟩ := agree.named identity member authenticated
    exact fresh (List.mem_map.mpr ⟨account, known, own'.trans is⟩)
  · rw [hasIdentity_linked present, hasSession_registered, agree.sessions]
  · rcases List.mem_append.mp member with old | new
    · obtain ⟨word, setting, ⟨fd, registered⟩, made⟩ := agree.known account old
      exact ⟨word, setting, ⟨fd, List.mem_append_left _ registered⟩, made⟩
    · rw [List.mem_singleton.mp new]
      obtain ⟨setting, made⟩ := hashed
      exact ⟨password, setting, ⟨own, List.mem_append_right _ List.mem_cons_self⟩, made⟩
  · obtain ⟨fd, logged⟩ := registered
    rcases List.mem_append.mp logged with old | new
    · obtain ⟨account, member, rest⟩ := agree.registered _ _ _ ⟨fd, old⟩
      exact ⟨account, List.mem_append_left _ member, rest⟩
    · cases List.mem_singleton.mp new
      exact ⟨_, List.mem_append_right _ List.mem_cons_self, ⟨rfl, rfl⟩, hashed⟩

/-- A new connection is nobody's. -/
theorem SessionsAgree.accepted (agree : SessionsAgree env identities accounts events) (fd : Int) :
    SessionsAgree env (identities ++ [⟨fd, false, 0, Text.empty⟩]) accounts events := by
  have old : ∀ identity ∈ identities ++ [⟨fd, false, 0, Text.empty⟩],
      identity.isAuthenticated = true → identity ∈ identities := by
    intro identity member authenticated
    rcases List.mem_append.mp member with before | new
    · exact before
    · rw [List.mem_singleton.mp new] at authenticated
      cases authenticated
  refine agree.of_fewer old (fun other userId => ?_) fun _ _ _ => Iff.rfl
  rw [← agree.sessions]
  constructor
  · rintro ⟨identity, member, here, authenticated, is⟩
    exact ⟨identity, old identity member authenticated, here, authenticated, is⟩
  · rintro ⟨identity, member, rest⟩
    exact ⟨identity, List.mem_append_left _ member, rest⟩

end Agreement

/-! ### Runs -/

/-- The names and passwords of registrations and logins end inside their fields. -/
def PlainCredentials (packet : TizcordPacket) : Prop :=
  packet.request = some (.auth .register) ∨ packet.request = some (.auth .login) →
    (0 : UInt8) ∈ packet.authUsernameField ∧ (0 : UInt8) ∈ packet.authPasswordField

instance (packet : TizcordPacket) : Decidable (PlainCredentials packet) :=
  inferInstanceAs (Decidable (_ ∨ _ → _ ∧ _))

section Runs

variable {env : Env} {process : Process} {index : Nat} {packet : TizcordPacket}

theorem authUsername_of_terminated (terminated : (0 : UInt8) ∈ packet.authUsernameField)
    (beyond : List UInt8) : packet.authUsername beyond = packet.authUsername [] ∧
      (packet.authUsername []).bytes.length < maxNameLen := by
  have read : ∀ beyond, packet.authUsername beyond = cString packet.authUsernameField :=
    fun beyond => Image.text_of_terminated _ _ _ beyond (by decide) terminated
  refine ⟨(read beyond).trans (read []).symm, ?_⟩
  rw [read]
  have short := length_cString_lt terminated
  rwa [TizcordPacket.authUsernameField, Image.length_slice] at short

theorem authPassword_of_terminated (terminated : (0 : UInt8) ∈ packet.authPasswordField)
    (beyond : List UInt8) : packet.authPassword beyond = packet.authPassword [] := by
  have read : ∀ beyond, packet.authPassword beyond = cString packet.authPasswordField :=
    fun beyond => Image.text_of_terminated _ _ _ beyond (by decide) terminated
  exact (read beyond).trans (read []).symm

/-- The sessions and accounts of a process are what its record says. -/
abbrev Process.SessionsAgree (env : Env) (process : Process) : Prop :=
  Tizcord.SessionsAgree env process.ctx.identities process.ctx.db.accounts
    (sessionLog process.trace).events

theorem Process.SessionsAgree.of_quiet {before after : Process} (quiet : Quiet before after)
    (agree : before.SessionsAgree env) : after.SessionsAgree env := by
  rw [Process.SessionsAgree, quiet.identities, quiet.accounts, quiet.log]
  exact agree

theorem sessionsAgree_nil : Tizcord.SessionsAgree env [] [] [] where
  sessions _ _ := iff_of_false (fun ⟨_, member, _⟩ => absurd member List.not_mem_nil) not_since_nil
  named _ member := absurd member List.not_mem_nil
  alone _ member := absurd member List.not_mem_nil
  positive _ member := absurd member List.not_mem_nil
  known _ member := absurd member List.not_mem_nil
  registered := by
    rintro _ _ _ ⟨_, member⟩
    exact absurd member List.not_mem_nil

/-- What handling a packet changes keeps sessions and accounts as the record says. -/
theorem SessionChange.sessionsAgree {fd : Int} {beyond : List UInt8} {begun after : Process}
    {events : List SessionEvent} (change : SessionChange env fd beyond packet begun after)
    (reliable : env.Reliable) (faithful : env.CryptIsFaithful) (plain : PlainCredentials packet)
    (present : fd ∈ begun.ctx.identities.map Identity.socketFd) (ready : 0 < fd)
    (begins : sessionLog begun.trace =
      ⟨some (fd, packet), events ++ requestEvents fd packet packet.request⟩)
    (agree : Tizcord.SessionsAgree env begun.ctx.identities begun.ctx.db.accounts events) :
    after.SessionsAgree env := by
  have quietly : Quiet begun after → requestEvents fd packet packet.request = [] →
      after.SessionsAgree env := by
    intro quiet none'
    refine Process.SessionsAgree.of_quiet quiet ?_
    rw [Process.SessionsAgree, begins, none', List.append_nil]
    exact agree
  cases change with
  | other asked quiet =>
    refine quietly quiet ?_
    cases request : packet.request with
    | none => rfl
    | some request' =>
      cases request' with
      | auth action => exact absurd request (asked action)
      | _ => rfl
  | refused asked quiet =>
    refine quietly quiet ?_
    rw [asked]
    rfl
  | @registered asked userId hash registers =>
    obtain ⟨name, password⟩ := plain (Or.inl asked)
    have nameSame := authUsername_of_terminated name beyond
    have passwordSame := authPassword_of_terminated password beyond
    rw [nameSame.1, passwordSame] at registers
    have none' : requestEvents fd packet packet.request = [] := by
      rw [asked]
      rfl
    have fresh := registers.fresh
    rw [Tables.userIds_eq] at fresh
    rw [Process.SessionsAgree, registers.identities, registers.accounts, registers.events, begins,
      none', List.append_nil]
    exact agree.register fresh nameSame.2 registers.hashed present ready
  | wrong asked quiet unknown =>
    obtain ⟨name, password⟩ := plain (Or.inr asked)
    rw [(authUsername_of_terminated name beyond).1,
      authPassword_of_terminated password beyond] at unknown
    refine Process.SessionsAgree.of_quiet quiet ?_
    rw [Process.SessionsAgree, begins, asked]
    exact agree.login_wrong faithful (unknown reliable)
  | @loggedIn asked account logsIn =>
    obtain ⟨name, password⟩ := plain (Or.inr asked)
    rw [(authUsername_of_terminated name beyond).1,
      authPassword_of_terminated password beyond] at logsIn
    have unique : (begun.ctx.db.accounts.map Account.username).Nodup := by
      rw [Tables.accounts, List.map_map]
      exact begun.ctx.db.integrity.users_username
    rw [Process.SessionsAgree, logsIn.identities, logsIn.accounts, logsIn.log, begins, asked,
      requestEvents]
    exact agree.login faithful unique logsIn.known logsIn.named
      (authUsername_of_terminated name []).2 logsIn.hashed present ready
  | loggedOut asked logsOut =>
    rw [Process.SessionsAgree, logsOut.identities, logsOut.accounts, logsOut.log, begins, asked]
    exact agree.logout

/-- The handling of a packet keeps sessions and accounts as the record says. -/
theorem processClientPacket_sessionsAgree (reliable : env.Reliable)
    (faithful : env.CryptIsFaithful) (plain : PlainCredentials packet)
    (distinct : process.ctx.fds.Nodup) (valid : process.ctx.Valid)
    (inside : index < process.ctx.clients.length) (ready : 0 < (process.clientAt index).socketFd)
    (agree : process.SessionsAgree env) :
    (processClientPacket env index packet process).SessionsAgree env := by
  refine (processClientPacket_changes env index packet distinct valid).sessionsAgree reliable
    faithful plain ?_ ready (sessionLog_append_singleton process.trace _) agree
  exact List.mem_map.mpr ⟨_, mem_identities.mpr ⟨_, clientAt_mem_of_lt inside, rfl⟩, rfl⟩

/-- In every reachable state the sessions and accounts are what the record says. -/
theorem ReachableWhen.sessionsAgree {allowed : ServerContext → Int → TizcordPacket → Prop}
    {serverFd : Int} {machine : Machine} (reliable : env.Reliable)
    (faithful : env.CryptIsFaithful)
    (plain : ∀ ctx fd packet, allowed ctx fd packet → PlainCredentials packet)
    (reachable : ReachableWhen env allowed serverFd machine) :
    machine.loop.process.SessionsAgree env := by
  have invariant : RunInvariant env allowed serverFd fun process => process.SessionsAgree env :=
    { started := sessionsAgree_nil.started
      restarted := fun process newFd agree => by
        rw [Process.SessionsAgree, startLoop, sessionLog_append_singleton]
        exact agree.started
      rejected := fun process fd agree => .of_quiet (quiet_log (fun _ => rfl) process) agree
      accepted := fun loop fd socket _ _ _ agree => by
        have identities : (loop.accepted fd socket).process.ctx.identities =
            loop.process.ctx.identities ++ [⟨fd, false, 0, Text.empty⟩] := List.map_append
        have log : sessionLog (loop.accepted fd socket).process.trace =
          sessionLog loop.process.trace := sessionLog_append_singleton _ _
        rw [Process.SessionsAgree, identities, log]
        exact agree.accepted fd
      received := fun loop index _ agree => .of_quiet (receiveClient_quiet index loop) agree
      closed := fun loop index consistent inside _ agree => by
        refine .of_quiet (disconnectClient_notifies env inside).quiet ?_
        have here : loop.process.ctx.identities[index]? =
            some (loop.process.clientAt index).identity := by
          rw [ServerContext.identities, List.getElem?_map, Process.clientAt,
            clientAt_eq_getElem inside, List.getElem?_eq_getElem inside]
          rfl
        have distinct := consistent.distinct
        rw [fds_eq_identities] at distinct
        have shrunk : (loop.process.ctx.without index).identities =
            loop.process.ctx.identities.eraseIdx index := (List.eraseIdx_map ..).symm
        have closed := agree.closed distinct here
        rw [← shrunk] at closed
        rw [Process.SessionsAgree, sessionLog_append_singleton]
        exact closed
      handled := fun loop readSet index packet handled agree => by
        have consistent : (receiveClient index loop).1.Consistent :=
          receiveClient_consistent handled.reachable.consistent
        refine processClientPacket_sessionsAgree reliable faithful
          (plain _ _ _ (handled.meets packet handled.handed)) consistent.distinct consistent.valid
          ?_ ?_ agree
        · rw [receiveClient_length]
          exact handled.inside
        · rw [receiveClient_clientAt_fd handled.inside]
          exact handled.handed.ready.1 }
  exact invariant.reachable reachable

/-! ### Main theorem -/

/-- In every reachable state a connection is authenticated as a user exactly when the record says
so: since a registration on it that created the user, or a login on it with the password of the
user, there was no logout, no end and no other such event on it, and no login as the user on
another connection. An authenticated connection has the id and the name of an account, any other
has no id and no name; and no two connections are of one user. -/
theorem sessions_equal_log (reliable : env.Reliable) (faithful : env.CryptIsFaithful)
    (serverFd : Int) {machine : Machine}
    (reachable : ReachableWhen env (fun _ _ packet => PlainCredentials packet) serverFd machine) :
    (∀ fd userId, SignedIn machine.loop.process.ctx fd userId ↔
      HasSession (sessionLog machine.loop.process.trace).events fd userId) ∧
    (∀ node ∈ machine.loop.process.ctx.clients, node.isAuthenticated = true →
      ∃ row ∈ machine.loop.process.ctx.db.users, row.id = node.id ∧
        node.username.text = row.username) ∧
    (∀ node ∈ machine.loop.process.ctx.clients, node.isAuthenticated = false →
      node.id = 0 ∧ node.username.text = Text.empty) ∧
    ∀ userId fd otherFd, SignedIn machine.loop.process.ctx fd userId →
      SignedIn machine.loop.process.ctx otherFd userId → fd = otherFd := by
  have agree := reachable.sessionsAgree reliable faithful fun _ _ _ => id
  refine ⟨fun fd userId => signedIn_iff.trans (agree.sessions fd userId), ?_, ?_, ?_⟩
  · intro node member authenticated
    obtain ⟨account, known, own, named⟩ := agree.named node.identity
      (mem_identities.mpr ⟨node, member, rfl⟩) authenticated
    obtain ⟨row, present, rfl⟩ := List.mem_map.mp known
    exact ⟨row, present, own, named.symm⟩
  · intro node member stranger
    exact (reachable.consistent.valid node member).stranger stranger
  · rintro userId fd otherFd ⟨node, member, rfl, authenticated, rfl⟩
      ⟨other, otherMember, rfl, otherAuthenticated, same⟩
    exact agree.alone node.identity (mem_identities.mpr ⟨node, member, rfl⟩) other.identity
      (mem_identities.mpr ⟨other, otherMember, rfl⟩) authenticated otherAuthenticated same.symm

end Runs

/-- A user registers, and registers again with another name on the same connection. -/
def registerTwice : List Event :=
  [.round ⟨{3}, [.connected 4 ⟨clientBytes registerPacket ++ clientBytes registerSecondPacket,
      [.count 1000, .count 1000]⟩]⟩,
    .round ⟨{4}, []⟩, .round ⟨{4}, []⟩]

theorem env_ideal_cryptIsFaithful : Env.ideal.CryptIsFaithful := by
  rintro password setting hash made phrase
  obtain rfl := Option.some.inj made
  exact Option.some_inj

/-- By the record the connection is that of the second user, and not of the first any more. -/
theorem sessions_equal_log_twice :
    HasSession (sessionLog (runServer Env.ideal 3 registerTwice).process.trace).events 4 2 ∧
      ¬ HasSession (sessionLog (runServer Env.ideal 3 registerTwice).process.trace).events 4 1 := by
  have run : (runServer Env.ideal 3 registerTwice).process.ctx.identities.map
        (fun identity => (identity.socketFd, identity.isAuthenticated, identity.id)) =
          [(4, true, 2)] ∧
      runMeets Env.ideal (fun _ _ packet => PlainCredentials packet) registerTwice
        (startLoop 3 Database.empty 0 []) = true := by decide +kernel
  have reachable := reachableWhen_runServer (fun _ _ _ => of_decide_eq_true) 3 registerTwice run.2
  have equal := (sessions_equal_log Env.ideal_reliable env_ideal_cryptIsFaithful 3 reachable).1
  dsimp only at equal
  have shown : ∀ userId, SignedIn (runServer Env.ideal 3 registerTwice).process.ctx 4 userId ↔
      ((4, true, userId) : Int × Bool × Int) ∈ [((4, true, 2) : Int × Bool × Int)] := by
    intro userId
    rw [← run.1, signedIn_iff]
    simp [List.mem_map]
  rw [← equal, ← equal, shown, shown]
  decide

end Tizcord
