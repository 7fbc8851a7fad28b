/-
This file says what the handling of a packet changes of the identities of the
connections and of the accounts: only a registration, a login and a logout change
either, each in one way. Every authenticated connection has the id and the name of
an account.
-/

import Tizcord.Server.Origins
import Tizcord.Server.SessionLog
import Tizcord.Server.Sessions

namespace Tizcord

open CModel

/-! ### What handlers leave as it is -/

/-- The process goes on, and neither sessions nor accounts change. -/
structure Quiet (before after : Process) : Prop where
  identities : after.ctx.identities = before.ctx.identities
  accounts : after.ctx.db.accounts = before.ctx.db.accounts
  log : sessionLog after.trace = sessionLog before.trace

section Quietly

variable {env : Env} {before middle after : Process} {fd : Int} {beyond : List UInt8}
  {packet : TizcordPacket}

theorem Quiet.refl (process : Process) : Quiet process process :=
  ⟨rfl, rfl, rfl⟩

theorem Quiet.trans (first : Quiet before middle) (second : Quiet middle after) :
    Quiet before after where
  identities := second.identities.trans first.identities
  accounts := second.accounts.trans first.accounts
  log := second.log.trans first.log

theorem Quiet.userIds (quiet : Quiet before after) :
    after.ctx.db.userIds = before.ctx.db.userIds := by
  rw [Tables.userIds_eq, Tables.userIds_eq, quiet.accounts]

theorem Quiet.fds (quiet : Quiet before after) : after.ctx.fds = before.ctx.fds := by
  rw [fds_eq_identities, fds_eq_identities, quiet.identities]

theorem quiet_log {effect : Effect} (silent : effect.Silent) (process : Process) :
    Quiet process (process.log effect) :=
  ⟨rfl, rfl, (sessionLog_append_singleton _ _).trans (silent _)⟩

theorem quiet_send (env : Env) (fd : Int) (packet : TizcordPacket) (process : Process) :
    Quiet process (process.send env fd packet) :=
  ⟨rfl, rfl, (sessionLog_append_singleton _ _).trans rfl⟩

/-- A step of a handler is quiet, unless it writes to a session or creates an account. -/
theorem HandlerStep.quiet {before after : ServerContext} {effects : List Effect}
    (step : HandlerStep env fd beyond packet before effects after)
    (other : ∀ action, packet.request ≠ some (.auth action)) :
    (after.identities = before.identities ∧ after.db.accounts = before.db.accounts) ∧
      ∀ effect ∈ effects, effect.Silent := by
  refine ⟨⟨step.identities other, ?_⟩, fun effect member => ?_⟩
  · rcases step.database_cases with ⟨time, call, permitted, runs, -⟩ | ⟨same, -⟩
    · rw [runs.accounts, account_of_permitted permitted (other _)]
      exact List.append_nil _
    · rw [same]
  · cases step with
    | look | session => exact absurd member List.not_mem_nil
    | reply | broadcast | forward | history | hash =>
      rw [List.mem_singleton.mp member]
      exact fun _ => rfl
    | call _ permitted =>
      rw [List.mem_singleton.mp member]
      exact silent_called (account_of_permitted permitted (other _))

/-- A packet that is not about authentication is handled quietly. -/
theorem Acts.quiet (acts : Acts env fd beyond packet before after)
    (other : ∀ action, packet.request ≠ some (.auth action)) : Quiet before after := by
  obtain ⟨effects, logged, steps⟩ := acts
  have same : after.ctx.identities = before.ctx.identities ∧
      after.ctx.db.accounts = before.ctx.db.accounts :=
    steps.invariant (fun ctx => ctx.identities = before.ctx.identities ∧
      ctx.db.accounts = before.ctx.db.accounts)
      (fun step held => ⟨(step.quiet other).1.1.trans held.1, (step.quiet other).1.2.trans held.2⟩)
      ⟨rfl, rfl⟩
  refine ⟨same.1, same.2, ?_⟩
  rw [logged]
  exact sessionLog_append_silent (steps.events_of_invariant (fun _ => True) (fun _ _ => trivial)
    (fun step _ => (step.quiet other).2) trivial)

theorem Notifies.quiet (notifies : Notifies env before after) : Quiet before after :=
  Acts.quiet notifies fun action asked => by
    rw [noRequest_request] at asked
    cases asked

theorem notifyAllUserLists_quiet (env : Env) (process : Process) :
    Quiet process (notifyAllUserLists env process) :=
  Notifies.quiet (notifyAllUserLists_acts (Or.inl noRequest_type))

theorem notifyServerMemberListsForUser_quiet (env : Env) (userId : Int) (process : Process) :
    Quiet process (notifyServerMemberListsForUser env userId process) :=
  Notifies.quiet (notifyServerMemberListsForUser_acts userId (Or.inl noRequest_type)
    (Or.inl noRequest_type))

end Quietly

/-! ### What authentication changes -/

/-- A registration that creates an account and makes the connection `fd` that of its user. -/
structure Registers (env : Env) (fd userId : Int) (username password hash : Text)
    (before after : Process) : Prop where
  hashed : ∃ setting, env.crypt password setting = some hash
  fresh : userId ∉ before.ctx.db.userIds
  accounts : after.ctx.db.accounts = before.ctx.db.accounts ++ [⟨userId, username, hash⟩]
  identities : after.ctx.identities =
    changeIdentity fd (.linked userId username) before.ctx.identities
  events : (sessionLog after.trace).events = (sessionLog before.trace).events ++
    accountEvents (sessionLog before.trace).handled (some ⟨userId, username, hash⟩)

/-- A login that finds an account and makes the connection `fd` that of its user. -/
structure LogsInto (env : Env) (fd : Int) (account : Account) (username password : Text)
    (before after : Process) : Prop where
  known : account ∈ before.ctx.db.accounts
  named : account.username = username
  hashed : env.crypt password account.passwordHash = some account.passwordHash
  accounts : after.ctx.db.accounts = before.ctx.db.accounts
  identities : after.ctx.identities = changeIdentity fd (.linked account.userId username)
    (revokeIdentities fd account.userId before.ctx.identities)
  log : sessionLog after.trace = sessionLog before.trace

/-- A logout that makes the connection `fd` nobody's. -/
structure LogsOut (fd : Int) (before after : Process) : Prop where
  identities : after.ctx.identities = changeIdentity fd .cleared before.ctx.identities
  accounts : after.ctx.db.accounts = before.ctx.db.accounts
  log : sessionLog after.trace = sessionLog before.trace

/-- What handling a packet changes of the identities and of the accounts: nothing, unless it is
about authentication. -/
inductive SessionChange (env : Env) (fd : Int) (beyond : List UInt8) (packet : TizcordPacket)
    (before after : Process) : Prop
  | other (asked : ∀ action, packet.request ≠ some (.auth action)) (quiet : Quiet before after)
  | refused (asked : packet.request = some (.auth .register)) (quiet : Quiet before after)
  | registered (asked : packet.request = some (.auth .register)) {userId : Int} {hash : Text}
    (registers : Registers env fd userId (packet.authUsername beyond) (packet.authPassword beyond)
      hash before after)
  | wrong (asked : packet.request = some (.auth .login)) (quiet : Quiet before after)
    (unknown : env.Reliable → ∀ account ∈ before.ctx.db.accounts,
      account.username = packet.authUsername beyond →
        env.crypt (packet.authPassword beyond) account.passwordHash ≠ some account.passwordHash)
  | loggedIn (asked : packet.request = some (.auth .login)) {account : Account}
    (logsIn : LogsInto env fd account (packet.authUsername beyond) (packet.authPassword beyond)
      before after)
  | loggedOut (asked : packet.request = some (.auth .logout)) (logsOut : LogsOut fd before after)

section Changes

variable {env : Env} {process : Process} {fd : Int} {beyond : List UInt8} {packet : TizcordPacket}

theorem linkIdentity_rest (fd userId : Int) (username : Text) (process : Process) :
    (linkIdentity fd userId username process).ctx.db = process.ctx.db ∧
      (linkIdentity fd userId username process).trace = process.trace := by
  rw [linkIdentity]
  split <;> exact ⟨rfl, rfl⟩

/-- What registration does once the account is there. -/
theorem registers_of_created {created : Process} {userId : Int} {username password hash : Text}
    (hashed : ∃ setting, env.crypt password setting = some hash) (distinct : process.ctx.fds.Nodup)
    (fresh : userId ∉ process.ctx.db.userIds)
    (identities : created.ctx.identities = process.ctx.identities)
    (accounts : created.ctx.db.accounts = process.ctx.db.accounts ++ [⟨userId, username, hash⟩])
    (events : (sessionLog created.trace).events = (sessionLog process.trace).events ++
      accountEvents (sessionLog process.trace).handled (some ⟨userId, username, hash⟩)) :
    Registers env fd userId username password hash process
      ((notifyAllUserLists env (linkIdentity fd userId username created)).send env fd
        (authPacket .register ResponseCode.ok.code)) := by
  have distinct' : created.ctx.fds.Nodup := by
    rw [fds_eq_identities, identities, ← fds_eq_identities]
    exact distinct
  have linked := linkIdentity_identities distinct' fd userId username
  obtain ⟨sameDb, sameTrace⟩ := linkIdentity_rest fd userId username created
  have told := (notifyAllUserLists_quiet env (linkIdentity fd userId username created)).trans
    (quiet_send env fd (authPacket .register ResponseCode.ok.code) _)
  exact
    { hashed
      fresh
      accounts := by rw [told.accounts, sameDb, accounts]
      identities := by rw [told.identities, linked, identities]
      events := by rw [told.log, sameTrace, events] }

theorem registerAccount_cases (distinct : process.ctx.fds.Nodup) :
    Quiet process (registerAccount env beyond fd packet process) ∨
      ∃ userId hash, Registers env fd userId (packet.authUsername beyond)
        (packet.authPassword beyond) hash process
          (registerAccount env beyond fd packet process) := by
  unfold registerAccount
  generalize packet.authUsername beyond = username
  generalize packet.authPassword beyond = password
  have ticked : Quiet process process.tick := ⟨rfl, rfl, rfl⟩
  cases env.salt process.clock with
  | none => exact Or.inl (ticked.trans (quiet_send ..))
  | some setting =>
    have hashes : Quiet process (process.tick.log (.hashed password setting)) :=
      ticked.trans (quiet_log (fun _ => rfl) _)
    dsimp only [hashPassword]
    generalize process.tick.log (.hashed password setting) = hashed at hashes ⊢
    cases result : env.crypt password setting with
    | none => exact Or.inl (hashes.trans (quiet_send ..))
    | some hash =>
      dsimp only [Process.change]
      cases created : dbCreateUser (env.db hashed.clock) hashed.ctx.db username hash with
      | mk after created' =>
        have runs : DbCall.Runs (env.db hashed.clock) hashed.ctx.db after
            (.createUser username hash created') := created
        have accounts := runs.accounts
        cases created' with
        | none =>
          have called : Quiet hashed ((hashed.withDb after).log
              (.called (.createUser username hash none))).tick :=
            { identities := rfl
              accounts := accounts.trans (List.append_nil _)
              log := (sessionLog_append_singleton _ _).trans (silent_called rfl _) }
          exact Or.inl ((hashes.trans called).trans (quiet_send ..))
        | some userId =>
          obtain ⟨is, -⟩ | ⟨id, is, fresh, -⟩ := dbCreateUser_spec created
          · cases is
          obtain rfl := Option.some.inj is
          have logged := sessionLog_append_singleton hashed.trace
            (.called (.createUser username hash (some userId)))
          refine Or.inr ⟨userId, hash, registers_of_created ⟨setting, result⟩ distinct
            (hashes.userIds ▸ fresh) hashes.identities ?_ ?_⟩
          · rw [← hashes.accounts]
            exact accounts
          · refine (congrArg SessionLog.events logged).trans ?_
            rw [SessionLog.next, hashes.log]
            rfl

/-- The account a name and a password belong to is looked up by the name. -/
theorem account_of_hash {dbEnv : DbEnv} {database : Database} {username hash : Text} {userId : Int}
    (found : dbGetPasswordHash dbEnv database username = some (hash, userId)) :
    ⟨userId, username, hash⟩ ∈ database.accounts := by
  unfold dbGetPasswordHash DbEnv.firstRow at found
  dsimp only at found
  split at found
  · cases found
  · split at found
    · cases found
    · obtain ⟨row, first, same⟩ := Option.map_eq_some_iff.mp found
      obtain ⟨present, named⟩ := List.mem_filter.mp (List.mem_of_mem_head? first)
      obtain ⟨rfl, rfl⟩ := Prod.mk.inj same
      rw [← of_decide_eq_true named]
      exact List.mem_map.mpr ⟨row, present, rfl⟩

theorem unknown_of_hash {dbEnv : DbEnv} (reliable : dbEnv.Reliable) {database : Database}
    {username : Text} (unknown : dbGetPasswordHash dbEnv database username = none) :
    ∀ account ∈ database.accounts, account.username ≠ username := by
  rintro account member rfl
  obtain ⟨row, present, rfl⟩ := List.mem_map.mp member
  have found : row ∈ database.users.filter fun other => other.username = row.username :=
    List.mem_filter.mpr ⟨present, decide_eq_true rfl⟩
  rw [dbGetPasswordHash, reliable.prepare, if_neg Bool.false_ne_true] at unknown
  dsimp only at unknown
  rw [reliable.firstRow, Option.map_eq_none_iff, List.head?_eq_none_iff] at unknown
  rw [unknown] at found
  cases found

/-- No two accounts have the same name. -/
theorem account_unique (database : Database) {first second : Account}
    (firstMember : first ∈ database.accounts) (secondMember : second ∈ database.accounts)
    (same : first.username = second.username) : first = second := by
  have unique : (database.accounts.map Account.username).Nodup := by
    rw [Tables.accounts, List.map_map]
    exact database.integrity.users_username
  exact List.inj_on_of_nodup_map unique firstMember secondMember same

theorem revokeExistingLogin_rest (env : Env) (fd userId : Int) (username : Text)
    (process : Process) :
    (revokeExistingLogin env fd userId username process).ctx.db = process.ctx.db ∧
      sessionLog (revokeExistingLogin env fd userId username process).trace =
        sessionLog process.trace := by
  refine ⟨revokeExistingLogin_db userId username, ?_⟩
  refine List.foldlRecOn _ _ (motive := fun other : Process =>
    sessionLog other.trace = sessionLog process.trace) rfl ?_
  intro other same index _
  dsimp only
  split
  · exact same
  · split
    · exact same
    · exact (sessionLog_append_singleton _ _).trans same

theorem fds_revokeIdentities (fd userId : Int) (identities : List Identity) :
    (revokeIdentities fd userId identities).map Identity.socketFd =
      identities.map Identity.socketFd := by
  rw [revokeIdentities, List.map_map]
  refine List.map_congr_left fun identity _ => ?_
  dsimp only [Function.comp]
  split <;> rfl

/-- What login does once the password has matched. -/
theorem logsInto_of_known {account : Account} {username password : Text}
    (distinct : process.ctx.fds.Nodup) (known : account ∈ process.ctx.db.accounts)
    (named : account.username = username)
    (hashed : env.crypt password account.passwordHash = some account.passwordHash)
    {looked : Process} (looks : Quiet process looked) :
    LogsInto env fd account username password process
      ((notifyAllUserLists env (notifyServerMemberListsForUser env account.userId
        (linkIdentity fd account.userId username
          (revokeExistingLogin env fd account.userId username looked)))).send env fd
            (authPacket .login ResponseCode.ok.code)) := by
  obtain ⟨revokedDb, revokedLog⟩ := revokeExistingLogin_rest env fd account.userId username looked
  have revoked := revokeExistingLogin_identities env fd account.userId username looked
  generalize revokeExistingLogin env fd account.userId username looked = middle at *
  have distinct' : middle.ctx.fds.Nodup := by
    rw [fds_eq_identities, revoked, fds_revokeIdentities, looks.identities, ← fds_eq_identities]
    exact distinct
  have linked := linkIdentity_identities distinct' fd account.userId username
  obtain ⟨linkedDb, linkedTrace⟩ := linkIdentity_rest fd account.userId username middle
  have told := ((notifyServerMemberListsForUser_quiet env account.userId
    (linkIdentity fd account.userId username middle)).trans (notifyAllUserLists_quiet env _)).trans
    (quiet_send env fd (authPacket .login ResponseCode.ok.code) _)
  exact
    { known, named, hashed
      accounts := by rw [told.accounts, linkedDb, revokedDb, looks.accounts]
      identities := by rw [told.identities, linked, revoked, looks.identities]
      log := by rw [told.log, linkedTrace, revokedLog, looks.log] }

theorem loginAccount_cases (distinct : process.ctx.fds.Nodup) :
    (Quiet process (loginAccount env beyond fd packet process) ∧
      (env.Reliable → ∀ account ∈ process.ctx.db.accounts,
        account.username = packet.authUsername beyond →
          env.crypt (packet.authPassword beyond) account.passwordHash ≠
            some account.passwordHash)) ∨
      ∃ account, LogsInto env fd account (packet.authUsername beyond)
        (packet.authPassword beyond) process (loginAccount env beyond fd packet process) := by
  unfold loginAccount
  generalize packet.authUsername beyond = username
  generalize packet.authPassword beyond = password
  have looks : Quiet process (process.log (.called (.getPasswordHash username))).tick :=
    (quiet_log (silent_called rfl) process).trans ⟨rfl, rfl, rfl⟩
  dsimp only [Process.read]
  generalize (process.log (.called (.getPasswordHash username))).tick = looked at looks ⊢
  cases found : dbGetPasswordHash (env.db process.clock) process.ctx.db username with
  | none =>
    refine Or.inl ⟨looks.trans (quiet_send ..), fun reliable account member named => ?_⟩
    exact absurd named (unknown_of_hash (reliable _) found account member)
  | some result =>
    obtain ⟨dbHash, dbUserId⟩ := result
    have known := account_of_hash found
    have computes : Quiet process (hashPassword env password dbHash looked).1 :=
      looks.trans (quiet_log (fun _ => rfl) _)
    have result : (hashPassword env password dbHash looked).2 = env.crypt password dbHash := rfl
    dsimp only
    generalize hashPassword env password dbHash looked = computed at computes result ⊢
    by_cases wrong : computed.2 ≠ some dbHash
    · rw [if_pos wrong]
      refine Or.inl ⟨computes.trans (quiet_send ..), fun _ account member named => ?_⟩
      rw [account_unique _ member known named, ← result]
      exact wrong
    · rw [if_neg wrong]
      exact Or.inr ⟨⟨dbUserId, username, dbHash⟩,
        logsInto_of_known distinct known rfl (result ▸ not_not.mp wrong) computes⟩

/-- Only the identity with the descriptor matters. -/
theorem changeIdentity_of_same {change : Identity → Identity} {identities : List Identity}
    (same : ∀ identity ∈ identities, identity.socketFd = fd → change identity = identity) :
    changeIdentity fd change identities = identities := by
  refine (List.map_congr_left fun identity member => ?_).trans (List.map_id _)
  split
  · next own => exact same identity member own
  · rfl

/-- A logout clears the identity of the connection, if it has one. -/
theorem logoutAccount_changes (env : Env) (distinct : process.ctx.fds.Nodup)
    (valid : process.ctx.Valid) (fd : Int) :
    LogsOut fd process (logoutAccount env fd process) := by
  have unchanged : ∀ after, Quiet process after →
      (∀ node ∈ process.ctx.clients, node.socketFd = fd → node.isAuthenticated = false) →
      LogsOut fd process after := by
    intro after quiet strangers
    refine ⟨?_, quiet.accounts, quiet.log⟩
    rw [quiet.identities, changeIdentity_of_same]
    intro identity member own
    obtain ⟨node, present, rfl⟩ := mem_identities.mp member
    have stranger := strangers node present own
    obtain ⟨id, name⟩ := (valid node present).stranger stranger
    rw [ClientNode.identity, Identity.cleared, stranger, id, name]
  unfold logoutAccount
  cases found : process.ctx.findClient fd with
  | none =>
    refine unchanged process (.refl process) fun node present own => ?_
    exact absurd own (of_decide_eq_false (List.findIdx?_eq_none_iff.mp found node present))
  | some index =>
    obtain ⟨inside, own⟩ := findClient_spec found
    dsimp only
    cases authenticated : (process.clientAt index).isAuthenticated with
    | false =>
      refine unchanged _ (quiet_send ..) fun node present same => ?_
      rw [clientAt_unique distinct inside present (same.trans own.symm)]
      exact authenticated
    | true =>
      have cleared : (process.modifyClient index clearClientSession).ctx.identities =
          changeIdentity fd .cleared process.ctx.identities := by
        rw [← own, ← modify_eq_changeIdentity distinct inside]
        exact identities_modify identity_clearClientSession _
      have told := ((notifyServerMemberListsForUser_quiet env (process.clientAt index).id
        (process.modifyClient index clearClientSession)).trans
          (notifyAllUserLists_quiet env _)).trans (quiet_send env fd
            ((authPacket .logout ResponseCode.done.code).strncpyAuthUsername
              ((process.clientAt index).username.text.take (maxNameLen - 1))) _)
      exact ⟨told.identities.trans cleared, told.accounts, told.log⟩

theorem processClientPacket_auth {index : Nat} {action : AuthAction}
    (asked : packet.request = some (.auth action)) :
    processClientPacket env index packet process =
      handleAuthAction env (env.beyond process.clock) (process.clientAt index).socketFd packet
        (process.log (.handling (process.clientAt index).socketFd packet
          (process.ctx.userOf (process.clientAt index).socketFd))) (some action) := by
  obtain ⟨type, acted⟩ := TizcordPacket.request_auth asked
  rw [processClientPacket, type, handlePacket, handleAuthPacket, acted]

/-- The process that has begun to handle the packet of the connection at an index. -/
def Process.begun (process : Process) (index : Nat) (packet : TizcordPacket) : Process :=
  process.log (.handling (process.clientAt index).socketFd packet
    (process.ctx.userOf (process.clientAt index).socketFd))

/-- The handling of a packet changes identities and accounts in one of these ways. -/
theorem processClientPacket_changes (env : Env) (index : Nat) (packet : TizcordPacket)
    (distinct : process.ctx.fds.Nodup) (valid : process.ctx.Valid) :
    SessionChange env (process.clientAt index).socketFd (env.beyond process.clock) packet
      (process.begun index packet) (processClientPacket env index packet process) := by
  by_cases other : ∀ action, packet.request ≠ some (.auth action)
  · exact .other other ((processClientPacket_acts env index packet process).quiet other)
  · push Not at other
    obtain ⟨action, asked⟩ := other
    have distinct' : (process.begun index packet).ctx.fds.Nodup := distinct
    have valid' : (process.begun index packet).ctx.Valid := valid
    rw [processClientPacket_auth asked, ← Process.begun]
    generalize process.begun index packet = begun at distinct' valid' ⊢
    cases action with
    | register =>
      rcases registerAccount_cases distinct' with quiet | ⟨_, _, registers⟩
      · exact .refused asked quiet
      · exact .registered asked registers
    | login =>
      rcases loginAccount_cases distinct' with ⟨quiet, unknown⟩ | ⟨_, logsIn⟩
      · exact .wrong asked quiet unknown
      · exact .loggedIn asked logsIn
    | logout => exact .loggedOut asked (logoutAccount_changes env distinct' valid' _)

end Changes

/-! ### Names -/

/-- Every authenticated connection has the id of an account, and as much of its name as a
connection has room for. -/
def Accounted (identities : List Identity) (accounts : List Account) : Prop :=
  ∀ identity ∈ identities, identity.isAuthenticated = true →
    ∃ account ∈ accounts, account.userId = identity.id ∧
      identity.username = account.username.take (maxNameLen - 1)

section Names

variable {env : Env} {identities : List Identity} {accounts : List Account} {own created : Int}
  {username : Text}

/-- Every authenticated identity after a change of one connection is as before, or the new one. -/
theorem mem_linked {identity : Identity}
    (member : identity ∈ changeIdentity own (.linked created username) identities) :
    identity ∈ identities ∧ identity.socketFd ≠ own ∨
      ∃ old ∈ identities, old.socketFd = own ∧ identity = old.linked created username := by
  obtain ⟨old, present, rfl⟩ := List.mem_map.mp member
  by_cases same : old.socketFd = own
  · rw [if_pos same]
    exact Or.inr ⟨old, present, same, rfl⟩
  · rw [if_neg same]
    exact Or.inl ⟨present, same⟩

theorem mem_cleared {identity : Identity}
    (member : identity ∈ changeIdentity own .cleared identities)
    (authenticated : identity.isAuthenticated = true) : identity ∈ identities := by
  obtain ⟨old, present, rfl⟩ := List.mem_map.mp member
  split at authenticated
  · cases authenticated
  · next other =>
    rw [if_neg other]
    exact present

theorem mem_revoked {identity : Identity}
    (member : identity ∈ revokeIdentities own created identities)
    (authenticated : identity.isAuthenticated = true) :
    identity ∈ identities ∧ ¬ identity.Revoked own created := by
  obtain ⟨old, present, rfl⟩ := List.mem_map.mp member
  split at authenticated
  · cases authenticated
  · next kept =>
    rw [if_neg kept]
    exact ⟨present, kept⟩

theorem mem_accepted {fd : Int} {identity : Identity}
    (member : identity ∈ identities ++ [⟨fd, false, 0, Text.empty⟩])
    (authenticated : identity.isAuthenticated = true) : identity ∈ identities := by
  rcases List.mem_append.mp member with old | new
  · exact old
  · rw [List.mem_singleton.mp new] at authenticated
    cases authenticated

theorem Accounted.of_fewer {fewer : List Identity} (accounted : Accounted identities accounts)
    (fewer' : ∀ identity ∈ fewer, identity.isAuthenticated = true → identity ∈ identities) :
    Accounted fewer accounts :=
  fun identity member authenticated =>
    accounted identity (fewer' identity member authenticated) authenticated

/-- A connection becomes that of an account, with its name. -/
theorem Accounted.linked {accounts' : List Account} {account : Account}
    (accounted : Accounted identities accounts) (grown : accounts ⊆ accounts')
    (known : account ∈ accounts') :
    Accounted (changeIdentity own (.linked account.userId account.username) identities) accounts' := by
  intro identity member authenticated
  rcases mem_linked member with ⟨old, -⟩ | ⟨old, -, -, rfl⟩
  · obtain ⟨other, present, is⟩ := accounted identity old authenticated
    exact ⟨other, grown present, is⟩
  · exact ⟨account, known, rfl, rfl⟩

/-- The handling of a packet leaves every authenticated connection with the name of an account. -/
theorem SessionChange.accounted {fd : Int} {beyond : List UInt8} {packet : TizcordPacket}
    {before after : Process} (change : SessionChange env fd beyond packet before after)
    (accounted : Accounted before.ctx.identities before.ctx.db.accounts) :
    Accounted after.ctx.identities after.ctx.db.accounts := by
  have quietly : Quiet before after → Accounted after.ctx.identities after.ctx.db.accounts := by
    intro quiet
    rw [quiet.identities, quiet.accounts]
    exact accounted
  cases change with
  | other _ quiet | refused _ quiet | wrong _ quiet _ => exact quietly quiet
  | @registered _ userId hash registers =>
    have known : ⟨userId, packet.authUsername beyond, hash⟩ ∈ after.ctx.db.accounts := by
      rw [registers.accounts]
      exact List.mem_append_right _ List.mem_cons_self
    rw [registers.identities]
    refine accounted.linked ?_ known
    rw [registers.accounts]
    exact List.subset_append_left _ _
  | loggedIn _ logsIn =>
    rw [logsIn.identities, logsIn.accounts, ← logsIn.named]
    refine (accounted.of_fewer fun identity member authenticated => ?_).linked
      (List.Subset.refl _) logsIn.known
    exact (mem_revoked member authenticated).1
  | loggedOut _ logsOut =>
    rw [logsOut.identities, logsOut.accounts]
    exact accounted.of_fewer fun identity => mem_cleared

theorem receiveClient_quiet (index : Nat) (loop : Loop) :
    Quiet loop.process (receiveClient index loop).1.process :=
  ⟨receiveClient_identities index loop, rfl, sessionLog_append_singleton _ _⟩

/-- What holds of no identities, of fewer of them, and after every change, holds of the identities
and the accounts of every reachable state. -/
theorem ReachableWhen.identities_invariant (holds : List Identity → List Account → Prop)
    (nobody : ∀ accounts, holds [] accounts)
    (fewer : ∀ {identities fewer accounts}, holds identities accounts →
      (∀ identity ∈ fewer, identity.isAuthenticated = true → identity ∈ identities) →
      holds fewer accounts)
    (changed : ∀ {fd beyond packet before after}, 0 < fd → before.ctx.Valid →
      SessionChange env fd beyond packet before after →
      holds before.ctx.identities before.ctx.db.accounts →
      holds after.ctx.identities after.ctx.db.accounts)
    {allowed : ServerContext → Int → TizcordPacket → Prop} {serverFd : Int} {machine : Machine}
    (reachable : ReachableWhen env allowed serverFd machine) :
    holds machine.loop.process.ctx.identities machine.loop.process.ctx.db.accounts := by
  have invariant : RunInvariant env allowed serverFd fun process =>
      holds process.ctx.identities process.ctx.db.accounts :=
    { started := nobody _
      restarted := fun _ _ _ => nobody _
      rejected := fun _ _ held => held
      accepted := fun loop fd socket _ _ _ held => by
        have identities : (loop.accepted fd socket).process.ctx.identities =
            loop.process.ctx.identities ++ [⟨fd, false, 0, Text.empty⟩] := List.map_append
        rw [identities]
        exact fewer held fun identity => mem_accepted
      received := fun loop index _ held => by
        rw [receiveClient_identities]
        exact held
      closed := fun loop index _ inside _ held => by
        have quiet := (disconnectClient_notifies env inside).quiet
        rw [quiet.identities, quiet.accounts]
        have shrunk : (loop.process.ctx.without index).identities =
            loop.process.ctx.identities.eraseIdx index := (List.eraseIdx_map ..).symm
        refine fewer held fun identity member _ => List.mem_of_mem_eraseIdx (shrunk ▸ member)
      handled := fun loop readSet index packet handled held => by
        have consistent : (receiveClient index loop).1.Consistent :=
          receiveClient_consistent handled.reachable.consistent
        have positive : 0 < ((receiveClient index loop).1.process.clientAt index).socketFd := by
          rw [receiveClient_clientAt_fd handled.inside]
          exact handled.handed.ready.1
        have change := processClientPacket_changes env index packet consistent.distinct
          consistent.valid
        exact @changed _ _ _ ((receiveClient index loop).1.process.begun index packet) _ positive
          consistent.valid change held }
  exact invariant.reachable reachable

/-- In every reachable state an authenticated connection has the id and the name of an account. -/
theorem ReachableWhen.accounted {allowed : ServerContext → Int → TizcordPacket → Prop} {serverFd : Int}
    {machine : Machine} (reachable : ReachableWhen env allowed serverFd machine) :
    Accounted machine.loop.process.ctx.identities machine.loop.process.ctx.db.accounts :=
  reachable.identities_invariant Accounted (fun _ _ member => absurd member List.not_mem_nil)
    Accounted.of_fewer fun _ _ change => change.accounted

/-- No two connections are of one user, and the descriptor of a connection that is of a user is one
that the loop services. -/
structure SoleSessions (identities : List Identity) : Prop where
  alone : ∀ first ∈ identities, ∀ second ∈ identities, first.isAuthenticated = true →
    second.isAuthenticated = true → first.id = second.id → first.socketFd = second.socketFd
  positive : ∀ identity ∈ identities, identity.isAuthenticated = true → 0 < identity.socketFd

theorem SoleSessions.of_fewer {fewer : List Identity} (sole : SoleSessions identities)
    (fewer' : ∀ identity ∈ fewer, identity.isAuthenticated = true → identity ∈ identities) :
    SoleSessions fewer where
  alone first inFirst second inSecond firstIs secondIs :=
    sole.alone first (fewer' first inFirst firstIs) second (fewer' second inSecond secondIs)
      firstIs secondIs
  positive identity member authenticated :=
    sole.positive identity (fewer' identity member authenticated) authenticated

/-- A connection becomes that of a user that no other connection is of. -/
theorem SoleSessions.linked (sole : SoleSessions identities) (positive : 0 < own)
    (free : ∀ identity ∈ identities, identity.isAuthenticated = true → identity.socketFd ≠ own →
      identity.id ≠ created) :
    SoleSessions (changeIdentity own (.linked created username) identities) where
  alone first inFirst second inSecond firstIs secondIs same := by
    rcases mem_linked inFirst with ⟨firstOld, firstElse⟩ | ⟨_, -, firstOwn, rfl⟩
    · rcases mem_linked inSecond with ⟨secondOld, -⟩ | ⟨_, -, -, rfl⟩
      · exact sole.alone first firstOld second secondOld firstIs secondIs same
      · exact absurd same (free first firstOld firstIs firstElse)
    · rcases mem_linked inSecond with ⟨secondOld, secondElse⟩ | ⟨_, -, secondOwn, rfl⟩
      · exact absurd same.symm (free second secondOld secondIs secondElse)
      · exact firstOwn.trans secondOwn.symm
  positive identity member authenticated := by
    rcases mem_linked member with ⟨old, -⟩ | ⟨_, -, here, rfl⟩
    · exact sole.positive identity old authenticated
    · exact here ▸ positive

theorem SessionChange.soleSessions {fd : Int} {beyond : List UInt8} {packet : TizcordPacket}
    {before after : Process} (change : SessionChange env fd beyond packet before after)
    (positive : 0 < fd) (valid : before.ctx.Valid) (sole : SoleSessions before.ctx.identities) :
    SoleSessions after.ctx.identities := by
  have quietly : Quiet before after → SoleSessions after.ctx.identities := by
    intro quiet
    rw [quiet.identities]
    exact sole
  cases change with
  | other _ quiet | refused _ quiet | wrong _ quiet _ => exact quietly quiet
  | registered _ registers =>
    rw [registers.identities]
    refine sole.linked positive fun identity member authenticated _ same => ?_
    obtain ⟨node, present, rfl⟩ := mem_identities.mp member
    exact registers.fresh (same ▸ (valid node present).user authenticated)
  | loggedIn _ logsIn =>
    rw [logsIn.identities]
    refine SoleSessions.linked ?_ positive fun identity member authenticated other same => ?_
    · exact sole.of_fewer fun identity member authenticated => (mem_revoked member authenticated).1
    · obtain ⟨old, kept⟩ := mem_revoked member authenticated
      exact kept ⟨⟨sole.positive identity old authenticated, other⟩, authenticated, same⟩
  | loggedOut _ logsOut =>
    rw [logsOut.identities]
    exact sole.of_fewer fun identity => mem_cleared

/-- In every reachable state no two connections are of one user. -/
theorem ReachableWhen.soleSessions {allowed : ServerContext → Int → TizcordPacket → Prop}
    {serverFd : Int} {machine : Machine} (reachable : ReachableWhen env allowed serverFd machine) :
    SoleSessions machine.loop.process.ctx.identities := by
  refine reachable.identities_invariant (fun identities _ => SoleSessions identities)
    (fun _ => ⟨?_, ?_⟩) SoleSessions.of_fewer fun positive valid change =>
      change.soleSessions positive valid
  · exact fun _ member => absurd member List.not_mem_nil
  · exact fun _ member => absurd member List.not_mem_nil

/-- The node has the name of its user, as far as it has room for it. -/
def ClientNode.NamedIn (node : ClientNode) (database : Database) : Prop :=
  ∀ user ∈ database.users, (user.id : Int) = node.id →
    node.username.text = user.username.take (maxNameLen - 1)

/-- A connection that sends a packet has the name of its user. -/
theorem Handled.namedIn {allowed : ServerContext → Int → TizcordPacket → Prop} {serverFd : Int}
    {loop : Loop} {readSet : Finset Int} {index : Nat} {packet : TizcordPacket}
    (handled : Handled env allowed serverFd loop readSet index packet) :
    ((receiveClient index loop).1.process.clientAt index).NamedIn
      (receiveClient index loop).1.process.ctx.db := by
  have received : (receiveClient index loop).1.Consistent :=
    receiveClient_consistent handled.reachable.consistent
  have inside : index < (receiveClient index loop).1.process.ctx.clients.length := by
    rw [receiveClient_length]
    exact handled.inside
  have accounted := handled.reachable.accounted
  rw [← receiveClient_identities index loop] at accounted
  have sameAccounts : loop.process.ctx.db.accounts =
      (receiveClient index loop).1.process.ctx.db.accounts := rfl
  rw [sameAccounts] at accounted
  generalize (receiveClient index loop).1 = loop at received inside accounted ⊢
  have member := clientAt_mem_of_lt inside
  intro user known own
  cases authenticated : (loop.process.clientAt index).isAuthenticated with
  | false =>
    have nobody := ((received.valid _ member).stranger authenticated).1
    rw [Process.clientAt, nobody] at own
    exact absurd own user.id.2.1.ne'
  | true =>
    obtain ⟨account, present, same, name⟩ := accounted (loop.process.clientAt index).identity
      (mem_identities.mpr ⟨_, member, rfl⟩) authenticated
    obtain ⟨other, knownToo, rfl⟩ := List.mem_map.mp present
    obtain rfl := loop.process.ctx.db.integrity.users_id.eq_of_key knownToo known
      (same.trans own.symm)
    exact name

end Names

end Tizcord
