/-
This file is about what sessions that begin and end do to the lists of members. Whoever
looks at a server of the user is sent its members as they are: after a login, after a
logout, and when a connection closes. A session that becomes that of another user is told
to those who look at the servers of the new user only.
-/

import Tizcord.System.MemberRequests
import Tizcord.System.OnlineUsers

namespace Tizcord

open CModel

section Nodes

variable {before after : ServerContext} {process : Process} {index : Nat} {serverId userId : Int}

/-- A list depends on the connections of the members of the server, where the tables stay. -/
theorem presentMembers_of_nodes (db : after.db = before.db)
    (nodes : ∀ node : ClientNode, node.isAuthenticated = true →
      before.db.HasMember serverId node.id → (node ∈ after.clients ↔ node ∈ before.clients)) :
    presentMembers after serverId = presentMembers before serverId := by
  refine presentMembers_congr (by rw [db]) (by rw [db]; exact List.Subset.refl _)
    fun row member here => userIsOnline_congr fun identity authenticated own => ?_
  have joined : before.db.HasMember serverId identity.id := by
    rw [own, ← here]
    exact List.mem_map_of_mem member
  rw [mem_identities, mem_identities]
  constructor
  · rintro ⟨node, present, rfl⟩
    exact ⟨node, (nodes node authenticated joined).mp present, rfl⟩
  · rintro ⟨node, present, rfl⟩
    exact ⟨node, (nodes node authenticated joined).mpr present, rfl⟩

theorem clearClientSession_stranger (node : ClientNode) :
    (clearClientSession node).isAuthenticated = false := by
  rw [clearClientSession]

theorem clearClientSession_looks (node : ClientNode) :
    (clearClientSession node).currentServerIndex = -1 := by
  rw [clearClientSession]

theorem Tables.userId_pos {tables : Tables} (known : userId ∈ tables.userIds) : 0 < userId := by
  obtain ⟨row, -, rfl⟩ := List.mem_map.mp known
  exact (row.id : RowId).2.1

theorem Tables.HasMember.known {database : Database} (joined : database.HasMember serverId userId) :
    userId ∈ database.userIds := by
  obtain ⟨row, member, is⟩ := List.mem_map.mp joined
  have own : row.userId = userId := congrArg Prod.snd is
  exact own ▸ database.integrity.members_user row member

end Nodes

section Sessions

variable {env : Env} {process : Process} {but more : Int → Prop} {index : Nat} {fd userId : Int}
  {topics : List Topic} {username : Text} {beyond : List UInt8} {packet : TizcordPacket}

/-- A session that is cleared leaves the lists of the servers its user is no member of. -/
theorem Process.MembersShown.cleared (shown : process.MembersShown but)
    (authenticated : (process.clientAt index).isAuthenticated = true) :
    (process.modifyClient index clearClientSession).MembersShown fun other =>
      but other ∨ process.ctx.db.HasMember other (process.clientAt index).id := by
  have inside := inside_of_authenticated authenticated
  have written : ∀ {node : ClientNode},
      node ∈ (process.modifyClient index clearClientSession).ctx.clients ↔
        node = clearClientSession (process.clientAt index) ∨
          node ∈ process.ctx.clients ∧ node.socketFd ≠ (process.clientAt index).socketFd :=
    mem_modifyClient shown.tracks.distinct inside
  have emits : Emits [] process (process.modifyClient index clearClientSession) :=
    .modifyClient process index clearClientSession
  have tracks : TracksServers (process.modifyClient index clearClientSession).ctx := by
    refine shown.tracks.modifyClient inside (fun _ => rfl) (by rw [clearClientSession_looks]; decide)
      (fun _ => clearClientSession_looks _) fun signedIn => ?_
    exact absurd signedIn (ne_true_of_eq_false (clearClientSession_stranger _))
  refine shown.of_emits emits List.not_mem_nil tracks fun node member looks spared => ?_
  rw [not_or] at spared
  rcases written.mp member with rfl | ⟨old, -⟩
  · rw [clearClientSession_looks] at looks
    exact absurd (Tables.serverId_pos looks) (by decide)
  refine ⟨spared.1, looks, ⟨node, old, rfl, rfl⟩,
    presentMembers_of_nodes rfl fun other signedIn joined => written.trans ?_⟩
  constructor
  · rintro (rfl | ⟨present, -⟩)
    · rw [clearClientSession_stranger] at signedIn
      cases signedIn
    · exact present
  · refine fun present => Or.inr ⟨present, fun same => spared.2 ?_⟩
    rw [Process.clientAt, ← clientAt_unique shown.tracks.distinct inside present same]
    exact joined

/-- After a login has ended the other sessions of a user, a node is an old one that it spares, or one
that it has cleared. -/
theorem mem_revokeExistingLogin {node : ClientNode}
    (member : node ∈ (revokeExistingLogin env fd userId username process).ctx.clients) :
    node ∈ process.ctx.clients ∧ ¬ node.identity.Revoked fd userId ∨
      node.isAuthenticated = false ∧ node.currentServerIndex = -1 := by
  rw [revokeExistingLogin_clients] at member
  obtain ⟨old, present, rfl⟩ := List.mem_map.mp member
  by_cases ends : old.identity.Revoked fd userId
  · rw [if_pos ends]
    exact Or.inr ⟨clearClientSession_stranger old, clearClientSession_looks old⟩
  · rw [if_neg ends]
    exact Or.inl ⟨present, ends⟩

/-- The sessions of a user that a login ends. -/
theorem Process.MembersShown.revoked (shown : process.MembersShown but) (env : Env)
    (fd userId : Int) (username : Text) :
    (revokeExistingLogin env fd userId username process).MembersShown fun other =>
      but other ∨ process.ctx.db.HasMember other userId := by
  have clients := revokeExistingLogin_clients env fd userId username process
  have db := (revokeExistingLogin_rest env fd userId username process).1
  have emits : Emits [.session] process (revokeExistingLogin env fd userId username process) :=
    revokeExistingLogin_emits env fd userId username process List.mem_cons_self
  have mapped : ∀ {node : ClientNode},
      node ∈ (revokeExistingLogin env fd userId username process).ctx.clients →
        node ∈ process.ctx.clients ∨
          node.isAuthenticated = false ∧ node.currentServerIndex = -1 := fun member =>
    (mem_revokeExistingLogin member).imp_left And.left
  generalize revokeExistingLogin env fd userId username process = after at clients db emits mapped ⊢
  have tracks : TracksServers after.ctx := by
    refine ⟨?_, fun node member => ?_, fun node member stranger => ?_,
      fun node member signedIn => ?_⟩
    · have fds : after.ctx.fds = process.ctx.fds := by
        rw [ServerContext.fds, ServerContext.fds, clients, List.map_map]
        refine List.map_congr_left fun node _ => ?_
        dsimp only [Function.comp]
        split <;> rfl
      exact fds ▸ shown.tracks.distinct
    · rcases mapped member with old | ⟨-, nowhere⟩
      · exact shown.tracks.fits node old
      · rw [nowhere]
        decide
    · rcases mapped member with old | ⟨-, nowhere⟩
      · exact shown.tracks.strangers node old stranger
      · exact nowhere
    · rcases mapped member with old | ⟨nobody, -⟩
      · exact shown.tracks.opened node old signedIn
      · exact absurd signedIn (ne_true_of_eq_false nobody)
  refine shown.of_emits emits (by decide) tracks fun node member looks spared => ?_
  have old : node ∈ process.ctx.clients := (mapped member).resolve_right fun cleared => by
    rw [cleared.2] at looks
    exact absurd (Tables.serverId_pos looks) (by decide)
  rw [db] at looks
  rw [not_or] at spared
  refine ⟨spared.1, looks, ⟨node, old, rfl, rfl⟩,
    presentMembers_of_nodes db fun other signedIn joined => ⟨fun present =>
      (mapped present).resolve_right fun cleared => ?_, fun present => ?_⟩⟩
  · exact absurd signedIn (ne_true_of_eq_false cleared.1)
  · have stays : ¬ other.identity.Revoked fd userId := fun ends => by
      have own : other.id = userId := ends.2.2
      exact spared.2 (own ▸ joined)
    rw [clients]
    exact List.mem_map.mpr ⟨other, present, if_neg stays⟩

/-- A connection that becomes that of a user leaves the lists of the servers that neither this user
nor the one it was of before is a member of. -/
theorem Process.MembersShown.linked (shown : process.MembersShown but) (opened : 0 < fd)
    (userId : Int) (username : Text)
    (spares : ∀ node ∈ process.ctx.clients, node.currentServerIndex ∈ process.ctx.db.serverIds →
      ¬ more node.currentServerIndex → ¬ but node.currentServerIndex ∧
        ¬ process.ctx.db.HasMember node.currentServerIndex userId ∧
        ∀ old, SignedIn process.ctx fd old →
          ¬ process.ctx.db.HasMember node.currentServerIndex old) :
    (linkIdentity fd userId username process).MembersShown more := by
  have emits : Emits [] process (linkIdentity fd userId username process) :=
    linkIdentity_emits fd userId username process
  rw [linkIdentity] at emits ⊢
  cases found : process.ctx.findClient fd with
  | none => exact ⟨shown.tracks, fun node member looks spared =>
      shown.shown node member looks (spares node member looks spared).1⟩
  | some index =>
    rw [found] at emits
    dsimp only at emits ⊢
    obtain ⟨inside, own⟩ := findClient_spec found
    have known : process.clientAt index ∈ process.ctx.clients := clientAt_mem_of_lt inside
    generalize update : (fun node : ClientNode =>
      { node with
        isAuthenticated := true
        id := userId
        username := node.username.strncpy username }) = link at emits ⊢
    have linked : (link (process.clientAt index)).socketFd = fd ∧
        (link (process.clientAt index)).isAuthenticated = true ∧
        (link (process.clientAt index)).id = userId ∧
        (link (process.clientAt index)).currentServerIndex =
          (process.clientAt index).currentServerIndex := by
      rw [← update]
      exact ⟨own, rfl, rfl, rfl⟩
    have written : ∀ {node : ClientNode}, node ∈ (process.modifyClient index link).ctx.clients ↔
        node = link (process.clientAt index) ∨
          node ∈ process.ctx.clients ∧ node.socketFd ≠ (process.clientAt index).socketFd :=
      mem_modifyClient shown.tracks.distinct inside
    have tracks : TracksServers (process.modifyClient index link).ctx := by
      refine shown.tracks.modifyClient inside (fun _ => by rw [← update]) ?_ (fun stranger => ?_)
        fun _ => own.symm ▸ opened
      · rw [linked.2.2.2]
        exact shown.tracks.fits _ known
      · exact absurd linked.2.1 (ne_true_of_eq_false stranger)
    refine shown.of_emits emits List.not_mem_nil tracks fun node member looks spared => ?_
    obtain ⟨old, present, sameFd, looked⟩ : ∃ old ∈ process.ctx.clients,
        old.socketFd = node.socketFd ∧ old.currentServerIndex = node.currentServerIndex := by
      rcases written.mp member with rfl | ⟨old, -⟩
      · exact ⟨_, known, own.trans linked.1.symm, linked.2.2.2.symm⟩
      · exact ⟨node, old, rfl, rfl⟩
    have spares' := spares old present
    rw [looked] at spares'
    obtain ⟨fresh, stranger, others⟩ := spares' looks spared
    refine ⟨fresh, looks, ⟨old, present, sameFd, looked⟩,
      presentMembers_of_nodes rfl fun other signedIn joined =>
      written.trans ⟨?_, fun here => Or.inr ⟨here, fun same => ?_⟩⟩⟩
    · rintro (rfl | ⟨here, -⟩)
      · rw [linked.2.2.1] at joined
        exact absurd joined stranger
      · exact here
    · exact others other.id ⟨other, here, same.trans own, signedIn, rfl⟩ joined

/-- A connection that closes leaves the lists of the servers its user is no member of. -/
theorem Process.MembersShown.removed (shown : process.MembersShown but)
    (inside : index < process.ctx.clients.length) :
    ((process.log (.closed fd)).withClients
      (removeClient index process.ctx.clients)).MembersShown fun other =>
        but other ∨ (process.clientAt index).isAuthenticated = true ∧
          process.ctx.db.HasMember other (process.clientAt index).id := by
  have emits : Emits [] process ((process.log (.closed fd)).withClients
      (removeClient index process.ctx.clients)) :=
    .single (rfl : _ = process.trace ++ [_]) trivial
  have clients : ((process.log (.closed fd)).withClients
      (removeClient index process.ctx.clients)).ctx.clients = process.ctx.clients.eraseIdx index :=
    removeClient_eq_eraseIdx inside
  have known : process.ctx.clients[index]? = some (process.clientAt index) := by
    rw [List.getElem?_eq_getElem inside, Process.clientAt, clientAt_eq_getElem inside]
  generalize left : (process.log (.closed fd)).withClients
    (removeClient index process.ctx.clients) = after at emits clients ⊢
  have db : after.ctx.db = process.ctx.db := by
    rw [← left]
    rfl
  have kept : ∀ {node : ClientNode}, node ∈ after.ctx.clients → node ∈ process.ctx.clients :=
    fun member => List.mem_of_mem_eraseIdx (clients ▸ member)
  have tracks : TracksServers after.ctx := by
    refine ⟨?_, fun node member => shown.tracks.fits node (kept member),
      fun node member => shown.tracks.strangers node (kept member),
      fun node member => shown.tracks.opened node (kept member)⟩
    rw [ServerContext.fds, clients]
    exact shown.tracks.distinct.sublist ((List.eraseIdx_sublist ..).map _)
  refine shown.of_emits emits List.not_mem_nil tracks fun node member looks spared => ?_
  rw [db] at looks
  rw [not_or] at spared
  refine ⟨spared.1, looks, ⟨node, kept member, rfl, rfl⟩,
    presentMembers_of_nodes db fun other signedIn joined => ⟨kept, fun present => ?_⟩⟩
  rw [clients, List.mem_eraseIdx_iff_getElem?]
  obtain ⟨place, there⟩ := List.mem_iff_getElem?.mp present
  refine ⟨place, fun same => spared.2 ?_, there⟩
  rw [same, known] at there
  rw [Option.some.inj there]
  exact ⟨signedIn, joined⟩

theorem notifyAllUserLists_ctx (env : Env) (process : Process) :
    (notifyAllUserLists env process).ctx = process.ctx := by
  refine List.foldlRecOn _ _ (motive := fun other : Process => other.ctx = process.ctx) rfl ?_
  intro other same index _
  dsimp only
  split
  · exact same
  · obtain ⟨_, -, sent⟩ := sendUserList_sends env (other.clientAt index).socketFd
      (other.clientAt index).id other
    exact sent.ctx.trans same

/-- The lists of all users are no lists of members. -/
theorem Process.MembersShown.allUsers (shown : process.MembersShown but) (env : Env) :
    (notifyAllUserLists env process).MembersShown but := by
  have emits : Emits [.users] process (notifyAllUserLists env process) :=
    notifyAllUserLists_emits env process List.mem_cons_self
  exact shown.of_ctx emits (by decide) (notifyAllUserLists_ctx env process)

theorem Process.MembersShown.authReply (shown : process.MembersShown but) (env : Env) (fd : Int)
    {action : AuthAction} {answer : TizcordPacket} (is : answer.request = some (.auth action)) :
    (process.send env fd answer).MembersShown but := by
  have emits : Emits [.session] process (process.send env fd answer) := by
    refine .send env fd process fun topic about => ?_
    rw [topic_of_request is] at about
    cases action with
    | logout => exact List.mem_singleton.mpr (Option.some.inj about).symm
    | _ => cases about
  exact shown.of_ctx emits (by decide) rfl

/-! ### Requests -/

theorem sameMembers_createUser {env : DbEnv} {before after : Database} {username hash : Text}
    {created : Option RowId} {serverId : Int}
    (ran : dbCreateUser env before username hash = (after, created)) :
    SameMembers serverId before after := by
  rcases dbCreateUser_spec ran with ⟨-, rfl⟩ | ⟨id, -, -, tables⟩
  · exact .refl _ _
  · refine ⟨?_, ?_, ?_⟩
    · rw [Tables.serverIds, Tables.serverIds, tables]
      exact fun there => there
    · rw [tables]
    · rw [Tables.accounts, Tables.accounts, tables, List.map_append]
      exact List.subset_append_left _ _

/-- Creating a user changes no membership. -/
theorem dbCreateUser_members {env : DbEnv} {before after : Database} {hash : Text}
    {created : Option RowId} (ran : dbCreateUser env before username hash = (after, created))
    (serverId userId : Int) :
    after.HasMember serverId userId ↔ before.HasMember serverId userId := by
  rcases dbCreateUser_spec ran with ⟨-, rfl⟩ | ⟨id, -, -, tables⟩
  · exact Iff.rfl
  · rw [Tables.HasMember, tables]
    exact Iff.rfl

/-- The name of a user who has just been created was free, and that user is in no server. -/
theorem dbCreateUser_fresh {env : DbEnv} {before after : Database} {hash : Text} {created : RowId}
    (ran : dbCreateUser env before username hash = (after, some created)) :
    (∀ account ∈ before.accounts, account.username ≠ username) ∧
      ∀ serverId, ¬ before.HasMember serverId created := by
  rcases dbCreateUser_spec ran with ⟨none, -⟩ | ⟨id, some, fresh, tables⟩
  · cases none
  obtain rfl := Option.some.inj some
  have accounts : after.accounts = before.accounts ++ [⟨created, username, hash⟩] := by
    rw [Tables.accounts, tables, List.map_append]
    rfl
  refine ⟨fun account member same => fresh ?_, fun serverId joined => fresh joined.known⟩
  have own := account_unique after (accounts ▸ List.mem_append_left _ member)
    (accounts ▸ List.mem_append_right _ List.mem_cons_self) same
  have sameId : account.userId = created := congrArg Account.userId own
  rw [Tables.userIds_eq, ← sameId]
  exact List.mem_map_of_mem member

/-- A registration shows a new user to nobody, for that user is in no server yet. The user whom the
connection was of before leaves, and nobody may look at a server of theirs. -/
theorem registerAccount_members (shown : process.MembersShown fun _ => False) (opened : 0 < fd)
    (unseen : (∀ account ∈ process.ctx.db.accounts,
        account.username ≠ packet.authUsername beyond) →
      ∀ userId, SignedIn process.ctx fd userId → ∀ serverId,
        process.ctx.db.HasMember serverId userId → ¬ Watched process.ctx serverId) :
    (registerAccount env beyond fd packet process).MembersShown fun _ => False := by
  have answered : ∀ (process : Process) (status : Int), process.MembersShown (fun _ => False) →
      (process.send env fd (authPacket .register status)).MembersShown fun _ => False :=
    fun _ status shown => shown.authReply env fd (authPacket_request .register status)
  have ticked : process.tick.MembersShown fun _ => False :=
    shown.of_ctx (.idle rfl : Emits [] process process.tick) List.not_mem_nil rfl
  unfold registerAccount
  generalize packet.authUsername beyond = username at unseen ⊢
  generalize packet.authPassword beyond = password
  cases env.salt process.clock with
  | none => exact answered _ _ ticked
  | some setting =>
    have hashed : (process.tick.log (.hashed password setting)).MembersShown fun _ => False :=
      ticked.of_ctx (hashPassword_emits env password setting process.tick : Emits [] _ _)
        List.not_mem_nil rfl
    dsimp only [hashPassword]
    generalize ticks : process.tick.log (.hashed password setting) = before at hashed ⊢
    have ctx : before.ctx = process.ctx := ticks ▸ rfl
    rw [← ctx] at unseen
    cases env.crypt password setting with
    | none => exact answered _ _ hashed
    | some hash =>
      have changed : (before.change env (fun env db => dbCreateUser env db username hash)
          (fun created => .createUser username hash created)).1.MembersShown fun _ => False :=
        hashed.change fun _ _ _ _ _ => ⟨id, sameMembers_createUser rfl⟩
      dsimp only
      cases created : (before.change env (fun env db => dbCreateUser env db username hash)
          (fun created => .createUser username hash created)).2 with
      | none => exact answered _ _ changed
      | some userId =>
        refine answered _ _ (Process.MembersShown.allUsers ?_ env)
        have ran : dbCreateUser (env.db before.clock) before.ctx.db username hash =
            ((dbCreateUser (env.db before.clock) before.ctx.db username hash).1, some userId) :=
          Prod.ext rfl created
        obtain ⟨free, stranger⟩ := dbCreateUser_fresh ran
        refine changed.linked opened userId username fun node member looks _ =>
          ⟨id, fun joined => ?_, fun old signedIn joined => ?_⟩
        · exact stranger _ ((dbCreateUser_members ran _ _).mp joined)
        · exact unseen free old signedIn _ ((dbCreateUser_members ran _ _).mp joined)
            ⟨node, member, changed.tracks.signedIn member looks, rfl⟩

/-- A connection becomes that of a user whose other sessions end, and those who look at a server of
the user are shown that. Those who look at a server that only the user is in whom the connection was
of before may be such sessions only. -/
theorem Process.MembersShown.replaced (reliable : env.Reliable) (accepting : env.Accepting)
    (shown : process.MembersShown fun _ => False) (opened : 0 < fd) (positive : 0 < userId)
    (username : Text)
    (unseen : ∀ old, SignedIn process.ctx fd old → ∀ node ∈ process.ctx.clients,
      node.isAuthenticated = true → process.ctx.db.HasMember node.currentServerIndex old →
      ¬ process.ctx.db.HasMember node.currentServerIndex userId → node.id = userId) :
    (notifyServerMemberListsForUser env userId (linkIdentity fd userId username
      (revokeExistingLogin env fd userId username process))).MembersShown fun _ => False := by
  have revoked := shown.revoked env fd userId username
  have db := (revokeExistingLogin_rest env fd userId username process).1
  have stays : ∀ node ∈ (revokeExistingLogin env fd userId username process).ctx.clients,
      node.isAuthenticated = true →
        node ∈ process.ctx.clients ∧ ¬ node.identity.Revoked fd userId :=
    fun node member authenticated => (mem_revokeExistingLogin member).resolve_right fun cleared =>
      absurd authenticated (ne_true_of_eq_false cleared.1)
  generalize revokeExistingLogin env fd userId username process = middle at revoked db stays ⊢
  have linked : (linkIdentity fd userId username middle).MembersShown fun other =>
      process.ctx.db.HasMember other userId := by
    refine revoked.linked opened userId username fun node member looks spared =>
      ⟨fun is => is.elim id spared, db ▸ spared, fun old signedIn joined => ?_⟩
    -- a session that is still there and looks would be one of the user's, and is the connection
    have authenticated := revoked.tracks.signedIn member looks
    obtain ⟨present, stayed⟩ := stays node member authenticated
    obtain ⟨own, there, here, ownSigned, same⟩ := signedIn
    have comes := unseen old ⟨own, (stays own there ownSigned).1, here, ownSigned, same⟩ node present
      authenticated (db ▸ joined) spared
    have connection : node.socketFd = fd := by
      by_contra elsewhere
      exact stayed ⟨⟨revoked.tracks.opened node member authenticated, elsewhere⟩, authenticated,
        comes⟩
    obtain rfl : own = node := List.inj_on_of_nodup_map revoked.tracks.distinct there member
      (here.trans connection.symm)
    have whose : old = userId := same.symm.trans comes
    rw [whose, db] at joined
    exact spared joined
  refine (notifyServerMemberListsForUser_shows reliable accepting linked positive).2.weaken
    fun other is => is.2 ?_
  rw [(linkIdentity_rest fd userId username middle).1, db]
  exact is.1

/-- A login shows the user to those who look at one of their servers. -/
theorem loginAccount_members (reliable : env.Reliable) (accepting : env.Accepting)
    (shown : process.MembersShown fun _ => False) (opened : 0 < fd)
    (unseen : ∀ account ∈ process.ctx.db.accounts, account.username = packet.authUsername beyond →
      env.crypt (packet.authPassword beyond) account.passwordHash = some account.passwordHash →
      ∀ userId, SignedIn process.ctx fd userId → ∀ node ∈ process.ctx.clients,
        node.isAuthenticated = true →
        process.ctx.db.HasMember node.currentServerIndex userId →
        ¬ process.ctx.db.HasMember node.currentServerIndex account.userId →
        node.id = account.userId) :
    (loginAccount env beyond fd packet process).MembersShown fun _ => False := by
  have answered : ∀ (process : Process) (status : Int), process.MembersShown (fun _ => False) →
      (process.send env fd (authPacket .login status)).MembersShown fun _ => False :=
    fun _ status shown => shown.authReply env fd (authPacket_request .login status)
  unfold loginAccount
  generalize packet.authUsername beyond = username at unseen ⊢
  generalize packet.authPassword beyond = password at unseen ⊢
  have looked : Emits [] process (process.log (.called (.getPasswordHash username))).tick :=
    .single (rfl : _ = process.trace ++ [_]) trivial
  dsimp only [Process.read]
  cases found : dbGetPasswordHash (env.db process.clock) process.ctx.db username with
  | none => exact answered _ _ (shown.of_ctx looked List.not_mem_nil rfl)
  | some result =>
    obtain ⟨dbHash, dbUserId⟩ := result
    have known := account_of_hash found
    have hashed := shown.of_ctx (looked.trans (hashPassword_emits env password dbHash _))
      List.not_mem_nil rfl
    dsimp only
    split
    · exact answered _ _ hashed
    · next right =>
      have positive : 0 < dbUserId := by
        have listed : dbUserId ∈ process.ctx.db.userIds := by
          rw [Tables.userIds_eq]
          exact List.mem_map_of_mem known
        exact Tables.userId_pos listed
      exact answered _ _ ((hashed.replaced reliable accepting opened positive username
        (unseen _ known rfl (not_not.mp right))).allUsers env)

/-- A logout shows those who look at a server of the user that the user has left. -/
theorem logoutAccount_members (reliable : env.Reliable) (accepting : env.Accepting)
    (shown : process.MembersShown fun _ => False) (valid : process.ctx.Valid) (fd : Int) :
    (logoutAccount env fd process).MembersShown fun _ => False := by
  unfold logoutAccount
  cases found : process.ctx.findClient fd with
  | none => exact shown
  | some index =>
    dsimp only
    split
    · exact shown.authReply env fd (authPacket_request .logout _)
    · next checked =>
      have authenticated : (process.clientAt index).isAuthenticated = true := by
        simpa using checked
      have positive := Tables.userId_pos ((valid _ (clientAt_mem_of_authenticated
        authenticated)).user authenticated)
      refine Process.MembersShown.authReply (Process.MembersShown.allUsers ?_ env) env fd
        (authNotice_request .logout _ _)
      refine (notifyServerMemberListsForUser_shows reliable accepting (shown.cleared authenticated)
        positive).2.weaken fun other is => ?_
      exact is.2 (is.1.resolve_left id)

/-- When a connection of a user closes, those who look at a server of the user are shown that. -/
theorem disconnectClient_members (reliable : env.Reliable) (accepting : env.Accepting)
    {loop : Loop} (shown : loop.process.MembersShown fun _ => False)
    (valid : loop.process.ctx.Valid) (inside : index < loop.process.ctx.clients.length) :
    (disconnectClient env index loop).process.MembersShown fun _ => False := by
  have removed := @Process.MembersShown.removed loop.process _ index
    (loop.process.clientAt index).socketFd shown inside
  rw [disconnectClient]
  dsimp only
  cases known : (loop.process.clientAt index).isAuthenticated with
  | true =>
    have positive := Tables.userId_pos ((valid _ (clientAt_mem_of_lt inside)).user known)
    rw [notifyDisconnected_of_user _ known positive]
    refine Process.MembersShown.allUsers ?_ env
    refine (notifyServerMemberListsForUser_shows reliable accepting removed positive).2.weaken
      fun other is => ?_
    exact is.2 (is.1.resolve_left id).2
  | false =>
    rw [notifyDisconnected_of_stranger _ known]
    refine removed.weaken fun other is => ?_
    rcases is with no | ⟨signedIn, -⟩
    · exact no
    · exact absurd signedIn (ne_true_of_eq_false known)

end Sessions

end Tizcord
