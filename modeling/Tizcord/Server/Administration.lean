/-
This file is about the rights on a server. Whoever has created a server is its
administrator until they leave it, are kicked, or it is deleted, also when the
ids of servers are used again; and only an administrator's packet can remove a
server, change its channels, or end the membership of somebody else.
-/

import Tizcord.Library.Since
import Tizcord.Server.Sessions
import Tizcord.Server.Strangers

namespace Tizcord

open CModel

/-! ### Servers, members and channels after a call -/

/-- The calls that write to the tables of servers, members and channels. -/
def DbCall.aboutServers : DbCall → Bool
  | .createServer .. | .joinServer .. | .leaveServer .. | .deleteServer .. | .kickServerMember ..
  | .createChannel .. | .deleteChannel .. => true
  | _ => false

/-- The servers, their members and their channels are the same. -/
structure SameServers (before after : Database) : Prop where
  servers : after.servers = before.servers
  members : after.serverMembers = before.serverMembers
  channels : after.channels = before.channels

theorem SameServers.refl (database : Database) : SameServers database database :=
  ⟨rfl, rfl, rfl⟩

theorem DbCall.Runs.sameServers {env : DbEnv} {before after : Database} {call : DbCall}
    (runs : call.Runs env before after) (other : call.aboutServers = false) :
    SameServers before after := by
  have frame := runs.frame
  cases call with
  | createServer | joinServer | leaveServer | deleteServer | kickServerMember | createChannel
  | deleteChannel => exact Bool.noConfusion other
  | _ => exact ⟨(congrArg Tables.servers frame :), (congrArg Tables.serverMembers frame :),
      (congrArg Tables.channels frame :)⟩

theorem Database.mem_deleteServerMember {database : Database} {pair : Int × Int}
    {row : ServerMemberRow} :
    row ∈ (database.deleteServerMember pair).serverMembers ↔
      row ∈ database.serverMembers ∧ row.pair ≠ pair := by
  simp [Database.deleteServerMember]

/-! ### Administrators in the record -/

/-- The effect makes a user the administrator of a new server. -/
def Effect.Appoints (serverId userId : Int) : Effect → Prop
  | .called (.createServer _ creatorId (some created) _) =>
    serverId = created ∧ userId = creatorId
  | _ => False

/-- The effect ends the membership of a user: the user leaves the server or is kicked from it, or
the server is deleted. -/
def Effect.Dismisses (serverId userId : Int) : Effect → Prop
  | .called (.leaveServer leftId memberId status) =>
    (serverId = leftId ∧ userId = memberId) ∧ status = 0
  | .called (.kickServerMember leftId memberId status) =>
    (serverId = leftId ∧ userId = memberId) ∧ status = 0
  | .called (.deleteServer deletedId _ status) => serverId = deletedId ∧ status = 0
  | _ => False

/-- The user has created the server, and is still its member. -/
def Appointed (trace : List Effect) (serverId userId : Int) : Prop :=
  Since (fun _ effect => effect.Appoints serverId userId)
    (fun _ effect => effect.Dismisses serverId userId) trace

section Call

variable {env : DbEnv} {ctx : ServerContext} {fd : Int} {beyond : List UInt8}
  {packet : TizcordPacket} {call : DbCall} {after : Database}

/-- Nobody is a member of a server that is not there. -/
theorem not_member_of_fresh {database : Database} {serverId userId : Int} {isAdmin : Bool}
    (fresh : serverId ∉ database.serverIds) :
    ⟨serverId, userId, isAdmin⟩ ∉ database.serverMembers :=
  fun member => fresh (database.integrity.members_server _ member)

/-- Without failures, who creates a server becomes its member. -/
theorem dbJoinServer_created {middle : Database} {id : RowId} {name : Text} {userId status : Int}
    (reliable : env.Reliable) (user : userId ∈ ctx.db.userIds) (fresh : (id : Int) ∉ ctx.db.serverIds)
    (tables : middle.toTables = { ctx.db.toTables with servers := ctx.db.servers ++ [⟨id, name⟩] })
    (joined : dbJoinServer env middle id userId true = (after, status)) :
    after.serverMembers = ctx.db.serverMembers ++ [⟨id, userId, true⟩] := by
  have members : middle.serverMembers = ctx.db.serverMembers := by rw [tables]
  have servers : middle.serverIds = ctx.db.serverIds ++ [(id : Int)] := by
    rw [tables]
    exact List.map_append
  have users : middle.userIds = ctx.db.userIds := by rw [tables]; rfl
  have integrity : Tables.Integrity { middle.toTables with
      serverMembers := middle.serverMembers ++ [⟨id, userId, true⟩] } :=
    { middle.integrity with
      members_server := by
        refine (references_append_singleton _ _ _ _).mpr ⟨middle.integrity.members_server, ?_⟩
        exact servers ▸ List.mem_append_right _ List.mem_cons_self
      members_user := by
        refine (references_append_singleton _ _ _ _).mpr ⟨middle.integrity.members_user, ?_⟩
        exact users ▸ user
      members_pair := by
        refine (uniqueOn_append_singleton _ _ _).mpr ⟨middle.integrity.members_pair, fun taken => ?_⟩
        obtain ⟨⟨serverId, memberId, isAdmin⟩, member, same⟩ := List.mem_map.mp taken
        rw [members, show serverId = (id : Int) from congrArg Prod.fst same] at member
        exact not_member_of_fresh fresh member }
  rw [dbJoinServer, runStatement_of_reliable reliable, Database.insertServerMember,
    Database.commit_of_integrity integrity] at joined
  rw [← (Prod.mk.inj joined).1, ← members]

/-- After a call those are administrators whom it appoints, and those who were administrators
before unless it dismisses them. -/
theorem DbCall.Runs.admins (reliable : env.Reliable) (valid : ctx.Valid)
    (permitted : call.Permitted ctx fd beyond packet) (runs : call.Runs env ctx.db after)
    (serverId userId : Int) :
    ⟨serverId, userId, true⟩ ∈ after.serverMembers ↔
      (Effect.called call).Appoints serverId userId ∨
        ⟨serverId, userId, true⟩ ∈ ctx.db.serverMembers ∧
          ¬ (Effect.called call).Dismisses serverId userId := by
  have unchanged : after.serverMembers = ctx.db.serverMembers →
      ¬ (Effect.called call).Appoints serverId userId →
      (⟨serverId, userId, true⟩ ∈ ctx.db.serverMembers →
        ¬ (Effect.called call).Dismisses serverId userId) →
      (⟨serverId, userId, true⟩ ∈ after.serverMembers ↔
        (Effect.called call).Appoints serverId userId ∨
          ⟨serverId, userId, true⟩ ∈ ctx.db.serverMembers ∧
            ¬ (Effect.called call).Dismisses serverId userId) := by
    intro same unappointed undismissed
    rw [same]
    exact ⟨fun member => Or.inr ⟨member, undismissed member⟩,
      fun either => (either.resolve_left unappointed).1⟩
  cases call with
  | createServer name creatorId created status =>
    rcases dbCreateServer_spec runs with ⟨rfl, rfl⟩ | ⟨id, rfl, fresh, middle, tables, joined⟩
    · exact unchanged rfl id fun _ => id
    · obtain ⟨⟨node, present, -, authenticated, rfl⟩, -⟩ := permitted
      rw [dbJoinServer_created (reliable.after 1) ((valid node present).user authenticated) fresh
        tables joined, List.mem_append, List.mem_singleton, or_comm]
      refine or_congr ?_ (and_iff_left fun impossible => impossible).symm
      simp only [ServerMemberRow.mk.injEq, Effect.Appoints, and_true]
  | joinServer joinedId memberId status =>
    rcases dbJoinServer_spec runs with ⟨-, inserted⟩ | ⟨-, rfl⟩
    · have tables := Database.commit_eq_some.mp inserted
      rw [tables]
      simp [Effect.Appoints, Effect.Dismisses]
    · exact unchanged rfl id fun _ => id
  | leaveServer leftId memberId status =>
    rcases dbLeaveServer_spec runs with ⟨rfl, rfl⟩ | ⟨rfl, rfl⟩
    · rw [Database.mem_deleteServerMember]
      simp [ServerMemberRow.pair, Effect.Appoints, Effect.Dismisses]
    · exact unchanged rfl id fun _ dismissed => absurd dismissed.2 (by decide)
  | kickServerMember leftId memberId status =>
    rcases dbKickServerMember_spec runs with ⟨rfl, rfl⟩ | ⟨rfl, rfl⟩
    · rw [Database.mem_deleteServerMember]
      simp [ServerMemberRow.pair, Effect.Appoints, Effect.Dismisses]
    · exact unchanged rfl id fun _ dismissed => absurd dismissed.2 (by decide)
  | deleteServer deletedId adminId status =>
    rcases dbDeleteServer_spec runs with ⟨rfl, rfl⟩ | ⟨rfl, rfl⟩
    · simp [Database.deleteServer, Effect.Appoints, Effect.Dismisses]
    · exact unchanged rfl id fun _ dismissed => absurd dismissed.2 (by decide)
  | createChannel | deleteChannel =>
    exact unchanged (congrArg Tables.serverMembers runs.frame :) (fun impossible => impossible)
      fun _ impossible => impossible
  | createUser | getPasswordHash | getUserIdByName | updateUserStatus | saveMessage
  | saveDirectMessage | sendFriendRequest | acceptFriendRequest | removeFriendship
  | rejectFriendRequest => exact unchanged (runs.sameServers rfl).members id fun _ => id

end Call

/-- In every reachable state the administrators are those the record says. -/
theorem ReachableWhen.admins {env : Env} {allowed : ServerContext → Int → TizcordPacket → Prop}
    {serverFd : Int} {machine : Machine} (reliable : env.Reliable)
    (reachable : ReachableWhen env allowed serverFd machine) (serverId userId : Int) :
    ⟨serverId, userId, true⟩ ∈ machine.loop.process.ctx.db.serverMembers ↔
      Appointed machine.loop.process.trace serverId userId := by
  refine reachable.database_invariant
    (fun db trace => ⟨serverId, userId, true⟩ ∈ db.serverMembers ↔
      Appointed trace serverId userId) ?_ ?_ ?_
  · exact ⟨fun member => absurd member List.not_mem_nil, fun since => absurd since not_since_nil⟩
  · intro db past effect other held
    have unappointed : ¬ effect.Appoints serverId userId := by
      intro appoints
      cases effect <;> first | exact appoints | exact other _ rfl
    have undismissed : ¬ effect.Dismisses serverId userId := by
      intro dismisses
      cases effect <;> first | exact dismisses | exact other _ rfl
    rw [held]
    exact (since_append_of_neither unappointed undismissed).symm
  · intro ctx fd beyond packet time call after past valid permitted runs held
    have extended : Appointed (past ++ [.called call]) serverId userId ↔
        (Effect.called call).Appoints serverId userId ∨ Appointed past serverId userId ∧
          ¬ (Effect.called call).Dismisses serverId userId := since_append_singleton
    rw [runs.admins (reliable time) valid permitted, held, extended]

/-! ### What needs an administrator -/

/-- A change from `before` to `after` does nothing to a server that needs an administrator: the
server stays, its channels are the same, and nobody but the requester loses a membership. -/
structure Spares (serverId : Int) (requesterId : Option Int) (before after : Database) : Prop where
  server : ∀ row ∈ before.servers, (row.id : Int) = serverId → row ∈ after.servers
  channels : ∀ row : ChannelRow, row.serverId = serverId →
    (row ∈ after.channels ↔ row ∈ before.channels)
  members : ∀ row ∈ before.serverMembers, row.serverId = serverId →
    some row.userId ≠ requesterId → row ∈ after.serverMembers

section Spares

variable {serverId : Int} {requesterId : Option Int} {before middle after : Database}

theorem SameServers.spares (same : SameServers before after) :
    Spares serverId requesterId before after where
  server _ member _ := same.servers ▸ member
  channels _ _ := by rw [same.channels]
  members _ member _ _ := same.members ▸ member

theorem Spares.trans (first : Spares serverId requesterId before middle)
    (second : Spares serverId requesterId middle after) :
    Spares serverId requesterId before after where
  server row member own := second.server row (first.server row member own) own
  channels row own := (second.channels row own).trans (first.channels row own)
  members row member own other := second.members row (first.members row member own other) own other

theorem spares_joinServer {env : DbEnv} {joinedId userId status : Int} {isAdmin : Bool}
    (ran : dbJoinServer env before joinedId userId isAdmin = (after, status)) :
    Spares serverId requesterId before after := by
  rcases dbJoinServer_spec ran with ⟨-, inserted⟩ | ⟨-, rfl⟩
  · have tables := Database.commit_eq_some.mp inserted
    refine ⟨?_, ?_, ?_⟩ <;> rw [tables]
    · exact fun _ member _ => member
    · exact fun _ _ => Iff.rfl
    · exact fun _ member _ _ => List.mem_append_left _ member
  · exact (SameServers.refl _).spares

theorem spares_createServer {env : DbEnv} {name : Text} {userId status : Int}
    {created : Option RowId}
    (ran : dbCreateServer env before name userId = (after, created, status)) :
    Spares serverId requesterId before after := by
  rcases dbCreateServer_spec ran with ⟨-, rfl⟩ | ⟨id, -, -, middle, tables, joined⟩
  · exact (SameServers.refl _).spares
  · refine Spares.trans ?_ (spares_joinServer joined)
    refine ⟨?_, ?_, ?_⟩ <;> rw [tables]
    · exact fun _ member _ => List.mem_append_left _ member
    · exact fun _ _ => Iff.rfl
    · exact fun _ member _ _ => member

theorem spares_deleteServerMember {leftId userId : Int}
    (other : leftId ≠ serverId ∨ requesterId = some userId) :
    Spares serverId requesterId before (before.deleteServerMember (leftId, userId)) where
  server _ member _ := member
  channels _ _ := Iff.rfl
  members row member own unasked := by
    refine Database.mem_deleteServerMember.mpr ⟨member, fun same => ?_⟩
    rcases other with other | asked
    · exact other ((congrArg Prod.fst same).symm.trans own)
    · exact unasked ((congrArg some (congrArg Prod.snd same)).trans asked.symm)

theorem spares_deleteServer {deletedId : Int} (other : deletedId ≠ serverId) :
    Spares serverId requesterId before (before.deleteServer deletedId) where
  server row member own := by
    refine List.mem_filter.mpr ⟨member, ?_⟩
    simpa [own] using other.symm
  channels row own := by
    refine List.mem_filter.trans (and_iff_left ?_)
    simpa [own] using other.symm
  members row member own _ := by
    refine List.mem_filter.mpr ⟨member, ?_⟩
    simpa [own] using other.symm

theorem spares_createChannel {env : DbEnv} {ownerId : Int} {name : Text} {created : Option RowId}
    (other : ownerId ≠ serverId)
    (ran : dbCreateChannel env before ownerId name = (after, created)) :
    Spares serverId requesterId before after := by
  rcases dbCreateChannel_spec ran with ⟨-, rfl⟩ | ⟨id, -, tables⟩
  · exact (SameServers.refl _).spares
  · refine ⟨?_, ?_, ?_⟩ <;> rw [tables]
    · exact fun _ member _ => member
    · intro row own
      refine List.mem_append.trans (or_iff_left fun new => other ?_)
      rw [← own, List.mem_singleton.mp new]
    · exact fun _ member _ _ => member

theorem spares_deleteChannel {deleted : ChannelRow} (present : deleted ∈ before.channels)
    (other : deleted.serverId ≠ serverId) :
    Spares serverId requesterId before (before.deleteChannel deleted.id) where
  server _ member _ := member
  channels row own := by
    refine List.mem_filter.trans (and_iff_left_of_imp fun member => ?_)
    have different : (row.id : Int) ≠ deleted.id := fun same =>
      other (before.integrity.channels_id.eq_of_key member present same ▸ own)
    simpa using different
  members _ member _ _ := member

end Spares

/-- The connection is authenticated as an administrator of the server. -/
def IsAdministrator (ctx : ServerContext) (fd serverId : Int) : Prop :=
  ∃ userId, SignedIn ctx fd userId ∧ ⟨serverId, userId, true⟩ ∈ ctx.db.serverMembers

theorem HasAdmin.isAdministrator {ctx : ServerContext} {fd serverId : Int} (valid : ctx.Valid)
    (admin : HasAdmin ctx fd serverId) : IsAdministrator ctx fd serverId := by
  obtain ⟨node, present, own, member⟩ := admin
  refine ⟨node.id, ⟨node, present, own, ?_, rfl⟩, member⟩
  cases authenticated : node.isAuthenticated with
  | true => rfl
  | false =>
    have user := ctx.db.integrity.members_user _ member
    rw [show (ServerMemberRow.mk serverId node.id true).userId = 0 from
      ((valid node present).stranger authenticated).1] at user
    exact absurd user (zero_not_mem_userIds _)

/-- The requests only an administrator is granted. -/
def Request.Administrative (request : Request) : Prop :=
  request = .server .delete ∨ request = .server .kickMember ∨ request = .channel .create ∨
    request = .channel .delete

section Call

variable {env : DbEnv} {ctx : ServerContext} {fd : Int} {beyond : List UInt8}
  {packet : TizcordPacket} {call : DbCall} {after : Database} {requesterId : Option Int}

/-- A call spares a server, unless an administrator of the server asked for it. -/
theorem DbCall.Runs.spares (valid : ctx.Valid)
    (requester : ∀ userId, SignedIn ctx fd userId → requesterId = some userId)
    (permitted : call.Permitted ctx fd beyond packet) (runs : call.Runs env ctx.db after)
    (serverId : Int) :
    Spares serverId requesterId ctx.db after ∨
      IsAdministrator ctx fd serverId ∧
        ∃ request, packet.request = some request ∧ request.Administrative := by
  cases call with
  | createServer => exact Or.inl (spares_createServer runs)
  | joinServer => exact Or.inl (spares_joinServer runs)
  | leaveServer leftId memberId =>
    rcases dbLeaveServer_spec runs with ⟨-, rfl⟩ | ⟨-, rfl⟩
    · exact Or.inl (spares_deleteServerMember (Or.inr (requester memberId permitted.1)))
    · exact Or.inl (SameServers.refl _).spares
  | kickServerMember leftId memberId =>
    obtain ⟨administrator, -, -, asked⟩ := permitted
    by_cases own : leftId = serverId
    · exact Or.inr ⟨own ▸ administrator, _, asked, Or.inr (Or.inl rfl)⟩
    · rcases dbKickServerMember_spec runs with ⟨-, rfl⟩ | ⟨-, rfl⟩
      · exact Or.inl (spares_deleteServerMember (Or.inl own))
      · exact Or.inl (SameServers.refl _).spares
  | deleteServer deletedId adminId =>
    obtain ⟨⟨signed, member⟩, -, asked⟩ := permitted
    by_cases own : deletedId = serverId
    · exact Or.inr ⟨own ▸ ⟨adminId, signed, member⟩, _, asked, Or.inl rfl⟩
    · rcases dbDeleteServer_spec runs with ⟨-, rfl⟩ | ⟨-, rfl⟩
      · exact Or.inl (spares_deleteServer own)
      · exact Or.inl (SameServers.refl _).spares
  | createChannel ownerId =>
    obtain ⟨admin, -, -, asked⟩ := permitted
    by_cases own : ownerId = serverId
    · exact Or.inr ⟨own ▸ admin.isAdministrator valid, _, asked, Or.inr (Or.inr (Or.inl rfl))⟩
    · exact Or.inl (spares_createChannel own runs)
  | deleteChannel =>
    obtain ⟨⟨deleted, present, rfl, admin⟩, -, asked⟩ := permitted
    by_cases own : deleted.serverId = serverId
    · exact Or.inr ⟨own ▸ admin.isAdministrator valid, _, asked, Or.inr (Or.inr (Or.inr rfl))⟩
    · rcases dbDeleteChannel_spec runs with ⟨-, rfl⟩ | ⟨-, rfl⟩
      · exact Or.inl (spares_deleteChannel present own)
      · exact Or.inl (SameServers.refl _).spares
  | createUser | getPasswordHash | getUserIdByName | updateUserStatus | saveMessage
  | saveDirectMessage | sendFriendRequest | acceptFriendRequest | removeFriendship
  | rejectFriendRequest => exact Or.inl (runs.sameServers rfl).spares

/-- Only the creation of a server gives it an administrator. -/
theorem DbCall.Runs.admins_subset (permitted : call.Permitted ctx fd beyond packet)
    (runs : call.Runs env ctx.db after) (other : packet.request ≠ some (.server .create))
    {serverId userId : Int} (member : ⟨serverId, userId, true⟩ ∈ after.serverMembers) :
    ⟨serverId, userId, true⟩ ∈ ctx.db.serverMembers := by
  cases call with
  | createServer => exact absurd permitted.2.2 other
  | joinServer =>
    rcases dbJoinServer_spec runs with ⟨-, inserted⟩ | ⟨-, rfl⟩
    · rw [Database.commit_eq_some.mp inserted] at member
      simpa using member
    · exact member
  | leaveServer =>
    rcases dbLeaveServer_spec runs with ⟨-, rfl⟩ | ⟨-, rfl⟩
    · exact (Database.mem_deleteServerMember.mp member).1
    · exact member
  | kickServerMember =>
    rcases dbKickServerMember_spec runs with ⟨-, rfl⟩ | ⟨-, rfl⟩
    · exact (Database.mem_deleteServerMember.mp member).1
    · exact member
  | deleteServer =>
    rcases dbDeleteServer_spec runs with ⟨-, rfl⟩ | ⟨-, rfl⟩
    · exact List.mem_of_mem_filter member
    · exact member
  | createChannel | deleteChannel =>
    have same : after.serverMembers = ctx.db.serverMembers :=
      (congrArg Tables.serverMembers runs.frame :)
    exact same ▸ member
  | createUser | getPasswordHash | getUserIdByName | updateUserStatus | saveMessage
  | saveDirectMessage | sendFriendRequest | acceptFriendRequest | removeFriendship
  | rejectFriendRequest => exact (runs.sameServers rfl).members ▸ member

end Call

/-! ### The handling of a packet -/

section Handling

variable {env : Env} {fd : Int} {beyond : List UInt8} {packet : TizcordPacket}

theorem DbCall.Permitted.sameServers_of_auth {dbEnv : DbEnv} {ctx : ServerContext} {call : DbCall}
    {after : Database} {action : AuthAction} (permitted : call.Permitted ctx fd beyond packet)
    (runs : call.Runs dbEnv ctx.db after) (asked : packet.request = some (.auth action)) :
    SameServers ctx.db after := by
  refine runs.sameServers ?_
  cases call <;> first | rfl | simp [DbCall.Permitted, asked] at permitted

/-- The handling of a packet spares a server, unless the packet is from its administrator. -/
theorem Acts.spares {start finish : Process} (acts : Acts env fd beyond packet start finish)
    (valid : start.ctx.Valid) {requesterId : Option Int}
    (requester : ∀ userId, SignedIn start.ctx fd userId → requesterId = some userId)
    (serverId : Int) :
    Spares serverId requesterId start.ctx.db finish.ctx.db ∨
      IsAdministrator start.ctx fd serverId := by
  by_cases auth : ∃ action, packet.request = some (.auth action)
  · obtain ⟨action, asked⟩ := auth
    refine Or.inl (Takes.invariant
      (fun ctx => Spares serverId requesterId start.ctx.db ctx.db) ?_ acts
      (SameServers.refl _).spares)
    intro before effects after step spares
    rcases step.database_cases with ⟨time, call, permitted, runs, -⟩ | ⟨same, -⟩
    · exact spares.trans (permitted.sameServers_of_auth runs asked).spares
    · rw [same]
      exact spares
  · have other : ∀ action, packet.request ≠ some (.auth action) :=
      fun action asked => auth ⟨action, asked⟩
    refine (Takes.invariant (fun ctx => ctx.Valid ∧ ctx.identities = start.ctx.identities ∧
      (packet.request ≠ some (.server .create) → ∀ userId,
        ⟨serverId, userId, true⟩ ∈ ctx.db.serverMembers →
          ⟨serverId, userId, true⟩ ∈ start.ctx.db.serverMembers) ∧
      (Spares serverId requesterId start.ctx.db ctx.db ∨
        IsAdministrator start.ctx fd serverId)) ?_ acts
      ⟨valid, rfl, fun _ _ member => member, Or.inl (SameServers.refl _).spares⟩).2.2.2
    rintro before effects after step ⟨valid, same, earlier, spares⟩
    refine ⟨step.valid valid, (step.identities other).trans same, ?_⟩
    rcases step.database_cases with ⟨time, call, permitted, runs, -⟩ | ⟨unchanged, -⟩
    · refine ⟨fun other userId member => earlier other userId
        (runs.admins_subset permitted other member), spares.elim (fun spares => ?_) Or.inr⟩
      rcases runs.spares valid (fun userId signed => requester userId ((signedIn_congr same).mp signed))
        permitted serverId with
        spared | ⟨⟨userId, signed, member⟩, request, asked, administrative⟩
      · exact Or.inl (spares.trans spared)
      · refine Or.inr ⟨userId, (signedIn_congr same).mp signed, earlier ?_ userId member⟩
        rw [asked]
        rcases administrative with rfl | rfl | rfl | rfl <;> simp
    · rw [unchanged]
      exact ⟨earlier, spares⟩

end Handling

/-! ### Steps of the server -/

section Steps

variable {env : Env} {serverFd : Int}

theorem acceptRound_db (readSet : Finset Int) (accepts : List AcceptResult) (loop : Loop) :
    (acceptRound readSet accepts loop).process.ctx.db = loop.process.ctx.db := by
  rcases acceptRound_cases readSet accepts loop with
    same | ⟨fd, rejected⟩ | ⟨fd, socket, -, -, accepted⟩
  · rw [same]
  · rw [rejected]
    rfl
  · rw [accepted]
    rfl

theorem Notifies.db {before after : Process} (notifies : Notifies env before after) :
    after.ctx.db = before.ctx.db := by
  refine Takes.invariant (fun ctx => ctx.db = before.ctx.db) ?_ notifies rfl
  intro first events last step same
  rcases step.notice with ⟨_, _, _, _, -, -, rfl⟩ | ⟨_, _, -, rfl⟩ <;> exact same

/-- No other node has the descriptor of the node at an index. -/
theorem Loop.Consistent.signedIn {loop : Loop} (consistent : loop.Consistent) {index : Nat}
    (inside : index < loop.process.ctx.clients.length) {userId : Int}
    (signed : SignedIn loop.process.ctx (loop.process.clientAt index).socketFd userId) :
    (loop.process.clientAt index).isAuthenticated = true ∧
      (loop.process.clientAt index).id = userId := by
  obtain ⟨node, member, own, authenticated, same⟩ := signed
  have present : loop.process.clientAt index ∈ loop.process.ctx.clients := by
    rw [Process.clientAt, clientAt_eq_getElem inside]
    exact List.getElem_mem inside
  rw [← List.inj_on_of_nodup_map consistent.distinct member present own]
  exact ⟨authenticated, same⟩

/-- One pass spares a server, unless the connection it services is its administrator's. -/
theorem serviceClient_spares {readSet : Finset Int} {index : Nat} {loop : Loop}
    (consistent : loop.Consistent) (inside : index < loop.process.ctx.clients.length)
    (serverId : Int) :
    Spares serverId (some (loop.process.clientAt index).id) loop.process.ctx.db
        (serviceClient env readSet index loop).1.process.ctx.db ∨
      IsAdministrator loop.process.ctx (loop.process.clientAt index).socketFd serverId := by
  rcases serviceClient_cases env readSet index loop with
    ⟨-, skipped⟩ | ⟨-, ⟨errno, -, failed⟩ | ⟨-, again⟩ | ⟨packet, -, handled⟩⟩
  · rw [skipped]
    exact Or.inl (SameServers.refl _).spares
  · have notices := disconnectClient_notifies env
      (show index < (receiveClient index loop).1.process.ctx.clients.length by
        rw [receiveClient_length]
        exact inside)
    rw [failed, notices.db]
    exact Or.inl (SameServers.refl _).spares
  · rw [again]
    exact Or.inl (SameServers.refl _).spares
  · have same := receiveClient_identities index loop
    have own := receiveClient_clientAt_fd inside
    have handles := processClientPacket_acts env index packet (receiveClient index loop).1.process
    rw [own] at handles
    have requester : ∀ userId, SignedIn (receiveClient index loop).1.process.ctx
        (loop.process.clientAt index).socketFd userId →
        some (loop.process.clientAt index).id = some userId := fun userId signed =>
      congrArg some (consistent.signedIn inside ((signedIn_congr same).mp signed)).2
    have spares := handles.spares (receiveClient_valid consistent.valid) requester serverId
    rw [handled]
    dsimp only
    rcases spares with spares | ⟨userId, signed, member⟩
    · exact Or.inl spares
    · exact Or.inr ⟨userId, (signedIn_congr same).mp signed, member⟩

/-- A change from `before` to `after` needs an administrator of the server: the server is removed,
a channel of it is added or removed, or somebody else than the requester loses a membership. -/
def Administers (serverId : Int) (requesterId : Option Int) (before after : Database) : Prop :=
  (∃ row ∈ before.servers, (row.id : Int) = serverId ∧ row ∉ after.servers) ∨
    (∃ row : ChannelRow, row.serverId = serverId ∧
      ¬ (row ∈ after.channels ↔ row ∈ before.channels)) ∨
    ∃ row ∈ before.serverMembers, row.serverId = serverId ∧ some row.userId ≠ requesterId ∧
      row ∉ after.serverMembers

theorem Spares.not_administers {serverId : Int} {requesterId : Option Int}
    {before after : Database} (spares : Spares serverId requesterId before after) :
    ¬ Administers serverId requesterId before after := by
  rintro (⟨row, member, own, removed⟩ | ⟨row, own, changed⟩ | ⟨row, member, own, other, removed⟩)
  · exact removed (spares.server row member own)
  · exact changed (spares.channels row own)
  · exact removed (spares.members row member own other)

/-- In every reachable state the administrators of the servers are their creators that are still
members, and every step that needs an administrator services the connection of one. -/
theorem administration_sound (env : Env) (reliable : env.Reliable) (serverFd : Int)
    (machine : Machine) (reachable : Reachable env serverFd machine) :
    (∀ serverId userId, ⟨serverId, userId, true⟩ ∈ machine.loop.process.ctx.db.serverMembers ↔
      Appointed machine.loop.process.trace serverId userId) ∧
    ∀ next serverId, machine.Step env next →
      Administers serverId (machine.requester.map ClientNode.id) machine.loop.process.ctx.db
        next.loop.process.ctx.db →
      ∃ requester, machine.requester = some requester ∧ requester.isAuthenticated = true ∧
        ⟨serverId, requester.id, true⟩ ∈ machine.loop.process.ctx.db.serverMembers := by
  refine ⟨fun serverId userId => reachable.admins reliable serverId userId, ?_⟩
  intro next serverId step administers
  cases step with
  | select loop round =>
    dsimp only at administers
    rw [acceptRound_db] at administers
    exact absurd administers (SameServers.refl _).spares.not_administers
  | @service loop readSet index inside =>
    have node : (Machine.mk loop (.servicing readSet index)).requester =
        some (loop.process.clientAt index) := by
      rw [Process.clientAt, clientAt_eq_getElem inside]
      exact List.getElem?_eq_getElem inside
    rw [node] at administers
    have spared : Spares serverId (some (loop.process.clientAt index).id) loop.process.ctx.db
        (serviceClient env readSet index loop).1.process.ctx.db ∨
        IsAdministrator loop.process.ctx (loop.process.clientAt index).socketFd serverId :=
      serviceClient_spares reachable.consistent inside serverId
    rcases spared with spares | ⟨userId, signed, member⟩
    · exact absurd administers spares.not_administers
    · obtain ⟨authenticated, rfl⟩ := reachable.consistent.signedIn inside signed
      exact ⟨_, node, authenticated, member⟩
  | finish | restart => exact absurd administers (SameServers.refl _).spares.not_administers

/-- The creation of a server with the name `b`. -/
def createServerPacket : TizcordPacket :=
  let packet := TizcordPacket.setType Image.zero .server
  let packet := packet.setServerAction ServerAction.create.code
  packet.strncpyServerServerName Text.letterB

/-- A user registers and creates a server. -/
def creatorEvents : List Event :=
  [.round ⟨{3}, [.connected 4 ⟨clientBytes registerPacket ++ clientBytes createServerPacket,
      [.count 1000, .count 1000]⟩]⟩,
    .round ⟨{4}, []⟩, .round ⟨{4}, []⟩]

theorem administration_sound_creator :
    Appointed (runServer Env.ideal 3 creatorEvents).process.trace 1 1 := by
  have sound := (administration_sound Env.ideal Env.ideal_reliable 3
    ⟨runServer Env.ideal 3 creatorEvents, .selecting⟩
    (reachable_runServer Env.ideal 3 creatorEvents)).1 1 1
  dsimp only at sound
  have member : ⟨1, 1, true⟩ ∈ (runServer Env.ideal 3 creatorEvents).process.ctx.db.serverMembers := by
    decide +kernel
  exact sound.mp member

end Steps

end Tizcord
