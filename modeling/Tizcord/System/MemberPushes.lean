/-
This file is about the member lists that the server pushes. In a run in which no member
is kicked from a server that somebody looks at, and some rarer requests find nobody
looking either, everybody who looks at a server was sent its present members last.
-/

import Tizcord.System.MemberSessions
import Tizcord.System.PresencePushes

namespace Tizcord

open CModel

/-! ### Requests that tell nobody -/

/-- The handling of the packet leaves nobody with an old list of members. Most requests that change
the members of a server, or who of them is online, send the new list to those who look at it. -/
structure RefreshesMembers (env : Env) (ctx : ServerContext) (fd : Int) (packet : TizcordPacket) :
    Prop where
  /-- Kicking a member sends nothing, so nobody may look. -/
  kick : packet.request = some (.server .kickMember) → ∀ userId, SignedIn ctx fd userId →
    ⟨packet.serverServerId, userId, true⟩ ∈ ctx.db.serverMembers →
    ctx.db.HasMember packet.serverServerId packet.serverTargetUserId →
      ¬ Watched ctx packet.serverServerId
  /-- The id of a new server is not one that somebody looks at already. -/
  create : packet.request = some (.server .create) → ∀ userId, SignedIn ctx fd userId →
    ∀ time id, newRowid (env.db time).rowid ctx.db.serverIds = some id → ¬ Watched ctx id
  /-- The index of a server has room for the id, unless what is left of it is no server. -/
  list : packet.request = some (.server .listMembers) → ∀ userId, SignedIn ctx fd userId →
    0 < packet.serverServerId → signed 32 packet.serverServerId ∈ ctx.db.serverIds →
      signed 32 packet.serverServerId = packet.serverServerId
  /-- A user whose connection becomes that of a new user is in no server that anybody looks at. -/
  register : packet.request = some (.auth .register) → ∀ time,
    (∀ account ∈ ctx.db.accounts, account.username ≠ packet.authUsername (env.beyond time)) →
      ∀ userId, SignedIn ctx fd userId → ∀ serverId, ctx.db.HasMember serverId userId →
        ¬ Watched ctx serverId
  /-- Where the connection of a user becomes that of another one, whoever looks at a server that the
  first is in and the second is not is a session of the second, which ends. -/
  login : packet.request = some (.auth .login) → ∀ time, ∀ account ∈ ctx.db.accounts,
    account.username = packet.authUsername (env.beyond time) →
    env.crypt (packet.authPassword (env.beyond time)) account.passwordHash =
      some account.passwordHash →
    ∀ userId, SignedIn ctx fd userId → ∀ node ∈ ctx.clients, node.isAuthenticated = true →
      ctx.db.HasMember node.currentServerIndex userId →
      ¬ ctx.db.HasMember node.currentServerIndex account.userId → node.id = account.userId

/-! ### Requests about something else -/

/-- The request is about a session, or can change who is a member of a server or who looks at it. -/
def concernsMembers : Option Request → Bool
  | some (.auth _) | some (.server .join) | some (.server .leave) | some (.server .create)
  | some (.server .delete) | some (.server .kickMember) | some (.server .listMembers) => true
  | _ => false

section Handling

variable {env : Env} {process before after : Process} {fd : Int} {beyond : List UInt8}
  {packet : TizcordPacket} {index : Nat}

theorem DbCall.Permitted.concerned {ctx : ServerContext} {call : DbCall} {dbEnv : DbEnv}
    {database : Database} (permitted : call.Permitted ctx fd beyond packet)
    (runs : call.Runs dbEnv ctx.db database) (other : concernsMembers packet.request = false) :
    database.serverMembers = ctx.db.serverMembers ∧ database.servers = ctx.db.servers := by
  have excluded : ∀ {request : Request}, packet.request = some request →
      concernsMembers (some request) = true → False := by
    intro request asked concerns
    rw [asked, concerns] at other
    cases other
  have frame := runs.frame
  cases call with
  | createServer => exact (excluded permitted.2.2 rfl).elim
  | joinServer => exact (excluded permitted.2.2 rfl).elim
  | leaveServer => exact (excluded permitted.2.2 rfl).elim
  | deleteServer => exact (excluded permitted.2.2 rfl).elim
  | kickServerMember => exact (excluded permitted.2.2.2 rfl).elim
  | createChannel | deleteChannel =>
    exact ⟨(congrArg Tables.serverMembers frame :), (congrArg Tables.servers frame :)⟩
  | _ =>
    have same := runs.sameServers rfl
    exact ⟨same.members, same.servers⟩

/-- Where a request is about something else, nobody looks elsewhere, and no server gets or loses a
member. -/
theorem HandlerStep.members_same {first last : ServerContext} {effects : List Effect}
    (step : HandlerStep env fd beyond packet first effects last)
    (type : PacketType.ofCode packet.type ≠ some .auth)
    (other : concernsMembers packet.request = false) :
    last.clients = first.clients ∧ last.db.serverMembers = first.db.serverMembers ∧
      last.db.servers = first.db.servers := by
  have excluded : ∀ {request : Request}, packet.request = some request →
      concernsMembers (some request) = true → False := by
    intro request asked concerns
    rw [asked, concerns] at other
    cases other
  cases step with
  | reply | broadcast | forward | history | hash => exact ⟨rfl, rfl, rfl⟩
  | call _ permitted runs => exact ⟨rfl, permitted.concerned runs other⟩
  | look _ _ _ asked =>
    rcases asked with auth | join | leave | list
    · exact absurd auth type
    · exact (excluded join rfl).elim
    · exact (excluded leave rfl).elim
    · exact (excluded list rfl).elim
  | session _ _ asked =>
    obtain ⟨action, is⟩ := asked
    exact (excluded is rfl).elim

theorem Acts.members_same (acts : Acts env fd beyond packet before after)
    (type : PacketType.ofCode packet.type ≠ some .auth)
    (other : concernsMembers packet.request = false) :
    after.ctx.clients = before.ctx.clients ∧
      after.ctx.db.serverMembers = before.ctx.db.serverMembers ∧
      after.ctx.db.servers = before.ctx.db.servers :=
  Takes.invariant (fun ctx : ServerContext => ctx.clients = before.ctx.clients ∧
    ctx.db.serverMembers = before.ctx.db.serverMembers ∧ ctx.db.servers = before.ctx.db.servers)
    (fun step same => by
      obtain ⟨clients, members, servers⟩ := step.members_same type other
      exact ⟨clients.trans same.1, members.trans same.2.1, servers.trans same.2.2⟩)
    acts ⟨rfl, rfl, rfl⟩

theorem not_members_of_concerns {request : Option Request}
    (other : concernsMembers request = false) : .members ∉ topicsOf request := by
  cases request with
  | none => exact List.not_mem_nil
  | some request =>
    cases request with
    | auth action => cases other
    | dm | channel => exact List.not_mem_nil
    | server action => cases action <;> first | exact List.not_mem_nil | cases other
    | social action => cases action <;> decide

theorem Process.MembersShown.begun {but : Int → Prop} (shown : process.MembersShown but)
    (index : Nat) (packet : TizcordPacket) : (process.begun index packet).MembersShown but :=
  ⟨shown.tracks, fun node member looks spared =>
    (shown.shown node member looks spared).begun index packet⟩

theorem handleServerAction_members (reliable : env.Reliable) (accepting : env.Accepting)
    (shown : process.MembersShown fun _ => False) {action : ServerAction}
    (asked : packet.request = some (.server action))
    (concerned : concernsMembers (some (.server action)) = true)
    (refreshes : RefreshesMembers env process.ctx (process.clientAt index).socketFd packet) :
    (handleServerAction env beyond index packet process (some action)).MembersShown
      fun _ => False := by
  cases action with
  | join =>
    rw [handleServerAction]
    exact joinTizcordServer_members reliable accepting shown index _
  | leave =>
    rw [handleServerAction]
    exact leaveTizcordServer_members reliable accepting shown index _
  | create =>
    rw [handleServerAction]
    exact createTizcordServer_members shown index _ fun userId signedIn =>
      refreshes.create asked userId signedIn process.clock
  | delete =>
    rw [handleServerAction]
    exact deleteTizcordServer_members shown index _
  | listMembers =>
    rw [handleServerAction]
    exact listMembers_members reliable accepting shown index _ (refreshes.list asked)
  | kickMember =>
    rw [handleServerAction]
    exact kickServerMember_members shown index _ _ (refreshes.kick asked)
  | list | listChannels | listJoined => cases concerned

theorem handleAuthAction_members (reliable : env.Reliable) (accepting : env.Accepting)
    (shown : process.MembersShown fun _ => False) (valid : process.ctx.Valid) (opened : 0 < fd)
    (time : Nat) {action : AuthAction} (asked : packet.request = some (.auth action))
    (refreshes : RefreshesMembers env process.ctx fd packet) :
    (handleAuthAction env (env.beyond time) fd packet process (some action)).MembersShown
      fun _ => False := by
  cases action with
  | register => exact registerAccount_members shown opened (refreshes.register asked time)
  | login =>
    exact loginAccount_members reliable accepting shown opened (refreshes.login asked time)
  | logout => exact logoutAccount_members reliable accepting shown valid fd

/-- The handling of a packet about something else. -/
theorem processClientPacket_members_other (shown : process.MembersShown fun _ => False)
    (other : concernsMembers packet.request = false) :
    (processClientPacket env index packet process).MembersShown fun _ => False := by
  have begins := shown.begun index packet
  by_cases type : PacketType.ofCode packet.type = some .auth
  · -- a packet about authentication with a code that means nothing
    have unknown : AuthAction.ofCode packet.authAction = none := by
      rw [TizcordPacket.request_of_type type, TizcordPacket.requestOfType] at other
      cases acted : AuthAction.ofCode packet.authAction with
      | none => rfl
      | some action =>
        rw [acted] at other
        cases other
    rw [processClientPacket, type, handlePacket, handleAuthPacket, unknown, handleAuthAction,
      ← Process.begun]
    exact begins
  · have acts := processClientPacket_acts env index packet process
    have emits := processClientPacket_emits env index packet process
    rw [← Process.begun] at emits
    obtain ⟨clients, members, servers⟩ := Acts.members_same acts type other
    have quiet := acts.quiet fun action asked => by
      rw [asked] at other
      cases other
    refine begins.of_database emits (not_members_of_concerns other) clients
      fun node member looks spared => ⟨spared, ?_, presentMembers_congr ?_ ?_ ?_⟩
    · rw [Tables.serverIds, servers] at looks
      exact looks
    · rw [members]
      rfl
    · rw [quiet.accounts]
      exact List.Subset.refl _
    · exact fun _ _ _ => by
        rw [userIsOnline, userIsOnline, clients]
        rfl

/-- The handling of a packet that meets the condition leaves everybody who looks at a server with its
members. -/
theorem processClientPacket_members (reliable : env.Reliable) (accepting : env.Accepting)
    (shown : process.MembersShown fun _ => False) (valid : process.ctx.Valid)
    (opened : 0 < (process.clientAt index).socketFd)
    (refreshes : RefreshesMembers env process.ctx (process.clientAt index).socketFd packet) :
    (processClientPacket env index packet process).MembersShown fun _ => False := by
  have begins := shown.begun index packet
  cases concerned : concernsMembers packet.request with
  | false => exact processClientPacket_members_other shown concerned
  | true =>
    cases asked : packet.request with
    | none =>
      rw [asked] at concerned
      cases concerned
    | some request =>
      rw [asked] at concerned
      cases request with
      | dm | channel | social => cases concerned
      | auth action =>
        rw [processClientPacket_auth asked, ← Process.begun]
        exact handleAuthAction_members reliable accepting begins valid opened process.clock asked
          refreshes
      | server action =>
        rw [processClientPacket_serverAction env index process asked, ← Process.begun]
        exact handleServerAction_members reliable accepting begins asked concerned refreshes

end Handling

/-! ### Runs -/

section Runs

variable {env : Env} {serverFd : Int} {loop : Loop} {index : Nat}

/-- A new connection looks at no server. -/
theorem Loop.accepted_members (shown : loop.process.MembersShown fun _ => False) {fd : Int}
    (socket : Socket) (fresh : fd ∉ loop.process.ctx.fds) :
    (loop.accepted fd socket).process.MembersShown fun _ => False := by
  have listed : ∀ {node : ClientNode}, node ∈ (loop.accepted fd socket).process.ctx.clients →
      node ∈ loop.process.ctx.clients ∨ node = newClient fd := fun member =>
    (List.mem_append.mp member).imp_right List.mem_singleton.mp
  have tracks : TracksServers (loop.accepted fd socket).process.ctx := by
    refine ⟨?_, fun node member => ?_, fun node member is => ?_, fun node member is => ?_⟩
    · have fds : (loop.accepted fd socket).process.ctx.fds = loop.process.ctx.fds ++ [fd] :=
        List.map_append
      rw [fds]
      exact shown.tracks.distinct.append (List.nodup_singleton fd)
        (List.disjoint_singleton.mpr fresh)
    · rcases listed member with old | rfl
      · exact shown.tracks.fits node old
      · exact (by decide : signed 32 (-1) = -1)
    · rcases listed member with old | rfl
      · exact shown.tracks.strangers node old is
      · rfl
    · rcases listed member with old | rfl
      · exact shown.tracks.opened node old is
      · cases is
  have same : ∀ serverId, presentMembers (loop.accepted fd socket).process.ctx serverId =
      presentMembers loop.process.ctx serverId := fun serverId =>
    presentMembers_of_nodes rfl fun node authenticated _ => by
      refine ⟨fun member => (listed member).resolve_right fun new => ?_, List.mem_append_left _⟩
      rw [new] at authenticated
      cases authenticated
  refine ⟨tracks, fun node member looks spared => ?_⟩
  rcases listed member with old | rfl
  · have other : fd ≠ node.socketFd := by
      rintro rfl
      exact fresh (List.mem_map_of_mem old)
    exact (Loop.shown_accepted (shown.shown node old looks spared) socket other).weaken
      fun view lists => lists.congr (same _)
  · have nowhere : (newClient fd).currentServerIndex = -1 := rfl
    rw [nowhere] at looks
    exact absurd (Tables.serverId_pos looks) (by decide)

/-- Receiving changes nothing that a list shows. -/
theorem receiveClient_members (shown : loop.process.MembersShown fun _ => False)
    (inside : index < loop.process.ctx.clients.length) :
    (receiveClient index loop).1.process.MembersShown fun _ => False := by
  have known : loop.process.clientAt index ∈ loop.process.ctx.clients := clientAt_mem_of_lt inside
  have fits := shown.tracks.fits _ known
  have strangers := shown.tracks.strangers _ known
  have opened := shown.tracks.opened _ known
  have tracks : TracksServers (receiveClient index loop).1.process.ctx :=
    shown.tracks.modifyClient inside (fun _ => rfl) fits strangers opened
  refine shown.of_emits (receiveClient_emits index loop) List.not_mem_nil tracks
    fun node member looks spared => ⟨spared, looks, ?_, presentMembers_congr rfl
      (List.Subset.refl _) fun _ _ _ => ?_⟩
  · rcases (mem_modifyClient shown.tracks.distinct inside).mp member with rfl | ⟨old, -⟩
    · exact ⟨_, known, rfl, rfl⟩
    · exact ⟨node, old, rfl, rfl⟩
  · rw [userIsOnline_eq, userIsOnline_eq, receiveClient_identities]

theorem membersShown_of_nobody {process : Process} (nobody : process.ctx.clients = []) :
    process.MembersShown fun _ => False := by
  have absent : ∀ node, node ∉ process.ctx.clients := fun node => by
    rw [nobody]
    exact List.not_mem_nil
  refine ⟨⟨?_, fun node member => absurd member (absent node),
    fun node member => absurd member (absent node), fun node member => absurd member (absent node)⟩,
      fun node member => absurd member (absent node)⟩
  rw [ServerContext.fds, nobody]
  exact List.nodup_nil

/-- Every step of a run whose packets meet the condition leaves everybody who looks at a server with
its members. -/
theorem members_run (reliable : env.Reliable) (accepting : env.Accepting) (serverFd : Int) :
    RunInvariant env (RefreshesMembers env) serverFd fun process =>
      process.MembersShown fun _ => False where
  started := membersShown_of_nobody rfl
  restarted _ _ _ := membersShown_of_nobody rfl
  rejected process fd shown := shown.of_ctx (rejected_emits process fd) List.not_mem_nil rfl
  accepted _ _ socket _ _ fresh shown := Loop.accepted_members shown socket fresh
  received _ _ inside shown := receiveClient_members shown inside
  closed _ _ consistent inside _ shown :=
    disconnectClient_members reliable accepting shown consistent.valid inside
  handled loop readSet index packet handled shown := by
    have consistent : (receiveClient index loop).1.Consistent :=
      receiveClient_consistent handled.reachable.consistent
    have refreshes := handled.meets packet handled.handed
    rw [← receiveClient_clientAt_fd handled.inside] at refreshes
    refine processClientPacket_members reliable accepting shown consistent.valid ?_ refreshes
    rw [receiveClient_clientAt_fd handled.inside]
    exact handled.handed.ready.1

/-- In a run whose packets meet the condition, the last list of members that a session was sent is
that of the server it looks at: one packet for each member, with the flag of the row, and with the
flag of those who are online exactly where somebody is signed in as this member. -/
theorem member_pushes_exact (env : Env) (serverFd : Int) (reliable : env.Reliable)
    (accepting : env.Accepting) {machine : Machine}
    (reachable : ReachableWhen env (RefreshesMembers env) serverFd machine) {node : ClientNode}
    (member : node ∈ machine.loop.process.ctx.clients)
    (there : node.currentServerIndex ∈ machine.loop.process.ctx.db.serverIds)
    (few : memberCount machine.loop.process.ctx.db node.currentServerIndex ≤ maxServerMembers) :
    (∃ sorted, InNameOrder (presentMembers machine.loop.process.ctx node.currentServerIndex)
        sorted ∧
      ListReply .listMembers sorted
        (lastMemberList (heardOn node.socketFd machine.loop.process.trace))) ∧
      ∀ userId, userIsOnline machine.loop.process.ctx userId = true ↔
        ∃ fd, SignedIn machine.loop.process.ctx fd userId := by
  refine ⟨?_, reachable.online_iff⟩
  obtain ⟨later, logged, shows⟩ := ((members_run reliable accepting serverFd).reachable
    reachable).shown node member there id
  obtain ⟨sorted, inOrder, reply⟩ := shows []
  refine ⟨sorted, inOrder, ?_⟩
  have length : sorted.length ≤ maxServerMembers := by
    rw [inOrder.perm.length_eq, presentMembers, List.length_map, ← List.countP_eq_length_filter]
    exact Int.ofNat_le.mp few
  rw [List.take_of_length_le length] at reply
  rw [lastMemberList, logged, List.nil_append]
  exact reply

end Runs

/-! ### Two runs -/

/-- A request about the server with an id, and a user with an id. -/
def memberPacket (action : ServerAction) (serverId userId : Int) : TizcordPacket :=
  let packet := TizcordPacket.setType Image.zero .server
  let packet := packet.setServerAction action.code
  let packet := packet.setServerServerId serverId
  packet.setServerTargetUserId userId

/-- After two users have registered, the first one creates a server, the second one joins it, the
first one looks at its members and kicks the second one. -/
def kickedLoop : Loop :=
  runServer Env.ideal 3 (pairEvents
    [createServerPacket, memberPacket .listMembers 1 0, memberPacket .kickMember 1 2]
    [memberPacket .join 1 0] [4, 5, 4, 5, 4, 4])

/-- The last list of who looks at a server shows a member who has been kicked. -/
theorem kicked_still_listed :
    ¬ ∀ (env : Env) (serverFd : Int), env.Reliable → env.Accepting → ∀ machine : Machine,
      Reachable env serverFd machine → ∀ node ∈ machine.loop.process.ctx.clients,
      node.isAuthenticated = true →
      node.currentServerIndex ∈ machine.loop.process.ctx.db.serverIds →
      (∀ serverId, memberCount machine.loop.process.ctx.db serverId ≤ maxServerMembers) →
      ∃ sorted, sorted.Perm
          (presentMembers machine.loop.process.ctx node.currentServerIndex) ∧
        ListReply .listMembers sorted
          (lastMemberList (heardOn node.socketFd machine.loop.process.trace)) := by
  intro claim
  have meets : runMeets Env.ideal (fun _ _ _ => true) (pairEvents
      [createServerPacket, memberPacket .listMembers 1 0, memberPacket .kickMember 1 2]
      [memberPacket .join 1 0] [4, 5, 4, 5, 4, 4]) (startLoop 3 Database.empty 0 []) = true := by
    decide +kernel
  have reachable : Reachable Env.ideal 3 ⟨kickedLoop, .selecting⟩ :=
    reachableWhen_runServer (fun _ _ _ _ => trivial) 3 _ meets
  have facts : (kickedLoop.process.ctx.clients.any fun node => node.socketFd = 4 &&
        (node.isAuthenticated = true && node.currentServerIndex = 1)) = true ∧
      kickedLoop.process.ctx.db.serverMembers.length = 1 ∧
      (presentMembers kickedLoop.process.ctx 1).length = 1 ∧
      (1 : Int) ∈ kickedLoop.process.ctx.db.serverIds ∧
      (lastMemberList (heardOn 4 kickedLoop.process.trace)).length = 2 := by decide +kernel
  generalize kickedLoop = loop at reachable facts
  obtain ⟨looks, members, present, there, listed⟩ := facts
  obtain ⟨node, member, is⟩ := List.any_eq_true.mp looks
  simp only [Bool.and_eq_true, decide_eq_true_eq] at is
  obtain ⟨own, authenticated, index⟩ := is
  obtain ⟨sorted, perm, reply⟩ := claim Env.ideal 3 Env.ideal_reliable Env.ideal_accepting
    ⟨loop, .selecting⟩ reachable node member authenticated (index ▸ there) fun serverId => by
      refine (Int.ofNat_le.mpr List.countP_le_length).trans ?_
      rw [members]
      decide
  rw [index] at perm
  rw [own] at reply
  have one : sorted.length = 1 := perm.length_eq.trans present
  have some : sorted ≠ [] := List.ne_nil_of_length_pos (one ▸ Nat.one_pos)
  rw [ListReply, if_neg some] at reply
  have lengths := reply.length_eq
  rw [List.length_zipIdx, one, listed] at lengths
  exact absurd lengths (by decide)

/-- The condition where nobody looks at anything, or the request is of another kind. -/
def refreshesTest (ctx : ServerContext) (packet : TizcordPacket) : Bool :=
  (ctx.clients.all (fun node => node.currentServerIndex = -1) ||
    packet.request ∉ [some (.server .kickMember), some (.server .create), some (.auth .register),
      some (.auth .login)]) &&
  signed 32 packet.serverServerId = packet.serverServerId

theorem refreshesMembers_of_test {env : Env} {ctx : ServerContext} {fd : Int}
    {packet : TizcordPacket} (passes : refreshesTest ctx packet = true) :
    RefreshesMembers env ctx fd packet := by
  rw [refreshesTest, Bool.and_eq_true, Bool.or_eq_true, List.all_eq_true, decide_eq_true_eq,
    decide_eq_true_eq] at passes
  obtain ⟨either, fits⟩ := passes
  have nowhere : ∀ {request : Request}, packet.request = some request →
      some request ∈ [some (.server .kickMember), some (.server .create), some (.auth .register),
        some (.auth .login)] →
      ∀ node ∈ ctx.clients, ¬ 0 < node.currentServerIndex := by
    intro request asked listed node member
    rcases either with all | other
    · rw [of_decide_eq_true (all node member)]
      decide
    · exact absurd (asked ▸ listed) other
  have server_pos : ∀ {serverId userId : Int}, ctx.db.HasMember serverId userId → 0 < serverId := by
    intro serverId userId joined
    obtain ⟨row, member, is⟩ := List.mem_map.mp joined
    have own : row.serverId = serverId := congrArg Prod.fst is
    exact own ▸ Tables.serverId_pos (ctx.db.integrity.members_server row member)
  have unwatched : ∀ {request : Request}, packet.request = some request →
      some request ∈ [some (.server .kickMember), some (.server .create), some (.auth .register),
        some (.auth .login)] →
      ∀ {serverId : Int}, 0 < serverId → ¬ Watched ctx serverId := by
    rintro request asked listed serverId positive ⟨node, member, -, looks⟩
    exact nowhere asked listed node member (looks ▸ positive)
  exact
    { kick := fun asked _ _ _ joined => unwatched asked (by decide) (server_pos joined)
      create := fun asked _ _ _ id _ => unwatched asked (by decide) (id : RowId).2.1
      list := fun _ _ _ _ _ => fits
      register := fun asked _ _ _ _ _ joined => unwatched asked (by decide) (server_pos joined)
      login := fun asked _ _ _ _ _ _ _ node member _ joined _ =>
        absurd (server_pos joined) (nowhere asked (by decide) node member) }

deriving instance DecidableEq for ListItem

/-- After two users have registered, the first one creates a server, the second one joins it, the
first one looks at its members, and the second one signs out. -/
def leftLoop : Loop :=
  runServer Env.ideal 3 (pairEvents [createServerPacket, memberPacket .listMembers 1 0]
    [memberPacket .join 1 0, logoutPacket] [4, 5, 4, 5, 4, 5])

/-- Who looks at the server was last sent both members, the first one online and with the flag of the
administrator, the second one without either. -/
theorem member_pushes_exact_pair : ∃ sorted,
    InNameOrder [⟨Text.letterA, some 1, some 3⟩, ⟨Text.letterB, some 2, some 0⟩] sorted ∧
      ListReply .listMembers sorted (lastMemberList (heardOn 4 leftLoop.process.trace)) := by
  have meets : runMeets Env.ideal (fun ctx _ packet => refreshesTest ctx packet)
      (pairEvents [createServerPacket, memberPacket .listMembers 1 0]
        [memberPacket .join 1 0, logoutPacket] [4, 5, 4, 5, 4, 5])
      (startLoop 3 Database.empty 0 []) = true := by decide +kernel
  have reachable : ReachableWhen Env.ideal (RefreshesMembers Env.ideal) 3
      ⟨leftLoop, .selecting⟩ :=
    reachableWhen_runServer (fun _ _ _ => refreshesMembers_of_test) 3 _ meets
  have facts : (leftLoop.process.ctx.clients.any fun node => node.socketFd = 4 &&
        node.currentServerIndex = 1) = true ∧
      (1 : Int) ∈ leftLoop.process.ctx.db.serverIds ∧
      memberCount leftLoop.process.ctx.db 1 ≤ maxServerMembers ∧
      presentMembers leftLoop.process.ctx 1 =
        [⟨Text.letterA, some 1, some 3⟩, ⟨Text.letterB, some 2, some 0⟩] := by decide +kernel
  generalize leftLoop = loop at reachable facts ⊢
  obtain ⟨looks, there, few, present⟩ := facts
  obtain ⟨node, member, is⟩ := List.any_eq_true.mp looks
  rw [Bool.and_eq_true, decide_eq_true_eq, decide_eq_true_eq] at is
  obtain ⟨own, index⟩ := is
  obtain ⟨⟨sorted, inOrder, reply⟩, -⟩ := member_pushes_exact Env.ideal 3 Env.ideal_reliable
    Env.ideal_accepting reachable member (index ▸ there) (index ▸ few)
  rw [index] at inOrder
  rw [own] at reply
  exact ⟨sorted, present ▸ inOrder, reply⟩

end Tizcord
