/-
This file is about connections that are not authenticated: what handling their
packets can change, whom it can reach, and which messages are shown to them.
-/

import Tizcord.Server.Reachable

namespace Tizcord

open CModel

/-! ### Strangers -/

/-- The connection `fd` has no session: its node is not authenticated and has the id 0. -/
def Stranger (ctx : ServerContext) (fd : Int) : Prop :=
  ∀ node ∈ ctx.clients, node.socketFd = fd → node.isAuthenticated = false ∧ node.id = 0

theorem Stranger.not_signedIn {ctx : ServerContext} {fd userId : Int} (stranger : Stranger ctx fd) :
    ¬ SignedIn ctx fd userId := by
  rintro ⟨node, member, own, authenticated, -⟩
  rw [(stranger node member own).1] at authenticated
  cases authenticated

/-- The id 0 is nobody's. -/
theorem zero_not_mem_userIds (tables : Tables) : (0 : Int) ∉ tables.userIds := by
  intro member
  obtain ⟨row, -, zero⟩ := List.mem_map.mp member
  exact absurd row.id.2.1 (by rw [show row.id.1 = 0 from zero]; decide)

theorem Stranger.not_hasAdmin {ctx : ServerContext} {fd serverId : Int}
    (stranger : Stranger ctx fd) : ¬ HasAdmin ctx fd serverId := by
  rintro ⟨node, member, own, row⟩
  rw [(stranger node member own).2] at row
  exact zero_not_mem_userIds _ (ctx.db.integrity.members_user _ row)

/-- A connection whose node is not authenticated is a stranger's: no other node has its
descriptor. -/
theorem Loop.Consistent.stranger {loop : Loop} (consistent : loop.Consistent) {index : Nat}
    (inside : index < loop.process.ctx.clients.length)
    (unauthenticated : (loop.process.clientAt index).isAuthenticated = false) :
    Stranger loop.process.ctx (loop.process.clientAt index).socketFd := by
  have present : loop.process.clientAt index ∈ loop.process.ctx.clients := by
    rw [Process.clientAt, clientAt_eq_getElem inside]
    exact List.getElem_mem inside
  intro node member own
  rw [List.inj_on_of_nodup_map consistent.distinct member present own]
  exact ⟨unauthenticated, ((consistent.valid _ present).stranger unauthenticated).1⟩

section Step

variable {env : Env} {fd : Int} {beyond : List UInt8} {packet : TizcordPacket} {kind : PacketType}
  {before after : ServerContext} {effects : List Effect}

theorem not_request_auth (type : PacketType.ofCode packet.type = some kind) (other : kind ≠ .auth)
    (action : AuthAction) : packet.request ≠ some (.auth action) := by
  intro asked
  rw [(TizcordPacket.request_auth asked).1] at type
  exact other (Option.some.inj type).symm

/-- A call that a stranger's packet leads to does not change the database. -/
theorem DbCall.Runs.of_stranger {dbEnv : DbEnv} {database : Database} {call : DbCall}
    (runs : call.Runs dbEnv before.db database)
    (permitted : call.Permitted before fd beyond packet) (stranger : Stranger before fd)
    (type : PacketType.ofCode packet.type = some kind) (other : kind ≠ .auth) :
    database = before.db := by
  cases call with
  | createUser => exact absurd permitted.1 (not_request_auth type other _)
  | getPasswordHash | getUserIdByName => exact runs
  | saveMessage channelId userId content status =>
    obtain ⟨⟨node, member, own, rfl⟩, -⟩ := permitted
    rcases dbSaveMessage_spec runs with same | ⟨id, inserted⟩
    · exact same
    · have author := database.integrity.messages_user
        ⟨id, channelId, node.id, content, dbEnv.now⟩ (by
          rw [Database.commit_eq_some.mp inserted]
          exact List.mem_append_right _ List.mem_cons_self)
      rw [show (MessageRow.mk id channelId node.id content dbEnv.now).userId = 0 from
        (stranger node member own).2] at author
      exact absurd author (zero_not_mem_userIds _)
  | saveDirectMessage senderId receiverId content status =>
    obtain ⟨⟨node, member, own, rfl⟩, -⟩ := permitted
    rcases dbSaveDirectMessage_spec runs with same | ⟨id, inserted⟩
    · exact same
    · have author := database.integrity.direct_sender
        ⟨id, node.id, receiverId, content, dbEnv.now⟩ (by
          rw [Database.commit_eq_some.mp inserted]
          exact List.mem_append_right _ List.mem_cons_self)
      rw [show (DirectMessageRow.mk id node.id receiverId content dbEnv.now).senderId = 0 from
        (stranger node member own).2] at author
      exact absurd author (zero_not_mem_userIds _)
  | updateUserStatus | createServer | joinServer | leaveServer | sendFriendRequest
  | acceptFriendRequest | removeFriendship | rejectFriendRequest =>
    exact absurd permitted.1 stranger.not_signedIn
  | deleteServer => exact absurd permitted.1.1 stranger.not_signedIn
  | kickServerMember =>
    obtain ⟨⟨adminId, signed, -⟩, -⟩ := permitted
    exact absurd signed stranger.not_signedIn
  | createChannel => exact absurd permitted.1 stranger.not_hasAdmin
  | deleteChannel =>
    obtain ⟨⟨row, -, -, admin⟩, -⟩ := permitted
    exact absurd admin stranger.not_hasAdmin

/-- Another open connection than `fd`. -/
def OpenElsewhere (ctx : ServerContext) (fd : Int) : Prop :=
  ∃ node ∈ ctx.clients, 0 < node.socketFd ∧ node.socketFd ≠ fd

/-- The packet from the connection `fd` is forwarded to another connection: to every open one, or
to the first open one with the id of the recipient. -/
def Forwarded (ctx : ServerContext) (fd : Int) (packet : TizcordPacket) : Prop :=
  packet.request = some (.channel .message) ∧ OpenElsewhere ctx fd ∨
    packet.request = some (.dm .message) ∧
      ∃ node, recipientNode ctx packet.dmRecipientId = some node ∧ node.socketFd ≠ fd

/-- A stranger's step changes nothing, and sends to others only what is forwarded. -/
theorem HandlerStep.of_stranger (step : HandlerStep env fd beyond packet before effects after)
    (stranger : Stranger before fd) (type : PacketType.ofCode packet.type = some kind)
    (other : kind ≠ .auth) :
    after = before ∧ ∀ target answer status user, .sent target answer status user ∈ effects →
      target = fd ∨ Forwarded before fd packet := by
  have unauthorized : ¬ Authorized before fd packet := by
    rintro (auth | ⟨userId, signed⟩)
    · rw [auth] at type
      exact other (Option.some.inj type).symm
    · exact stranger.not_signedIn signed
  cases step with
  | @reply target _ _ _ permitted _ =>
    refine ⟨rfl, fun another answer status user member => Or.inl ?_⟩
    obtain ⟨rfl, -⟩ := Effect.sent.inj (List.mem_singleton.mp member)
    exact permitted.resolve_right unauthorized
  | @broadcast node _ asked present open' =>
    refine ⟨rfl, fun another answer status user member => ?_⟩
    obtain ⟨rfl, -⟩ := Effect.sent.inj (List.mem_singleton.mp member)
    by_cases own : node.socketFd = fd
    · exact Or.inl own
    · exact Or.inr (Or.inl ⟨asked, node, present, open', own⟩)
  | @forward node _ asked found =>
    refine ⟨rfl, fun another answer status user member => ?_⟩
    obtain ⟨rfl, -⟩ := Effect.sent.inj (List.mem_singleton.mp member)
    by_cases own : node.socketFd = fd
    · exact Or.inl own
    · exact Or.inr (Or.inr ⟨asked, node, found, own⟩)
  | history =>
    refine ⟨rfl, fun another answer status user member => Or.inl ?_⟩
    exact (Effect.sent.inj (List.mem_singleton.mp member)).1
  | hash => exact ⟨rfl, fun _ _ _ _ member => nomatch List.mem_singleton.mp member⟩
  | call _ permitted runs =>
    refine ⟨?_, fun _ _ _ _ member => nomatch List.mem_singleton.mp member⟩
    rw [runs.of_stranger permitted stranger type other]
  | look _ _ permitted => exact absurd permitted unauthorized
  | session _ _ asked =>
    obtain ⟨action, asked⟩ := asked
    exact absurd asked (not_request_auth type other action)

/-- The handling of a packet by the connection at an index leaves the database and the nodes of
all other connections as they are, and sends to no other connection. -/
structure Contained (index : Nat) (before after : Process) : Prop where
  database : after.ctx.db = before.ctx.db
  others : ∀ place, place ≠ index → after.ctx.clients[place]? = before.ctx.clients[place]?
  unsent : ∀ effects, after.trace = before.trace ++ effects → ∀ target answer status user,
    .sent target answer status user ∈ effects → target = (before.clientAt index).socketFd

end Step

/-! ### What a stranger's packet does -/

section Handling

variable {env : Env} {index : Nat} {packet : TizcordPacket} {kind : PacketType} {process : Process}

theorem contained_of_stranger (stranger : Stranger process.ctx (process.clientAt index).socketFd)
    (type : PacketType.ofCode packet.type = some kind) (other : kind ≠ .auth)
    (kept : ¬ Forwarded process.ctx (process.clientAt index).socketFd packet) :
    Contained index process (processClientPacket env index packet process) := by
  obtain ⟨effects, logged, steps⟩ := processClientPacket_acts env index packet process
  have same : (processClientPacket env index packet process).ctx = process.ctx :=
    steps.invariant (· = process.ctx) (fun step equal =>
      (step.of_stranger (equal ▸ stranger) type other).1.trans equal) rfl
  have sent : ∀ effect ∈ effects, ∀ target answer status user,
      effect = .sent target answer status user → target = (process.clientAt index).socketFd :=
    steps.events_of_invariant (· = process.ctx)
      (fun step equal => (step.of_stranger (equal ▸ stranger) type other).1.trans equal)
      (fun step equal effect member target answer status user is =>
        ((step.of_stranger (equal ▸ stranger) type other).2 target answer status user
          (is ▸ member)).resolve_right (equal ▸ kept)) rfl
  refine ⟨by rw [same], fun _ _ => by rw [same], ?_⟩
  intro gained traced target answer status user member
  rw [logged, Process.log, List.append_assoc] at traced
  rw [← List.append_cancel_left traced] at member
  rcases List.mem_append.mp member with handling | late
  · exact nomatch List.mem_singleton.mp handling
  · exact sent _ late target answer status user rfl

theorem Process.change_trace {Result : Type} (env : Env) (process : Process)
    (operation : DbEnv → Database → Database × Result) (call : Result → DbCall) :
    (process.change env operation call).1.trace =
      process.trace ++ [.called (call (process.change env operation call).2)] := rfl

/-- A broadcast goes to every open connection. -/
theorem channelBroadcast_sends (env : Env) (answer : TizcordPacket) (process : Process) :
    ∃ gain, (channelBroadcast env answer (-1) process).trace = process.trace ++ gain ∧
      ∀ node ∈ process.ctx.clients, 0 < node.socketFd →
        ∃ status user, .sent node.socketFd answer status user ∈ gain := by
  have loop : ∀ (indices : List Nat) (other : Process), other.ctx = process.ctx →
      ∃ gain, (indices.foldl (fun other index =>
          if 0 < (other.clientAt index).socketFd ∧ (other.clientAt index).socketFd ≠ -1 then
            other.send env (other.clientAt index).socketFd answer
          else other) other).trace = other.trace ++ gain ∧
        ∀ index ∈ indices, 0 < (process.clientAt index).socketFd →
          ∃ status user, .sent (process.clientAt index).socketFd answer status user ∈ gain := by
    intro indices
    induction indices with
    | nil => exact fun other _ => ⟨[], (List.append_nil _).symm, fun _ member => nomatch member⟩
    | cons head rest inductionHypothesis =>
      intro other same
      have node : other.clientAt head = process.clientAt head := by
        rw [Process.clientAt, Process.clientAt, same]
      rw [List.foldl_cons]
      split
      · obtain ⟨gain, logged, sent⟩ := inductionHypothesis
          (other.send env (other.clientAt head).socketFd answer) same
        refine ⟨_ :: gain, logged.trans (List.append_assoc ..), fun index member open' => ?_⟩
        rcases List.mem_cons.mp member with rfl | inRest
        · rw [← node]
          exact ⟨_, _, List.mem_cons_self⟩
        · obtain ⟨status, user, present⟩ := sent index inRest open'
          exact ⟨status, user, List.mem_cons_of_mem _ present⟩
      · rename_i skipped
        obtain ⟨gain, logged, sent⟩ := inductionHypothesis other same
        refine ⟨gain, logged, fun index member open' => ?_⟩
        rcases List.mem_cons.mp member with rfl | inRest
        · exact absurd ⟨node ▸ open', by rw [node]; omega⟩ skipped
        · exact sent index inRest open'
  obtain ⟨gain, logged, sent⟩ := loop (List.range process.ctx.clients.length) process rfl
  refine ⟨gain, logged, fun node member open' => ?_⟩
  obtain ⟨place, inside, rfl⟩ := List.getElem_of_mem member
  have found := clientAt_eq_getElem inside
  rw [← found] at open' ⊢
  exact sent place (List.mem_range.mpr inside) open'

theorem TizcordPacket.request_channel {action : ChannelAction}
    (asked : packet.request = some (.channel action)) :
    PacketType.ofCode packet.type = some .channel ∧
      ChannelAction.ofCode packet.channelAction = some action := by
  obtain ⟨type, announced, requested⟩ := Option.bind_eq_some_iff.mp asked
  cases type with
  | channel =>
    rw [requestOfType] at requested
    obtain ⟨found, acted, same⟩ := Option.map_eq_some_iff.mp requested
    exact ⟨announced, acted.trans (congrArg some (Request.channel.inj same))⟩
  | dm | server | auth | social =>
    rw [requestOfType] at requested
    obtain ⟨_, -, impossible⟩ := Option.map_eq_some_iff.mp requested
    exact Request.noConfusion impossible

theorem TizcordPacket.request_dm {action : DMAction}
    (asked : packet.request = some (.dm action)) :
    PacketType.ofCode packet.type = some .dm ∧ DMAction.ofCode packet.dmAction = some action := by
  obtain ⟨type, announced, requested⟩ := Option.bind_eq_some_iff.mp asked
  cases type with
  | dm =>
    rw [requestOfType] at requested
    obtain ⟨found, acted, same⟩ := Option.map_eq_some_iff.mp requested
    exact ⟨announced, acted.trans (congrArg some (Request.dm.inj same))⟩
  | channel | server | auth | social =>
    rw [requestOfType] at requested
    obtain ⟨_, -, impossible⟩ := Option.map_eq_some_iff.mp requested
    exact Request.noConfusion impossible

theorem processClientPacket_channelMessage (asked : packet.request = some (.channel .message)) :
    processClientPacket env index packet process =
      channelMessage env (env.beyond process.clock) packet (process.clientAt index).socketFd
        (process.log (.handling (process.clientAt index).socketFd packet
          (process.ctx.userOf (process.clientAt index).socketFd))) := by
  obtain ⟨type, acted⟩ := TizcordPacket.request_channel asked
  rw [processClientPacket, type, handlePacket, handleChatPacket, type, handleChatType,
    handleChannelMessage, acted, handleChannelAction]

theorem processClientPacket_directMessage (asked : packet.request = some (.dm .message)) :
    processClientPacket env index packet process =
      directMessage env (env.beyond process.clock)
        (stampDirectMessage (senderNode process.ctx (process.clientAt index).socketFd) packet)
        (senderNode process.ctx (process.clientAt index).socketFd)
        (process.log (.handling (process.clientAt index).socketFd packet
          (process.ctx.userOf (process.clientAt index).socketFd))) := by
  obtain ⟨type, acted⟩ := TizcordPacket.request_dm asked
  rw [processClientPacket, type, handlePacket, handleChatPacket, type, handleChatType,
    handlePrivateMessage, (stampDirectMessage_same packet [] _).1, acted, handleDmAction]
  rfl

/-- What was sent to another connection in the end escapes. -/
theorem not_contained_of_sent {after : Process} {target : Int} {answer : TizcordPacket}
    {status : Int} {user : Option Int} {gain : List Effect} {handling : Effect}
    (logged : after.trace = (process.log handling).trace ++ gain)
    (sent : .sent target answer status user ∈ gain)
    (other : target ≠ (process.clientAt index).socketFd) : ¬ Contained index process after := by
  intro contained
  refine other (contained.unsent (handling :: gain) ?_ target answer status user
    (List.mem_cons_of_mem _ sent))
  rw [logged, Process.log, List.append_assoc]
  rfl

theorem channelMessage_sends (env : Env) (beyond : List UInt8) (packet : TizcordPacket) (fd : Int)
    {node : ClientNode} (member : node ∈ process.ctx.clients) (open' : 0 < node.socketFd) :
    ∃ gain answer status user, (channelMessage env beyond packet fd process).trace =
        process.trace ++ gain ∧ .sent node.socketFd answer status user ∈ gain := by
  unfold channelMessage
  generalize senderNode process.ctx fd = sender
  obtain ⟨gain, logged, sent⟩ :=
    channelBroadcast_sends env (stampChannelMessage sender packet) process
  obtain ⟨status, user, present⟩ := sent node member open'
  cases sender with
  | none => exact ⟨gain, _, status, user, logged, present⟩
  | some author =>
    dsimp only
    rw [Process.change_trace, logged, List.append_assoc]
    exact ⟨_, _, status, user, rfl, List.mem_append_left _ present⟩

/-- A channel message reaches every other open connection. -/
theorem channelMessage_escapes (asked : packet.request = some (.channel .message))
    (elsewhere : OpenElsewhere process.ctx (process.clientAt index).socketFd) :
    ¬ Contained index process (processClientPacket env index packet process) := by
  obtain ⟨node, member, open', other⟩ := elsewhere
  rw [processClientPacket_channelMessage asked]
  have present : node ∈ (process.log (.handling (process.clientAt index).socketFd packet
      (process.ctx.userOf (process.clientAt index).socketFd))).ctx.clients := member
  obtain ⟨gain, answer, status, user, logged, sent⟩ := channelMessage_sends env
    (env.beyond process.clock) packet (process.clientAt index).socketFd present open'
  exact not_contained_of_sent logged sent other

theorem directMessage_sends (env : Env) (beyond : List UInt8) (answer : TizcordPacket)
    (sender : Option ClientNode) {node : ClientNode}
    (found : recipientNode process.ctx answer.dmRecipientId = some node) :
    ∃ gain status user, (directMessage env beyond answer sender process).trace =
        process.trace ++ gain ∧ .sent node.socketFd answer status user ∈ gain := by
  unfold directMessage
  cases sender with
  | none =>
    dsimp only
    rw [found]
    exact ⟨[_], _, _, rfl, List.mem_cons_self⟩
  | some author =>
    dsimp only
    rw [show recipientNode (Process.change env process _ _).1.ctx answer.dmRecipientId =
      some node from found]
    exact ⟨[_, _], _, _, List.append_assoc .., List.mem_cons_of_mem _ List.mem_cons_self⟩

/-- A direct message reaches the first open connection with the id of its recipient. -/
theorem directMessage_escapes (asked : packet.request = some (.dm .message)) {node : ClientNode}
    (found : recipientNode process.ctx packet.dmRecipientId = some node)
    (other : node.socketFd ≠ (process.clientAt index).socketFd) :
    ¬ Contained index process (processClientPacket env index packet process) := by
  rw [processClientPacket_directMessage asked]
  generalize senderNode process.ctx (process.clientAt index).socketFd = sender
  have recipient := (stampDirectMessage_same packet [] sender).2.1
  obtain ⟨gain, status, user, logged, sent⟩ := directMessage_sends env
    (env.beyond process.clock) (stampDirectMessage sender packet) sender
    (show recipientNode (process.log (.handling (process.clientAt index).socketFd packet
      (process.ctx.userOf (process.clientAt index).socketFd))).ctx _ = some node by
        rw [recipient]
        exact found)
  exact not_contained_of_sent logged sent other

end Handling

/-- A packet of a stranger is contained exactly when it is not forwarded. -/
theorem stranger_contained_iff (env : Env) (serverFd : Int) (machine : Machine)
    (reachable : Reachable env serverFd machine) (index : Nat)
    (inside : index < machine.loop.process.ctx.clients.length)
    (unauthenticated : (machine.loop.process.clientAt index).isAuthenticated = false)
    (packet : TizcordPacket) (kind : PacketType)
    (type : PacketType.ofCode packet.type = some kind) (other : kind ≠ .auth) :
    Contained index machine.loop.process
        (processClientPacket env index packet machine.loop.process) ↔
      ¬ Forwarded machine.loop.process.ctx (machine.loop.process.clientAt index).socketFd
        packet := by
  have stranger : Stranger machine.loop.process.ctx
      (machine.loop.process.clientAt index).socketFd :=
    reachable.consistent.stranger inside unauthenticated
  constructor
  · rintro contained (⟨asked, elsewhere⟩ | ⟨asked, node, found, elsewhere⟩)
    · exact channelMessage_escapes asked elsewhere contained
    · exact directMessage_escapes asked found elsewhere contained
  · exact contained_of_stranger stranger type other

/-- A server with two connections, on neither of which anybody has logged in. -/
def twoStrangers : Loop :=
  runServer Env.ideal 3
    [.round ⟨{3}, [.connected 4 ⟨[], []⟩]⟩, .round ⟨{3}, [.connected 5 ⟨[], []⟩]⟩]

theorem twoStrangers_reachable : Reachable Env.ideal 3 ⟨twoStrangers, .selecting⟩ :=
  reachable_runServer ..

/-- A request for the list of servers. -/
def listRequest : TizcordPacket :=
  (TizcordPacket.setType Image.zero .server).setServerAction ServerAction.list.code

theorem listRequest_type : PacketType.ofCode listRequest.type = some .server := by
  rw [listRequest, TizcordPacket.setServerAction, type_putInt32 _ _ _ (by decide), type_setType,
    PacketType.ofCode_code]

theorem stranger_contained_listRequest :
    Contained 0 twoStrangers.process
      (processClientPacket Env.ideal 0 listRequest twoStrangers.process) := by
  refine (stranger_contained_iff Env.ideal 3 _ twoStrangers_reachable 0 (by decide) rfl listRequest
    .server listRequest_type (by decide)).mpr ?_
  rintro (⟨asked, -⟩ | ⟨asked, -⟩)
  · have type := listRequest_type.symm.trans (TizcordPacket.request_channel asked).1
    cases type
  · have type := listRequest_type.symm.trans (TizcordPacket.request_dm asked).1
    cases type

/-- A channel message with no text. -/
def strangerMessage : TizcordPacket :=
  (TizcordPacket.setType Image.zero .channel).setChannelAction ChannelAction.message.code

theorem strangerMessage_type : PacketType.ofCode strangerMessage.type = some .channel := by
  rw [strangerMessage, TizcordPacket.setChannelAction, type_putInt32 _ _ _ (by decide), type_setType,
    PacketType.ofCode_code]

theorem strangerMessage_request : strangerMessage.request = some (.channel .message) := by
  have action : strangerMessage.channelAction = ChannelAction.message.code := by
    rw [strangerMessage, TizcordPacket.channelAction, TizcordPacket.setChannelAction,
      Image.int32_putInt32_same _ _ _ (by decide)]
    rfl
  rw [TizcordPacket.request_of_type strangerMessage_type, TizcordPacket.requestOfType, action]
  rfl

/-- The message of a stranger reaches another connection. -/
theorem stranger_not_contained :
    ¬ ∀ (env : Env) (serverFd : Int) (machine : Machine), Reachable env serverFd machine →
      ∀ index, index < machine.loop.process.ctx.clients.length →
      (machine.loop.process.clientAt index).isAuthenticated = false →
      ∀ (packet : TizcordPacket) (kind : PacketType),
      PacketType.ofCode packet.type = some kind → kind ≠ .auth →
      Contained index machine.loop.process
        (processClientPacket env index packet machine.loop.process) := by
  intro claim
  have contained := claim Env.ideal 3 _ twoStrangers_reachable 0 (by decide) rfl strangerMessage
    .channel strangerMessage_type (by decide)
  have elsewhere : OpenElsewhere twoStrangers.process.ctx
      (twoStrangers.process.clientAt 0).socketFd :=
    ⟨twoStrangers.process.clientAt 1, List.mem_cons_of_mem _ List.mem_cons_self, by decide,
      by decide⟩
  exact channelMessage_escapes strangerMessage_request elsewhere contained

end Tizcord
