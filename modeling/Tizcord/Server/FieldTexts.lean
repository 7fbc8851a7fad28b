/-
This file is about the texts that handlers take out of packets. A text is read as
a C string from the start of its field, so it depends on the field alone exactly
when the field has a zero byte; otherwise it runs on into the fields behind it.
-/

import Tizcord.Server.Friendships

namespace Tizcord

open CModel

/-! ### Fields -/

/-- The character fields whose text goes to `crypt` or to the database. -/
inductive TextField where
  | authUsername | authPassword | serverName | channelName | channelMessage | dmMessage
  | targetUsername
  deriving DecidableEq

def TextField.offset : TextField → Nat
  | .authUsername => 40
  | .authPassword => 72
  | .serverName => 64
  | .channelName => 64
  | .channelMessage => 104
  | .dmMessage => 56
  | .targetUsername => 56

def TextField.length : TextField → Nat
  | .authUsername | .serverName | .channelName | .targetUsername => maxNameLen
  | .authPassword => passwordLen
  | .channelMessage | .dmMessage => messageLen

/-- The bytes of the field. -/
def TextField.bytes (field : TextField) (packet : TizcordPacket) : List UInt8 :=
  packet.slice field.offset field.length

/-- The C string that starts in the field. -/
def TextField.text (field : TextField) (packet : TizcordPacket) (beyond : List UInt8) : Text :=
  packet.text field.offset beyond

/-- The text of the field that an effect hands on. -/
def Effect.fieldText : TextField → Effect → Option Text
  | .authUsername, .called (.createUser username _ _) => some username
  | .authUsername, .called (.getPasswordHash username) => some username
  | .authPassword, .hashed phrase _ => some phrase
  | .serverName, .called (.createServer name _ _ _) => some name
  | .channelName, .called (.createChannel _ name _) => some name
  | .channelMessage, .called (.saveMessage _ _ content _) => some content
  | .dmMessage, .called (.saveDirectMessage _ _ content _) => some content
  | .targetUsername, .called (.getUserIdByName username) => some username
  | _, _ => none

theorem TextField.fits (field : TextField) : field.offset + field.length < packetSize := by
  cases field <;> decide

/-! ### What is handed on -/

/-- One handling of a packet. -/
structure PacketRun where
  env : Env
  process : Process
  index : Nat
  packet : TizcordPacket

/-- The texts of a field that are handed on when the packet is handled. -/
def PacketRun.handed (run : PacketRun) (field : TextField) : List Text :=
  ((processClientPacket run.env run.index run.packet run.process).trace.drop
    run.process.trace.length).filterMap (Effect.fieldText field)

/-- The text of a field with certain bytes is the same in all runs of packets of one type and
action. -/
def DependsOnField (field : TextField) (bytes : List UInt8) : Prop :=
  ∀ first second : PacketRun, first.packet.type = second.packet.type →
    first.packet.request = second.packet.request → field.bytes first.packet = bytes →
    field.bytes second.packet = bytes → ∀ text ∈ first.handed field,
    ∀ other ∈ second.handed field, text = other

section Step

variable {env : Env} {fd : Int} {beyond : List UInt8} {packet : TizcordPacket} {text : Text}

/-- The texts of a permitted call are those of the packet. -/
theorem DbCall.Permitted.fieldText {ctx : ServerContext} {call : DbCall}
    (permitted : call.Permitted ctx fd beyond packet) (field : TextField)
    (handed : (Effect.called call).fieldText field = some text) :
    text = field.text packet beyond := by
  cases call with
  | createUser | getPasswordHash =>
    cases field with
    | authUsername => exact (Option.some.inj handed).symm.trans permitted.2
    | _ => cases handed
  | createServer =>
    cases field with
    | serverName => exact (Option.some.inj handed).symm.trans permitted.2.1
    | _ => cases handed
  | createChannel =>
    cases field with
    | channelName => exact (Option.some.inj handed).symm.trans permitted.2.2.1
    | _ => cases handed
  | saveMessage =>
    cases field with
    | channelMessage => exact (Option.some.inj handed).symm.trans permitted.2.2.1
    | _ => cases handed
  | saveDirectMessage =>
    cases field with
    | dmMessage => exact (Option.some.inj handed).symm.trans permitted.2.2.1
    | _ => cases handed
  | getUserIdByName =>
    cases field with
    | targetUsername => exact (Option.some.inj handed).symm.trans permitted.2.1
    | _ => cases handed
  | updateUserStatus | joinServer | leaveServer | deleteServer | kickServerMember | deleteChannel
  | sendFriendRequest | acceptFriendRequest | removeFriendship | rejectFriendRequest =>
    cases field <;> cases handed

theorem HandlerStep.fieldText {before after : ServerContext} {effects : List Effect}
    (step : HandlerStep env fd beyond packet before effects after) (effect : Effect)
    (member : effect ∈ effects) (field : TextField)
    (handed : effect.fieldText field = some text) : text = field.text packet beyond := by
  cases step with
  | look | session => cases member
  | reply | broadcast | forward | history =>
    rw [List.mem_singleton.mp member] at handed
    cases field <;> cases handed
  | hash =>
    rw [List.mem_singleton.mp member] at handed
    cases field with
    | authPassword => exact (Option.some.inj handed).symm
    | _ => cases handed
  | call time permitted =>
    rw [List.mem_singleton.mp member] at handed
    exact permitted.fieldText field handed

end Step

/-- What is handed on is the C string that starts in the field. -/
theorem PacketRun.text_of_handed {run : PacketRun} {field : TextField} {text : Text}
    (handed : text ∈ run.handed field) :
    text = field.text run.packet (run.env.beyond run.process.clock) := by
  obtain ⟨effect, member, is⟩ := List.mem_filterMap.mp handed
  obtain ⟨effects, logged, steps⟩ :=
    processClientPacket_acts run.env run.index run.packet run.process
  rw [logged, Process.log, List.append_assoc, List.drop_left] at member
  rcases List.mem_append.mp member with first | later
  · rw [List.mem_singleton.mp first] at is
    cases field <;> cases is
  · have read : ∀ effect ∈ effects, effect.fieldText field = some text →
        text = field.text run.packet (run.env.beyond run.process.clock) :=
      steps.events_of_invariant (fun _ => True) (fun _ _ => trivial)
        (fun step _ effect member handed => step.fieldText effect member field handed) trivial
    exact read effect later is

/-- A zero byte in the field ends the text inside the field. -/
theorem dependsOnField_of_terminated {field : TextField} {bytes : List UInt8}
    (terminated : (0 : UInt8) ∈ bytes) : DependsOnField field bytes := by
  intro first second _ _ firstBytes secondBytes text handed other otherHanded
  have read : ∀ run : PacketRun, field.bytes run.packet = bytes →
      field.text run.packet (run.env.beyond run.process.clock) = cString bytes := by
    intro run same
    rw [TextField.bytes] at same
    rw [TextField.text, Image.text_of_terminated _ _ _ _ field.fits.le (same ▸ terminated), same]
  rw [PacketRun.text_of_handed handed, PacketRun.text_of_handed otherHanded,
    read first firstBytes, read second secondBytes]

/-! ### Full fields -/

/-- A packet whose handling reads the field. -/
def TextField.basePacket : TextField → TizcordPacket
  | .authUsername => (TizcordPacket.setType Image.zero .auth).setAuthAction AuthAction.login.code
  | .authPassword => (TizcordPacket.setType Image.zero .auth).setAuthAction AuthAction.register.code
  | .serverName =>
    (TizcordPacket.setType Image.zero .server).setServerAction ServerAction.create.code
  | .channelName =>
    ((TizcordPacket.setType Image.zero .channel).setChannelAction
      ChannelAction.create.code).setChannelServerId 1
  | .channelMessage =>
    (TizcordPacket.setType Image.zero .channel).setChannelAction ChannelAction.message.code
  | .dmMessage => (TizcordPacket.setType Image.zero .dm).setDmAction DMAction.message.code
  | .targetUsername =>
    (TizcordPacket.setType Image.zero .social).setSocialAction SocialAction.friendRequest.code

def TextField.request : TextField → Request
  | .authUsername => .auth .login
  | .authPassword => .auth .register
  | .serverName => .server .create
  | .channelName => .channel .create
  | .channelMessage => .channel .message
  | .dmMessage => .dm .message
  | .targetUsername => .social .friendRequest

/-- The packet with certain bytes in the field, and a byte behind them. -/
def TextField.packet (field : TextField) (bytes : List UInt8) (next : UInt8) : TizcordPacket :=
  (field.basePacket.store field.offset bytes).store (field.offset + field.length) [next]

theorem int32_store_behind (packet : TizcordPacket) {offset behind : Nat} (bytes : List UInt8)
    (inFront : offset + 4 ≤ behind) :
    Image.int32 (packet.store behind bytes) offset = packet.int32 offset := by
  rw [Image.int32, Image.int32, Image.word_store_disjoint _ _ _ _ _ (Or.inl inFront)]

/-- What a packet asks for stands in front of all texts. -/
theorem TizcordPacket.request_store (packet : TizcordPacket) {offset : Nat} (bytes : List UInt8)
    (behind : 40 ≤ offset) :
    TizcordPacket.request (packet.store offset bytes) = packet.request := by
  have same : ∀ place, place + 4 ≤ 40 →
      Image.int32 (packet.store offset bytes) place = packet.int32 place :=
    fun place inFront => int32_store_behind packet bytes (inFront.trans behind)
  have type := type_store packet offset bytes ((by decide : 4 ≤ 40).trans behind)
  have action : Image.int32 (packet.store offset bytes) 32 = packet.int32 32 :=
    same 32 (by decide)
  have social : Image.int32 (packet.store offset bytes) 36 = packet.int32 36 :=
    same 36 (by decide)
  rw [request, request, type]
  refine congrArg _ (funext fun announced => ?_)
  cases announced <;>
    simp only [requestOfType, authAction, dmAction, serverAction, channelAction, socialAction,
      action, social]

theorem TextField.packet_request (field : TextField) (bytes : List UInt8) (next : UInt8) :
    (field.packet bytes next).request = some field.request := by
  rw [packet, TizcordPacket.request_store _ _ (by cases field <;> decide),
    TizcordPacket.request_store _ _ (by cases field <;> decide)]
  cases field <;> decide +kernel

theorem TextField.packet_type (field : TextField) (bytes : List UInt8) (next : UInt8) :
    (field.packet bytes next).type = field.basePacket.type := by
  rw [packet, type_store _ _ _ (by cases field <;> decide),
    type_store _ _ _ (by cases field <;> decide)]

theorem TextField.packet_bytes (field : TextField) {bytes : List UInt8} (next : UInt8)
    (full : bytes.length = field.length) : field.bytes (field.packet bytes next) = bytes := by
  have fits := field.fits
  rw [TextField.bytes, packet, Image.slice_store_disjoint _ _ _ _ _ (Or.inl le_rfl), ← full]
  exact Image.slice_store_same _ _ _ (by omega)

/-- The text of a full field goes on with the byte behind the field. -/
theorem TextField.packet_text (field : TextField) {bytes : List UInt8} (next : UInt8)
    (beyond : List UInt8) (full : bytes.length = field.length)
    (unterminated : (0 : UInt8) ∉ bytes) :
    (field.text (field.packet bytes next) beyond).bytes =
      bytes ++ (Image.text (field.packet bytes next) (field.offset + field.length) beyond).bytes := by
  have read := field.packet_bytes next full
  rw [TextField.bytes] at read
  rw [TextField.text, Image.text_of_unterminated _ _ field.length _ field.fits.le
    (read.symm ▸ unterminated), read]

theorem TextField.packet_next (field : TextField) (bytes : List UInt8) (next : UInt8)
    (beyond : List UInt8) :
    Image.text (field.packet bytes next) (field.offset + field.length) beyond =
      cString (next :: (Image.slice (field.packet bytes next) (field.offset + field.length + 1)
        (packetSize - (field.offset + field.length + 1)) ++ beyond)) := by
  have fits := field.fits
  have split : packetSize - (field.offset + field.length) =
      1 + (packetSize - (field.offset + field.length + 1)) := by omega
  have first : Image.slice (field.packet bytes next) (field.offset + field.length) 1 = [next] :=
    Image.slice_store_same _ _ [next] fits
  rw [Image.text, split, Image.slice_append, first]
  rfl

/-- Behind a full field, the next byte decides how long the text is. -/
theorem TextField.packet_text_ne (field : TextField) {bytes : List UInt8} (beyond : List UInt8)
    (full : bytes.length = field.length) (unterminated : (0 : UInt8) ∉ bytes) :
    field.text (field.packet bytes 0) beyond ≠ field.text (field.packet bytes 1) beyond := by
  intro same
  have equal := congrArg Text.bytes same
  rw [field.packet_text 0 beyond full unterminated, field.packet_text 1 beyond full unterminated,
    field.packet_next, field.packet_next] at equal
  have cut := List.append_cancel_left equal
  simp [cString] at cut

/-! ### Runs that hand on a text -/

/-- A text is handed on by any effect on record that is not older than the packet. -/
theorem PacketRun.handed_of_prefix {run : PacketRun} {field : TextField} {text : Text}
    {gain : List Effect} {effect : Effect}
    (logged : run.process.trace ++ gain <+:
      (processClientPacket run.env run.index run.packet run.process).trace)
    (member : effect ∈ gain) (is : effect.fieldText field = some text) :
    text ∈ run.handed field := by
  obtain ⟨rest, logged⟩ := logged
  rw [handed, ← logged, List.append_assoc, List.drop_left]
  exact List.mem_filterMap.mpr ⟨effect, List.mem_append_left rest member, is⟩

section Hands

variable {env : Env} {process : Process} {index : Nat} {packet : TizcordPacket}

variable {fd : Int} {beyond : List UInt8}

theorem loginAccount_logs (unknown : dbGetPasswordHash (env.db process.clock) process.ctx.db
      (packet.authUsername beyond) = none) :
    process.trace ++ [.called (.getPasswordHash (packet.authUsername beyond))] <+:
      (loginAccount env beyond fd packet process).trace := by
  rw [loginAccount]
  generalize packet.authUsername beyond = username at unknown ⊢
  have none' : process.read env (fun env db => dbGetPasswordHash env db username) = none := unknown
  dsimp only
  rw [none']
  exact List.prefix_append _ _

theorem registerAccount_logs {setting : Text} (salted : env.salt process.clock = some setting)
    (unhashed : env.crypt (packet.authPassword beyond) setting = none) :
    process.trace ++ [.hashed (packet.authPassword beyond) setting] <+:
      (registerAccount env beyond fd packet process).trace := by
  rw [registerAccount]
  generalize packet.authPassword beyond = password at unhashed ⊢
  dsimp only
  rw [salted]
  dsimp only [hashPassword]
  rw [unhashed]
  exact List.prefix_append _ _

theorem createTizcordServer_logs {name : Text} (named : name ≠ Text.empty)
    (authenticated : (process.clientAt index).isAuthenticated = true) :
    ∃ userId created status, process.trace ++ [.called (.createServer name userId created status)] <+:
      (createTizcordServer env index name process).trace := by
  rw [createTizcordServer]
  dsimp only
  rw [if_neg named, authenticated, if_neg (by decide)]
  have logged := Process.change_trace env process
    (fun env db => dbCreateServer env db name (process.clientAt index).id)
    (fun created => .createServer name (process.clientAt index).id created.1 created.2)
  generalize process.change env (fun env db => dbCreateServer env db name
    (process.clientAt index).id) (fun created => .createServer name (process.clientAt index).id
      created.1 created.2) = result at logged ⊢
  have answered : ∀ status, result.1.trace <+: (serverResponse env
      (process.clientAt index).socketFd .create status result.1).trace := fun status =>
    (serverResponse_notifies _ _ _ _).trace_grows
  rw [logged] at answered
  split <;> exact ⟨_, _, _, answered _⟩

variable (env process beyond packet) in
theorem channelCreate_logs {sender : ClientNode} (found : senderNode process.ctx fd = some sender)
    (admin : senderIsAdmin env process packet.channelServerId sender = true) :
    ∃ created, process.trace ++ [.called (.createChannel packet.channelServerId
        (packet.channelChannelName beyond) created)] <+:
      (channelCreate env beyond packet fd process).trace := by
  rw [channelCreate]
  generalize packet.channelChannelName beyond = name
  generalize packet.channelServerId = serverId at admin ⊢
  extract_lets
  rw [found]
  dsimp only
  rw [admin, if_neg (by decide)]
  split <;> exact ⟨_, List.prefix_append _ _⟩

variable (env process beyond packet) in
theorem directMessage_logs (sender : ClientNode) :
    ∃ status, process.trace ++ [.called (.saveDirectMessage sender.id packet.dmRecipientId
        (packet.dmMessage beyond) status)] <+:
      (directMessage env beyond packet (some sender) process).trace := by
  rw [directMessage]
  generalize packet.dmMessage beyond = content
  generalize packet.dmRecipientId = recipientId
  split
  · exact ⟨_, List.prefix_rfl⟩
  · exact ⟨_, List.prefix_append _ _⟩

variable (env process beyond packet) in
theorem channelMessage_logs {sender : ClientNode} (found : senderNode process.ctx fd = some sender) :
    ∃ gain status, process.trace ++ gain <+: (channelMessage env beyond packet fd process).trace ∧
      .called (.saveMessage (stampChannelMessage (some sender) packet).channelChannelId sender.id
        ((stampChannelMessage (some sender) packet).channelMessage beyond) status) ∈ gain := by
  rw [channelMessage, found]
  generalize stampChannelMessage (some sender) packet = stamped
  obtain ⟨gain, logged, -⟩ := channelBroadcast_sends env stamped process
  dsimp only
  rw [Process.change_trace, logged, List.append_assoc]
  exact ⟨_, _, List.prefix_rfl, List.mem_append_right _ List.mem_cons_self⟩

theorem friendRequest_logs {client : ClientNode} {name : Text}
    (unknown : dbGetUserIdByName (env.db process.clock) process.ctx.db name = none) :
    process.trace ++ [.called (.getUserIdByName name)] <+:
      (friendRequest env client name process).trace := by
  have target : (findTargetUser env name process).2 = none := unknown
  rw [friendRequest]
  dsimp only
  rw [target]
  have answered : (findTargetUser env name process).1.trace <+: (socialResponse env
      client.socketFd .friendRequest .errNotFound (findTargetUser env name process).1).trace :=
    (socialResponse_notifies _ _ _ _).trace_grows
  exact answered

/-- What the handler puts on record after the packet is handed on. -/
theorem handed_of_handler {after : Process} {field : TextField} {gain : List Effect}
    {effect : Effect} {text : Text}
    (handled : processClientPacket env index packet process = after)
    (logged : (process.log (.handling (process.clientAt index).socketFd packet
      (process.ctx.userOf (process.clientAt index).socketFd))).trace ++ gain <+: after.trace)
    (member : effect ∈ gain) (is : effect.fieldText field = some text) :
    text ∈ (PacketRun.mk env process index packet).handed field := by
  rw [Process.log, List.append_assoc] at logged
  subst handled
  exact PacketRun.handed_of_prefix logged (List.mem_append_right _ member) is

theorem login_handed (asked : packet.request = some (.auth .login))
    (unknown : dbGetPasswordHash (env.db process.clock) process.ctx.db
      (packet.authUsername (env.beyond process.clock)) = none) :
    packet.authUsername (env.beyond process.clock) ∈
      (PacketRun.mk env process index packet).handed .authUsername := by
  obtain ⟨type, acted⟩ := TizcordPacket.request_auth asked
  have handled : processClientPacket env index packet process =
      loginAccount env (env.beyond process.clock) (process.clientAt index).socketFd packet
        (process.log (.handling (process.clientAt index).socketFd packet
          (process.ctx.userOf (process.clientAt index).socketFd))) := by
    rw [processClientPacket, type, handlePacket, handleAuthPacket, acted, handleAuthAction]
  exact handed_of_handler handled (loginAccount_logs unknown) List.mem_cons_self rfl

theorem register_handed (asked : packet.request = some (.auth .register)) {setting : Text}
    (salted : env.salt process.clock = some setting)
    (unhashed : env.crypt (packet.authPassword (env.beyond process.clock)) setting = none) :
    packet.authPassword (env.beyond process.clock) ∈
      (PacketRun.mk env process index packet).handed .authPassword := by
  obtain ⟨type, acted⟩ := TizcordPacket.request_auth asked
  have handled : processClientPacket env index packet process =
      registerAccount env (env.beyond process.clock) (process.clientAt index).socketFd packet
        (process.log (.handling (process.clientAt index).socketFd packet
          (process.ctx.userOf (process.clientAt index).socketFd))) := by
    rw [processClientPacket, type, handlePacket, handleAuthPacket, acted, handleAuthAction]
  exact handed_of_handler handled (registerAccount_logs salted unhashed) List.mem_cons_self rfl

theorem createServer_handed (asked : packet.request = some (.server .create))
    (named : packet.serverServerName (env.beyond process.clock) ≠ Text.empty)
    (authenticated : (process.clientAt index).isAuthenticated = true) :
    packet.serverServerName (env.beyond process.clock) ∈
      (PacketRun.mk env process index packet).handed .serverName := by
  obtain ⟨type, acted⟩ := TizcordPacket.request_server asked
  have handled : processClientPacket env index packet process =
      createTizcordServer env index (packet.serverServerName (env.beyond process.clock))
        (process.log (.handling (process.clientAt index).socketFd packet
          (process.ctx.userOf (process.clientAt index).socketFd))) := by
    rw [processClientPacket, type, handlePacket, handleServerPacket, acted, handleServerAction]
  have authenticatedToo : ((process.log (.handling (process.clientAt index).socketFd packet
      (process.ctx.userOf (process.clientAt index).socketFd))).clientAt index).isAuthenticated =
        true := authenticated
  obtain ⟨userId, created, status, logged⟩ := createTizcordServer_logs named authenticatedToo
  exact handed_of_handler handled logged List.mem_cons_self rfl

theorem createChannel_handed (asked : packet.request = some (.channel .create))
    {sender : ClientNode}
    (found : senderNode process.ctx (process.clientAt index).socketFd = some sender)
    (admin : senderIsAdmin env process packet.channelServerId sender = true) :
    packet.channelChannelName (env.beyond process.clock) ∈
      (PacketRun.mk env process index packet).handed .channelName := by
  obtain ⟨type, acted⟩ := TizcordPacket.request_channel asked
  have handled : processClientPacket env index packet process =
      channelCreate env (env.beyond process.clock) packet (process.clientAt index).socketFd
        (process.log (.handling (process.clientAt index).socketFd packet
          (process.ctx.userOf (process.clientAt index).socketFd))) := by
    rw [processClientPacket, type, handlePacket, handleChatPacket, type, handleChatType,
      handleChannelMessage, acted, handleChannelAction]
  have adminToo : senderIsAdmin env (process.log (.handling (process.clientAt index).socketFd packet
      (process.ctx.userOf (process.clientAt index).socketFd))) packet.channelServerId sender =
        true := admin
  have foundToo : senderNode (process.log (.handling (process.clientAt index).socketFd packet
      (process.ctx.userOf (process.clientAt index).socketFd))).ctx
      (process.clientAt index).socketFd = some sender := found
  obtain ⟨created, logged⟩ :=
    channelCreate_logs env _ packet (env.beyond process.clock) foundToo adminToo
  exact handed_of_handler handled logged List.mem_cons_self rfl

theorem directMessage_handed (asked : packet.request = some (.dm .message)) {sender : ClientNode}
    (found : senderNode process.ctx (process.clientAt index).socketFd = some sender) :
    packet.dmMessage (env.beyond process.clock) ∈
      (PacketRun.mk env process index packet).handed .dmMessage := by
  have handled : processClientPacket env index packet process = _ :=
    processClientPacket_directMessage asked
  rw [found] at handled
  obtain ⟨status, logged⟩ := directMessage_logs env (process.log (.handling
    (process.clientAt index).socketFd packet
      (process.ctx.userOf (process.clientAt index).socketFd)))
    (stampDirectMessage (some sender) packet) (env.beyond process.clock) sender
  refine handed_of_handler handled logged List.mem_cons_self ?_
  exact congrArg some (stampDirectMessage_same packet (env.beyond process.clock) (some sender)).2.2

theorem channelMessage_handed (asked : packet.request = some (.channel .message))
    {sender : ClientNode}
    (found : senderNode process.ctx (process.clientAt index).socketFd = some sender) :
    packet.channelMessage (env.beyond process.clock) ∈
      (PacketRun.mk env process index packet).handed .channelMessage := by
  have handled : processClientPacket env index packet process = _ :=
    processClientPacket_channelMessage asked
  have foundToo : senderNode (process.log (.handling (process.clientAt index).socketFd packet
      (process.ctx.userOf (process.clientAt index).socketFd))).ctx
      (process.clientAt index).socketFd = some sender := found
  obtain ⟨gain, status, logged, member⟩ :=
    channelMessage_logs env _ packet (env.beyond process.clock) foundToo
  refine handed_of_handler handled logged member ?_
  exact congrArg some (stampChannelMessage_same packet (env.beyond process.clock) (some sender)).2

theorem friendRequest_handed (asked : packet.request = some (.social .friendRequest))
    (authenticated : (process.clientAt index).isAuthenticated = true)
    (unknown : dbGetUserIdByName (env.db process.clock) process.ctx.db
      (packet.socialTargetUsername (env.beyond process.clock)) = none) :
    packet.socialTargetUsername (env.beyond process.clock) ∈
      (PacketRun.mk env process index packet).handed .targetUsername := by
  have handled : processClientPacket env index packet process = _ :=
    processClientPacket_tie .request asked authenticated
  exact handed_of_handler handled (friendRequest_logs unknown) List.mem_cons_self rfl

end Hands

/-! ### A state in which every field is handed on -/

/-- The process after a user with the name `a` has created a server. -/
def creatorProcess : Process :=
  (runServer Env.ideal 3 creatorEvents).process

theorem creator_authenticated : (creatorProcess.clientAt 0).isAuthenticated = true := by
  decide +kernel

/-- The user is signed in, and administers the server with the id 1. -/
theorem creator_sender : ∃ sender,
    senderNode creatorProcess.ctx (creatorProcess.clientAt 0).socketFd = some sender ∧
      senderIsAdmin Env.ideal creatorProcess 1 sender = true := by
  have admin : (senderNode creatorProcess.ctx (creatorProcess.clientAt 0).socketFd).any
      (fun sender => senderIsAdmin Env.ideal creatorProcess 1 sender) = true := by
    decide +kernel
  exact (Option.any_eq_true _ _).mp admin

theorem creator_names : ∀ row ∈ creatorProcess.ctx.db.users,
    row.username.bytes.length < maxNameLen := by
  decide +kernel

section Long

variable {database : Database} {name : Text}

/-- No user has a name that fills the field. -/
theorem filter_users_of_long (names : ∀ row ∈ database.users,
      row.username.bytes.length < maxNameLen) (long : maxNameLen ≤ name.bytes.length) :
    (database.users.filter fun row => row.username = name) = [] := by
  refine List.filter_eq_nil_iff.mpr fun row member same => ?_
  have short := names row member
  rw [of_decide_eq_true same] at short
  omega

theorem dbGetPasswordHash_of_long (names : ∀ row ∈ database.users,
      row.username.bytes.length < maxNameLen) (long : maxNameLen ≤ name.bytes.length)
    (time : Nat) : dbGetPasswordHash (Env.ideal.db time) database name = none := by
  unfold dbGetPasswordHash
  rw [filter_users_of_long names long]
  rfl

theorem dbGetUserIdByName_of_long (names : ∀ row ∈ database.users,
      row.username.bytes.length < maxNameLen) (long : maxNameLen ≤ name.bytes.length)
    (time : Nat) : dbGetUserIdByName (Env.ideal.db time) database name = none := by
  unfold dbGetUserIdByName
  rw [filter_users_of_long names long]
  rfl

end Long

/-- An outside in which no password is hashed. -/
def Env.unhashed : Env :=
  { Env.ideal with crypt := fun _ _ => none }

/-- The run of a packet with a full field. -/
def TextField.run (field : TextField) (bytes : List UInt8) (next : UInt8) : PacketRun where
  env := if field = .authPassword then Env.unhashed else Env.ideal
  process := creatorProcess
  index := 0
  packet := field.packet bytes next

theorem TextField.channelName_serverId (bytes : List UInt8) (next : UInt8) :
    (TextField.channelName.packet bytes next).channelServerId = 1 := by
  have disjoint : ∀ (image : TizcordPacket) (offset : Nat) (stored : List UInt8), 48 ≤ offset →
      Image.int64 (image.store offset stored) 40 = image.int64 40 := by
    intro image offset stored behind
    rw [Image.int64, Image.int64, Image.word_store_disjoint _ _ _ _ _ (Or.inl behind)]
  rw [TizcordPacket.channelServerId, packet, disjoint _ _ _ (by decide),
    disjoint _ _ _ (by decide)]
  decide +kernel

theorem TextField.hands (field : TextField) {bytes : List UInt8} (next : UInt8)
    (full : bytes.length = field.length) (unterminated : (0 : UInt8) ∉ bytes) :
    field.text (field.packet bytes next) [] ∈ (field.run bytes next).handed field := by
  have asked := field.packet_request bytes next
  have long : field.length ≤ (field.text (field.packet bytes next) []).bytes.length := by
    rw [field.packet_text next [] full unterminated, List.length_append]
    omega
  obtain ⟨sender, found, admin⟩ := creator_sender
  cases field with
  | authUsername => exact login_handed asked (dbGetPasswordHash_of_long creator_names long _)
  | authPassword => exact register_handed asked rfl rfl
  | serverName =>
    refine createServer_handed asked (fun empty => ?_) creator_authenticated
    have none' : (TextField.serverName.text (TextField.serverName.packet bytes next) []).bytes = [] :=
      congrArg Text.bytes empty
    rw [none'] at long
    exact absurd long (by decide)
  | channelName =>
    refine createChannel_handed asked found ?_
    rw [TextField.channelName_serverId]
    exact admin
  | channelMessage => exact channelMessage_handed asked found
  | dmMessage => exact directMessage_handed asked found
  | targetUsername =>
    exact friendRequest_handed asked creator_authenticated
      (dbGetUserIdByName_of_long creator_names long _)

/-! ### Main theorem -/

theorem not_dependsOnField_of_unterminated {field : TextField} {bytes : List UInt8}
    (full : bytes.length = field.length) (unterminated : (0 : UInt8) ∉ bytes) :
    ¬ DependsOnField field bytes := by
  intro depends
  have same := depends (field.run bytes 0) (field.run bytes 1)
    ((field.packet_type bytes 0).trans (field.packet_type bytes 1).symm)
    ((field.packet_request bytes 0).trans (field.packet_request bytes 1).symm)
    (field.packet_bytes 0 full) (field.packet_bytes 1 full)
    _ (field.hands 0 full unterminated) _ (field.hands 1 full unterminated)
  exact field.packet_text_ne [] full unterminated same

/-- The text of a field depends only on the field exactly when the field holds a terminator. -/
theorem text_depends_on_field_iff (field : TextField) (bytes : List UInt8)
    (full : bytes.length = field.length) : DependsOnField field bytes ↔ (0 : UInt8) ∈ bytes := by
  refine ⟨fun depends => ?_, dependsOnField_of_terminated⟩
  by_contra unterminated
  exact not_dependsOnField_of_unterminated full unterminated depends

theorem text_depends_on_field_letter :
    (List.replicate 31 97 ++ [(0 : UInt8)]).length = TextField.authUsername.length ∧
      (DependsOnField .authUsername (List.replicate 31 97 ++ [0]) ↔
        (0 : UInt8) ∈ List.replicate 31 97 ++ [(0 : UInt8)]) :=
  ⟨by decide, text_depends_on_field_iff .authUsername _ (by decide)⟩

/-- The username field full of letters: the text runs on into the password. -/
theorem full_username_reads_password :
    ¬ ∀ (field : TextField) (bytes : List UInt8), bytes.length = field.length →
      DependsOnField field bytes := fun depends =>
  not_dependsOnField_of_unterminated (by decide) (by decide)
    (depends .authUsername (List.replicate 32 97) (by decide))

end Tizcord
