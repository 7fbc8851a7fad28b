/-
This file is about the copies of a message that the server forwards: the packet
its sender sent, with the identity of the sender written over it and every other
byte as it came.
-/

import Tizcord.Server.Strangers

namespace Tizcord

open CModel

/-- Handling the packet of the connection at an index sends a packet to a descriptor. -/
def Sends (env : Env) (index : Nat) (packet : TizcordPacket) (process : Process) (fd : Int)
    (copy : TizcordPacket) : Prop :=
  ∃ status user, .sent fd copy status user ∈
    (processClientPacket env index packet process).trace.drop process.trace.length

section Copies

variable {env : Env} {index : Nat} {packet : TizcordPacket} {process : Process} {fd : Int}
  {copy : TizcordPacket}

/-- A broadcast sends its packet and does nothing else. -/
theorem channelBroadcast_takes (env : Env) (answer : TizcordPacket) (senderFd : Int)
    (process : Process) :
    Takes Process.ctx Process.trace
      (fun before effects after => after = before ∧ ∀ effect ∈ effects,
        ∃ fd status user, effect = .sent fd answer status user)
      process (channelBroadcast env answer senderFd process) := by
  refine Takes.foldl (fun _ => True) (fun _ _ => trivial) (fun process index _ => ?_) _ _ trivial
  dsimp only
  split
  · refine Takes.single rfl ⟨rfl, fun effect member => ?_⟩
    exact ⟨_, _, _, List.mem_singleton.mp member⟩
  · exact Takes.refl _

/-- What a handler that follows the record of its packet sends. -/
theorem Sends.of_gain {after : Process} {gain : List Effect}
    (sent : Sends env index packet process fd copy)
    (handled : processClientPacket env index packet process = after)
    (logged : after.trace = (process.log (.handling (process.clientAt index).socketFd packet
      (process.ctx.userOf (process.clientAt index).socketFd))).trace ++ gain) :
    ∃ status user, .sent fd copy status user ∈ gain := by
  obtain ⟨status, user, member⟩ := sent
  rw [handled, logged, Process.log, List.append_assoc, List.drop_left] at member
  rcases List.mem_append.mp member with handling | late
  · exact Effect.noConfusion (List.mem_singleton.mp handling)
  · exact ⟨status, user, late⟩

/-- A channel message sends the stamped packet, and calls the database. -/
theorem channelMessage_trace (env : Env) (beyond : List UInt8) (packet : TizcordPacket) (own : Int)
    (process : Process) :
    ∃ gain, (channelMessage env beyond packet own process).trace = process.trace ++ gain ∧
      ∀ fd copy status user, .sent fd copy status user ∈ gain →
        copy = stampChannelMessage (senderNode process.ctx own) packet := by
  rw [channelMessage]
  generalize senderNode process.ctx own = sender
  generalize stampChannelMessage sender packet = stamped
  obtain ⟨gain, logged, steps⟩ := channelBroadcast_takes env stamped (-1) process
  have only : ∀ effect ∈ gain, ∃ fd status user, effect = .sent fd stamped status user :=
    steps.events_of_invariant (fun _ => True) (fun _ _ => trivial) (fun step _ => step.2) trivial
  have copied : ∀ fd copy status user, .sent fd copy status user ∈ gain → copy = stamped := by
    intro fd copy status user member
    obtain ⟨_, _, _, is⟩ := only _ member
    exact (Effect.sent.inj is).2.1
  cases sender with
  | none => exact ⟨gain, logged, copied⟩
  | some node =>
    dsimp only
    rw [Process.change_trace, logged, List.append_assoc]
    refine ⟨_, rfl, fun fd copy status user member => ?_⟩
    rcases List.mem_append.mp member with early | call
    · exact copied fd copy status user early
    · exact nomatch List.mem_singleton.mp call

/-- The forward of a direct message, after some calls that sent nothing. -/
theorem directForward_trace (env : Env) (packet : TizcordPacket) {process other : Process}
    {calls : List Effect} (silent : ∀ fd copy status user, .sent fd copy status user ∉ calls)
    (logged : other.trace = process.trace ++ calls)
    (same : other.ctx.clients = process.ctx.clients) :
    ∃ gain, (match recipientNode other.ctx packet.dmRecipientId with
      | none => other
      | some node => other.send env node.socketFd packet).trace = process.trace ++ gain ∧
      ∀ fd copy status user, .sent fd copy status user ∈ gain → copy = packet ∧
        ∃ node, recipientNode process.ctx packet.dmRecipientId = some node ∧
          node.socketFd = fd := by
  have sameRecipient : recipientNode other.ctx packet.dmRecipientId =
      recipientNode process.ctx packet.dmRecipientId := by
    rw [recipientNode, recipientNode, same]
  rw [sameRecipient]
  cases found : recipientNode process.ctx packet.dmRecipientId with
  | none => exact ⟨calls, logged, fun fd copy status user member =>
      absurd member (silent fd copy status user)⟩
  | some node =>
    have sent : (other.send env node.socketFd packet).trace = process.trace ++ (calls ++
        [.sent node.socketFd packet (packetSend (env.send other.clock) packet).1
          (other.ctx.userOf node.socketFd)]) := by
      rw [← List.append_assoc, ← logged]
      rfl
    refine ⟨_, sent, fun fd copy status user member => ?_⟩
    rcases List.mem_append.mp member with early | last
    · exact absurd early (silent fd copy status user)
    · obtain ⟨rfl, rfl, -⟩ := Effect.sent.inj (List.mem_singleton.mp last)
      exact ⟨rfl, node, rfl, rfl⟩

/-- A direct message calls the database, and sends its packet to the node of its recipient. -/
theorem directMessage_trace (env : Env) (beyond : List UInt8) (packet : TizcordPacket)
    (sender : Option ClientNode) (process : Process) :
    ∃ gain, (directMessage env beyond packet sender process).trace = process.trace ++ gain ∧
      ∀ fd copy status user, .sent fd copy status user ∈ gain → copy = packet ∧
        ∃ node, recipientNode process.ctx packet.dmRecipientId = some node ∧
          node.socketFd = fd := by
  unfold directMessage
  generalize packet.dmMessage beyond = content
  cases sender with
  | none =>
    exact directForward_trace env packet (fun _ _ _ _ => List.not_mem_nil)
      (List.append_nil _).symm rfl
  | some node =>
    refine directForward_trace env packet ?_ (Process.change_trace env process _ _) rfl
    intro fd copy status user member
    exact Effect.noConfusion (List.mem_singleton.mp member)

/-- Every packet sent for a channel message is the stamped message. -/
theorem copy_of_channelMessage (asked : packet.request = some (.channel .message))
    (sent : Sends env index packet process fd copy) :
    copy = stampChannelMessage (senderNode process.ctx (process.clientAt index).socketFd)
      packet := by
  obtain ⟨gain, logged, copied⟩ := channelMessage_trace env (env.beyond process.clock) packet
    (process.clientAt index).socketFd (process.log (.handling (process.clientAt index).socketFd
      packet (process.ctx.userOf (process.clientAt index).socketFd)))
  obtain ⟨status, user, member⟩ :=
    sent.of_gain (processClientPacket_channelMessage asked) logged
  exact copied fd copy status user member

/-- Every packet sent for a direct message is the stamped message, and goes to its recipient. -/
theorem copy_of_directMessage (asked : packet.request = some (.dm .message))
    (sent : Sends env index packet process fd copy) :
    copy = stampDirectMessage (senderNode process.ctx (process.clientAt index).socketFd) packet ∧
      ∃ node, recipientNode process.ctx packet.dmRecipientId = some node ∧
        node.socketFd = fd := by
  obtain ⟨gain, logged, copied⟩ := directMessage_trace env (env.beyond process.clock)
    (stampDirectMessage (senderNode process.ctx (process.clientAt index).socketFd) packet)
    (senderNode process.ctx (process.clientAt index).socketFd)
    (process.log (.handling (process.clientAt index).socketFd packet
      (process.ctx.userOf (process.clientAt index).socketFd)))
  obtain ⟨status, user, member⟩ :=
    sent.of_gain (processClientPacket_directMessage asked) logged
  obtain ⟨same, node, found, own⟩ := copied fd copy status user member
  rw [(stampDirectMessage_same packet [] _).2.1] at found
  exact ⟨same, node, found, own⟩

/-! ### Histories -/

/-- The row of a channel history is that of a message of the channel. -/
theorem mem_messages_of_mem {dbEnv : DbEnv} {database : Database} {channelId : Int}
    {item : MessageListRow} (member : item ∈ (dbListChannelMessages dbEnv database channelId).1) :
    ∃ row ∈ database.messages, row.channelId = channelId ∧ row.content = item.content := by
  unfold dbListChannelMessages at member
  split at member
  · cases member
  · obtain ⟨⟨message, user⟩, joined, rfl⟩ := List.mem_map.mp ((fetch_isPrefix ..).subset member)
    rw [mem_orderBy] at joined
    obtain ⟨row, selected, found⟩ := List.mem_flatMap.mp joined
    obtain ⟨_, -, same⟩ := List.mem_map.mp found
    obtain ⟨rfl, -⟩ := Prod.mk.inj same
    obtain ⟨present, own⟩ := List.mem_filter.mp selected
    exact ⟨row, present, of_decide_eq_true own, rfl⟩

/-- A packet of a channel history is a frame, or shows a message of the channel. -/
def OfHistory (database : Database) (channelId : Int) (copy : TizcordPacket) : Prop :=
  copy.listFrame = ListFrameType.start.code ∨ copy.listFrame = ListFrameType.end.code ∨
    copy.channelChannelId = channelId ∧ ∃ row ∈ database.messages, row.channelId = channelId ∧
      copy.channelMessage [] = row.content.take (messageLen - 1)

/-- A step that sends only certain packets, and does nothing else. -/
def SendsOnly (good : TizcordPacket → Prop) (before : ServerContext) (effects : List Effect)
    (after : ServerContext) : Prop :=
  after = before ∧ ∀ effect ∈ effects, ∃ fd copy status user, effect = .sent fd copy status user ∧
    good copy

theorem send_takes {good : TizcordPacket → Prop} (env : Env) (own : Int) (process : Process)
    {packet : TizcordPacket} (is : good packet) :
    Takes Process.ctx Process.trace (SendsOnly good) process (process.send env own packet) :=
  Takes.single rfl ⟨rfl, fun _ member => ⟨_, _, _, _, List.mem_singleton.mp member, is⟩⟩

/-- What sends only certain packets leaves these in the record. -/
theorem trace_of_sendsOnly {good : TizcordPacket → Prop} {before after : Process}
    (takes : Takes Process.ctx Process.trace (SendsOnly good) before after) :
    ∃ gain, after.trace = before.trace ++ gain ∧
      ∀ fd copy status user, .sent fd copy status user ∈ gain → good copy := by
  obtain ⟨gain, logged, steps⟩ := takes
  refine ⟨gain, logged, fun fd copy status user member => ?_⟩
  have only : ∀ effect ∈ gain, ∃ fd copy status user, effect = .sent fd copy status user ∧
      good copy :=
    steps.events_of_invariant (fun _ => True) (fun _ _ => trivial) (fun step _ => step.2) trivial
  obtain ⟨_, _, _, _, is, good⟩ := only _ member
  rw [(Effect.sent.inj is).2.1]
  exact good

/-- A history is sent as a frame, one packet for each row, and a frame. -/
theorem history_takes {Row : Type} {good : TizcordPacket → Prop} (env : Env) (own : Int)
    (process middle : Process) (rows : List Row) (cb : Process → Row × Nat → Process)
    (frame : Process → TizcordPacket)
    (opened : Takes Process.ctx Process.trace (SendsOnly good) process middle)
    (listed : ∀ other, ∀ row ∈ rows, ∀ index, other.ctx.db = middle.ctx.db →
      Takes Process.ctx Process.trace (SendsOnly good) other (cb other (row, index)))
    (closes : ∀ other, good (frame other)) :
    Takes Process.ctx Process.trace (SendsOnly good) process
      ((rows.zipIdx.foldl cb middle.tick).send env own
        (frame (rows.zipIdx.foldl cb middle.tick))) := by
  have folded : Takes Process.ctx Process.trace (SendsOnly good) middle.tick
      (rows.zipIdx.foldl cb middle.tick) :=
    Takes.foldl_of_mem (fun ctx => ctx.db = middle.ctx.db)
      (fun step held => (congrArg ServerContext.db step.1).trans held) _
      (fun other item member held =>
        listed other item.1 (List.fst_mem_of_mem_zipIdx member) item.2 held) _ rfl
  exact opened.trans ((Takes.idle rfl rfl).trans
    (folded.trans (send_takes env own _ (closes _))))

theorem messageHistoryCb_takes (env : Env) (own : Int) {channelId : Int} (database : Database)
    (process : Process) {item : MessageListRow × Nat} (same : signed 64 channelId = channelId)
    (stored : ∃ row ∈ database.messages, row.channelId = channelId ∧
      row.content = item.1.content) :
    Takes Process.ctx Process.trace (SendsOnly (OfHistory database channelId)) process
      (messageHistoryCb env own channelId process item) := by
  obtain ⟨row, present, ofChannel, content⟩ := stored
  rw [messageHistoryCb]
  refine send_takes env own process (Or.inr (Or.inr ⟨?_, row, present, ofChannel, ?_⟩))
  · simp (disch := decide) [TizcordPacket.channelChannelId, TizcordPacket.setChannelChannelId,
      TizcordPacket.setChannelMessageId, TizcordPacket.setTimestamp,
      TizcordPacket.strncpyChannelChannelName, TizcordPacket.strncpyChannelMessage, same]
  · rw [content]
    refine Image.text_of_slice _ [] (by decide) (Image.slice_strncpy_same _ _ _ _ (by decide) ?_)
    simp (disch := decide) [Process.basePacket, createBasePacket, TizcordPacket.setType,
      TizcordPacket.setTimestamp, TizcordPacket.setChannelAction, TizcordPacket.setListId,
      TizcordPacket.setListIndex, TizcordPacket.setListFrame, TizcordPacket.setChannelChannelId,
      TizcordPacket.setChannelMessageId, TizcordPacket.strncpyChannelChannelName]

theorem channelFramePacket_ofHistory (env : Env) (process : Process) (database : Database)
    (channelId : Int) {frame : ListFrameType} (marked : frame = .start ∨ frame = .end) :
    OfHistory database channelId (channelFramePacket env process channelId frame) := by
  rcases marked with rfl | rfl
  · exact Or.inl (listFrame_channelFramePacket ..)
  · exact Or.inr (Or.inl (listFrame_channelFramePacket ..))

/-- The packets of a channel history are of the channel that was asked for. -/
theorem channelHistory_takes (env : Env) (packet : TizcordPacket) (own : Int) (process : Process) :
    Takes Process.ctx Process.trace
      (SendsOnly (OfHistory process.ctx.db packet.channelChannelId)) process
      (channelHistory env packet own process) := by
  have same : signed 64 packet.channelChannelId = packet.channelChannelId := by
    rw [TizcordPacket.channelChannelId, Image.int64, signed_signed]
  unfold channelHistory
  dsimp only
  generalize packet.channelChannelId = channelId at same ⊢
  have opened : Takes Process.ctx Process.trace
      (SendsOnly (OfHistory process.ctx.db channelId)) process
      (process.send env own (channelFramePacket env process channelId .start)) :=
    send_takes env own process (channelFramePacket_ofHistory env process _ channelId (Or.inl rfl))
  have sameDb : (process.send env own (channelFramePacket env process channelId .start)).ctx.db =
      process.ctx.db := rfl
  generalize process.send env own (channelFramePacket env process channelId .start) = middle
    at opened sameDb ⊢
  refine history_takes env own process middle _ _
    (fun other => channelFramePacket env other channelId .end) opened
    (fun other item member index _ => ?_)
    fun other => channelFramePacket_ofHistory env other _ channelId (Or.inr rfl)
  refine messageHistoryCb_takes env own process.ctx.db other same ?_
  rw [← sameDb]
  exact mem_messages_of_mem member

theorem processClientPacket_channelHistory (env : Env) (index : Nat) (process : Process)
    (asked : packet.request = some (.channel .historyRequest)) :
    processClientPacket env index packet process =
      channelHistory env packet (process.clientAt index).socketFd
        (process.log (.handling (process.clientAt index).socketFd packet
          (process.ctx.userOf (process.clientAt index).socketFd))) := by
  obtain ⟨type, acted⟩ := TizcordPacket.request_channel asked
  rw [processClientPacket, type, handlePacket, handleChatPacket, type, handleChatType,
    handleChannelMessage, acted, handleChannelAction]

/-- Every packet sent for a request for the history of a channel is of this history. -/
theorem copy_of_channelHistory (asked : packet.request = some (.channel .historyRequest))
    (sent : Sends env index packet process fd copy) :
    OfHistory process.ctx.db packet.channelChannelId copy := by
  obtain ⟨gain, logged, ofHistory⟩ := trace_of_sendsOnly (channelHistory_takes env packet
    (process.clientAt index).socketFd (process.log (.handling (process.clientAt index).socketFd
      packet (process.ctx.userOf (process.clientAt index).socketFd))))
  obtain ⟨status, user, member⟩ :=
    sent.of_gain (processClientPacket_channelHistory env index process asked) logged
  exact ofHistory fd copy status user member

/-- The row of a direct-message history is that of a message between the two users. -/
theorem mem_directMessages_of_mem {dbEnv : DbEnv} {database : Database} {userId friendId : Int}
    {item : DirectMessageListRow}
    (member : item ∈ (dbListDirectMessages dbEnv database userId friendId).1) :
    ∃ row ∈ database.directMessages, (row.senderId = userId ∧ row.receiverId = friendId ∨
      row.senderId = friendId ∧ row.receiverId = userId) ∧ row.content = item.content ∧
      row.createdAt = item.timestamp := by
  unfold dbListDirectMessages at member
  split at member
  · cases member
  · extract_lets joined selected newest rows at member
    obtain ⟨⟨message, sender, receiver⟩, listed, rfl⟩ :=
      List.mem_map.mp ((fetch_isPrefix ..).subset member)
    rw [mem_orderBy] at listed
    have inSelected := (mem_orderBy ..).mp (List.mem_of_mem_take listed)
    obtain ⟨inJoined, between⟩ := List.mem_filter.mp inSelected
    obtain ⟨row, present, found⟩ := List.mem_flatMap.mp inJoined
    obtain ⟨_, -, found⟩ := List.mem_flatMap.mp found
    obtain ⟨_, -, same⟩ := List.mem_map.mp found
    obtain ⟨rfl, -⟩ := Prod.mk.inj same
    simp only [Bool.or_eq_true, Bool.and_eq_true, decide_eq_true_eq] at between
    exact ⟨row, present, between, rfl, rfl⟩

/-- A packet of a direct-message history is a message packet, and a frame, or it shows a message
between the two users that is sent by one of them to the requester's friend. -/
structure OfDmHistory (database : Database) (userId friendId : Int) (copy : TizcordPacket) :
    Prop where
  request : copy.request = some (.dm .message)
  recipient : copy.dmRecipientId = friendId
  shows : copy.listFrame = ListFrameType.start.code ∨ copy.listFrame = ListFrameType.end.code ∨
    (copy.senderId = signed 64 userId ∨ copy.senderId = friendId) ∧
    ∃ row ∈ database.directMessages, (row.senderId = userId ∧ row.receiverId = friendId ∨
      row.senderId = friendId ∧ row.receiverId = userId) ∧
      copy.dmMessage [] = row.content.take (messageLen - 1) ∧
      copy.timestamp = signed 64 row.createdAt

theorem TizcordPacket.request_dmMessage {packet : TizcordPacket}
    (type : packet.type = PacketType.dm.code) (acted : packet.dmAction = DMAction.message.code) :
    packet.request = some (.dm .message) := by
  have announced : PacketType.ofCode packet.type = some .dm := by
    rw [type]
    rfl
  rw [request_of_type announced, requestOfType, acted]
  rfl

theorem dmFramePacket_ofDmHistory (env : Env) (process : Process) (database : Database)
    (userId : Int) {friendId : Int} (same : signed 32 friendId = friendId) {frame : ListFrameType}
    (marked : frame = .start ∨ frame = .end) :
    OfDmHistory database userId friendId (dmFramePacket env process friendId frame) where
  request := by
    refine TizcordPacket.request_dmMessage ?_ ?_ <;>
      simp (disch := decide) [dmFramePacket, Process.basePacket, createBasePacket,
        TizcordPacket.type, TizcordPacket.dmAction, TizcordPacket.setType,
        TizcordPacket.setTimestamp, TizcordPacket.setDmAction, TizcordPacket.setDmRecipientId,
        TizcordPacket.setListId, TizcordPacket.setListFrame, signed_code]
    rfl
  recipient := by
    simp (disch := decide) [dmFramePacket, TizcordPacket.dmRecipientId,
      TizcordPacket.setDmRecipientId, TizcordPacket.setListId, TizcordPacket.setListFrame, same]
  shows := by
    rcases marked with rfl | rfl
    · exact Or.inl (listFrame_dmFramePacket ..)
    · exact Or.inr (Or.inl (listFrame_dmFramePacket ..))

theorem directMessageHistoryCb_takes (env : Env) (own userId : Int) {friendId : Int}
    (name : Text) (database : Database) (process : Process) {item : DirectMessageListRow × Nat}
    (same32 : signed 32 friendId = friendId) (same64 : signed 64 friendId = friendId)
    (stored : ∃ row ∈ database.directMessages, (row.senderId = userId ∧ row.receiverId = friendId ∨
      row.senderId = friendId ∧ row.receiverId = userId) ∧ row.content = item.1.content ∧
      row.createdAt = item.1.timestamp) :
    Takes Process.ctx Process.trace (SendsOnly (OfDmHistory database userId friendId)) process
      (directMessageHistoryCb env own userId friendId name process item) := by
  obtain ⟨row, present, between, content, time⟩ := stored
  rw [directMessageHistoryCb]
  refine send_takes env own process ⟨?_, ?_, Or.inr (Or.inr ⟨?_, row, present, between, ?_, ?_⟩)⟩
  · refine TizcordPacket.request_dmMessage ?_ ?_ <;>
      simp (disch := decide) [Process.basePacket, createBasePacket, TizcordPacket.type,
        TizcordPacket.dmAction, TizcordPacket.setType, TizcordPacket.setTimestamp,
        TizcordPacket.setDmAction, TizcordPacket.setListId, TizcordPacket.setListIndex,
        TizcordPacket.setListFrame, TizcordPacket.setSenderId, TizcordPacket.setDmRecipientId,
        TizcordPacket.setDmMessageId, TizcordPacket.strncpyDmMessage, signed_code]
    rfl
  · simp (disch := decide) [TizcordPacket.dmRecipientId, TizcordPacket.setDmRecipientId,
      TizcordPacket.setDmMessageId, TizcordPacket.setTimestamp, TizcordPacket.strncpyDmMessage,
      same32]
  · split <;> simp (disch := decide) [TizcordPacket.senderId, TizcordPacket.setSenderId,
      TizcordPacket.setDmRecipientId, TizcordPacket.setDmMessageId, TizcordPacket.setTimestamp,
      TizcordPacket.strncpyDmMessage, same64]
  · rw [content]
    refine Image.text_of_slice _ [] (by decide) (Image.slice_strncpy_same _ _ _ _ (by decide) ?_)
    simp (disch := decide) [Process.basePacket, createBasePacket, TizcordPacket.setType,
      TizcordPacket.setTimestamp, TizcordPacket.setDmAction, TizcordPacket.setListId,
      TizcordPacket.setListIndex, TizcordPacket.setListFrame, TizcordPacket.setSenderId,
      TizcordPacket.setDmRecipientId, TizcordPacket.setDmMessageId]
  · rw [time]
    simp (disch := decide) [TizcordPacket.timestamp, TizcordPacket.setTimestamp,
      TizcordPacket.strncpyDmMessage]

/-- The packets of a direct-message history are of the two users it was asked for. -/
theorem directMessageHistory_takes (env : Env) (packet : TizcordPacket) (own : Int)
    (node : ClientNode) (process : Process) :
    Takes Process.ctx Process.trace
      (SendsOnly (OfDmHistory process.ctx.db node.id packet.dmRecipientId)) process
      (directMessageHistory env packet own (some node) process) := by
  have same32 : signed 32 packet.dmRecipientId = packet.dmRecipientId := by
    rw [TizcordPacket.dmRecipientId, Image.int32, signed_signed]
  have same64 : signed 64 packet.dmRecipientId = packet.dmRecipientId := by
    rw [TizcordPacket.dmRecipientId, Image.int32]
    generalize packet.word 40 4 = word
    have lower := Int.le_bmod (x := word) (m := 2 ^ 32) (by decide)
    have upper := Int.bmod_lt (x := word) (m := 2 ^ 32) (by decide)
    exact signed_of_bounds (by rw [signed]; omega) (by rw [signed]; omega)
  unfold directMessageHistory
  dsimp only
  generalize packet.dmRecipientId = friendId at same32 same64 ⊢
  have opened : Takes Process.ctx Process.trace
      (SendsOnly (OfDmHistory process.ctx.db node.id friendId)) process
      (process.send env own (dmFramePacket env process friendId .start)) :=
    send_takes env own process (dmFramePacket_ofDmHistory env process _ _ same32 (Or.inl rfl))
  have sameDb : (process.send env own (dmFramePacket env process friendId .start)).ctx.db =
      process.ctx.db := rfl
  generalize process.send env own (dmFramePacket env process friendId .start) = middle
    at opened sameDb ⊢
  refine history_takes env own process middle _ _
    (fun other => dmFramePacket env other friendId .end) opened
    (fun other item member index _ => ?_)
    fun other => dmFramePacket_ofDmHistory env other _ _ same32 (Or.inr rfl)
  refine directMessageHistoryCb_takes env own node.id _ process.ctx.db other same32 same64 ?_
  rw [← sameDb]
  exact mem_directMessages_of_mem member

theorem processClientPacket_directMessageHistory (env : Env) (index : Nat) (process : Process)
    (asked : packet.request = some (.dm .historyRequest)) :
    processClientPacket env index packet process =
      directMessageHistory env (stampDirectMessage (senderNode process.ctx
          (process.clientAt index).socketFd) packet) (process.clientAt index).socketFd
        (senderNode process.ctx (process.clientAt index).socketFd)
        (process.log (.handling (process.clientAt index).socketFd packet
          (process.ctx.userOf (process.clientAt index).socketFd))) := by
  obtain ⟨type, acted⟩ := TizcordPacket.request_dm asked
  rw [processClientPacket, type, handlePacket, handleChatPacket, type, handleChatType,
    handlePrivateMessage, (stampDirectMessage_same packet [] _).1, acted, handleDmAction]
  rfl

/-- Every packet sent for a request for a direct-message history is of this history. -/
theorem copy_of_directMessageHistory (asked : packet.request = some (.dm .historyRequest))
    (sent : Sends env index packet process fd copy) :
    ∃ node, senderNode process.ctx (process.clientAt index).socketFd = some node ∧
      OfDmHistory process.ctx.db node.id packet.dmRecipientId copy := by
  have handled := processClientPacket_directMessageHistory env index process asked
  cases found : senderNode process.ctx (process.clientAt index).socketFd with
  | none =>
    rw [found, directMessageHistory] at handled
    obtain ⟨status, user, member⟩ := sent.of_gain handled (List.append_nil _).symm
    cases member
  | some node =>
    rw [found] at handled
    obtain ⟨gain, logged, ofHistory⟩ := trace_of_sendsOnly (directMessageHistory_takes env
      (stampDirectMessage (some node) packet) (process.clientAt index).socketFd node
      (process.log (.handling (process.clientAt index).socketFd packet
        (process.ctx.userOf (process.clientAt index).socketFd))))
    obtain ⟨status, user, member⟩ := sent.of_gain handled logged
    rw [(stampDirectMessage_same packet [] _).2.1] at ofHistory
    exact ⟨node, rfl, ofHistory fd copy status user member⟩

/-! ### What a copy has in common with the packet -/

/-- Stamping a channel message leaves its frame mark as it was, and a message it stays. -/
theorem stampChannelMessage_frame (packet : TizcordPacket) (sender : Option ClientNode) :
    (stampChannelMessage sender packet).listFrame = packet.listFrame := by
  cases sender with
  | none => rfl
  | some node =>
    exact (Image.int32_strncpy_disjoint _ _ _ _ _ (by decide)).trans
      (Image.int32_putInt64_disjoint _ _ _ _ (by decide))

theorem stampDirectMessage_frame (packet : TizcordPacket) (sender : Option ClientNode) :
    (stampDirectMessage sender packet).listFrame = packet.listFrame := by
  cases sender with
  | none => rfl
  | some node => exact Image.int32_putInt64_disjoint _ _ _ _ (by decide)

theorem stampChannelMessage_request (packet : TizcordPacket) (sender : Option ClientNode)
    (asked : packet.request = some (.channel .message)) :
    (stampChannelMessage sender packet).request = some (.channel .message) := by
  obtain ⟨type, acted⟩ := TizcordPacket.request_channel asked
  cases sender with
  | none => exact asked
  | some node =>
    have sameType : (stampChannelMessage (some node) packet).type = packet.type :=
      (Image.int32_strncpy_disjoint _ _ _ _ _ (by decide)).trans
        (Image.int32_putInt64_disjoint _ _ _ _ (by decide))
    have sameAction : (stampChannelMessage (some node) packet).channelAction =
        packet.channelAction :=
      (Image.int32_strncpy_disjoint _ _ _ _ _ (by decide)).trans
        (Image.int32_putInt64_disjoint _ _ _ _ (by decide))
    rw [← sameType] at type
    rw [TizcordPacket.request_of_type type, TizcordPacket.requestOfType, sameAction, acted]
    rfl

theorem stampDirectMessage_request (packet : TizcordPacket) (sender : Option ClientNode)
    (asked : packet.request = some (.dm .message)) :
    (stampDirectMessage sender packet).request = some (.dm .message) := by
  obtain ⟨type, acted⟩ := TizcordPacket.request_dm asked
  have sameType : (stampDirectMessage sender packet).type = packet.type := by
    cases sender with
    | none => rfl
    | some node => exact Image.int32_putInt64_disjoint _ _ _ _ (by decide)
  rw [← sameType] at type
  rw [TizcordPacket.request_of_type type, TizcordPacket.requestOfType,
    (stampDirectMessage_same packet [] sender).1, acted]
  rfl

end Copies

end Tizcord
