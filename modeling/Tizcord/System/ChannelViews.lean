/-
This file is about the channel that a message is shown in. The server sends every
channel message to every client, and a client files it in the channel that is
open, so a message is where it was sent to only as long as no message of another
channel arrives.
-/

import Tizcord.Client.Views
import Tizcord.Server.Messages
import Tizcord.Server.Origins

namespace Tizcord

open CModel

/-! ### Messages on their way -/

/-- The packet shows a channel message, and is no frame of a stream. -/
structure ShowsMessage (packet : TizcordPacket) : Prop where
  request : packet.request = some (.channel .message)
  notStart : packet.listFrame ≠ ListFrameType.start.code
  notEnd : packet.listFrame ≠ ListFrameType.end.code

/-- The packet shows a message that some connection has sent to the channel. -/
structure SentTo (trace : List Effect) (channelId : Int) (packet : TizcordPacket) : Prop where
  channel : packet.channelChannelId = channelId
  origin : ∃ fd asked user, .handling fd asked user ∈ trace ∧
    asked.request = some (.channel .message) ∧ asked.channelChannelId = channelId ∧
    storedBody (packet.channelMessage []) = storedBody (asked.channelMessage [])

/-- The packets sent to a descriptor, in order. -/
def packetsTo (fd : Int) (trace : List Effect) : List TizcordPacket :=
  trace.filterMap fun effect =>
    match effect with
    | .sent target copy _ _ => if target = fd then some copy else none
    | _ => none

theorem mem_packetsTo {fd : Int} {trace : List Effect} {packet : TizcordPacket} :
    packet ∈ packetsTo fd trace ↔ ∃ status user, .sent fd packet status user ∈ trace := by
  rw [packetsTo, List.mem_filterMap]
  constructor
  · rintro ⟨effect, member, is⟩
    cases effect with
    | sent target copy status user =>
      dsimp only at is
      split at is
      · next same =>
        obtain rfl := Option.some.inj is
        exact ⟨status, user, same ▸ member⟩
      · cases is
    | _ => cases is
  · rintro ⟨status, user, member⟩
    exact ⟨_, member, if_pos rfl⟩

instance (packet : TizcordPacket) : Decidable (ShowsMessage packet) :=
  decidable_of_iff (packet.request = some (.channel .message) ∧
      packet.listFrame ≠ ListFrameType.start.code ∧ packet.listFrame ≠ ListFrameType.end.code)
    ⟨fun ⟨request, notStart, notEnd⟩ => ⟨request, notStart, notEnd⟩,
      fun shows => ⟨shows.request, shows.notStart, shows.notEnd⟩⟩

section Server

variable {env : Env} {allowed : ServerContext → Int → TizcordPacket → Prop} {serverFd : Int}
  {machine : Machine}

/-- What is stored of a message of a channel is what some connection has sent to it. -/
theorem ReachableWhen.stored_sent (reachable : ReachableWhen env allowed serverFd machine)
    {row : MessageRow} (stored : row ∈ machine.loop.process.ctx.db.messages) :
    ∃ fd asked user, .handling fd asked user ∈ machine.loop.process.trace ∧
      asked.request = some (.channel .message) ∧ asked.channelChannelId = row.channelId ∧
      ∃ beyond, row.content = asked.channelMessage beyond := by
  have present := machine.loop.process.ctx.db.integrity.messages_channel row stored
  have saved : (row.userId, row.content) ∈
      savedMessages row.channelId machine.loop.process.trace := by
    rw [← reachable.storedMessages present]
    exact List.mem_map.mpr ⟨row, List.mem_filter.mpr ⟨stored, decide_eq_true rfl⟩, rfl⟩
  obtain ⟨loop, readSet, index, packet, handled, gained, grown⟩ :=
    reachable.origin (show Effect.Requested (.called _) from trivial)
      (called_of_mem_savedMessages saved)
  obtain ⟨ctx, -, channel, content, asked⟩ := permitted_of_gain gained
  obtain ⟨user, member⟩ := handled.handling
  exact ⟨_, packet, user, grown.subset member, asked, channel.symm, _, content⟩

/-- A channel message that is sent to a client was sent to its channel. -/
theorem ReachableWhen.sentTo (reachable : ReachableWhen env allowed serverFd machine) {fd status : Int}
    {copy : TizcordPacket} {user : Option Int}
    (sent : .sent fd copy status user ∈ machine.loop.process.trace) (shows : ShowsMessage copy) :
    SentTo machine.loop.process.trace copy.channelChannelId copy := by
  have message : IsMessage copy := Or.inl shows.request
  obtain ⟨loop, readSet, index, packet, handled, gained, grown⟩ :=
    reachable.origin (show Effect.Requested (.sent _ _ _ _) from message) sent
  have sends : Sends env index packet (receiveClient index loop).1.process fd copy :=
    ⟨status, user, gained⟩
  have noDm : copy.request ≠ some (.dm .message) := by
    rw [shows.request]
    exact nofun
  rcases request_of_message sends message with (asked | asked) | asked | asked
  · obtain ⟨user, member⟩ := handled.handling
    rw [copy_of_channelMessage asked sends]
    obtain ⟨channel, content⟩ := stampChannelMessage_same packet [] (senderNode
      (receiveClient index loop).1.process.ctx
      ((receiveClient index loop).1.process.clientAt index).socketFd)
    exact ⟨rfl, _, packet, user, grown.subset member, asked, channel.symm, by rw [content]⟩
  · rw [(copy_of_directMessage asked sends).1] at noDm
    exact absurd (stampDirectMessage_request _ _ asked) noDm
  · rcases copy_of_channelHistory asked sends with start | ends | ⟨channel, row, stored, own, text⟩
    · exact absurd start shows.notStart
    · exact absurd ends shows.notEnd
    · obtain ⟨origin, sender, user, member, request, sentTo, beyond, content⟩ :=
        handled.reachable.stored_sent stored
      have grows : loop.process.trace <+: (serviceClient env readSet index loop).1.process.trace :=
        serviceClient_trace_grows handled.inside
      have early := grows.subset member
      refine ⟨rfl, origin, sender, user, grown.subset early, request, ?_, ?_⟩
      · rw [sentTo, own, channel]
      · have cut : (row.content.take (messageLen - 1)).take (maxMsgLen - 1) =
            row.content.take (maxMsgLen - 1) := by
          refine Text.ext ?_
          exact (List.take_take ..).trans rfl
        rw [storedBody, storedBody, text, cut, content, TizcordPacket.channelMessage,
          Image.take_text _ _ (by decide), TizcordPacket.channelMessage,
          Image.take_text _ _ (by decide)]
  · obtain ⟨node, -, ofHistory⟩ := copy_of_directMessageHistory asked sends
    exact absurd ofHistory.request noDm

end Server

/-! ### Messages in their channels -/

/-- The packets among what a client takes in, in order. -/
def packetsOf (events : List UiEvent) : List TizcordPacket :=
  events.filterMap fun event =>
    match event with
    | .packet packet => some packet
    | .key _ => none

/-- Every message of the channel came in a packet of the channel. -/
def UIChannel.ShowsOwn (received : List TizcordPacket) (channel : UIChannel) : Prop :=
  ∀ message ∈ channel.messages.entries, ∃ packet ∈ received,
    ShowsMessage packet ∧ packet.channelChannelId = channel.id ∧ message = channelMessageOf packet

def UIServer.ShowsOwn (received : List TizcordPacket) (server : UIServer) : Prop :=
  ∀ index, (server.channels.slot index).ShowsOwn received

def Ui.ShowsOwn (received : List TizcordPacket) (ui : Ui) : Prop :=
  ∀ index, (ui.servers.slot index).ShowsOwn received

/-- When the packet shows a channel message and there is room for it, the open channel is the one
it was sent to. -/
def InOpenChannel (ui : Ui) (packet : TizcordPacket) : Prop :=
  ShowsMessage packet → ∀ server index, ui.openChannel = some (server, index) →
    (ui.view (.channel server index)).count < maxMessages →
    ((ui.servers.slot server).channels.slot index).id = packet.channelChannelId

instance (ui : Ui) (packet : TizcordPacket) : Decidable (InOpenChannel ui packet) :=
  inferInstanceAs (Decidable (ShowsMessage packet → ∀ server index,
    ui.openChannel = some (server, index) →
    (ui.view (.channel server index)).count < maxMessages →
    ((ui.servers.slot server).channels.slot index).id = packet.channelChannelId))

section Client

variable {received : List TizcordPacket} {packet : TizcordPacket} {ui after : Ui}

theorem UIChannel.ShowsOwn.mono {channel : UIChannel} {more : List TizcordPacket}
    (shows : channel.ShowsOwn received) (grown : received ⊆ more) : channel.ShowsOwn more := by
  intro message member
  obtain ⟨packet, present, rest⟩ := shows message member
  exact ⟨packet, grown present, rest⟩

theorem Ui.ShowsOwn.mono {more : List TizcordPacket} (shows : ui.ShowsOwn received)
    (grown : received ⊆ more) : ui.ShowsOwn more :=
  fun server index => (shows server index).mono grown

theorem showsOwn_modify_channels {servers : SlotArray UIServer uiMaxServers}
    (shows : ∀ index, (servers.slot index).ShowsOwn received) (place : Fin uiMaxServers)
    (write : SlotArray UIChannel uiMaxChannels → SlotArray UIChannel uiMaxChannels)
    (written : ∀ index,
      ((write (servers.slot place).channels).slot index).ShowsOwn received)
    (index : Fin uiMaxServers) :
    ((servers.modify place fun entry =>
      { entry with channels := write entry.channels }).slot index).ShowsOwn received := by
  refine SlotArray.forall_slot_modify shows (fun _ => ?_) index
  exact written

theorem listedChannel_showsOwn (packet : TizcordPacket) (channel : UIChannel) :
    (listedChannel packet channel).ShowsOwn received := by
  intro message member
  unfold listedChannel at member
  dsimp only at member
  rw [SlotArray.entries_clear] at member
  cases member

/-- A new row of a list of channels is written over the messages, too. -/
theorem fileChannel_showsOwn {channels : SlotArray UIChannel uiMaxChannels}
    (shows : ∀ index, (channels.slot index).ShowsOwn received) (index : Fin uiMaxChannels) :
    ((fileChannel packet channels).slot index).ShowsOwn received := by
  have written : ∀ channel, channel.ShowsOwn received →
      (listedChannel packet channel).ShowsOwn received :=
    fun channel _ => listedChannel_showsOwn packet channel
  have cleared : ∀ index, (channels.clear.slot index).ShowsOwn received := shows
  rcases fileChannel_cases packet channels with is | is | is | is <;> rw [is]
  · exact shows index
  · exact cleared index
  · exact SlotArray.forall_slot_file shows written index
  · exact SlotArray.forall_slot_file cleared written index

theorem listedServer_showsOwn (packet : TizcordPacket) :
    (listedServer packet).ShowsOwn received := by
  intro place message member
  unfold listedServer UIServer.zero at member
  dsimp only at member
  cases member

/-- A new row of a list of servers has no channels yet. -/
theorem fileServer_showsOwn {servers : SlotArray UIServer uiMaxServers}
    (shows : ∀ index, (servers.slot index).ShowsOwn received) (index : Fin uiMaxServers) :
    ((fileServer packet servers).slot index).ShowsOwn received := by
  have written : ∀ server : UIServer, server.ShowsOwn received →
      (listedServer packet).ShowsOwn received :=
    fun _ _ => listedServer_showsOwn packet
  have cleared : ∀ index, (servers.clear.slot index).ShowsOwn received := shows
  rcases fileServer_cases packet servers with is | is | is | is <;> rw [is]
  · exact shows index
  · exact cleared index
  · exact SlotArray.forall_slot_file shows written index
  · exact SlotArray.forall_slot_file cleared written index

/-- A message that is filed in the channel it was sent to is where it belongs. -/
theorem receiveMessage_showsOwn {channel : UIChannel} (shows : channel.ShowsOwn received)
    (asked : packet.request = some (.channel .message))
    (own : ShowsMessage packet → channel.messages.count < maxMessages →
      channel.id = packet.channelChannelId) :
    ({ channel with
      messages := receiveMessage packet (channelMessageOf packet) channel.messages } :
        UIChannel).ShowsOwn (received ++ [packet]) := by
  have kept := shows.mono (List.subset_append_left received [packet])
  unfold receiveMessage
  intro message member
  dsimp only at member ⊢
  split at member
  · exact absurd member List.not_mem_nil
  · next notStart =>
    split at member
    · exact kept message member
    · next notEnd =>
      have showsMessage : ShowsMessage packet :=
        ⟨asked, fun start => notStart (ListFrameType.marks_iff.mpr start),
          fun ends => notEnd (ListFrameType.marks_iff.mpr ends)⟩
      by_cases room : channel.messages.count < maxMessages
      · rw [SlotArray.entries_file_of_room room] at member
        rcases List.mem_append.mp member with old | new
        · exact kept message old
        · exact ⟨packet, List.mem_append_right _ List.mem_cons_self, showsMessage,
            (own showsMessage room).symm, List.mem_singleton.mp new⟩
      · rw [SlotArray.file_of_full room] at member
        exact kept message member

theorem uiReceiveChannelMessage_servers {server : Fin uiMaxServers} {channel : Fin uiMaxChannels}
    (opened : ui.openChannel = some (server, channel)) :
    (uiReceiveChannelMessage packet ui).servers = ui.servers.modify server fun entry =>
      { entry with
        channels := entry.channels.modify channel fun view =>
          { view with
            messages := receiveMessage packet (channelMessageOf packet) view.messages } } := by
  rw [uiReceiveChannelMessage, opened]
  rfl

/-- A packet that comes in while its channel is open leaves every message where it belongs. -/
theorem processNetworkPacket_showsOwn {now : Int}
    (processed : processNetworkPacket now packet ui = .ok after)
    (inOpen : InOpenChannel ui packet) (shows : ui.ShowsOwn received) :
    after.ShowsOwn (received ++ [packet]) := by
  have kept := shows.mono (List.subset_append_left received [packet])
  rcases (processNetworkPacket_changes processed).servers with same | changed
  · intro server
    rw [same]
    exact kept server
  · intro server
    generalize after.servers = servers at changed ⊢
    cases changed with
    | signedOut => exact kept server
    | listed => exact fileServer_showsOwn kept server
    | channels place =>
      exact showsOwn_modify_channels kept place (fileChannel packet)
        (fileChannel_showsOwn (kept place)) server
    | members place _ filed =>
      refine SlotArray.forall_slot_modify kept (fun shows index => ?_) server
      rw [fileMember_channels filed]
      exact shows index
    | message place channel opened asked =>
      rw [uiReceiveChannelMessage_servers opened]
      refine showsOwn_modify_channels kept place (fun channels => channels.modify channel _)
        (fun index => ?_) server
      refine SlotArray.forall_slot_modify (kept place) (fun _ => ?_) index
      exact receiveMessage_showsOwn (shows place channel) asked
        fun showsMessage room => inOpen showsMessage place channel opened room

/-- A step of the client that processes a channel message only while its channel is open. -/
def OpenStep (before : Ui) (events : List UiEvent) (after : Ui) : Prop :=
  UiStep before events after ∧ ∀ packet, .packet packet ∈ events → InOpenChannel before packet

theorem OpenStep.showsOwn {past events : List UiEvent} (step : OpenStep ui events after)
    (shows : ui.ShowsOwn (packetsOf past)) : after.ShowsOwn (packetsOf (past ++ events)) := by
  obtain ⟨step, inOpen⟩ := step
  have unchanged : after.servers = ui.servers → packetsOf events = [] →
      after.ShowsOwn (packetsOf (past ++ events)) := by
    intro same silent server
    have none' : packetsOf (past ++ events) = packetsOf past := by
      rw [packetsOf, List.filterMap_append, ← packetsOf, ← packetsOf, silent, List.append_nil]
    rw [none', same]
    exact shows server
  cases step with
  | packet now packet processed =>
    rw [packetsOf, List.filterMap_append]
    exact processNetworkPacket_showsOwn processed (inOpen packet List.mem_cons_self) shows
  | key now key handled =>
    rcases handleKey_cases handled with same | submits
    · exact unchanged same.servers rfl
    · exact unchanged submits.servers rfl
  | draw => exact unchanged (redraw_same ui).servers rfl
  | disconnect => exact unchanged rfl rfl

theorem start_showsOwn : Ui.start.ShowsOwn [] :=
  fun _ _ _ member => absurd member List.not_mem_nil

/-- In a run whose channel messages come in while their channel is open, every message is in the
channel it came with. -/
theorem steps_showsOwn {events : List UiEvent} (steps : Steps OpenStep Ui.start events ui) :
    ui.ShowsOwn (packetsOf events) := by
  exact List.nil_append events ▸ steps.invariant_log (fun ui past => ui.ShowsOwn (packetsOf past))
    (fun step shows => step.showsOwn shows) start_showsOwn

end Client

/-! ### A conversation in two channels -/

/-- A new connection, on which a client sends some packets. -/
def arrival (fd : Int) (packets : List TizcordPacket) : Event :=
  .round ⟨{3}, [.connected fd ⟨packets.flatMap clientBytes, packets.map fun _ => .count 1000⟩]⟩

/-- The packet in which a user registers. -/
def registerAs (username : Text) : TizcordPacket :=
  (Client.authRequest 0 .register).strncpyAuthUsername username

/-- The packet that creates a channel in the server with the id 1. -/
def channelNamed (name : Text) : TizcordPacket :=
  ((Client.channelRequest 0 .create).setChannelServerId 1).strncpyChannelChannelName name

/-- The message `b` to a channel. -/
def messageTo (channelId : Int) : TizcordPacket :=
  ((Client.channelRequest 0 .message).setChannelChannelId channelId).strncpyChannelMessage
    Text.letterB

/-- A user creates a server with two channels and looks at its channels; then another user writes
to a channel. -/
def talkEvents (channelId : Int) : List Event :=
  [arrival 4 [registerAs Text.letterA, createServerPacket, channelNamed Text.letterC,
      channelNamed Text.letterD, Client.serverRequest 0 .list,
      (Client.serverRequest 0 .listChannels).setServerServerId 1],
    arrival 5 [registerAs Text.letterB, messageTo channelId]] ++
    List.replicate 6 (.round ⟨{4}, []⟩) ++ List.replicate 2 (.round ⟨{5}, []⟩)

def talkPackets (channelId : Int) : List TizcordPacket :=
  packetsTo 4 (runServer Env.ideal 3 (talkEvents channelId)).process.trace

/-- The client of the first user takes in what it is sent, and enters the server in between. -/
def talkTaken (channelId : Int) : List UiEvent :=
  ((talkPackets channelId).take 8).map .packet ++
    .key .enter :: ((talkPackets channelId).drop 8).map .packet

theorem packetsOf_packets (packets : List TizcordPacket) :
    packetsOf (packets.map .packet) = packets := by
  rw [packetsOf, List.filterMap_map]
  exact List.filterMap_some

theorem talkTaken_packets (channelId : Int) :
    packetsOf (talkTaken channelId) = talkPackets channelId := by
  rw [talkTaken, packetsOf, List.filterMap_append, List.filterMap_cons, ← packetsOf, ← packetsOf,
    packetsOf_packets, packetsOf_packets]
  exact List.take_append_drop 8 _

/-- What the client of the first user may take in, when the open channel is to be the right one. -/
def inOpenChannel (ui : Ui) : UiEvent → Bool
  | .packet packet => InOpenChannel ui packet
  | .key _ => true

theorem openSteps_of_replay {events : List UiEvent} {ui after : Ui}
    (replayed : replay inOpenChannel events ui = some after) : Steps OpenStep ui events after :=
  (replay_steps replayed).lift Steps.none fun steps step => steps.more
    ⟨step.1, fun packet member => of_decide_eq_true (step.2 (.packet packet) member)⟩

theorem talkTaken_received (channelId : Int) : packetsOf (talkTaken channelId) <:+:
    packetsTo 4 (runServer Env.ideal 3 (talkEvents channelId)).process.trace := by
  rw [talkTaken_packets]
  exact List.infix_rfl

/-! ### Main theorem -/

/-- Every message in a channel of the client came in a packet with a message that was sent to this
channel. -/
def ShownWhereSent (trace : List Effect) (received : List TizcordPacket) (ui : Ui) : Prop :=
  ∀ server index, ∀ message ∈ (ui.view (.channel server index)).entries, ∃ packet ∈ received,
    message = channelMessageOf packet ∧
      SentTo trace ((ui.servers.slot server).channels.slot index).id packet

/-- In every run of the server, a client that processes what it is sent shows every message where
it was sent to, when channel messages come in while their channel is open. -/
theorem shown_where_sent (env : Env) (serverFd : Int) (machine : Machine)
    (reachable : Reachable env serverFd machine) (fd : Int) (events : List UiEvent) (ui : Ui)
    (received : packetsOf events <:+: packetsTo fd machine.loop.process.trace)
    (steps : Steps OpenStep Ui.start events ui) :
    ShownWhereSent machine.loop.process.trace (packetsOf events) ui := by
  intro server index message member
  obtain ⟨packet, present, shows, own, is⟩ := steps_showsOwn steps server index message member
  obtain ⟨status, user, sent⟩ := mem_packetsTo.mp (received.subset present)
  exact ⟨packet, present, is, own ▸ reachable.sentTo sent shows⟩

/-- The message of the other user arrives in the channel that is open, where it was sent to. -/
theorem shown_where_sent_talk : ∃ ui, (ui.view (.channel 0 0)).count = 1 ∧
    ShownWhereSent (runServer Env.ideal 3 (talkEvents 1)).process.trace
      (packetsOf (talkTaken 1)) ui := by
  have shown : (replay inOpenChannel (talkTaken 1) Ui.start).any
      (fun ui => (ui.view (.channel 0 0)).count = 1) = true := by decide +kernel
  obtain ⟨ui, replayed, one⟩ := (Option.any_eq_true _ _).mp shown
  have whereSent := shown_where_sent Env.ideal 3
    ⟨runServer Env.ideal 3 (talkEvents 1), .selecting⟩
    (reachable_runServer Env.ideal 3 (talkEvents 1)) 4 (talkTaken 1) ui
  dsimp only at whereSent
  exact ⟨ui, of_decide_eq_true one,
    whereSent (talkTaken_received 1) (openSteps_of_replay replayed)⟩

/-- A message to one channel is shown in another one, which happens to be open. -/
theorem shown_elsewhere :
    ¬ ∀ (env : Env) (serverFd : Int) (machine : Machine), Reachable env serverFd machine →
      ∀ (fd : Int) (events : List UiEvent) (ui : Ui),
      packetsOf events <:+: packetsTo fd machine.loop.process.trace →
      Steps UiStep Ui.start events ui →
      ShownWhereSent machine.loop.process.trace (packetsOf events) ui := by
  intro claim
  have shown : (replay (fun _ _ => true) (talkTaken 2) Ui.start).any (fun ui =>
      (ui.view (.channel 0 0)).entries.any fun message => (talkPackets 2).all fun packet =>
        message = channelMessageOf packet →
          packet.channelChannelId ≠ ((ui.servers.slot 0).channels.slot 0).id) = true := by
    decide +kernel
  obtain ⟨ui, replayed, found⟩ := (Option.any_eq_true _ _).mp shown
  obtain ⟨message, member, astray⟩ := List.any_eq_true.mp found
  have steps : Steps UiStep Ui.start (talkTaken 2) ui :=
    (replay_steps replayed).lift Steps.none fun steps step => steps.more step.1
  have whereSent := claim Env.ideal 3 ⟨runServer Env.ideal 3 (talkEvents 2), .selecting⟩
    (reachable_runServer Env.ideal 3 (talkEvents 2)) 4 (talkTaken 2) ui
  dsimp only at whereSent
  obtain ⟨packet, present, is, sentTo⟩ :=
    whereSent (talkTaken_received 2) steps 0 0 message member
  rw [talkTaken_packets] at present
  exact of_decide_eq_true (List.all_eq_true.mp astray packet present) is sentTo.channel

end Tizcord
