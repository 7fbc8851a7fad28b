/-
This file is about the messages the client holds: every channel of every server and
every friend has a view of its own, and a message packet changes the view it is
filed in and no other.
-/

import Tizcord.Client.Steps

namespace Tizcord

open CModel

/-! ### Views -/

/-- A place at which the client holds messages. -/
inductive View where
  | channel (server : Fin uiMaxServers) (channel : Fin uiMaxChannels)
  | friend (index : Fin maxFriends)
  deriving DecidableEq

/-- The messages held in a view. -/
def Ui.view (ui : Ui) : View → Messages
  | .channel server channel => ((ui.servers.slot server).channels.slot channel).messages
  | .friend index => (ui.friends.slot index).messages

/-- The view in which the client files the message of a packet with a certain request. -/
def messageViewOf (packet : TizcordPacket) (ui : Ui) : Option Request → Option View
  | some (.channel .message) => ui.openChannel.map fun place => .channel place.1 place.2
  | some (.dm .message) => (dmFriend packet ui).map .friend
  | _ => none

/-- The view in which the client files a message packet. -/
def messageView (packet : TizcordPacket) (ui : Ui) : Option View :=
  messageViewOf packet ui packet.request

/-- The message of the packet, as the client files it in a view. -/
def filedMessage (packet : TizcordPacket) (ui : Ui) : View → Message
  | .channel _ _ => channelMessageOf packet
  | .friend index => dmMessageOf packet ui (ui.friends.slot index)

theorem view_modifyChannel (ui : Ui) (server : Fin uiMaxServers) (channel : Fin uiMaxChannels)
    (write : Messages → Messages) (view : View) :
    (ui.modifyChannel server channel fun entry =>
        { entry with messages := write entry.messages }).view view =
      if view = .channel server channel then write (ui.view view) else ui.view view := by
  cases view with
  | friend index => rfl
  | channel other place =>
    by_cases sameServer : other = server
    · subst sameServer
      by_cases samePlace : place = channel
      · subst samePlace
        rw [if_pos rfl]
        simp [Ui.view, Ui.modifyChannel, Ui.modifyServer]
      · rw [if_neg (by simp [samePlace])]
        simp [Ui.view, Ui.modifyChannel, Ui.modifyServer, SlotArray.slot_modify_ne _ _ samePlace]
    · rw [if_neg (by simp [sameServer])]
      simp [Ui.view, Ui.modifyChannel, Ui.modifyServer, SlotArray.slot_modify_ne _ _ sameServer]

theorem view_modifyFriend (ui : Ui) (index : Fin maxFriends) (write : UIFriend → Messages)
    (view : View) :
    (ui.modifyFriend index fun friend => { friend with messages := write friend }).view view =
      if view = .friend index then write (ui.friends.slot index) else ui.view view := by
  cases view with
  | channel server channel => rfl
  | friend other =>
    by_cases same : other = index
    · subst same
      rw [if_pos rfl]
      simp [Ui.view, Ui.modifyFriend]
    · rw [if_neg (by simp [same])]
      simp [Ui.view, Ui.modifyFriend, SlotArray.slot_modify_ne _ _ same]

/-! ### Message packets -/

section Message

variable {packet : TizcordPacket} {now : Int} {ui : Ui}

theorem processNetworkPacket_channelMessage (asked : packet.request = some (.channel .message)) :
    processNetworkPacket now packet ui = .ok (uiReceiveChannelMessage packet ui) := by
  rw [processNetworkPacket_eq, asked, processRequest, updateChannelState]

theorem processNetworkPacket_directMessage (asked : packet.request = some (.dm .message)) :
    processNetworkPacket now packet ui = .ok (uiReceiveDmMessage packet ui) := by
  rw [processNetworkPacket_eq, asked, processRequest, updateDmState]

/-- A message packet without a view is dropped. -/
theorem processMessage_of_none (message : IsMessage packet) (nowhere : messageView packet ui = none) :
    processNetworkPacket now packet ui = .ok ui := by
  rcases message with asked | asked
  · rw [messageView, asked, messageViewOf] at nowhere
    rw [processNetworkPacket_channelMessage asked, uiReceiveChannelMessage,
      Option.map_eq_none_iff.mp nowhere]
  · rw [messageView, asked, messageViewOf] at nowhere
    rw [processNetworkPacket_directMessage asked, uiReceiveDmMessage,
      Option.map_eq_none_iff.mp nowhere]

/-- A message packet with a view changes that view, and no other. -/
theorem processMessage_of_some (message : IsMessage packet) {target : View}
    (filed : messageView packet ui = some target) :
    ∃ after, processNetworkPacket now packet ui = .ok after ∧ ∀ view, after.view view =
      if view = target then
        receiveMessage packet (filedMessage packet ui target) (ui.view view)
      else ui.view view := by
  rcases message with asked | asked
  · rw [messageView, asked, messageViewOf] at filed
    obtain ⟨⟨server, channel⟩, opened, rfl⟩ := Option.map_eq_some_iff.mp filed
    refine ⟨_, processNetworkPacket_channelMessage asked, fun view => ?_⟩
    rw [uiReceiveChannelMessage, opened]
    exact view_modifyChannel ui server channel _ view
  · rw [messageView, asked, messageViewOf] at filed
    obtain ⟨index, found, rfl⟩ := Option.map_eq_some_iff.mp filed
    refine ⟨_, processNetworkPacket_directMessage asked, fun view => ?_⟩
    rw [uiReceiveDmMessage, found]
    refine (view_modifyFriend ui index _ view).trans ?_
    split
    · next same =>
      subst same
      rfl
    · rfl

end Message

/-! ### Messages that only add -/

/-- A step keeps every message in place, and files at most one more in at most one view. -/
structure OnlyAdds (before after : Ui) : Prop where
  kept : ∀ view, (before.view view).entries <+: (after.view view).entries
  atMostOne : ∀ view, (after.view view).count ≤ (before.view view).count + 1
  inOneView : ∀ view other, (after.view view).entries ≠ (before.view view).entries →
    (after.view other).entries ≠ (before.view other).entries → view = other

theorem OnlyAdds.refl (ui : Ui) : OnlyAdds ui ui where
  kept _ := List.prefix_rfl
  atMostOne _ := Nat.le_succ _
  inOneView _ _ changed := absurd rfl changed

theorem ListFrameType.marks_iff {frame : ListFrameType} {packet : TizcordPacket} :
    frame.marks packet = true ↔ packet.listFrame = frame.code := by
  rw [marks, decide_eq_true_iff]

/-- A packet that does not open a stream, or finds nothing to clear, only adds. -/
theorem receiveMessage_adds {packet : TizcordPacket} {message : Message} {messages : Messages}
    (harmless : packet.listFrame ≠ ListFrameType.start.code ∨ messages.count = 0) :
    messages.entries <+: (receiveMessage packet message messages).entries ∧
      (receiveMessage packet message messages).count ≤ messages.count + 1 := by
  rw [receiveMessage]
  split
  · next opens =>
    have empty := harmless.resolve_left fun other => other (of_decide_eq_true opens)
    have nil : messages.entries = [] :=
      List.eq_nil_of_length_eq_zero (messages.length_entries.trans empty)
    exact ⟨nil ▸ List.nil_prefix, Nat.zero_le _⟩
  · split
    · exact ⟨List.prefix_rfl, Nat.le_succ _⟩
    · exact ⟨SlotArray.entries_prefix_file, SlotArray.count_file_le⟩

/-- What a client does with a message packet only adds to its views, unless the packet claims to
open a stream and there is a message to lose. -/
theorem message_onlyAdds_iff {packet : TizcordPacket} (message : IsMessage packet) (now : Int)
    (ui : Ui) :
    (∃ after, processNetworkPacket now packet ui = .ok after ∧ OnlyAdds ui after) ↔
      packet.listFrame ≠ ListFrameType.start.code ∨
        ∀ view, messageView packet ui = some view → (ui.view view).count = 0 := by
  cases filed : messageView packet ui with
  | none =>
    refine ⟨fun _ => Or.inr fun _ impossible => (nomatch impossible), fun _ => ?_⟩
    exact ⟨ui, processMessage_of_none message filed, OnlyAdds.refl ui⟩
  | some target =>
    obtain ⟨after, processed, views⟩ : ∃ after, processNetworkPacket now packet ui = .ok after ∧
        ∀ view, after.view view = if view = target then
          receiveMessage packet (filedMessage packet ui target) (ui.view view)
        else ui.view view := processMessage_of_some message filed
    constructor
    · rintro ⟨other, same, adds⟩
      obtain rfl := Except.ok.inj (processed.symm.trans same)
      by_cases opens : packet.listFrame = ListFrameType.start.code
      · refine Or.inr fun view is => ?_
        obtain rfl := Option.some.inj is
        have kept := adds.kept target
        rw [views, if_pos rfl, receiveMessage, ListFrameType.marks, if_pos (decide_eq_true opens),
          SlotArray.entries_clear, List.prefix_nil] at kept
        rw [← SlotArray.length_entries, kept]
        rfl
      · exact Or.inl opens
    · intro harmless
      have adds : (ui.view target).entries <+: (receiveMessage packet
            (filedMessage packet ui target) (ui.view target)).entries ∧
          (receiveMessage packet (filedMessage packet ui target) (ui.view target)).count ≤
            (ui.view target).count + 1 :=
        receiveMessage_adds (harmless.imp_right fun empty => empty target rfl)
      refine ⟨after, processed, fun view => ?_, fun view => ?_, fun view other changed moved => ?_⟩
      · rw [views]
        split
        · next same =>
          subst same
          exact adds.1
        · exact List.prefix_rfl
      · rw [views]
        split
        · next same =>
          subst same
          exact adds.2
        · exact Nat.le_succ _
      · rw [views] at changed moved
        have first : view = target := by
          by_contra different
          exact changed (by rw [if_neg different])
        have second : other = target := by
          by_contra different
          exact moved (by rw [if_neg different])
        rw [first, second]

/-! ### Replays -/

/-- What the client does about one thing it takes in. -/
def takeIn (ui : Ui) : UiEvent → Except Fault Ui
  | .packet packet => processNetworkPacket 0 packet ui
  | .key key => handleKey 0 key ui

/-- The state after the client has taken in some things one by one, each of which is allowed. -/
def replay (allowed : Ui → UiEvent → Bool) : List UiEvent → Ui → Option Ui
  | [], ui => some ui
  | event :: rest, ui =>
    if allowed ui event then (takeIn ui event).toOption.bind (replay allowed rest) else none

theorem takeIn_step {ui after : Ui} {event : UiEvent} (taken : takeIn ui event = .ok after) :
    UiStep ui [event] after := by
  cases event with
  | packet packet => exact .packet 0 packet taken
  | key key => exact .key 0 key taken

/-- A replay is some steps of the client, each of them allowed. -/
theorem replay_steps {allowed : Ui → UiEvent → Bool} {events : List UiEvent} {ui after : Ui}
    (replayed : replay allowed events ui = some after) :
    Steps (fun before events after => UiStep before events after ∧
      ∀ event ∈ events, allowed before event = true) ui events after := by
  induction events generalizing ui with
  | nil =>
    obtain rfl := Option.some.inj replayed
    exact .none ui
  | cons event rest inductionHypothesis =>
    rw [replay] at replayed
    split at replayed
    · next permitted =>
      cases taken : takeIn ui event with
      | error fault =>
        rw [taken] at replayed
        cases replayed
      | ok middle =>
        rw [taken] at replayed
        have first : UiStep ui [event] middle ∧
            ∀ other ∈ [event], allowed ui other = true :=
          ⟨takeIn_step taken, fun other member => by
            rw [List.mem_singleton.mp member]
            exact permitted⟩
        exact (Steps.single first).trans (inductionHypothesis replayed)
    · cases replayed

/-! ### A client with a channel open -/

/-- A round in which the client processes a packet. -/
def UiRound.of (packet : TizcordPacket) : UiRound :=
  ⟨some (.received packet), [], 0⟩

/-- A round in which the client handles keys. -/
def UiRound.press (keys : List Key) : UiRound :=
  ⟨none, keys, 0⟩

/-- The keys that type a text. -/
def typeText (text : Text) : List Key :=
  text.bytes.filterMap fun byte =>
    if printable : 32 ≤ byte ∧ byte < 127 then some (.printable ⟨byte, printable⟩) else none

/-- An answer about authentication. -/
def authAnswer (action : AuthAction) (status : ResponseCode) : TizcordPacket :=
  let packet := TizcordPacket.setType Image.zero .auth
  let packet := packet.setAuthAction action.code
  packet.setAuthStatusCode status.code

/-- A list of servers, or of the channels of a server, without an item. -/
def emptyList (action : ServerAction) : TizcordPacket :=
  let packet := TizcordPacket.setType Image.zero .server
  let packet := packet.setListFrame .single
  packet.setServerAction action.code

/-- The only item of such a list, with an id and a number of members. -/
def serverRow (action : ServerAction) (id members : Int) : TizcordPacket :=
  let packet := (emptyList action).setListTotal 1
  let packet := packet.setServerServerId id
  let packet := packet.setServerMemberCount members
  packet.strncpyServerServerName Text.letterB

def onlyItem (action : ServerAction) (id : Int) : TizcordPacket :=
  serverRow action id 1

/-- A message in the channel with the id 1, by a user with the name `a`. -/
def channelPacket (frame : ListFrameType) : TizcordPacket :=
  let packet := TizcordPacket.setType Image.zero .channel
  let packet := packet.setChannelAction ChannelAction.message.code
  let packet := packet.setListFrame frame
  let packet := packet.setChannelChannelId 1
  let packet := packet.strncpyChannelChannelName Text.letterA
  packet.strncpyChannelMessage Text.letterB

/-- A user signs in, enters the only server, opens its only channel, and sees a message. -/
def chatRounds : List UiRound :=
  [.of (authAnswer .login .ok), .of (onlyItem .list 1), .press [.enter],
    .of (onlyItem .listChannels 1), .of (channelPacket .single)]

/-- A state that rounds lead to, with what a test of it shows. -/
theorem reached_of_any {rounds : List UiRound} {wanted : Ui → Prop} [DecidablePred wanted]
    (checked : (runUi rounds Ui.start).toOption.any (fun ui => wanted ui) = true) :
    ∃ ui, runUi rounds Ui.start = .ok ui ∧ wanted ui := by
  cases ran : runUi rounds Ui.start with
  | error fault =>
    rw [ran] at checked
    cases checked
  | ok ui =>
    rw [ran] at checked
    exact ⟨ui, rfl, of_decide_eq_true checked⟩

/-- Such rounds lead to a state in which the channel is open and holds the message. -/
theorem chatRounds_run : ∃ ui, runUi chatRounds Ui.start = .ok ui ∧
    messageView (channelPacket .start) ui = some (.channel 0 0) ∧
    (ui.view (.channel 0 0)).count = 1 :=
  reached_of_any (by decide +kernel)

end Tizcord
