/-
This file is about long conversations. A view has a fixed number of places, and a
message that finds none is dropped: what is held are the first messages since the
view was opened, not the last ones.
-/

import Tizcord.Client.Views

namespace Tizcord

open CModel

/-! ### What is filed in a view -/

/-- The packet is a message of a history or a live one, and not a frame. -/
def IsRow (packet : TizcordPacket) : Prop :=
  IsMessage packet ∧ ListFrameType.start.marks packet = false ∧
    ListFrameType.end.marks packet = false

/-- ENTER sends a direct message to the friend with a certain index. -/
structure SendsDm (ui : Ui) (index : Fin maxFriends) : Prop where
  screen : ui.currentScreen = .dms
  selected : ui.activeDmFriend = some index
  typed : 0 < ui.dmInput.length

/-- What the client takes in files a message in a view, as far as there is room. -/
def UiEvent.Files (view : View) (ui : Ui) : UiEvent → Prop
  | .packet taken => IsRow taken ∧ messageView taken ui = some view
  | .key .enter => ∃ index, view = .friend index ∧ SendsDm ui index
  | .key _ => False

/-- The message the client shows of what its user sends; without a user it has no name. -/
def sentMessage (now : Int) (ui : Ui) : Message :=
  match ui.currentUser with
  | some user => ownMessage now ui user
  | none => ⟨Text.empty, storedBody ui.dmInput.text, now⟩

/-- The messages that are received and sent for a view since the last START frame for it, in a run
of the client in which the view stays the same one: no list puts another in its place. -/
inductive Filed (view : View) : List Message → Ui → Prop where
  | start {events : List UiEvent} {before after : Ui} {now : Int} {packet : TizcordPacket}
      (steps : Steps UiStep Ui.start events before) (message : IsMessage packet)
      (opens : ListFrameType.start.marks packet = true) (place : messageView packet before = some view)
      (processed : processNetworkPacket now packet before = .ok after) : Filed view [] after
  | received {messages : List Message} {before after : Ui} {now : Int} {packet : TizcordPacket}
      (filed : Filed view messages before) (row : IsRow packet)
      (place : messageView packet before = some view)
      (processed : processNetworkPacket now packet before = .ok after) :
      Filed view (messages ++ [filedMessage packet before view]) after
  | sent {messages : List Message} {before after : Ui} {now : Int} {index : Fin maxFriends}
      (filed : Filed view messages before) (place : view = .friend index)
      (sends : SendsDm before index) (handled : handleKey now .enter before = .ok after) :
      Filed view (messages ++ [sentMessage now before]) after
  | other {messages : List Message} {before after : Ui} {events : List UiEvent}
      (filed : Filed view messages before) (step : UiStep before events after)
      (elsewhere : ∀ event ∈ events, ¬ event.Files view before)
      (same : after.view view = before.view view) : Filed view messages after

section Filed

variable {now : Int} {packet : TizcordPacket} {ui after : Ui} {view : View}
  {messages : List Message}

theorem view_of_message (message : IsMessage packet) (place : messageView packet ui = some view)
    (processed : processNetworkPacket now packet ui = .ok after) :
    after.view view = receiveMessage packet (filedMessage packet ui view) (ui.view view) := by
  obtain ⟨other, same, views⟩ : ∃ other, processNetworkPacket now packet ui = .ok other ∧
      ∀ place, other.view place = if place = view then
        receiveMessage packet (filedMessage packet ui view) (ui.view place)
      else ui.view place := processMessage_of_some message place
  obtain rfl := Except.ok.inj (processed.symm.trans same)
  rw [views, if_pos rfl]

/-- What a row does to the view it is filed in. -/
theorem view_of_row (row : IsRow packet) (place : messageView packet ui = some view)
    (processed : processNetworkPacket now packet ui = .ok after) :
    after.view view = (ui.view view).file fun _ => filedMessage packet ui view := by
  rw [view_of_message row.1 place processed, receiveMessage, row.2.1, row.2.2]
  rfl

theorem view_of_start (message : IsMessage packet) (opens : ListFrameType.start.marks packet = true)
    (place : messageView packet ui = some view)
    (processed : processNetworkPacket now packet ui = .ok after) :
    after.view view = (ui.view view).clear := by
  rw [view_of_message message place processed, receiveMessage, if_pos opens]

/-- What sending a direct message does to the view of the friend. -/
theorem view_of_sent {index : Fin maxFriends} (sends : SendsDm ui index)
    (handled : handleKey now .enter ui = .ok after) :
    after.view (.friend index) =
      (ui.view (.friend index)).file fun _ => sentMessage now ui := by
  rw [handleKey, sends.screen] at handled
  dsimp only at handled
  unfold handleDmsInput at handled
  rw [sends.selected] at handled
  dsimp only at handled
  rw [submitDm, if_pos sends.typed] at handled
  obtain ⟨middle, filed, handled⟩ := bind_eq_ok handled
  obtain rfl := Except.ok.inj handled
  unfold fileOwnMessage at filed
  simp only [Client.sendDmMessage, safeSendPacket_friends] at filed
  split at filed
  · obtain ⟨user, signed, filed⟩ := bind_eq_ok filed
    obtain rfl := Except.ok.inj filed
    rw [anyUser_eq_ok, safeSendPacket_currentUser] at signed
    rw [sentMessage, signed]
    simp [Ui.view, Ui.modifyFriend, ownMessage]
  · rename_i full
    obtain rfl := Except.ok.inj filed
    refine Eq.trans ?_ (SlotArray.file_of_full full).symm
    dsimp only [Ui.view]
    rw [safeSendPacket_friends]

/-- A view holds the first messages for it, as many as it has room for. -/
theorem Filed.entries (filed : Filed view messages ui) :
    (ui.view view).entries = messages.take maxMessages := by
  have cut : ∀ (messages : List Message) (message : Message) (held : Messages),
      held.entries = messages.take maxMessages →
        (held.file fun _ => message).entries = (messages ++ [message]).take maxMessages := by
    intro messages message held is
    rw [SlotArray.entries_file_const, is, List.take_append, List.take_append, List.take_take,
      min_self, List.length_take]
    congr 2
    omega
  induction filed with
  | start _ message opens place processed =>
    rw [view_of_start message opens place processed]
    rfl
  | received _ row place processed inductionHypothesis =>
    rw [view_of_row row place processed]
    exact cut _ _ _ inductionHypothesis
  | sent _ place sends handled inductionHypothesis =>
    subst place
    rw [view_of_sent sends handled]
    exact cut _ _ _ inductionHypothesis
  | other _ _ _ same inductionHypothesis =>
    rw [same]
    exact inductionHypothesis

end Filed

/-! ### Long conversations -/

/-- Writing to a channel opens and closes none. -/
theorem openChannel_modifyChannel (ui : Ui) (server : Fin uiMaxServers)
    (channel : Fin uiMaxChannels) (write : UIChannel → UIChannel) :
    (ui.modifyChannel server channel write).openChannel = ui.openChannel := by
  have channels : ∀ other, ((ui.modifyChannel server channel write).servers.slot other).channels.count =
      (ui.servers.slot other).channels.count := by
    intro other
    by_cases same : other = server
    · subst same
      simp [Ui.modifyChannel, Ui.modifyServer]
    · simp [Ui.modifyChannel, Ui.modifyServer, SlotArray.slot_modify_ne _ _ same]
  simp only [Ui.openChannel, SlotArray.inUse, channels]
  rfl

/-- A message leaves the channel open in which it is filed. -/
theorem openChannel_of_channelMessage (packet : TizcordPacket) (ui : Ui) :
    (uiReceiveChannelMessage packet ui).openChannel = ui.openChannel := by
  unfold uiReceiveChannelMessage
  split
  · rfl
  · exact openChannel_modifyChannel ui _ _ _

/-- In the open channel as many rows can be received as the server likes to send. -/
theorem Filed.repeated {server : Fin uiMaxServers} {channel : Fin uiMaxChannels}
    {messages : List Message} {ui : Ui} {packet : TizcordPacket}
    (filed : Filed (.channel server channel) messages ui)
    (opened : ui.openChannel = some (server, channel))
    (asked : packet.request = some (.channel .message)) (row : IsRow packet) (number : Nat) :
    ∃ after, Filed (.channel server channel)
        (messages ++ List.replicate number (channelMessageOf packet)) after ∧
      after.openChannel = some (server, channel) := by
  induction number with
  | zero => exact ⟨ui, by simpa using filed, opened⟩
  | succ number inductionHypothesis =>
    obtain ⟨middle, filedSoFar, stillOpen⟩ := inductionHypothesis
    have place : messageView packet middle = some (.channel server channel) := by
      rw [messageView, asked, messageViewOf, stillOpen]
      rfl
    have processed : processNetworkPacket 0 packet middle =
        .ok (uiReceiveChannelMessage packet middle) := processNetworkPacket_channelMessage asked
    have received := filedSoFar.received row place processed
    refine ⟨uiReceiveChannelMessage packet middle, ?_,
      (openChannel_of_channelMessage packet middle).trans stillOpen⟩
    rw [List.replicate_succ', ← List.append_assoc]
    exact received

/-- A message with another text. -/
def otherPacket : TizcordPacket :=
  (channelPacket .single).strncpyChannelMessage Text.letterC

/-- A client whose channel was opened with a START frame, with nothing received yet. -/
theorem filed_start : ∃ ui, Filed (.channel 0 0) [] ui ∧ ui.openChannel = some (0, 0) := by
  obtain ⟨ui, ran, place, -⟩ := chatRounds_run
  obtain ⟨events, steps⟩ := runUi_steps ran
  have asked : (channelPacket .start).request = some (.channel .message) := by decide +kernel
  have processed : processNetworkPacket 0 (channelPacket .start) ui =
      .ok (uiReceiveChannelMessage (channelPacket .start) ui) :=
    processNetworkPacket_channelMessage asked
  refine ⟨_, .start steps (Or.inl asked) (by decide +kernel) place processed, ?_⟩
  rw [openChannel_of_channelMessage]
  rw [messageView, asked, messageViewOf] at place
  obtain ⟨⟨server, channel⟩, opened, is⟩ := Option.map_eq_some_iff.mp place
  cases is
  exact opened

/-- After a number of equal messages, another one. -/
theorem filed_long (number : Nat) : ∃ ui, Filed (.channel 0 0)
    (List.replicate number (channelMessageOf (channelPacket .single)) ++
      [channelMessageOf otherPacket]) ui := by
  obtain ⟨ui, filed, opened⟩ := filed_start
  have first : (channelPacket .single).request = some (.channel .message) := by decide +kernel
  have second : otherPacket.request = some (.channel .message) := by decide +kernel
  obtain ⟨middle, filedSoFar, stillOpen⟩ := filed.repeated opened first
    ⟨Or.inl first, by decide +kernel, by decide +kernel⟩ number
  obtain ⟨after, filedAll, -⟩ := filedSoFar.repeated stillOpen second
    ⟨Or.inl second, by decide +kernel, by decide +kernel⟩ 1
  exact ⟨after, by simpa using filedAll⟩

/-- Where more messages come than there is room for, the last one is not held. -/
theorem newest_lost {number : Nat} (many : maxMessages < number) :
    ∃ messages ui, Filed (.channel 0 0) messages ui ∧ messages.length = number ∧
      (ui.view (.channel 0 0)).entries ≠ messages.drop (number - maxMessages) := by
  obtain ⟨ui, filed⟩ := filed_long (number - 1)
  refine ⟨_, ui, filed, ?_, ?_⟩
  · rw [List.length_append, List.length_replicate, List.length_singleton]
    omega
  · rw [filed.entries]
    intro same
    have held : (List.replicate (number - 1) (channelMessageOf (channelPacket .single)) ++
        [channelMessageOf otherPacket]).take maxMessages =
          List.replicate maxMessages (channelMessageOf (channelPacket .single)) := by
      rw [List.take_append_of_le_length (by rw [List.length_replicate]; omega),
        List.take_replicate, Nat.min_eq_left (by omega)]
    have newest : channelMessageOf otherPacket ∈
        (List.replicate (number - 1) (channelMessageOf (channelPacket .single)) ++
          [channelMessageOf otherPacket]).drop (number - maxMessages) := by
      have room : 0 < maxMessages := by decide
      rw [List.drop_append_of_le_length (by rw [List.length_replicate]; omega)]
      exact List.mem_append_right _ List.mem_cons_self
    rw [← same, held] at newest
    exact absurd (List.eq_of_mem_replicate newest) (by decide +kernel)

/-- Of sixty-five messages the last one is missing. -/
theorem newest_lost_sixtyFifth : ∃ messages ui, Filed (.channel 0 0) messages ui ∧
    messages.length = 65 ∧ (ui.view (.channel 0 0)).entries ≠ messages.drop 1 :=
  newest_lost (by decide)

/-- A view holds the last messages for it, as many as it has room for, in every run exactly when
not more were sent and received since the view was opened than it has room for. -/
theorem newest_kept_iff (number : Nat) :
    (∀ (view : View) (messages : List Message) (ui : Ui), Filed view messages ui →
        messages.length = number →
        (ui.view view).entries = messages.drop (number - maxMessages)) ↔
      number ≤ maxMessages := by
  constructor
  · intro newest
    by_contra many
    obtain ⟨messages, ui, filed, length, lost⟩ := newest_lost (Nat.not_le.mp many)
    exact lost (newest _ messages ui filed length)
  · rintro few view messages ui filed rfl
    rw [filed.entries, List.take_of_length_le few, Nat.sub_eq_zero_of_le few]
    rfl

end Tizcord
