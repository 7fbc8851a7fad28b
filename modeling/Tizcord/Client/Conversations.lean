/-
This file is about whose messages stand under a friend. The client keeps them in
the slots of the friends. A new list of friends is written over the slots one by
one, and the messages in a slot stay, as they do when the user signs out. So
beside every message stands here between whom it was exchanged.
-/

import Tizcord.Client.ArrayBounds
import Tizcord.Client.DirectMessages

namespace Tizcord

open CModel

/-! ### Parties -/

/-- Who has exchanged a message: the user who was signed in then, and the other one. -/
structure Parties where
  own : Int
  other : Int
  deriving DecidableEq

/-- The other party of a message that is sent to a user. In a row of a history the recipient is the
friend also where the friend is the author. -/
def otherParty (packet : TizcordPacket) (user : Int) : Int :=
  if packet.senderId = user then packet.dmRecipientId else packet.senderId

/-- The friend to whom a key sends what is typed. -/
def submitsTo (ui : Ui) : Key → Option (Fin maxFriends)
  | .enter =>
    if ui.currentScreen = .dms ∧ 0 < ui.dmInput.length then ui.activeDmFriend else none
  | _ => none

/-- The client, the user who is signed in, and the parties of the messages in every slot. -/
structure Talk where
  ui : Ui
  user : Int
  parties : Fin maxFriends → List Parties

/-- What the client takes in. With the reply that signs a user in goes who that is. -/
structure TalkEvent where
  event : UiEvent
  user : Int

namespace Talk

variable (talk : Talk)

/-- One message more, as far as there is room. -/
def hold (index : Fin maxFriends) (parties : Parties) : Fin maxFriends → List Parties :=
  Function.update talk.parties index ((talk.parties index ++ [parties]).take maxMessages)

/-- A packet of a message stream does to the parties what it does to the messages. -/
def receive (packet : TizcordPacket) (index : Fin maxFriends) : Fin maxFriends → List Parties :=
  if ListFrameType.start.marks packet then Function.update talk.parties index []
  else if ListFrameType.end.marks packet then talk.parties
  else talk.hold index ⟨talk.user, otherParty packet talk.user⟩

/-- The slot in which a packet files a message. -/
def receivesIn (packet : TizcordPacket) : Option (Fin maxFriends) :=
  if packet.request = some (.dm .message) then dmFriend packet talk.ui else none

/-- The parties after a message is written to a slot, if it is written to one. -/
def writtenTo (write : Fin maxFriends → Fin maxFriends → List Parties) :
    Option (Fin maxFriends) → Fin maxFriends → List Parties
  | none => talk.parties
  | some index => write index

def partiesAfter : UiEvent → Fin maxFriends → List Parties
  | .packet packet => talk.writtenTo (talk.receive packet) (talk.receivesIn packet)
  | .key key =>
    talk.writtenTo (fun index => talk.hold index ⟨talk.user, (talk.ui.friends.slot index).id⟩)
      (submitsTo talk.ui key)

/-- All messages under a listed friend were exchanged between the user who is signed in and this
friend. -/
def Belongs : Prop :=
  ∀ index : Fin maxFriends, index.val < talk.ui.friends.count → ∀ parties ∈ talk.parties index,
    parties = ⟨talk.user, (talk.ui.friends.slot index).id⟩

/-- There are as many parties as messages. -/
def Counted : Prop :=
  ∀ index, (talk.parties index).length = (talk.ui.friends.slot index).messages.count

/-- The steps that leave every message where it belongs. A row of a friend list is written only
over a slot whose messages, if any, the user has exchanged with the friend in the row; a message is
filed only under its other party; and where somebody is signed in anew, it is the same user, unless
no listed friend has messages. -/
structure Allows (events : List TalkEvent) : Prop where
  row : ∀ taken ∈ events, ∀ packet, taken.event = .packet packet →
    packet.request = some (.social .listFriends) → ¬ ListFrameType.start.marks packet = true →
    (ListFrameType.middle.marks packet || ListFrameType.single.marks packet) = true →
    ∀ room : talk.ui.friends.count < maxFriends,
      ∀ parties ∈ talk.parties ⟨talk.ui.friends.count, room⟩,
        parties = ⟨talk.user, packet.socialTargetUserId⟩
  message : ∀ taken ∈ events, ∀ packet, taken.event = .packet packet →
    packet.request = some (.dm .message) → ¬ ListFrameType.start.marks packet = true →
    ¬ ListFrameType.end.marks packet = true → ∀ index, dmFriend packet talk.ui = some index →
      (talk.ui.friends.slot index).messages.count < maxMessages →
        (talk.ui.friends.slot index).id = otherParty packet talk.user
  signIn : ∀ taken ∈ events, signsUserIn taken.event = true →
    ∀ index : Fin maxFriends, index.val < talk.ui.friends.count → talk.parties index ≠ [] →
      taken.user = talk.user

end Talk

/-- A step of the client while users talk. -/
inductive TalkStep (before : Talk) : List TalkEvent → Talk → Prop where
  | takes {after : Talk} (taken : TalkEvent) (step : UiStep before.ui [taken.event] after.ui)
      (user : after.user = if signsUserIn taken.event then taken.user else before.user)
      (parties : after.parties = before.partiesAfter taken.event) : TalkStep before [taken] after
  | idles {after : Talk} (step : UiStep before.ui [] after.ui) (user : after.user = before.user)
      (parties : after.parties = before.parties) : TalkStep before [] after

section Slots

variable {talk : Talk} {now : Int} {packet : TizcordPacket} {ui after : Ui}

/-! ### What happens to the slots -/

/-- What a packet of a friend list does to the slots. -/
theorem friendListed_friends (now : Int) (packet : TizcordPacket) (ui : Ui) :
    (friendListed now packet ui).friends =
      if ListFrameType.start.marks packet then ui.friends.clear
      else if ListFrameType.middle.marks packet || ListFrameType.single.marks packet then
        ui.friends.file (listedFriend packet)
      else ui.friends := by
  have ended : (friendListEnded now ui).friends = ui.friends := by
    unfold friendListEnded
    split
    · split
      · rfl
      · exact safeSendPacket_friends _ _
    · rfl
  unfold friendListed
  by_cases starts : ListFrameType.start.marks packet = true
  · rw [if_pos starts, if_pos starts]
  · rw [if_neg starts, if_neg starts]
    by_cases row : (ListFrameType.middle.marks packet || ListFrameType.single.marks packet) = true
    · rw [if_pos row, row, Bool.true_and]
      by_cases room : ui.friends.count < maxFriends
      · rw [if_pos (decide_eq_true room)]
      · rw [if_neg (by simpa using room), SlotArray.file_of_full room]
        split
        · exact ended
        · rfl
    · rw [if_neg row, if_neg (by rw [Bool.eq_false_iff.mpr row]; exact Bool.false_ne_true)]
      split
      · exact ended
      · rfl

/-- A packet that is no friend list, no message and no sign-out leaves the slots alone. -/
theorem friends_of_packet (processed : processNetworkPacket now packet ui = .ok after)
    (list : packet.request ≠ some (.social .listFriends))
    (message : packet.request ≠ some (.dm .message))
    (signOut : packet.request ≠ some (.auth .logout)) : after.friends = ui.friends := by
  rcases (processNetworkPacket_changes processed).friends with same | changed
  · exact same
  · generalize after.friends = friends at changed
    cases changed with
    | signedOut asked => exact absurd asked signOut
    | opened asked => exact absurd asked list
    | listed asked => exact absurd asked list
    | message _ _ asked => exact absurd asked message

theorem processNetworkPacket_dm (asked : packet.request = some (.dm .message)) :
    processNetworkPacket now packet ui = .ok (uiReceiveDmMessage packet ui) := by
  rw [processNetworkPacket_eq, asked]
  rfl

/-- Messages that are written to a slot. -/
def writeMessages (write : Messages → Messages) (friend : UIFriend) : UIFriend :=
  { friend with messages := write friend.messages }

theorem uiReceiveDmMessage_friends {index : Fin maxFriends}
    (found : dmFriend packet ui = some index) : (uiReceiveDmMessage packet ui).friends =
      ui.friends.modify index (writeMessages
        (receiveMessage packet (dmMessageOf packet ui (ui.friends.slot index)))) := by
  rw [uiReceiveDmMessage, found]
  dsimp only [Ui.modifyFriend]
  unfold SlotArray.modify
  rfl

theorem uiReceiveDmMessage_nobody (found : dmFriend packet ui = none) :
    uiReceiveDmMessage packet ui = ui := by
  rw [uiReceiveDmMessage, found]

/-- A write that leaves a slot as it is. -/
theorem modify_same {friends : SlotArray UIFriend maxFriends} {index : Fin maxFriends}
    {write : UIFriend → UIFriend} (same : write (friends.slot index) = friends.slot index) :
    friends.modify index write = friends := by
  rw [SlotArray.modify, same, Function.update_eq_self]

/-- ENTER writes what is typed into the slot of the friend to whom it goes. -/
theorem submitDm_friends {index : Fin maxFriends} (typed : 0 < ui.dmInput.length)
    (handled : submitDm now index ui = .ok after) : ∃ message, after.friends =
      ui.friends.modify index (writeMessages fun messages => messages.file fun _ => message) := by
  unfold submitDm at handled
  rw [if_pos typed] at handled
  obtain ⟨middle, filed, handled⟩ := bind_eq_ok handled
  obtain rfl := Except.ok.inj handled
  unfold fileOwnMessage at filed
  split at filed
  · obtain ⟨user, -, filed⟩ := bind_eq_ok filed
    obtain rfl := Except.ok.inj filed
    refine ⟨ownMessage now (Client.sendDmMessage now (ui.friends.slot index).id ui.dmInput.text ui)
      user, ?_⟩
    dsimp only [Ui.modifyFriend]
    rw [Client.sendDmMessage, safeSendPacket_friends]
    rfl
  · next full =>
    obtain rfl := Except.ok.inj filed
    rw [Client.sendDmMessage, safeSendPacket_friends] at full
    refine ⟨Message.zero, ?_⟩
    have kept : writeMessages (fun messages => messages.file fun _ => Message.zero)
        (ui.friends.slot index) = ui.friends.slot index := by
      rw [writeMessages, SlotArray.file_of_full full]
    rw [modify_same kept]
    exact safeSendPacket_friends _ _

/-- A key leaves the slots alone, or files a message under the friend to whom it goes. -/
theorem handleKey_friends {key : Key} (handled : handleKey now key ui = .ok after) :
    submitsTo ui key = none ∧ after.friends = ui.friends ∨
    ∃ index message, submitsTo ui key = some index ∧
      after.friends = ui.friends.modify index (writeMessages fun messages =>
        messages.file fun _ => message) := by
  by_cases shown : ui.currentScreen = .dms
  · rw [handleKey_dms shown] at handled
    cases active : ui.activeDmFriend with
    | none =>
      have nobody : submitsTo ui key = none := by
        unfold submitsTo
        split
        · rw [active, ite_self]
        · rfl
      simp only [handleDmsInput, active] at handled
      obtain rfl := Except.ok.inj handled
      refine Or.inl ⟨nobody, ?_⟩
      cases key <;> rfl
    | some index =>
      simp only [handleDmsInput, active] at handled
      cases key with
      | enter =>
        by_cases typed : 0 < ui.dmInput.length
        · obtain ⟨message, filed⟩ := submitDm_friends typed handled
          exact Or.inr ⟨index, message, by rw [submitsTo, if_pos ⟨shown, typed⟩, active], filed⟩
        · rw [submitDm, if_neg typed] at handled
          obtain rfl := Except.ok.inj handled
          exact Or.inl ⟨by rw [submitsTo, if_neg fun both => typed both.2], rfl⟩
      | tab => exact Or.inl ⟨rfl, (cycleFriend_same handled).friends⟩
      | f2 | backspace | printable | escape | up | down | f1 | f3 | f4 | other =>
        obtain rfl := Except.ok.inj handled
        exact Or.inl ⟨rfl, rfl⟩
  · refine Or.inl ⟨?_, (handleKey_same shown handled).friends⟩
    unfold submitsTo
    split
    · exact if_neg fun both => shown both.1
    · rfl

end Slots

/-! ### Steps -/

section Steps

variable {before after talk : Talk} {events : List TalkEvent} {taken : TalkEvent}
  {packet : TizcordPacket} {index : Fin maxFriends}

theorem Talk.Belongs.of_same (belongs : before.Belongs)
    (friends : after.ui.friends = before.ui.friends) (user : after.user = before.user)
    (parties : after.parties = before.parties) : after.Belongs := by
  unfold Talk.Belongs
  rw [friends, user, parties]
  exact belongs

theorem Talk.belongs_of_empty (empty : after.ui.friends.count = 0) : after.Belongs :=
  fun _ used => absurd (empty ▸ used) (Nat.not_lt_zero _)

theorem Talk.mem_hold {parties held : Parties} {other : Fin maxFriends}
    (member : held ∈ talk.hold index parties other) :
    held ∈ talk.parties other ∨ other = index ∧ held = parties := by
  rw [Talk.hold] at member
  by_cases same : other = index
  · subst same
    rw [Function.update_self] at member
    exact (List.mem_append.mp (List.mem_of_mem_take member)).imp_right fun last =>
      ⟨rfl, List.mem_singleton.mp last⟩
  · rw [Function.update_of_ne same] at member
    exact Or.inl member

theorem Talk.mem_hold_self {parties : Parties}
    (room : (talk.parties index).length < maxMessages) :
    parties ∈ talk.hold index parties index := by
  rw [Talk.hold, Function.update_self, List.take_of_length_le]
  · exact List.mem_append_right _ List.mem_cons_self
  · rw [List.length_append]
    exact room

theorem Talk.hold_of_full {parties : Parties} (full : (talk.parties index).length = maxMessages) :
    talk.hold index parties = talk.parties := by
  rw [Talk.hold, ← full, List.take_left, Function.update_eq_self]

theorem id_modify_messages {friends : SlotArray UIFriend maxFriends} {write : Messages → Messages}
    (other : Fin maxFriends) :
    ((friends.modify index (writeMessages write)).slot other).id = (friends.slot other).id := by
  by_cases same : other = index
  · rw [same, SlotArray.slot_modify_same]
    rfl
  · rw [SlotArray.slot_modify_ne _ _ same]

/-- A message that is filed under its other party leaves all messages where they belong. -/
theorem Talk.Belongs.filed {parties : Parties} {write : Messages → Messages}
    (belongs : before.Belongs) (own : parties.own = before.user)
    (other : parties.other = (before.ui.friends.slot index).id)
    (friends : after.ui.friends = before.ui.friends.modify index (writeMessages write))
    (user : after.user = before.user) (filed : after.parties = before.hold index parties) :
    after.Belongs := by
  intro slot used held member
  have usedBefore : slot.val < before.ui.friends.count := by
    rw [friends] at used
    exact used
  rw [filed] at member
  rw [friends, id_modify_messages, user]
  rcases mem_hold member with old | ⟨rfl, rfl⟩
  · exact belongs slot usedBefore held old
  · rw [← own, ← other]

/-- Where all messages belong, the last one was filed under its other party. -/
theorem Talk.Belongs.other_of_filed {parties : Parties} {write : Messages → Messages}
    (belongs : after.Belongs) (used : index.val < before.ui.friends.count)
    (room : (before.parties index).length < maxMessages)
    (friends : after.ui.friends = before.ui.friends.modify index (writeMessages write))
    (filed : after.parties = before.hold index parties) :
    (before.ui.friends.slot index).id = parties.other := by
  have usedAfter : index.val < after.ui.friends.count := by
    rw [friends]
    exact used
  have held := belongs index usedAfter parties (by rw [filed]; exact mem_hold_self room)
  rw [held, friends, id_modify_messages]

/-- A packet of a direct message leaves all messages where they belong exactly when it files its
message, if it does, under its other party. -/
theorem Talk.Belongs.message_iff (belongs : before.Belongs) (counted : before.Counted)
    (found : dmFriend packet before.ui = some index)
    (friends : after.ui.friends = (uiReceiveDmMessage packet before.ui).friends)
    (user : after.user = before.user) (filed : after.parties = before.receive packet index) :
    after.Belongs ↔ (¬ ListFrameType.start.marks packet = true →
      ¬ ListFrameType.end.marks packet = true →
      (before.ui.friends.slot index).messages.count < maxMessages →
        (before.ui.friends.slot index).id = otherParty packet before.user) := by
  rw [uiReceiveDmMessage_friends found] at friends
  rw [receive] at filed
  generalize otherParty packet before.user = other at filed ⊢
  have used : index.val < before.ui.friends.count := (SlotArray.find?_eq_some found).1
  by_cases starts : ListFrameType.start.marks packet = true
  · rw [if_pos starts] at filed
    refine ⟨fun _ some' => absurd starts some', fun _ => ?_⟩
    intro slot usedAfter held member
    rw [filed] at member
    rw [friends] at usedAfter
    rw [friends, id_modify_messages, user]
    by_cases same : slot = index
    · rw [same, Function.update_self] at member
      exact absurd member List.not_mem_nil
    · rw [Function.update_of_ne same] at member
      exact belongs slot usedAfter held member
  · rw [if_neg starts] at filed
    by_cases ends : ListFrameType.end.marks packet = true
    · rw [if_pos ends] at filed
      refine ⟨fun _ _ some' => absurd ends some', fun _ => ?_⟩
      refine belongs.of_same ?_ user filed
      rw [friends]
      refine modify_same ?_
      rw [writeMessages, receiveMessage, if_neg starts, if_pos ends]
    · rw [if_neg ends] at filed
      constructor
      · intro right _ _ room
        exact right.other_of_filed used (by rw [counted]; exact room) friends filed
      · intro right
        by_cases room : (before.ui.friends.slot index).messages.count < maxMessages
        · exact belongs.filed rfl (right starts ends room).symm friends user filed
        · have full : (before.parties index).length = maxMessages :=
            (counted index).trans
              (Nat.le_antisymm (SlotArray.fits _) (Nat.not_lt.mp room))
          rw [hold_of_full full] at filed
          refine belongs.of_same ?_ user filed
          rw [friends]
          refine modify_same ?_
          rw [writeMessages, receiveMessage, if_neg starts, if_neg ends,
            SlotArray.file_of_full room]

theorem listedFriend_id (packet : TizcordPacket) (friend : UIFriend) :
    (listedFriend packet friend).id = packet.socialTargetUserId := by
  generalize is : packet.socialTargetUserId = id
  rw [listedFriend, is]

theorem listedFriend_messages (packet : TizcordPacket) (friend : UIFriend) :
    (listedFriend packet friend).messages = friend.messages := by
  generalize is : packet.socialTargetUserId = id
  rw [listedFriend, is]

/-- A row of a friend list leaves all messages where they belong exactly when the messages in the
slot it is written over were exchanged with the friend in the row. -/
theorem Talk.Belongs.row_iff (belongs : before.Belongs)
    (friends : after.ui.friends = before.ui.friends.file (listedFriend packet))
    (user : after.user = before.user) (parties : after.parties = before.parties) :
    after.Belongs ↔ ∀ room : before.ui.friends.count < maxFriends,
      ∀ parties ∈ before.parties ⟨before.ui.friends.count, room⟩,
        parties = ⟨before.user, packet.socialTargetUserId⟩ := by
  constructor
  · intro right room held member
    have used : before.ui.friends.count < after.ui.friends.count := by
      rw [friends, SlotArray.count_file_of_room room]
      exact Nat.lt_succ_self _
    have last : (⟨before.ui.friends.count, room⟩ : Fin maxFriends).val = before.ui.friends.count :=
      rfl
    have is := right ⟨before.ui.friends.count, room⟩ used held (parties ▸ member)
    rw [is, user, friends, SlotArray.slot_file_same last, listedFriend_id]
  · intro allowed
    by_cases room : before.ui.friends.count < maxFriends
    · intro slot used held member
      rw [parties] at member
      rw [user, friends]
      rw [friends, SlotArray.count_file_of_room room] at used
      by_cases last : slot.val = before.ui.friends.count
      · have same : slot = ⟨before.ui.friends.count, room⟩ := Fin.ext last
        rw [SlotArray.slot_file_same last, listedFriend_id]
        exact allowed room held (same ▸ member)
      · rw [SlotArray.slot_file_ne last]
        exact belongs slot (by omega) held member
    · rw [SlotArray.file_of_full room] at friends
      exact belongs.of_same friends user parties

/-- A reply that signs somebody in leaves all messages where they belong exactly when it is the
same user, or no listed friend has messages. -/
theorem Talk.Belongs.signIn_iff (belongs : before.Belongs)
    (friends : after.ui.friends = before.ui.friends) (parties : after.parties = before.parties) :
    after.Belongs ↔ ∀ index : Fin maxFriends, index.val < before.ui.friends.count →
      before.parties index ≠ [] → after.user = before.user := by
  constructor
  · intro right index used some'
    obtain ⟨held, member⟩ := List.exists_mem_of_ne_nil _ some'
    have now' := right index (friends.symm ▸ used) held (parties.symm ▸ member)
    have then' := belongs index used held member
    exact congrArg Parties.own (now'.symm.trans then')
  · intro same index used held member
    rw [parties] at member
    rw [friends] at used ⊢
    rw [same index used (List.ne_nil_of_mem member)]
    exact belongs index used held member

/-! ### What a step allows -/

theorem Talk.allows_nil : talk.Allows [] where
  row _ member := absurd member List.not_mem_nil
  message _ member := absurd member List.not_mem_nil
  signIn _ member := absurd member List.not_mem_nil

theorem Talk.allows_key (key : Key) (user : Int) : talk.Allows [⟨.key key, user⟩] where
  row taken member packet is := by
    rw [List.mem_singleton.mp member] at is
    cases is
  message taken member packet is := by
    rw [List.mem_singleton.mp member] at is
    cases is
  signIn taken member accepted := by
    rw [List.mem_singleton.mp member] at accepted
    cases accepted

/-- What is asked of a packet depends on its request. -/
theorem Talk.allows_packet_iff {user : Int} : talk.Allows [⟨.packet packet, user⟩] ↔
    (packet.request = some (.social .listFriends) → ¬ ListFrameType.start.marks packet = true →
      (ListFrameType.middle.marks packet || ListFrameType.single.marks packet) = true →
      ∀ room : talk.ui.friends.count < maxFriends,
        ∀ parties ∈ talk.parties ⟨talk.ui.friends.count, room⟩,
          parties = ⟨talk.user, packet.socialTargetUserId⟩) ∧
    (packet.request = some (.dm .message) → ¬ ListFrameType.start.marks packet = true →
      ¬ ListFrameType.end.marks packet = true → ∀ index, dmFriend packet talk.ui = some index →
        (talk.ui.friends.slot index).messages.count < maxMessages →
          (talk.ui.friends.slot index).id = otherParty packet talk.user) ∧
    (signsUserIn (.packet packet) = true → ∀ index : Fin maxFriends,
      index.val < talk.ui.friends.count → talk.parties index ≠ [] → user = talk.user) := by
  constructor
  · intro allowed
    have taken : (⟨.packet packet, user⟩ : TalkEvent) ∈ [⟨.packet packet, user⟩] :=
      List.mem_singleton.mpr rfl
    exact ⟨allowed.row _ taken packet rfl, allowed.message _ taken packet rfl,
      fun accepted index used some' => allowed.signIn _ taken accepted index used some'⟩
  · rintro ⟨row, message, signIn⟩
    constructor
    · intro taken member other is
      rw [List.mem_singleton.mp member] at is
      cases is
      exact row
    · intro taken member other is
      rw [List.mem_singleton.mp member] at is
      cases is
      exact message
    · intro taken member
      rw [List.mem_singleton.mp member]
      exact signIn

/-- A packet that leaves the slots alone, and signs nobody in, is allowed. -/
theorem Talk.allows_other {user : Int} (list : packet.request ≠ some (.social .listFriends))
    (message : packet.request ≠ some (.dm .message))
    (signIn : ¬ signsUserIn (.packet packet) = true) : talk.Allows [⟨.packet packet, user⟩] :=
  allows_packet_iff.mpr ⟨fun asked => absurd asked list, fun asked => absurd asked message,
    fun accepted => absurd accepted signIn⟩

theorem not_signsUserIn_of_request {request : Request} (asked : packet.request = some request)
    (login : request ≠ .auth .login) (register : request ≠ .auth .register) :
    ¬ signsUserIn (.packet packet) = true := by
  intro accepted
  rcases (signsUserIn_iff.mp accepted).1 with is | is
  · exact login (Option.some.inj (asked.symm.trans is))
  · exact register (Option.some.inj (asked.symm.trans is))

/-! ### Steps of the client -/

/-- What a step of the client does to the slots of the friends. -/
inductive TalkChange (before after : Talk) : List TalkEvent → Prop where
  | nothing {events : List TalkEvent} (friends : after.ui.friends = before.ui.friends)
      (user : after.user = before.user) (parties : after.parties = before.parties)
      (allowed : before.Allows events) : TalkChange before after events
  | cleared {events : List TalkEvent} (friends : after.ui.friends = before.ui.friends.clear)
      (parties : after.parties = before.parties) (allowed : before.Allows events) :
      TalkChange before after events
  | row {packet : TizcordPacket} {user : Int} (asked : packet.request = some (.social .listFriends))
      (starts : ¬ ListFrameType.start.marks packet = true)
      (row : (ListFrameType.middle.marks packet || ListFrameType.single.marks packet) = true)
      (friends : after.ui.friends = before.ui.friends.file (listedFriend packet))
      (same : after.user = before.user) (parties : after.parties = before.parties) :
      TalkChange before after [⟨.packet packet, user⟩]
  | message {packet : TizcordPacket} {user : Int} {index : Fin maxFriends}
      (asked : packet.request = some (.dm .message)) (found : dmFriend packet before.ui = some index)
      (friends : after.ui.friends = (uiReceiveDmMessage packet before.ui).friends)
      (same : after.user = before.user) (parties : after.parties = before.receive packet index) :
      TalkChange before after [⟨.packet packet, user⟩]
  | signedIn {packet : TizcordPacket} {user : Int}
      (accepted : signsUserIn (.packet packet) = true)
      (friends : after.ui.friends = before.ui.friends) (signed : after.user = user)
      (parties : after.parties = before.parties) : TalkChange before after [⟨.packet packet, user⟩]
  | typed {key : Key} {user : Int} {index : Fin maxFriends} (message : Message)
      (friends : after.ui.friends = before.ui.friends.modify index
        (writeMessages fun messages => messages.file fun _ => message))
      (same : after.user = before.user)
      (parties : after.parties =
        before.hold index ⟨before.user, (before.ui.friends.slot index).id⟩) :
      TalkChange before after [⟨.key key, user⟩]

/-- What a packet of a friend list does. -/
theorem Talk.listed_change {now user : Int} (asked : packet.request = some (.social .listFriends))
    (listed : after.ui = friendListed now packet before.ui) (same : after.user = before.user)
    (parties : after.parties = before.parties) :
    TalkChange before after [⟨.packet packet, user⟩] := by
  have friends : after.ui.friends = _ :=
    (congrArg Ui.friends listed).trans (friendListed_friends now packet before.ui)
  have message : packet.request ≠ some (.dm .message) := by
    rw [asked]
    nofun
  have signsIn := not_signsUserIn_of_request asked nofun nofun
  by_cases starts : ListFrameType.start.marks packet = true
  · rw [if_pos starts] at friends
    exact .cleared friends parties (allows_packet_iff.mpr ⟨fun _ other => absurd starts other,
      fun other => absurd other message, fun accepted => absurd accepted signsIn⟩)
  · rw [if_neg starts] at friends
    by_cases row : (ListFrameType.middle.marks packet || ListFrameType.single.marks packet) = true
    · rw [if_pos row] at friends
      exact .row asked starts row friends same parties
    · rw [if_neg row] at friends
      exact .nothing friends same parties (allows_packet_iff.mpr
        ⟨fun _ _ other => absurd other row, fun other => absurd other message,
          fun accepted => absurd accepted signsIn⟩)

/-- What a packet of a message does. -/
theorem Talk.message_change {user : Int} (asked : packet.request = some (.dm .message))
    (received : after.ui = uiReceiveDmMessage packet before.ui) (same : after.user = before.user)
    (parties : after.parties =
      before.writtenTo (before.receive packet) (dmFriend packet before.ui)) :
    TalkChange before after [⟨.packet packet, user⟩] := by
  cases found : dmFriend packet before.ui with
  | none =>
    rw [found, writtenTo] at parties
    rw [uiReceiveDmMessage_nobody found] at received
    have list : packet.request ≠ some (.social .listFriends) := by
      rw [asked]
      nofun
    refine .nothing (congrArg Ui.friends received) same parties (allows_packet_iff.mpr
      ⟨fun other => absurd other list, fun _ _ _ index is => ?_, fun accepted => absurd accepted
        (not_signsUserIn_of_request asked nofun nofun)⟩)
    cases found.symm.trans is
  | some index =>
    rw [found, writtenTo] at parties
    exact .message asked found (congrArg Ui.friends received) same parties

theorem TalkStep.change (step : TalkStep before events after) :
    TalkChange before after events := by
  cases step with
  | idles step user parties =>
    refine .nothing ?_ user parties Talk.allows_nil
    generalize after.ui = ui at step
    cases step with
    | draw => exact (redraw_same _).friends
    | disconnect => rfl
  | takes taken step user parties =>
    obtain ⟨event, other⟩ := taken
    dsimp only at step user parties
    generalize reached : after.ui = ui at step
    cases step with
    | key now key handled =>
      have signsIn : ¬ signsUserIn (.key key) = true := Bool.false_ne_true
      rw [if_neg signsIn] at user
      rcases handleKey_friends handled with ⟨nobody, same⟩ | ⟨index, message, somebody, filed⟩
      · rw [Talk.partiesAfter, nobody, Talk.writtenTo] at parties
        exact .nothing (reached ▸ same) user parties (Talk.allows_key key other)
      · rw [Talk.partiesAfter, somebody, Talk.writtenTo] at parties
        exact .typed message (reached ▸ filed) user parties
    | packet now packet processed =>
      rw [Talk.partiesAfter] at parties
      by_cases message : packet.request = some (.dm .message)
      · have received := Except.ok.inj ((processNetworkPacket_dm message).symm.trans processed)
        rw [if_neg (not_signsUserIn_of_request message nofun nofun)] at user
        rw [Talk.receivesIn, if_pos message] at parties
        exact Talk.message_change message (reached.trans received.symm) user parties
      have nobody : before.receivesIn packet = none := if_neg message
      rw [nobody, Talk.writtenTo] at parties
      by_cases list : packet.request = some (.social .listFriends)
      · have listed := Except.ok.inj ((processNetworkPacket_friendList list).symm.trans processed)
        rw [if_neg (not_signsUserIn_of_request list nofun nofun)] at user
        exact Talk.listed_change list (reached.trans listed.symm) user parties
      by_cases signsOut : packet.request = some (.auth .logout)
      · have signsIn := not_signsUserIn_of_request signsOut nofun nofun
        have out := Except.ok.inj ((processNetworkPacket_logout signsOut).symm.trans processed)
        exact .cleared (congrArg Ui.friends (reached.trans out.symm)) parties
          (Talk.allows_other list message signsIn)
      have friends : after.ui.friends = before.ui.friends :=
        reached ▸ friends_of_packet processed list message signsOut
      by_cases signsIn : signsUserIn (.packet packet) = true
      · rw [if_pos signsIn] at user
        exact .signedIn signsIn friends user parties
      · rw [if_neg signsIn] at user
        exact .nothing friends user parties (Talk.allows_other list message signsIn)

/-- A step leaves all messages where they belong exactly when it is allowed. -/
theorem TalkChange.belongs_iff (change : TalkChange before after events)
    (counted : before.Counted) (belongs : before.Belongs) :
    after.Belongs ↔ before.Allows events := by
  cases change with
  | nothing friends user parties allowed =>
    exact iff_of_true (belongs.of_same friends user parties) allowed
  | cleared friends parties allowed =>
    exact iff_of_true (Talk.belongs_of_empty (congrArg SlotArray.count friends)) allowed
  | row asked starts row friends same parties =>
    rw [belongs.row_iff friends same parties, Talk.allows_packet_iff]
    have message : _ ≠ some (Request.dm .message) := fun other => nomatch asked.symm.trans other
    exact ⟨fun written => ⟨fun _ _ _ => written, fun other => absurd other message,
      fun accepted => absurd accepted (not_signsUserIn_of_request asked nofun nofun)⟩,
      fun allowed => allowed.1 asked starts row⟩
  | message asked found friends same parties =>
    rw [belongs.message_iff counted found friends same parties, Talk.allows_packet_iff]
    have list : _ ≠ some (Request.social .listFriends) := fun other =>
      nomatch asked.symm.trans other
    constructor
    · intro right
      refine ⟨fun other => absurd other list, fun _ starts ends slot is room => ?_,
        fun accepted => absurd accepted (not_signsUserIn_of_request asked nofun nofun)⟩
      obtain rfl := Option.some.inj (found.symm.trans is)
      exact right starts ends room
    · intro allowed starts ends room
      exact allowed.2.1 asked starts ends _ found room
  | signedIn accepted friends signed parties =>
    rw [belongs.signIn_iff friends parties, Talk.allows_packet_iff, signed]
    have asked := (signsUserIn_iff.mp accepted).1
    constructor
    · refine fun same => ⟨fun other => ?_, fun other => ?_, fun _ => same⟩
      · rcases asked with is | is <;> cases is.symm.trans other
      · rcases asked with is | is <;> cases is.symm.trans other
    · exact fun allowed => allowed.2.2 accepted
  | typed message friends same parties =>
    exact iff_of_true (belongs.filed rfl rfl friends same parties) (Talk.allows_key _ _)

/-! ### As many parties as messages -/

theorem Talk.Counted.of_same (counted : before.Counted)
    (messages : ∀ index, (after.ui.friends.slot index).messages =
      (before.ui.friends.slot index).messages)
    (parties : after.parties = before.parties) : after.Counted := by
  intro index
  rw [parties, messages]
  exact counted index

/-- A slot whose messages are written to, with as many parties. -/
theorem Talk.Counted.of_write {write : Messages → Messages} {held : List Parties}
    (counted : before.Counted)
    (friends : after.ui.friends = before.ui.friends.modify index (writeMessages write))
    (parties : after.parties = Function.update before.parties index held)
    (length : held.length = (write (before.ui.friends.slot index).messages).count) :
    after.Counted := by
  intro other
  rw [friends, parties]
  by_cases same : other = index
  · rw [same, Function.update_self, SlotArray.slot_modify_same]
    exact length
  · rw [Function.update_of_ne same, SlotArray.slot_modify_ne _ _ same]
    exact counted other

/-- A message more in a slot, with its parties. -/
theorem Talk.Counted.length_hold (counted : before.Counted) (parties : Parties)
    (write : Message → Message) :
    ((before.parties index ++ [parties]).take maxMessages).length =
      ((before.ui.friends.slot index).messages.file write).count := by
  rw [List.length_take, List.length_append, List.length_singleton, counted, SlotArray.count_file,
    Nat.min_comm]

theorem TalkChange.counted (change : TalkChange before after events) (counted : before.Counted) :
    after.Counted := by
  cases change with
  | nothing friends _ parties =>
    exact counted.of_same (fun index => by rw [friends]) parties
  | cleared friends parties =>
    exact counted.of_same (fun index => by rw [friends, SlotArray.slot_clear]) parties
  | signedIn _ friends _ parties => exact counted.of_same (fun index => by rw [friends]) parties
  | typed message friends _ parties =>
    exact counted.of_write friends parties (counted.length_hold _ _)
  | row _ _ _ friends _ parties =>
    refine counted.of_same (fun index => ?_) parties
    rw [friends]
    by_cases last : index.val = before.ui.friends.count
    · rw [SlotArray.slot_file_same last, listedFriend_messages]
    · rw [SlotArray.slot_file_ne last]
  | @message packet user index _ found friends _ parties =>
    rw [uiReceiveDmMessage_friends found] at friends
    rw [Talk.receive] at parties
    split at parties
    · next starts =>
      refine counted.of_write friends parties ?_
      rw [receiveMessage, if_pos starts]
      rfl
    · next starts =>
      split at parties
      · next ends =>
        rw [← Function.update_eq_self index before.parties] at parties
        refine counted.of_write friends parties ?_
        rw [receiveMessage, if_neg starts, if_pos ends]
        exact counted index
      · next ends =>
        refine counted.of_write friends parties ?_
        rw [receiveMessage, if_neg starts, if_neg ends]
        exact counted.length_hold _ _

end Steps

/-! ### Runs -/

/-- At the start nobody is signed in, and no slot has messages. -/
def Talk.start : Talk := ⟨Ui.start, 0, fun _ => []⟩

/-- In a run of the client all messages under the listed friends were exchanged between the user
who is signed in and this friend, in every state, exactly when rows of friend lists are written
only over slots without messages of others, messages are filed only under their other party, and
nobody else signs in while a listed friend has messages. -/
theorem conversations_belong_iff {visits : List (Visit Talk TalkEvent)} {last : Talk}
    (steps : Steps (Recorded TalkStep) Talk.start visits last) :
    (∀ visit ∈ visits, visit.after.Belongs) ↔
      ∀ visit ∈ visits, visit.before.Allows visit.events := by
  refine steps.good_iff_allowed Talk.Counted ?_ ?_ (fun _ => rfl) (Talk.belongs_of_empty rfl)
  · intro first events last step counted belongs
    exact step.change.belongs_iff counted belongs
  · intro first events last step counted _ _
    exact step.change.counted counted

instance (talk : Talk) : Decidable talk.Belongs :=
  inferInstanceAs (Decidable (∀ index : Fin maxFriends, index.val < talk.ui.friends.count →
    ∀ parties ∈ talk.parties index, parties = ⟨talk.user, (talk.ui.friends.slot index).id⟩))

/-- The state after something is taken in, which leads the client to a state. -/
def Talk.after (talk : Talk) (taken : TalkEvent) (ui : Ui) : Talk :=
  ⟨ui, if signsUserIn taken.event then taken.user else talk.user, talk.partiesAfter taken.event⟩

/-- The state after the client has taken in some things one by one, if all states on the way pass
a test. -/
def runTalk (test : Talk → Bool) : List TalkEvent → Talk → Option Talk
  | [], talk => some talk
  | taken :: rest, talk =>
    (takeIn talk.ui taken.event).toOption.bind fun ui =>
      if test (talk.after taken ui) then runTalk test rest (talk.after taken ui) else none

theorem runTalk_steps {test : Talk → Bool} {events : List TalkEvent} {talk after : Talk}
    (ran : runTalk test events talk = some after) :
    ∃ visits, Steps (Recorded TalkStep) talk visits after ∧
      ∀ visit ∈ visits, test visit.after = true := by
  induction events generalizing talk with
  | nil =>
    obtain rfl := Option.some.inj ran
    exact ⟨[], .none talk, fun _ member => absurd member List.not_mem_nil⟩
  | cons taken rest inductionHypothesis =>
    rw [runTalk] at ran
    cases result : takeIn talk.ui taken.event with
    | error fault =>
      rw [result] at ran
      cases ran
    | ok ui =>
      rw [result] at ran
      dsimp only [Except.toOption, Option.bind_some] at ran
      split at ran
      · next passed =>
        obtain ⟨visits, steps, all⟩ := inductionHypothesis ran
        have step : TalkStep talk [taken] (talk.after taken ui) :=
          .takes taken (takeIn_step result) rfl rfl
        refine ⟨_, (Steps.single (.take step)).trans steps, fun visit member => ?_⟩
        rcases List.mem_append.mp member with first | later
        · rw [List.mem_singleton.mp first]
          exact passed
        · exact all visit later
      · cases ran

/-- A state that a run leads to, with what a test of it shows. -/
theorem talked_of_any (test : Talk → Bool) (events : List TalkEvent) {wanted : Talk → Prop}
    [DecidablePred wanted]
    (checked : (runTalk test events Talk.start).any (fun talk => wanted talk) = true) :
    ∃ visits last, Steps (Recorded TalkStep) Talk.start visits last ∧
      (∀ visit ∈ visits, test visit.after = true) ∧ wanted last := by
  cases ran : runTalk test events Talk.start with
  | none =>
    rw [ran] at checked
    cases checked
  | some last =>
    rw [ran] at checked
    obtain ⟨visits, steps, passed⟩ := runTalk_steps ran
    exact ⟨visits, last, steps, passed, of_decide_eq_true checked⟩

/-- A packet of a list with one accepted friend. -/
def friendIs (frame : ListFrameType) (id : Int) : TalkEvent :=
  ⟨.packet (friendPacket frame id), 0⟩

/-- A message from a user to the user with the id 1. -/
def messageFrom (id : Int) : TalkEvent :=
  let packet := TizcordPacket.setType Image.zero .dm
  let packet := packet.setDmAction DMAction.message.code
  let packet := packet.setSenderId id
  let packet := packet.setDmRecipientId 1
  ⟨.packet (packet.strncpyDmMessage Text.letterB), 0⟩

/-- A user signs in, gets a list of friends, and a message from the only one. -/
def directEvents : List TalkEvent :=
  [⟨.packet (authAnswer .login .ok), 1⟩, friendIs .start 2, friendIs .middle 2,
    friendIs .end 2, messageFrom 2]

/-- The message stands under the friend, and all steps were allowed. -/
theorem conversations_belong_first : ∃ visits last,
    Steps (Recorded TalkStep) Talk.start visits last ∧
    (last.ui.friends.count = 1 ∧ (last.ui.friends.slot 0).id = 2 ∧ last.parties 0 = [⟨1, 2⟩]) ∧
    ∀ visit ∈ visits, visit.before.Allows visit.events := by
  obtain ⟨visits, last, steps, passed, held⟩ : ∃ visits last,
      Steps (Recorded TalkStep) Talk.start visits last ∧
      (∀ visit ∈ visits, decide visit.after.Belongs = true) ∧
      last.ui.friends.count = 1 ∧ (last.ui.friends.slot 0).id = 2 ∧ last.parties 0 = [⟨1, 2⟩] :=
    talked_of_any (fun talk => decide talk.Belongs) directEvents (by decide +kernel)
  exact ⟨visits, last, steps, held, (conversations_belong_iff steps).mp fun visit visited =>
    of_decide_eq_true (passed visit visited)⟩

/-- The list of friends is sent again, now with another friend. -/
def refreshedEvents : List TalkEvent :=
  directEvents ++ [friendIs .start 3, friendIs .middle 3, friendIs .end 3]

/-- The message of one friend stands under the other. -/
theorem conversation_changes_friend : ∃ visits last,
    Steps (Recorded TalkStep) Talk.start visits last ∧ ∃ visit ∈ visits, ¬ visit.after.Belongs := by
  obtain ⟨visits, last, steps, -, below, friend, held⟩ : ∃ visits last,
      Steps (Recorded TalkStep) Talk.start visits last ∧ (∀ visit ∈ visits, true = true) ∧
      last.ui.friends.count = 1 ∧ (last.ui.friends.slot 0).id = 3 ∧ last.parties 0 = [⟨1, 2⟩] :=
    talked_of_any (fun _ => true) refreshedEvents (by decide +kernel)
  refine ⟨visits, last, steps, ?_⟩
  rcases steps.last_visited with same | ⟨visit, visited, rfl⟩
  · rw [same] at below
    cases below
  · refine ⟨visit, visited, fun belongs => ?_⟩
    have other := belongs 0 (by rw [below]; decide) ⟨1, 2⟩ (by rw [held]; exact List.mem_cons_self)
    rw [friend] at other
    cases congrArg Parties.other other

end Tizcord
