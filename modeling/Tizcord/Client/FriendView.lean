/-
This file says what changes the friends that a client lists: the rows of the friend
list and the end of the session. The messages that are filed under a friend change
neither who is listed nor in which relation.
-/

import Tizcord.Client.Conversations
import Tizcord.Client.UserList

namespace Tizcord

open CModel

/-! ### What is listed -/

/-- A friend as the screens list them. -/
structure FriendEntry where
  id : Int
  username : Text
  type : Int
  deriving DecidableEq

def UIFriend.entry (friend : UIFriend) : FriendEntry :=
  ⟨friend.id, friend.username, friend.type⟩

/-- The friends that a client lists, in order. -/
def Ui.friendEntries (ui : Ui) : List FriendEntry :=
  ui.friends.entries.map UIFriend.entry

/-- The row of a packet of the friend list. -/
def entryOf (packet : TizcordPacket) : FriendEntry where
  id := packet.socialTargetUserId
  username := storedName (packet.socialTargetUsername [])
  type := packet.socialStatusCode

/-- What a packet with a certain request makes of the friends that are listed. -/
def readFriendsOf (entries : List FriendEntry) (packet : TizcordPacket) :
    Option Request → List FriendEntry
  | some (.auth .logout) => []
  | some (.social .listFriends) =>
    if ListFrameType.start.marks packet then []
    else if ListFrameType.middle.marks packet || ListFrameType.single.marks packet then
      (entries ++ [entryOf packet]).take maxFriends
    else entries
  | _ => entries

/-- What a packet makes of the friends that are listed. -/
def readFriends (entries : List FriendEntry) (packet : TizcordPacket) : List FriendEntry :=
  readFriendsOf entries packet packet.request

section Views

variable {now : Int} {packet : TizcordPacket} {ui after : Ui}

theorem friendEntries_of_same (same : after.friends = ui.friends) :
    after.friendEntries = ui.friendEntries := by
  rw [Ui.friendEntries, Ui.friendEntries, same]

/-- What is written to the messages of a friend is not listed. -/
theorem friendEntries_of_write {index : Fin maxFriends} {write : Messages → Messages}
    (written : after.friends = ui.friends.modify index (writeMessages write)) :
    after.friendEntries = ui.friendEntries := by
  rw [Ui.friendEntries, written]
  exact SlotArray.map_entries_modify fun _ => rfl

theorem entry_listedFriend (packet : TizcordPacket) (friend : UIFriend) :
    (listedFriend packet friend).entry = entryOf packet := by
  rw [UIFriend.entry, listedFriend, entryOf]

theorem friendListed_entries (now : Int) (packet : TizcordPacket) (ui : Ui) :
    (friendListed now packet ui).friendEntries =
      readFriendsOf ui.friendEntries packet (some (.social .listFriends)) := by
  rw [Ui.friendEntries, friendListed_friends, readFriendsOf]
  split
  · rw [SlotArray.entries_clear]
    rfl
  · split
    · exact SlotArray.map_entries_file (entry_listedFriend packet)
    · rfl

theorem processRequest_listFriends
    (processed : processRequest now packet ui (some (.social .listFriends)) = .ok after) :
    after.friendEntries =
      readFriendsOf ui.friendEntries packet (some (.social .listFriends)) := by
  rw [processRequest, updateSocialState] at processed
  rw [← Except.ok.inj processed]
  exact friendListed_entries now packet ui

theorem processRequest_logout
    (processed : processRequest now packet ui (some (.auth .logout)) = .ok after) :
    after.friendEntries = readFriendsOf ui.friendEntries packet (some (.auth .logout)) := by
  rw [processRequest, handleAuthResponse] at processed
  have empty : after.friends = ui.friends.clear := by
    rw [← Except.ok.inj processed, signOut]
  rw [readFriendsOf, Ui.friendEntries, empty, SlotArray.entries_clear, List.map_nil]

/-- Messages, and all other packets, leave the list of friends as it is. -/
theorem processNetworkPacket_unlisted (processed : processNetworkPacket now packet ui = .ok after)
    (list : packet.request ≠ some (.social .listFriends))
    (signOut : packet.request ≠ some (.auth .logout)) :
    after.friendEntries = ui.friendEntries := by
  by_cases message : packet.request = some (.dm .message)
  · have filed := Except.ok.inj ((processNetworkPacket_dm message).symm.trans processed)
    cases found : dmFriend packet ui with
    | none => rw [← filed, uiReceiveDmMessage_nobody found]
    | some index =>
      have written := uiReceiveDmMessage_friends found
      rw [filed] at written
      exact friendEntries_of_write written
  · exact friendEntries_of_same (friends_of_packet processed list message signOut)

theorem readFriendsOf_other {entries : List FriendEntry} {request : Option Request}
    (list : request ≠ some (.social .listFriends)) (signOut : request ≠ some (.auth .logout)) :
    readFriendsOf entries packet request = entries := by
  unfold readFriendsOf
  split
  · exact absurd rfl signOut
  · exact absurd rfl list
  · rfl

theorem processNetworkPacket_friends (processed : processNetworkPacket now packet ui = .ok after) :
    after.friendEntries = readFriends ui.friendEntries packet := by
  rw [readFriends]
  by_cases list : packet.request = some (.social .listFriends)
  · rw [processNetworkPacket_eq] at processed
    generalize packet.request = asked at list processed ⊢
    subst list
    exact processRequest_listFriends processed
  · by_cases signOut : packet.request = some (.auth .logout)
    · rw [processNetworkPacket_eq] at processed
      generalize packet.request = asked at signOut processed ⊢
      subst signOut
      exact processRequest_logout processed
    · rw [readFriendsOf_other list signOut]
      exact processNetworkPacket_unlisted processed list signOut

theorem UiStep.friendEntries {before after : Ui} {events : List UiEvent}
    (step : UiStep before events after) : after.friendEntries =
      (events.filterMap UiEvent.received).foldl readFriends before.friendEntries := by
  cases step with
  | packet now received processed =>
    rw [List.filterMap_cons, UiEvent.received, List.filterMap_nil, List.foldl_cons, List.foldl_nil]
    exact processNetworkPacket_friends processed
  | key now key handled =>
    rcases handleKey_friends handled with ⟨-, same⟩ | ⟨index, message, -, written⟩
    · exact friendEntries_of_same same
    · exact friendEntries_of_write written
  | draw => exact friendEntries_of_same (redraw_same before).friends
  | disconnect => rfl

/-- Whatever a client does, the friends it lists are those it has read from the packets. -/
theorem friendEntries_of_steps {before after : Ui} {events : List UiEvent}
    (steps : Steps UiStep before events after) : after.friendEntries =
      (events.filterMap UiEvent.received).foldl readFriends before.friendEntries := by
  induction steps with
  | none => rfl
  | more _ next inductionHypothesis =>
    rw [List.filterMap_append, List.foldl_append, ← inductionHypothesis]
    exact next.friendEntries

end Views

end Tizcord
