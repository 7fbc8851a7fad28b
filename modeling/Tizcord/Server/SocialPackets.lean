/-
This file is about the packets of the two social lists: which list a packet
belongs to, and what its row carries. A row of the list of all users tells whether
the user is online, and a row of a friend list in which direction the request goes.
-/

import Tizcord.Server.Streams

namespace Tizcord

open CModel

/-! ### Requests -/

theorem request_of_socialAction {packet : TizcordPacket} {action : SocialAction}
    (type : packet.type = PacketType.social.code) (acted : packet.socialAction = action.code) :
    packet.request = some (.social action) := by
  refine SocialAction.ofCode_eq ?_ ?_
  · rw [type, PacketType.ofCode_code]
  · rw [acted]
    cases action <;> rfl

theorem socialStartPacket_request (env : Env) (process : Process) (action : SocialAction)
    (listId : Int) :
    (socialStartPacket env process action listId).request = some (.social action) := by
  refine request_of_socialAction (type_socialStartPacket env process action listId) ?_
  simp (disch := decide) [socialStartPacket, TizcordPacket.socialAction,
    TizcordPacket.setSocialAction, TizcordPacket.setListId, TizcordPacket.setListFrame]
  cases action <;> rfl

theorem socialEndPacket_request (env : Env) (process : Process) (action : SocialAction)
    (listId : Int) (total : Nat) :
    (socialEndPacket env process action listId total).request = some (.social action) := by
  refine request_of_socialAction (type_socialEndPacket env process action listId total) ?_
  simp (disch := decide) [socialEndPacket, TizcordPacket.socialAction,
    TizcordPacket.setSocialAction, TizcordPacket.setListId, TizcordPacket.setListTotal,
    TizcordPacket.setListFrame]
  cases action <;> rfl

/-! ### Rows -/

/-- A packet of a social list, with a certain frame. -/
structure IsSocialFrame (action : SocialAction) (frame : ListFrameType) (packet : TizcordPacket) :
    Prop where
  request : packet.request = some (.social action)
  frame : IsFrame frame packet

/-- The packet closes a social list, and tells how many rows the list has. -/
structure ClosesList (action : SocialAction) (total : Nat) (packet : TizcordPacket) : Prop extends
    IsSocialFrame action .end packet where
  listTotal : packet.listTotal = signed 32 total

/-- The packet shows a user in the list of all users, and whether the user is online. -/
structure CarriesUser (ctx : ServerContext) (row : UserListRow) (packet : TizcordPacket) :
    Prop extends IsSocialFrame .listUsers .middle packet where
  user : packet.socialTargetUserId = signed 64 row.userId
  name : ∀ beyond, packet.socialTargetUsername beyond = row.username.take (maxNameLen - 1)
  status : ∀ beyond, packet.socialTargetStatus beyond = row.status.take profileStatusLen
  online : packet.socialStatusCode = if userIsOnline ctx row.userId then 1 else 0

/-- The packet shows a user in a friend list, and the number of the relation. -/
structure CarriesFriend (row : FriendListRow) (packet : TizcordPacket) : Prop extends
    IsSocialFrame .listFriends .middle packet where
  user : packet.socialTargetUserId = signed 64 row.targetUserId
  name : ∀ beyond, packet.socialTargetUsername beyond = row.username.take (maxNameLen - 1)
  code : packet.socialStatusCode = signed 32 row.isIncoming

/-- The packet tells how the update of the status of a user has ended. -/
structure CarriesStatus (code : ResponseCode) (userId : Int) (statusText : Text) (isOnline : Bool)
    (packet : TizcordPacket) : Prop where
  request : packet.request = some (.social .updateStatus)
  code : packet.socialStatusCode = code.code
  user : packet.socialTargetUserId = signed 64 userId
  status : ∀ beyond, packet.socialTargetStatus beyond = statusText.take profileStatusLen
  online : packet.socialStatus = (userStatusOf isOnline).code

theorem listFrame_socialItemPacket (env : Env) (process : Process) (action : SocialAction)
    (listId : Int) (index : Nat) :
    (socialItemPacket env process action listId index).listFrame = ListFrameType.middle.code :=
  listFrame_setListFrame _ .middle

section Rows

variable {env : Env} {fd : Int}

theorem userListCb_sends (env : Env) (fd listId : Int) (process : Process) (row : UserListRow)
    (index : Nat) :
    ∃ copy, CarriesUser process.ctx row copy ∧
      SendsList fd [copy] process (userListCb env fd listId process (row, index)) := by
  rw [userListCb]
  refine ⟨_, ⟨⟨request_of_socialAction ?_ ?_, ?_⟩, ?_, fun beyond => ?_, fun beyond => ?_, ?_⟩,
    sendsList_send env fd process _⟩
  · simp (disch := decide) only [TizcordPacket.setSocialStatus,
      TizcordPacket.setSocialTargetUserId, TizcordPacket.strncpySocialTargetUsername,
      TizcordPacket.strncpySocialTargetStatus, TizcordPacket.setSocialStatusCode, type_putInt32,
      type_putInt64, type_strncpy, type_socialItemPacket]
  · have action := socialAction_socialItemPacket env process .listUsers listId index
    rw [TizcordPacket.socialAction] at action ⊢
    simp (disch := decide) [TizcordPacket.setSocialStatus, TizcordPacket.setSocialTargetUserId,
      TizcordPacket.strncpySocialTargetUsername, TizcordPacket.strncpySocialTargetStatus,
      TizcordPacket.setSocialStatusCode, action]
  · rw [IsFrame]
    simp (disch := decide) only [TizcordPacket.setSocialStatus,
      TizcordPacket.setSocialTargetUserId, TizcordPacket.strncpySocialTargetUsername,
      TizcordPacket.strncpySocialTargetStatus, TizcordPacket.setSocialStatusCode,
      listFrame_putInt32, listFrame_putInt64, listFrame_strncpy, listFrame_socialItemPacket]
  · simp (disch := decide) [TizcordPacket.socialTargetUserId, TizcordPacket.setSocialTargetUserId,
      TizcordPacket.strncpySocialTargetUsername, TizcordPacket.strncpySocialTargetStatus,
      TizcordPacket.setSocialStatusCode]
  · refine Image.text_of_slice _ beyond (by decide) ?_
    rw [TizcordPacket.setSocialStatusCode, Image.slice_putInt32_disjoint _ _ _ _ _ (by decide),
      TizcordPacket.strncpySocialTargetStatus,
      Image.slice_strncpy_disjoint _ _ _ _ _ _ (by decide)]
    refine Image.slice_strncpy_same _ _ _ _ (by decide) ?_
    simp (disch := decide) [socialItemPacket, Process.basePacket, createBasePacket,
      TizcordPacket.setType, TizcordPacket.setTimestamp, TizcordPacket.setSocialAction,
      TizcordPacket.setListId, TizcordPacket.setListIndex, TizcordPacket.setListTotal,
      TizcordPacket.setListFrame, TizcordPacket.setSocialStatus,
      TizcordPacket.setSocialTargetUserId]
  · refine Image.text_of_slice _ beyond (by decide) ?_
    rw [TizcordPacket.setSocialStatusCode, Image.slice_putInt32_disjoint _ _ _ _ _ (by decide)]
    refine Image.slice_strncpy_same _ _ _ _ (by decide) ?_
    simp (disch := decide) [socialItemPacket, Process.basePacket, createBasePacket,
      TizcordPacket.setType, TizcordPacket.setTimestamp, TizcordPacket.setSocialAction,
      TizcordPacket.setListId, TizcordPacket.setListIndex, TizcordPacket.setListTotal,
      TizcordPacket.setListFrame, TizcordPacket.setSocialStatus,
      TizcordPacket.setSocialTargetUserId, TizcordPacket.strncpySocialTargetUsername]
  · rw [TizcordPacket.socialStatusCode, TizcordPacket.setSocialStatusCode,
      Image.int32_putInt32_same _ _ _ (by decide)]
    dsimp only
    split <;> rfl

theorem friendRequestCb_sends (env : Env) (fd listId : Int) (process : Process)
    (row : FriendListRow) (index : Nat) :
    ∃ copy, CarriesFriend row copy ∧
      SendsList fd [copy] process (friendRequestCb env fd listId process (row, index)) := by
  rw [friendRequestCb]
  refine ⟨_, ⟨⟨request_of_socialAction ?_ ?_, ?_⟩, ?_, fun beyond => ?_, ?_⟩,
    sendsList_send env fd process _⟩
  · simp (disch := decide) only [TizcordPacket.setSocialTargetUserId,
      TizcordPacket.strncpySocialTargetUsername, TizcordPacket.setSocialStatusCode, type_putInt32,
      type_putInt64, type_strncpy, type_socialItemPacket]
  · have action := socialAction_socialItemPacket env process .listFriends listId index
    rw [TizcordPacket.socialAction] at action ⊢
    simp (disch := decide) [TizcordPacket.setSocialTargetUserId,
      TizcordPacket.strncpySocialTargetUsername, TizcordPacket.setSocialStatusCode, action]
  · rw [IsFrame]
    simp (disch := decide) only [TizcordPacket.setSocialTargetUserId,
      TizcordPacket.strncpySocialTargetUsername, TizcordPacket.setSocialStatusCode,
      listFrame_putInt32, listFrame_putInt64, listFrame_strncpy, listFrame_socialItemPacket]
  · simp (disch := decide) [TizcordPacket.socialTargetUserId, TizcordPacket.setSocialTargetUserId,
      TizcordPacket.strncpySocialTargetUsername, TizcordPacket.setSocialStatusCode]
  · refine Image.text_of_slice _ beyond (by decide) ?_
    rw [TizcordPacket.setSocialStatusCode, Image.slice_putInt32_disjoint _ _ _ _ _ (by decide)]
    refine Image.slice_strncpy_same _ _ _ _ (by decide) ?_
    simp (disch := decide) [socialItemPacket, Process.basePacket, createBasePacket,
      TizcordPacket.setType, TizcordPacket.setTimestamp, TizcordPacket.setSocialAction,
      TizcordPacket.setListId, TizcordPacket.setListIndex, TizcordPacket.setListTotal,
      TizcordPacket.setListFrame, TizcordPacket.setSocialTargetUserId]
  · rw [TizcordPacket.socialStatusCode, TizcordPacket.setSocialStatusCode,
      Image.int32_putInt32_same _ _ _ (by decide)]

theorem sendStatusUpdatePacket_carries (env : Env) (fd : Int) (code : ResponseCode) (userId : Int)
    (username : Text) (statusText : Option Text) (isOnline : Bool) (process : Process) :
    ∃ copy, CarriesStatus code userId (statusText.getD Text.empty) isOnline copy ∧
      sendStatusUpdatePacket env fd code userId username statusText isOnline process =
        process.send env fd copy := by
  refine ⟨_, ⟨request_of_socialAction ?_ ?_, ?_, ?_, fun beyond => ?_, ?_⟩, rfl⟩
  · cases statusText <;>
      simp (disch := decide) only [Option.elim_none, Option.elim_some,
        TizcordPacket.setSocialAction, TizcordPacket.setSocialStatus,
        TizcordPacket.setSocialTargetUserId, TizcordPacket.strncpySocialTargetUsername,
        TizcordPacket.strncpySocialTargetStatus, TizcordPacket.setSocialStatusCode, type_putInt32,
        type_putInt64, type_strncpy, type_basePacket]
  · cases statusText <;>
      simp (disch := decide) [TizcordPacket.socialAction, TizcordPacket.setSocialAction,
        TizcordPacket.setSocialStatus, TizcordPacket.setSocialTargetUserId,
        TizcordPacket.strncpySocialTargetUsername, TizcordPacket.strncpySocialTargetStatus,
        TizcordPacket.setSocialStatusCode] <;>
      rfl
  · cases statusText <;>
      simp (disch := decide) [TizcordPacket.socialStatusCode, TizcordPacket.setSocialAction,
        TizcordPacket.setSocialStatus, TizcordPacket.setSocialTargetUserId,
        TizcordPacket.strncpySocialTargetUsername, TizcordPacket.strncpySocialTargetStatus,
        TizcordPacket.setSocialStatusCode] <;>
      cases code <;> rfl
  · cases statusText <;>
      simp (disch := decide) [TizcordPacket.socialTargetUserId, TizcordPacket.setSocialAction,
        TizcordPacket.setSocialStatus, TizcordPacket.setSocialTargetUserId,
        TizcordPacket.strncpySocialTargetUsername, TizcordPacket.strncpySocialTargetStatus,
        TizcordPacket.setSocialStatusCode]
  · cases statusText with
    | none =>
      refine @Image.text_of_slice _ _ 88 0 Text.empty beyond (by decide) ?_
      simp (disch := decide) [Process.basePacket, createBasePacket, TizcordPacket.setType,
        TizcordPacket.setTimestamp, TizcordPacket.setSocialAction,
        TizcordPacket.setSocialStatusCode, TizcordPacket.setSocialStatus,
        TizcordPacket.setSocialTargetUserId, TizcordPacket.strncpySocialTargetUsername,
        strncpyBytes]
    | some statusText =>
      refine Image.text_of_slice _ beyond (by decide)
        (Image.slice_strncpy_same _ _ _ _ (by decide) ?_)
      simp (disch := decide) [Process.basePacket, createBasePacket, TizcordPacket.setType,
        TizcordPacket.setTimestamp, TizcordPacket.setSocialAction,
        TizcordPacket.setSocialStatusCode, TizcordPacket.setSocialStatus,
        TizcordPacket.setSocialTargetUserId, TizcordPacket.strncpySocialTargetUsername]
  · cases statusText <;>
      simp (disch := decide) [TizcordPacket.socialStatus, TizcordPacket.setSocialAction,
        TizcordPacket.setSocialStatus, TizcordPacket.setSocialTargetUserId,
        TizcordPacket.strncpySocialTargetUsername, TizcordPacket.strncpySocialTargetStatus,
        TizcordPacket.setSocialStatusCode] <;>
      cases isOnline <;> rfl

/-! ### Lists -/

/-- The list of all users is sent as a stream of its rows. -/
theorem sendUserList_sends (env : Env) (fd listId : Int) (process : Process) :
    ∃ copies, IsStream (IsSocialFrame .listUsers .start) (IsSocialFrame .listUsers .end)
        (CarriesUser process.ctx)
        (dbListAllUsers (env.db (process.clock + 1)) process.ctx.db).1 copies ∧
      SendsList fd copies process (sendUserList env fd listId process) := by
  unfold sendUserList
  dsimp only
  have opened : IsSocialFrame .listUsers .start
      (socialStartPacket env process .listUsers listId) :=
    ⟨socialStartPacket_request .., listFrame_setListFrame _ .start⟩
  have closed : ∀ other total, IsSocialFrame .listUsers .end
      (socialEndPacket env other .listUsers listId total) := fun other total =>
    ⟨socialEndPacket_request .., listFrame_setListFrame _ .end⟩
  exact sendsList_stream opened (fun other row index same =>
    same ▸ userListCb_sends env fd listId other row index) fun other => closed other _

/-- The packets are a list of these friends: one packet for each between a first one and a last one,
which tells how many there are. -/
def IsFriendList (rows : List FriendListRow) (copies : List TizcordPacket) : Prop :=
  IsStream (IsSocialFrame .listFriends .start) (ClosesList .listFriends rows.length) CarriesFriend
    rows copies

theorem socialEndPacket_listTotal (env : Env) (process : Process) (action : SocialAction)
    (listId : Int) (total : Nat) :
    (socialEndPacket env process action listId total).listTotal = signed 32 total := by
  rw [socialEndPacket]
  simp (disch := decide) [TizcordPacket.listTotal, TizcordPacket.setSocialAction,
    TizcordPacket.setListId, TizcordPacket.setListTotal, TizcordPacket.setListFrame]

/-- A friend list is sent as a stream of its rows. -/
theorem sendFriendList_sends (env : Env) (fd userId : Int) (process : Process) :
    ∃ copies, IsFriendList
        (dbListFriendRequests (env.db (process.clock + 1)) process.ctx.db userId).1 copies ∧
      SendsList fd copies process (sendFriendList env fd userId process) := by
  unfold sendFriendList
  dsimp only
  have opened : IsSocialFrame .listFriends .start
      (socialStartPacket env process .listFriends userId) :=
    ⟨socialStartPacket_request .., listFrame_setListFrame _ .start⟩
  have closed : ∀ other total, ClosesList .listFriends total
      (socialEndPacket env other .listFriends userId total) := fun other total =>
    ⟨⟨socialEndPacket_request .., listFrame_setListFrame _ .end⟩, socialEndPacket_listTotal ..⟩
  exact sendsList_stream opened (fun other row index _ =>
    friendRequestCb_sends env fd userId other row index) fun other => closed other _

theorem sendActionResponse_sends (env : Env) (fd : Int) (type : PacketType) (action : Int)
    (status : ResponseCode) (process : Process) :
    ∃ copies, SendsList fd copies process
      (sendActionResponse env fd type action status process) := by
  rw [sendActionResponse, sendPacketToClient]
  split
  · exact ⟨[], .idle rfl rfl⟩
  · exact ⟨_, sendsList_send env fd process _⟩

end Rows

end Tizcord
