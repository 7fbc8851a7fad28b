/-
This file says which topics the handling of a packet sends packets about. What a
client knows of the users, of its friends and of the members of a server changes
with packets about these, and with the notice that its session has ended.
-/

import Tizcord.Server.ListPackets
import Tizcord.Server.SocialPackets

namespace Tizcord

open CModel

/-! ### What is logged -/

/-- The process logs allowed effects only. -/
def LogsOnly (allowed : Effect → Prop) : Process → Process → Prop :=
  Takes (fun _ => ()) Process.trace fun _ effects _ => ∀ effect ∈ effects, allowed effect

section Logging

variable {allowed weaker : Effect → Prop} {before middle after : Process}

theorem LogsOnly.refl (process : Process) : LogsOnly allowed process process :=
  Takes.refl process

theorem LogsOnly.trans (first : LogsOnly allowed before middle)
    (second : LogsOnly allowed middle after) : LogsOnly allowed before after :=
  Takes.trans first second

theorem LogsOnly.idle (logged : after.trace = before.trace) : LogsOnly allowed before after :=
  Takes.idle rfl logged

theorem LogsOnly.gain {effects : List Effect} (logged : after.trace = before.trace ++ effects)
    (permitted : ∀ effect ∈ effects, allowed effect) : LogsOnly allowed before after :=
  Takes.single logged permitted

theorem LogsOnly.single {effect : Effect} (logged : after.trace = before.trace ++ [effect])
    (permitted : allowed effect) : LogsOnly allowed before after :=
  .gain logged (List.forall_mem_singleton.mpr permitted)

theorem LogsOnly.gained (logs : LogsOnly allowed before after) :
    ∃ effects, after.trace = before.trace ++ effects ∧ ∀ effect ∈ effects, allowed effect := by
  obtain ⟨effects, logged, steps⟩ := logs
  exact ⟨effects, logged, steps.events_of_invariant (fun _ => True) (fun _ _ => trivial)
    (fun step _ => step) trivial⟩

theorem LogsOnly.grown (logs : LogsOnly allowed before after) :
    before.trace <+: after.trace := by
  obtain ⟨effects, logged, -⟩ := logs
  exact ⟨effects, logged.symm⟩

theorem LogsOnly.mono (logs : LogsOnly allowed before after)
    (permits : ∀ effect, allowed effect → weaker effect) : LogsOnly weaker before after := by
  obtain ⟨effects, logged, each⟩ := logs.gained
  exact .gain logged fun effect member => permits effect (each effect member)

theorem LogsOnly.modifyClient (process : Process) (index : Nat)
    (update : ClientNode → ClientNode) : LogsOnly allowed process (process.modifyClient index update) :=
  .idle rfl

theorem LogsOnly.foldl {Item : Type} {body : Process → Item → Process}
    (logs : ∀ process item, LogsOnly allowed process (body process item)) (items : List Item)
    (process : Process) : LogsOnly allowed process (items.foldl body process) :=
  Takes.foldl (fun _ => True) (fun _ _ => trivial) (fun process item _ => logs process item) _ _
    trivial

theorem LogsOnly.forClients {body : Nat → ClientNode → Process → Process}
    (logs : ∀ index node process, LogsOnly allowed process (body index node process))
    (process : Process) : LogsOnly allowed process (process.forClients body) :=
  .foldl (fun process index => logs index (Process.clientAt process index) process) _ _

end Logging

/-! ### Topics -/

/-- What a packet for a client can tell about. -/
inductive Topic where
  | session
  | users
  | friends
  | members
  deriving DecidableEq

def Request.topic : Request → Option Topic
  | .auth .logout => some .session
  | .social .listUsers | .social .updateStatus => some .users
  | .social .listFriends => some .friends
  | .server .listMembers => some .members
  | _ => none

def TizcordPacket.topic (packet : TizcordPacket) : Option Topic :=
  packet.request.bind Request.topic

/-- The topics that the handling of a request sends packets about. -/
def topicsOf : Option Request → List Topic
  | some (.auth _) => [.session, .users, .members]
  | some (.server .join) | some (.server .leave) | some (.server .listMembers) => [.members]
  | some (.social .listUsers) | some (.social .updateStatus) => [.users]
  | some (.social _) => [.friends]
  | _ => []

/-- The handling of a request can send packets about the topic of the request. -/
theorem topic_subset (request : Request) :
    ∀ topic, request.topic = some topic → topic ∈ topicsOf (some request) := by
  intro topic about
  cases request with
  | dm | channel => cases about
  | auth action =>
    cases action <;> cases about
    decide
  | server action =>
    cases action <;> cases about
    decide
  | social action => cases action <;> cases about <;> decide

/-- The end of a session is told by the handling of requests about sessions only. -/
theorem auth_of_session {request : Option Request} (asked : .session ∈ topicsOf request) :
    ∃ action, request = some (.auth action) := by
  cases request with
  | none => exact absurd asked List.not_mem_nil
  | some request =>
    cases request with
    | auth action => exact ⟨action, rfl⟩
    | dm | channel => exact absurd asked List.not_mem_nil
    | server action => cases action <;> exact absurd asked (by decide)
    | social action => cases action <;> exact absurd asked (by decide)

/-- The effect opens no connection, begins to handle no packet, and sends no packet about other
topics than these. -/
def Effect.AboutOnly (topics : List Topic) : Effect → Prop
  | .accepted .. | .handling .. => False
  | .sent _ packet _ _ => ∀ topic, packet.topic = some topic → topic ∈ topics
  | _ => True

/-- The process sends packets about these topics only. -/
def Emits (topics : List Topic) : Process → Process → Prop :=
  LogsOnly (Effect.AboutOnly topics)

section Emitting

variable {env : Env} {topics : List Topic} {before middle after process : Process}

theorem Emits.send (env : Env) (fd : Int) (process : Process) {packet : TizcordPacket}
    (about : ∀ topic, packet.topic = some topic → topic ∈ topics) :
    Emits topics process (process.send env fd packet) :=
  .single (rfl : _ = process.trace ++ [_]) about

theorem Emits.change {Result : Type} (env : Env) (process : Process)
    (operation : DbEnv → Database → Database × Result) (call : Result → DbCall) :
    Emits topics process (process.change env operation call).1 :=
  .single (rfl : _ = process.trace ++ [_]) trivial

/-! ### Packets -/

theorem topic_of_request {packet : TizcordPacket} {request : Request}
    (asked : packet.request = some request) : packet.topic = request.topic := by
  rw [TizcordPacket.topic, asked, Option.bind_some]

/-- A packet about a chat is about none of the topics. -/
theorem topic_of_type {packet : TizcordPacket} {type : PacketType}
    (announced : packet.type = type.code) (chat : type = .dm ∨ type = .channel) :
    packet.topic = none := by
  have decoded : PacketType.ofCode packet.type = some type := by
    rw [announced, PacketType.ofCode_code]
  rw [TizcordPacket.topic, TizcordPacket.request_of_type decoded]
  rcases chat with rfl | rfl <;> rw [TizcordPacket.requestOfType]
  · cases DMAction.ofCode packet.dmAction <;> rfl
  · cases ChannelAction.ofCode packet.channelAction <;> rfl

theorem Emits.send_of_type (env : Env) (fd : Int) (process : Process) {packet : TizcordPacket}
    {type : PacketType} (announced : packet.type = type.code)
    (chat : type = .dm ∨ type = .channel) :
    Emits topics process (process.send env fd packet) := by
  refine .send env fd process fun topic about => ?_
  rw [topic_of_type announced chat] at about
  cases about

theorem sendPacketToClient_emits (env : Env) (fd : Int) (process : Process)
    {packet : TizcordPacket} (about : ∀ topic, packet.topic = some topic → topic ∈ topics) :
    Emits topics process (sendPacketToClient env fd packet process).1 := by
  rw [sendPacketToClient]
  split
  · exact .refl process
  · exact .send env fd process about

theorem request_actionResponse_server (action status : Int) :
    (actionResponse .server action status).request =
      (ServerAction.ofCode (signed 32 action)).map .server := by
  have decoded : PacketType.ofCode (actionResponse .server action status).type = some .server := by
    rw [type_actionResponse, PacketType.ofCode_code]
  rw [TizcordPacket.request_of_type decoded, TizcordPacket.requestOfType]
  simp (disch := decide) [actionResponse, TizcordPacket.serverAction,
    TizcordPacket.setServerAction, TizcordPacket.setServerStatusCode]

theorem serverStatusCode_actionResponse (action : ServerAction) (status : ResponseCode) :
    (actionResponse .server action.code status.code).serverStatusCode = status.code := by
  have statusCode : signed 32 status.code = status.code := by cases status <;> rfl
  simp (disch := decide) [actionResponse, TizcordPacket.serverStatusCode,
    TizcordPacket.setServerAction, TizcordPacket.setServerStatusCode, statusCode]

theorem request_actionResponse_social (action status : Int) :
    (actionResponse .social action status).request =
      (SocialAction.ofCode (signed 32 action)).map .social := by
  have decoded : PacketType.ofCode (actionResponse .social action status).type = some .social := by
    rw [type_actionResponse, PacketType.ofCode_code]
  rw [TizcordPacket.request_of_type decoded, TizcordPacket.requestOfType]
  simp (disch := decide) [actionResponse, TizcordPacket.socialAction,
    TizcordPacket.setSocialAction, TizcordPacket.setSocialStatusCode]

theorem serverResponse_emits (env : Env) (fd : Int) (action : ServerAction)
    (status : ResponseCode) (process : Process)
    (about : ∀ topic, Request.topic (.server action) = some topic → topic ∈ topics) :
    Emits topics process (serverResponse env fd action status process) := by
  have answered := request_actionResponse_server action.code status.code
  rw [action.ofCode_signed_code] at answered
  exact sendPacketToClient_emits env fd process ((topic_of_request answered).symm ▸ about)

/-! ### Servers and their members -/

variable {process : Process} {index : Nat}

theorem sendListItems_emits (env : Env) (fd : Int) {action : ServerAction} (listId : Int)
    (total index : Nat) (items : List ListItem) (process : Process)
    (about : ∀ topic, Request.topic (.server action) = some topic → topic ∈ topics) :
    Emits topics process
      (sendListItems env fd .server action.code listId total index items process).1 := by
  induction items generalizing index process with
  | nil => exact .refl process
  | cons item rest inductionHypothesis =>
    cases made : listItemPacket .server action.code listId total index item with
    | none => cases made
    | some packet =>
      have carries := listItemPacket_carries made
      have asked := TizcordPacket.request_of_serverAction carries.type carries.action
      have head : Emits topics process (sendPacketToClient env fd packet process).1 :=
        sendPacketToClient_emits env fd process ((topic_of_request asked).symm ▸ about)
      rw [sendListItems, made]
      dsimp only
      split
      · exact head
      · exact head.trans (inductionHypothesis _ _)

theorem serverListReply_emits (env : Env) (fd : Int) {action : ServerAction} (status : Int)
    (items : List ListItem) (process : Process)
    (about : ∀ topic, Request.topic (.server action) = some topic → topic ∈ topics) :
    Emits topics process (serverListReply env fd action status items process) := by
  have sent : Emits topics process (sendListResponse env fd .server action.code items process).1 := by
    have allocated : Emits topics process (allocateListId process).1 := .idle rfl
    rw [sendListResponse]
    split
    · exact .refl process
    · dsimp only
      split
      · cases made : emptyListPacket .server action.code (allocateListId process).2 with
        | none => cases made
        | some packet =>
          have carries := emptyListPacket_carries made
          have asked := TizcordPacket.request_of_serverAction carries.type carries.action
          dsimp only
          exact allocated.trans (sendPacketToClient_emits env fd _
            ((topic_of_request asked).symm ▸ about))
      · exact allocated.trans (sendListItems_emits env fd _ _ _ _ _ about)
  rw [serverListReply]
  split
  · exact serverResponse_emits env fd action _ process about
  · dsimp only
    split
    · exact sent.trans (serverResponse_emits env fd action _ _ about)
    · exact sent

theorem no_topic_server {action : ServerAction} (other : action ≠ .listMembers) :
    ∀ topic, Request.topic (.server action) = some topic → topic ∈ topics := by
  intro topic about
  cases action <;> first | exact absurd rfl other | cases about

theorem topic_members (asked : .members ∈ topics) :
    ∀ topic, Request.topic (.server .listMembers) = some topic → topic ∈ topics :=
  fun _ about => Option.some.inj about ▸ asked

theorem listMembers_emits (env : Env) (index : Nat) (serverId : Int) (process : Process)
    (asked : .members ∈ topics) :
    Emits topics process (listMembers env index serverId process) := by
  unfold listMembers
  dsimp only
  split
  · exact serverResponse_emits env _ _ _ process (topic_members asked)
  · split
    · exact serverResponse_emits env _ _ _ process (topic_members asked)
    · have looked : Emits topics process (process.modifyClient index fun node =>
          { node with currentServerIndex := signed 32 serverId }).tick := .idle rfl
      exact looked.trans (serverListReply_emits env _ _ _ _ (topic_members asked))

theorem notifyServerMemberList_emits (env : Env) (serverId : Int) (process : Process)
    (asked : .members ∈ topics) :
    Emits topics process (notifyServerMemberList env serverId process) := by
  unfold notifyServerMemberList
  split
  · exact .refl process
  · refine LogsOnly.forClients (fun index node process => ?_) process
    split
    · exact .refl process
    · split
      · exact .refl process
      · exact listMembers_emits env index serverId process asked

theorem notifyServerMemberListsForUser_emits (env : Env) (userId : Int) (process : Process)
    (asked : .members ∈ topics) :
    Emits topics process (notifyServerMemberListsForUser env userId process) := by
  unfold notifyServerMemberListsForUser
  split
  · exact .refl process
  · have ticked : Emits topics process process.tick := .idle rfl
    exact ticked.trans (LogsOnly.foldl (fun process (row : ServerListRow) =>
      notifyServerMemberList_emits env row.serverId process asked) _ _)

/-- The requests about servers send the members of a server where the members can change. -/
theorem handleServerAction_emits (env : Env) (beyond : List UInt8) (index : Nat)
    (packet : TizcordPacket) (process : Process) (action : ServerAction)
    (asked : action ∈ [.join, .leave, .listMembers] → .members ∈ topics) :
    Emits topics process (handleServerAction env beyond index packet process (some action)) := by
  have response : ∀ (fd : Int) {action : ServerAction} (status : ResponseCode) (process : Process),
      action ≠ .listMembers → Emits topics process (serverResponse env fd action status
        process) := fun fd action status process other =>
    serverResponse_emits env fd action status process (no_topic_server other)
  have ticked : ∀ process : Process, Emits topics process process.tick := fun _ => .idle rfl
  cases action <;> rw [handleServerAction]
  case join =>
    unfold joinTizcordServer
    dsimp only
    split
    · exact response _ _ _ (by decide)
    · split
      · exact response _ _ _ (by decide)
      · split
        · exact (Emits.change env _ _ _).trans ((response _ _ _ (by decide)).trans
            (notifyServerMemberList_emits env _ _ (asked (by decide))))
        · exact (Emits.change env _ _ _).trans (response _ _ _ (by decide))
  case leave =>
    unfold leaveTizcordServer
    dsimp only
    split
    · exact response _ _ _ (by decide)
    · split
      · exact response _ _ _ (by decide)
      · split
        · refine Takes.trans ?_ ((response _ _ _ (by decide)).trans
            (notifyServerMemberList_emits env _ _ (asked (by decide))))
          split
          · exact (Emits.change env _ _ _).trans (LogsOnly.modifyClient _ _ _)
          · exact Emits.change env _ _ _
        · exact (Emits.change env _ _ _).trans (response _ _ _ (by decide))
  case create =>
    unfold createTizcordServer
    dsimp only
    split
    · exact response _ _ _ (by decide)
    · split
      · exact response _ _ _ (by decide)
      · split <;> exact (Emits.change env _ _ _).trans (response _ _ _ (by decide))
  case delete =>
    unfold deleteTizcordServer
    dsimp only
    split
    · exact response _ _ _ (by decide)
    · split
      · exact response _ _ _ (by decide)
      · refine (ticked _).trans ?_
        split
        · exact response _ _ _ (by decide)
        · split <;> exact (Emits.change env _ _ _).trans (response _ _ _ (by decide))
  case list =>
    unfold listTizcordServers
    dsimp only
    split
    · exact response _ _ _ (by decide)
    · exact (ticked _).trans (serverListReply_emits env _ _ _ _ (no_topic_server (by decide)))
  case listChannels =>
    unfold listTizcordChannels
    dsimp only
    split
    · exact response _ _ _ (by decide)
    · split
      · exact response _ _ _ (by decide)
      · exact (ticked _).trans (serverListReply_emits env _ _ _ _ (no_topic_server (by decide)))
  case listMembers => exact listMembers_emits env index _ process (asked (by decide))
  case listJoined =>
    unfold listJoinedServers
    dsimp only
    split
    · exact response _ _ _ (by decide)
    · exact (ticked _).trans (serverListReply_emits env _ _ _ _ (no_topic_server (by decide)))
  case kickMember =>
    unfold kickServerMember
    dsimp only
    split
    · exact response _ _ _ (by decide)
    · split
      · exact response _ _ _ (by decide)
      · refine (ticked _).trans ?_
        split
        · exact response _ _ _ (by decide)
        · split <;> exact (Emits.change env _ _ _).trans (response _ _ _ (by decide))

/-! ### Users and friends -/

theorem SendsList.logs {fd : Int} {copies : List TizcordPacket} {allowed : Effect → Prop}
    (sent : SendsList fd copies before after)
    (permitted : ∀ copy ∈ copies, ∀ status user, allowed (.sent fd copy status user)) :
    LogsOnly allowed before after := by
  obtain ⟨effects, logged, delivers⟩ := sent.gained
  refine .gain logged fun effect member => ?_
  obtain ⟨place, inside, rfl⟩ := List.getElem_of_mem member
  have insideToo : place < copies.length := delivers.length_eq.symm ▸ inside
  obtain ⟨_, same⟩ := (List.forall₂_iff_get.mp delivers).2 place insideToo inside
  rw [List.get_eq_getElem, List.get_eq_getElem] at same
  rw [same]
  exact permitted _ (List.getElem_mem insideToo) _ _

theorem SendsList.grown {fd : Int} {copies : List TizcordPacket}
    (sent : SendsList fd copies before after) : before.trace <+: after.trace := by
  obtain ⟨effects, logged, -⟩ := sent.gained
  exact ⟨effects, logged.symm⟩

/-- What sends packets that all answer one request sends packets about its topic only. -/
theorem SendsList.emits {fd : Int} {copies : List TizcordPacket} {request : Request}
    (sent : SendsList fd copies before after)
    (asked : ∀ copy ∈ copies, copy.request = some request)
    (about : ∀ topic, request.topic = some topic → topic ∈ topics) : Emits topics before after := by
  refine sent.logs fun copy member _ _ => ?_
  rw [Effect.AboutOnly, topic_of_request (asked copy member)]
  exact about

/-- In a stream of social rows all packets are about one action. -/
theorem IsStream.request {Row : Type} {action : SocialAction}
    {carries : Row → TizcordPacket → Prop} {rows : List Row} {copies : List TizcordPacket}
    {closes : TizcordPacket → Prop}
    (stream : IsStream (IsSocialFrame action .start) closes carries rows copies)
    (carried : ∀ row copy, carries row copy → copy.request = some (.social action))
    (closed : ∀ copy, closes copy → copy.request = some (.social action)) :
    ∀ copy ∈ copies, copy.request = some (.social action) := by
  obtain ⟨first, items, last, rfl, opens, each, closes⟩ := stream.split
  intro copy member
  rcases List.mem_cons.mp member with rfl | later
  · exact opens.request
  · rcases List.mem_append.mp later with item | final
    · obtain ⟨place, inside, rfl⟩ := List.getElem_of_mem item
      have insideToo : place < rows.length := each.length_eq.symm ▸ inside
      exact carried _ _ ((List.forall₂_iff_get.mp each).2 place insideToo inside)
    · rw [List.mem_singleton.mp final]
      exact closed _ closes

theorem sendUserList_emits (env : Env) (fd listId : Int) (process : Process)
    (asked : .users ∈ topics) : Emits topics process (sendUserList env fd listId process) := by
  obtain ⟨copies, stream, sent⟩ := sendUserList_sends env fd listId process
  exact sent.emits
    (stream.request (fun _ _ carries => carries.request) fun _ closes => closes.request)
    fun _ about => Option.some.inj about ▸ asked

theorem sendFriendList_emits (env : Env) (fd userId : Int) (process : Process)
    (asked : .friends ∈ topics) : Emits topics process (sendFriendList env fd userId process) := by
  obtain ⟨copies, stream, sent⟩ := sendFriendList_sends env fd userId process
  exact sent.emits
    (stream.request (fun _ _ carries => carries.request) fun _ closes => closes.request)
    fun _ about => Option.some.inj about ▸ asked

theorem notifyAllUserLists_emits (env : Env) (process : Process) (asked : .users ∈ topics) :
    Emits topics process (notifyAllUserLists env process) := by
  unfold notifyAllUserLists
  refine LogsOnly.forClients (fun _ node process => ?_) process
  split
  · exact .refl process
  · exact sendUserList_emits env _ _ process asked

theorem notifyFriendListUpdate_emits (env : Env) (userId : Int) (process : Process)
    (asked : .friends ∈ topics) :
    Emits topics process (notifyFriendListUpdate env userId process) := by
  unfold notifyFriendListUpdate
  split
  · exact .refl process
  · exact sendFriendList_emits env _ _ process asked

theorem socialResponse_emits (env : Env) (fd : Int) {action : SocialAction}
    (other : Request.topic (.social action) = none) (status : ResponseCode) (process : Process) :
    Emits topics process (socialResponse env fd action status process) := by
  have answered := request_actionResponse_social action.code status.code
  rw [action.ofCode_signed_code] at answered
  refine sendPacketToClient_emits env fd process fun topic about => ?_
  rw [topic_of_request answered, other] at about
  cases about

theorem findTargetUser_emits (env : Env) (name : Text) (process : Process) :
    Emits topics process (findTargetUser env name process).1 :=
  .single (rfl : _ = process.trace ++ [_]) trivial

theorem friendRequest_emits (env : Env) (client : ClientNode) (name : Text) (process : Process)
    (asked : .friends ∈ topics) :
    Emits topics process (friendRequest env client name process) := by
  unfold friendRequest
  dsimp only
  refine (findTargetUser_emits env name process).trans ?_
  cases (findTargetUser env name process).2 with
  | none => exact socialResponse_emits env _ rfl _ _
  | some friendId =>
    dsimp only
    split
    · exact socialResponse_emits env _ rfl _ _
    · split
      · exact (Emits.change env _ _ _).trans (socialResponse_emits env _ rfl _ _)
      · split
        · exact (Emits.change env _ _ _).trans (socialResponse_emits env _ rfl _ _)
        · split
          · exact (Emits.change env _ _ _).trans ((socialResponse_emits env _ rfl _ _).trans
              ((notifyFriendListUpdate_emits env _ _ asked).trans
                (notifyFriendListUpdate_emits env _ _ asked)))
          · exact (Emits.change env _ _ _).trans ((socialResponse_emits env _ rfl _ _).trans
              (notifyFriendListUpdate_emits env _ _ asked))

theorem friendAccept_emits (env : Env) (client : ClientNode) (name : Text) (process : Process)
    (asked : .friends ∈ topics) :
    Emits topics process (friendAccept env client name process) := by
  unfold friendAccept
  dsimp only
  refine (findTargetUser_emits env name process).trans ?_
  cases (findTargetUser env name process).2 with
  | none => exact socialResponse_emits env _ rfl _ _
  | some friendId =>
    dsimp only
    split
    · exact (Emits.change env _ _ _).trans (socialResponse_emits env _ rfl _ _)
    · split
      · exact (Emits.change env _ _ _).trans (socialResponse_emits env _ rfl _ _)
      · exact (Emits.change env _ _ _).trans ((socialResponse_emits env _ rfl _ _).trans
          (notifyFriendListUpdate_emits env _ _ asked))

theorem friendUnlink_emits (env : Env) (client : ClientNode) {action : SocialAction}
    (other : Request.topic (.social action) = none)
    (operation : DbEnv → Database → Int → Int → Database × Int) (call : Int → Int → Int → DbCall)
    (name : Text) (process : Process) (asked : .friends ∈ topics) :
    Emits topics process (friendUnlink env client action operation call name process) := by
  unfold friendUnlink
  dsimp only
  refine (findTargetUser_emits env name process).trans ?_
  cases (findTargetUser env name process).2 with
  | none => exact socialResponse_emits env _ other _ _
  | some friendId =>
    dsimp only
    split
    · exact (Emits.change env _ _ _).trans (socialResponse_emits env _ other _ _)
    · exact (Emits.change env _ _ _).trans ((socialResponse_emits env _ other _ _).trans
        (notifyFriendListUpdate_emits env _ _ asked))

theorem sendStatusUpdatePacket_emits (env : Env) (fd : Int) (code : ResponseCode) (userId : Int)
    (username : Text) (statusText : Option Text) (isOnline : Bool) (process : Process)
    (asked : .users ∈ topics) : Emits topics process
      (sendStatusUpdatePacket env fd code userId username statusText isOnline process) := by
  obtain ⟨copy, carries, sent⟩ :=
    sendStatusUpdatePacket_carries env fd code userId username statusText isOnline process
  rw [sent]
  refine Emits.send env fd process fun topic about => ?_
  rw [topic_of_request carries.request] at about
  exact Option.some.inj about ▸ asked

theorem notifyUserStatusUpdate_emits (env : Env) (userId : Int) (username statusText : Text)
    (process : Process) (asked : .users ∈ topics) :
    Emits topics process (notifyUserStatusUpdate env userId username statusText process) := by
  unfold notifyUserStatusUpdate
  refine LogsOnly.forClients (fun _ node process => ?_) process
  split
  · exact sendStatusUpdatePacket_emits env _ _ _ _ _ _ process asked
  · exact .refl process

theorem updateStatus_emits (env : Env) (beyond : List UInt8) (client : ClientNode)
    (packet : TizcordPacket) (process : Process) (asked : .users ∈ topics) :
    Emits topics process (updateStatus env beyond client packet process) := by
  unfold updateStatus
  split
  · exact sendStatusUpdatePacket_emits env _ _ _ _ _ _ process asked
  · dsimp only
    split
    · exact (Emits.change env _ _ _).trans
        (sendStatusUpdatePacket_emits env _ _ _ _ _ _ _ asked)
    · exact (Emits.change env _ _ _).trans (notifyUserStatusUpdate_emits env _ _ _ _ asked)

/-- The requests between users send packets about users, or about friends. -/
theorem handleSocialAction_emits (env : Env) (beyond : List UInt8) (client : ClientNode)
    (packet : TizcordPacket) (process : Process) (action : SocialAction)
    (users : action ∈ [.listUsers, .updateStatus] → .users ∈ topics)
    (friends : action ∉ [.listUsers, .updateStatus] → .friends ∈ topics) :
    Emits topics process (handleSocialAction env beyond client packet process (some action)) := by
  cases action <;> rw [handleSocialAction]
  case friendRequest => exact friendRequest_emits env client _ process (friends (by decide))
  case friendAccept => exact friendAccept_emits env client _ process (friends (by decide))
  case listFriends => exact sendFriendList_emits env _ _ process (friends (by decide))
  case friendRemove =>
    exact friendUnlink_emits env client rfl _ _ _ process (friends (by decide))
  case friendReject =>
    exact friendUnlink_emits env client rfl _ _ _ process (friends (by decide))
  case listUsers => exact sendUserList_emits env _ _ process (users (by decide))
  case updateStatus => exact updateStatus_emits env beyond client packet process (users (by decide))

/-! ### Chat and authentication -/

theorem ChannelReply.emits {action : ChannelAction} {answer : TizcordPacket}
    (reply : ChannelReply action answer) (env : Env) (fd : Int) (process : Process) :
    Emits topics process (process.send env fd answer) :=
  .send_of_type env fd process reply.1 (Or.inr rfl)

/-- A stream of rows of a chat is about none of the topics. -/
theorem emits_stream {Row : Type} {callback : Process → Row → Process} {rows : List Row}
    {first : TizcordPacket} {last : Process → TizcordPacket} {type : PacketType}
    (chat : type = .dm ∨ type = .channel) (env : Env) (fd : Int)
    (opens : first.type = type.code) (row : ∀ process item, ∃ copy,
      callback process item = process.send env fd copy ∧ copy.type = type.code)
    (closes : ∀ process, (last process).type = type.code) (process : Process) :
    Emits topics process ((rows.foldl callback (process.send env fd first).tick).send env fd
      (last (rows.foldl callback (process.send env fd first).tick))) := by
  have ticked : Emits topics (process.send env fd first) (process.send env fd first).tick := .idle rfl
  have each : ∀ process item, Emits topics process (callback process item) := by
    intro process item
    obtain ⟨copy, sent, announced⟩ := row process item
    rw [sent]
    exact .send_of_type env fd process announced chat
  exact ((Emits.send_of_type env fd process opens chat).trans ticked).trans
    ((LogsOnly.foldl each rows _).trans (Emits.send_of_type env fd _ (closes _) chat))

theorem channelBroadcast_emits (env : Env) (fd : Int) (process : Process) {packet : TizcordPacket}
    (announced : packet.type = PacketType.channel.code) :
    Emits topics process (channelBroadcast env packet fd process) := by
  unfold channelBroadcast
  refine LogsOnly.forClients (fun _ node process => ?_) process
  split
  · exact Emits.send_of_type env _ process announced (Or.inr rfl)
  · exact .refl process

theorem type_stampChannelMessage (sender : Option ClientNode) (packet : TizcordPacket) :
    (stampChannelMessage sender packet).type = packet.type := by
  cases sender with
  | none => rfl
  | some node => exact (type_strncpy _ _ _ _ (by decide)).trans (type_putInt64 _ _ _ (by decide))

theorem type_stampDirectMessage (sender : Option ClientNode) (packet : TizcordPacket) :
    (stampDirectMessage sender packet).type = packet.type := by
  cases sender with
  | none => rfl
  | some node => exact type_putInt64 _ _ _ (by decide)

theorem channelCreate_emits (env : Env) (beyond : List UInt8) (fd : Int) (packet : TizcordPacket)
    (process : Process) : Emits topics process (channelCreate env beyond packet fd process) := by
  have reply : ChannelReply .create (((process.basePacket env .channel).setChannelAction
      ChannelAction.create.code).setChannelServerId packet.channelServerId) :=
    (ChannelReply.base env process .create).store 40 (by decide)
  have ticked : Emits topics process process.tick := .idle rfl
  unfold channelCreate
  dsimp only
  split
  · exact (reply.store 48 (by decide)).emits env fd process
  · refine ticked.trans ?_
    split
    · exact (reply.store 48 (by decide)).emits env fd process.tick
    · split
      · exact (Emits.change env _ _ _).trans ((reply.store 48 (by decide)).emits env fd _)
      · exact (Emits.change env _ _ _).trans ((((reply.store 48 (by decide)).store 56
          (by decide)).store 64 (by decide)).emits env fd _)

theorem channelDelete_emits (env : Env) (fd : Int) (packet : TizcordPacket) (process : Process) :
    Emits topics process (channelDelete env packet fd process) := by
  have reply : ChannelReply .delete (((process.basePacket env .channel).setChannelAction
      ChannelAction.delete.code).setChannelChannelId packet.channelChannelId) :=
    (ChannelReply.base env process .delete).store 56 (by decide)
  have answer : ∀ (code : ResponseCode) (other : Process),
      Emits topics other (other.send env fd ((((process.basePacket env .channel).setChannelAction
        ChannelAction.delete.code).setChannelChannelId
          packet.channelChannelId).setChannelStatusCode code.code)) :=
    fun code other => (reply.store 48 (by decide)).emits env fd other
  have ticked : ∀ process : Process, Emits topics process process.tick := fun _ => .idle rfl
  unfold channelDelete
  dsimp only
  split
  · exact answer .errInternal process
  · refine (ticked process).trans ?_
    split
    · exact answer .errNotFound process.tick
    · refine (ticked process.tick).trans ?_
      split
      · exact answer .errUnauthorized process.tick.tick
      · split
        · exact (Emits.change env _ _ _).trans (answer .ok _)
        · exact (Emits.change env _ _ _).trans (answer .errDb _)

theorem type_channelFramePacket (env : Env) (process : Process) (listId : Int)
    (frame : ListFrameType) :
    (channelFramePacket env process listId frame).type = PacketType.channel.code := by
  simp (disch := decide) only [channelFramePacket, TizcordPacket.setChannelAction,
    TizcordPacket.setListId, TizcordPacket.setListFrame, type_putInt32, type_basePacket]

theorem type_dmFramePacket (env : Env) (process : Process) (friendId : Int)
    (frame : ListFrameType) :
    (dmFramePacket env process friendId frame).type = PacketType.dm.code := by
  simp (disch := decide) only [dmFramePacket, TizcordPacket.setDmAction,
    TizcordPacket.setDmRecipientId, TizcordPacket.setListId, TizcordPacket.setListFrame,
    type_putInt32, type_basePacket]

theorem channelHistory_emits (env : Env) (fd : Int) (packet : TizcordPacket) (process : Process) :
    Emits topics process (channelHistory env packet fd process) := by
  unfold channelHistory
  dsimp only
  refine emits_stream (Or.inr rfl) env fd (type_channelFramePacket ..)
    (fun process item => ⟨_, rfl, ?_⟩) (fun process => type_channelFramePacket ..) process
  simp (disch := decide) only [TizcordPacket.setChannelAction, TizcordPacket.setListId,
    TizcordPacket.setListIndex, TizcordPacket.setListFrame, TizcordPacket.setChannelChannelId,
    TizcordPacket.setChannelMessageId, TizcordPacket.setTimestamp,
    TizcordPacket.strncpyChannelChannelName, TizcordPacket.strncpyChannelMessage, type_putInt32,
    type_putInt64, type_strncpy, type_basePacket]

theorem handleChannelMessage_emits (env : Env) (beyond : List UInt8) (fd : Int)
    (process : Process) {packet : TizcordPacket}
    (announced : packet.type = PacketType.channel.code) :
    Emits topics process (handleChannelMessage env beyond packet fd process) := by
  rw [handleChannelMessage]
  cases ChannelAction.ofCode packet.channelAction with
  | none => exact .refl process
  | some action =>
    cases action <;> rw [handleChannelAction]
    case message =>
      unfold channelMessage
      dsimp only
      have sent : ∀ sender, Emits topics process
          (channelBroadcast env (stampChannelMessage sender packet) (-1) process) := fun sender =>
        channelBroadcast_emits env _ process ((type_stampChannelMessage _ _).trans announced)
      cases senderNode process.ctx fd with
      | none => exact sent none
      | some node => exact (sent (some node)).trans (Emits.change env _ _ _)
    case create => exact channelCreate_emits env beyond fd packet process
    case delete => exact channelDelete_emits env fd packet process
    case historyRequest => exact channelHistory_emits env fd packet process

theorem handlePrivateMessage_emits (env : Env) (beyond : List UInt8) (fd : Int)
    (process : Process) {packet : TizcordPacket} (announced : packet.type = PacketType.dm.code) :
    Emits topics process (handlePrivateMessage env beyond packet fd process) := by
  rw [handlePrivateMessage]
  generalize senderNode process.ctx fd = sender
  have stamped : (stampDirectMessage sender packet).type = PacketType.dm.code :=
    (type_stampDirectMessage sender packet).trans announced
  generalize stampDirectMessage sender packet = copy at stamped
  cases DMAction.ofCode copy.dmAction with
  | none => exact .refl process
  | some action =>
    cases action <;> rw [handleDmAction]
    case message =>
      unfold directMessage
      cases sender with
      | none =>
        dsimp only
        split
        · exact .refl process
        · exact .send_of_type env _ process stamped (Or.inl rfl)
      | some node =>
        dsimp only
        split
        · exact .change env process _ _
        · exact (Emits.change env process _ _).trans
            (Emits.send_of_type env _ _ stamped (Or.inl rfl))
    case historyRequest =>
      unfold directMessageHistory
      cases sender with
      | none => exact .refl process
      | some node =>
        dsimp only
        refine emits_stream (Or.inl rfl) env fd (type_dmFramePacket ..)
          (fun process item => ⟨_, rfl, ?_⟩) (fun process => type_dmFramePacket ..) process
        simp (disch := decide) only [TizcordPacket.setDmAction, TizcordPacket.setListId,
          TizcordPacket.setListIndex, TizcordPacket.setListFrame, TizcordPacket.setSenderId,
          TizcordPacket.setDmRecipientId, TizcordPacket.setDmMessageId, TizcordPacket.setTimestamp,
          TizcordPacket.strncpyDmMessage, type_putInt32, type_putInt64, type_strncpy,
          type_basePacket]

theorem linkIdentity_emits (fd userId : Int) (username : Text) (process : Process) :
    Emits topics process (linkIdentity fd userId username process) := by
  unfold linkIdentity
  split
  · exact .refl process
  · exact .modifyClient process _ _

theorem authPacket_request (action : AuthAction) (statusCode : Int) :
    (authPacket action statusCode).request = some (.auth action) := by
  have decoded : PacketType.ofCode (authPacket action statusCode).type = some .auth := by
    rw [type_authPacket, PacketType.ofCode_code]
  rw [TizcordPacket.request_of_type decoded, TizcordPacket.requestOfType]
  simp (disch := decide) [authPacket, TizcordPacket.authAction, TizcordPacket.setAuthAction,
    TizcordPacket.setAuthStatusCode]
  cases action <;> rfl

/-- A name in an authentication packet does not change what the packet is about. -/
theorem authNotice_request (action : AuthAction) (statusCode : Int) (username : Text) :
    ((authPacket action statusCode).strncpyAuthUsername username).request =
      some (.auth action) := by
  have same : ((authPacket action statusCode).strncpyAuthUsername username).type =
      (authPacket action statusCode).type := type_strncpy _ _ _ _ (by decide)
  have acted : ((authPacket action statusCode).strncpyAuthUsername username).authAction =
      (authPacket action statusCode).authAction :=
    Image.int32_strncpy_disjoint _ _ _ _ _ (by decide)
  rw [← authPacket_request action statusCode, TizcordPacket.request, TizcordPacket.request, same,
    type_authPacket, PacketType.ofCode_code, Option.bind_some, Option.bind_some,
    TizcordPacket.requestOfType, TizcordPacket.requestOfType, acted]

theorem authReply_emits (env : Env) (fd : Int) {action : AuthAction} (statusCode : Int)
    (process : Process) (about : ∀ topic, Request.topic (.auth action) = some topic →
      topic ∈ topics) :
    Emits topics process (process.send env fd (authPacket action statusCode)) :=
  .send env fd process ((topic_of_request (authPacket_request action statusCode)).symm ▸ about)

theorem authNotice_emits (env : Env) (fd : Int) {action : AuthAction} (statusCode : Int)
    (username : Text) (process : Process) (about : ∀ topic,
      Request.topic (.auth action) = some topic → topic ∈ topics) : Emits topics process
      (process.send env fd ((authPacket action statusCode).strncpyAuthUsername username)) :=
  .send env fd process
    ((topic_of_request (authNotice_request action statusCode username)).symm ▸ about)

theorem not_session {action : AuthAction} (other : action ≠ .logout) :
    ∀ topic, Request.topic (.auth action) = some topic → topic ∈ topics := by
  intro topic about
  cases action <;> first | exact absurd rfl other | cases about

theorem topic_session (asked : .session ∈ topics) :
    ∀ topic, Request.topic (.auth .logout) = some topic → topic ∈ topics :=
  fun _ about => Option.some.inj about ▸ asked

theorem revokeExistingLogin_emits (env : Env) (fd userId : Int) (username : Text)
    (process : Process) (asked : .session ∈ topics) :
    Emits topics process (revokeExistingLogin env fd userId username process) := by
  unfold revokeExistingLogin
  refine LogsOnly.forClients (fun index node process => ?_) process
  split
  · exact .refl process
  · split
    · exact .refl process
    · exact (authNotice_emits env _ _ _ process (topic_session asked)).trans
        (LogsOnly.modifyClient _ index _)

theorem hashPassword_emits (env : Env) (phrase setting : Text) (process : Process) :
    Emits topics process (hashPassword env phrase setting process).1 :=
  .single (rfl : _ = process.trace ++ [_]) trivial

/-- Authentication ends sessions, and sends the users and the members of servers. -/
theorem handleAuthAction_emits (env : Env) (beyond : List UInt8) (fd : Int)
    (packet : TizcordPacket) (process : Process) (action : AuthAction)
    (session : action ≠ .register → .session ∈ topics) (users : .users ∈ topics)
    (members : .members ∈ topics) :
    Emits topics process (handleAuthAction env beyond fd packet process (some action)) := by
  have ticked : ∀ process : Process, Emits topics process process.tick := fun _ => .idle rfl
  have registers : ∀ statusCode process, Emits topics process
      (process.send env fd (authPacket .register statusCode)) := fun statusCode process =>
    authReply_emits env fd statusCode process (not_session (by decide))
  have logsIn : ∀ statusCode process, Emits topics process
      (process.send env fd (authPacket .login statusCode)) := fun statusCode process =>
    authReply_emits env fd statusCode process (not_session (by decide))
  cases action <;> rw [handleAuthAction]
  case register =>
    unfold registerAccount
    refine (ticked process).trans ?_
    dsimp only
    split
    · exact registers _ _
    · rename_i setting _
      refine (hashPassword_emits env (packet.authPassword beyond) setting _).trans ?_
      split
      · exact registers _ _
      · split
        · exact (Emits.change env _ _ _).trans (registers _ _)
        · exact (Emits.change env _ _ _).trans ((linkIdentity_emits fd _ _ _).trans
            ((notifyAllUserLists_emits env _ users).trans (registers _ _)))
  case login =>
    have ends := session (by decide)
    unfold loginAccount
    dsimp only
    have looked : Emits topics process (process.log
        (.called (.getPasswordHash (packet.authUsername beyond)))).tick :=
      .single (rfl : _ = process.trace ++ [_]) trivial
    refine looked.trans ?_
    split
    · exact logsIn _ _
    · split
      · exact (hashPassword_emits env _ _ _).trans (logsIn _ _)
      · exact (hashPassword_emits env _ _ _).trans ((revokeExistingLogin_emits env fd _ _ _
          ends).trans ((linkIdentity_emits fd _ _ _).trans
            ((notifyServerMemberListsForUser_emits env _ _ members).trans
              ((notifyAllUserLists_emits env _ users).trans (logsIn _ _)))))
  case logout =>
    have ends := session (by decide)
    unfold logoutAccount
    split
    · exact .refl process
    · dsimp only
      split
      · exact authReply_emits env fd _ _ (topic_session ends)
      · exact (LogsOnly.modifyClient process _ _).trans
          ((notifyServerMemberListsForUser_emits env _ _ members).trans
            ((notifyAllUserLists_emits env _ users).trans
              (authNotice_emits env fd _ _ _ (topic_session ends))))

/-! ### All packets -/

/-- A packet that is answered without being acted on is answered about itself. -/
theorem refused_emits (env : Env) (fd : Int) (status : ResponseCode) (process : Process)
    {packet : TizcordPacket} (type : PacketType.ofCode packet.type = some .social)
    (about : ∀ topic, packet.topic = some topic → topic ∈ topics) :
    Emits topics process
      (sendActionResponse env fd .social packet.socialAction status process) := by
  have same : (actionResponse .social packet.socialAction status.code).request = packet.request := by
    rw [request_actionResponse_social, TizcordPacket.request_of_type type,
      TizcordPacket.requestOfType, TizcordPacket.socialAction, Image.int32, signed_signed]
  refine sendPacketToClient_emits env fd process ?_
  rw [TizcordPacket.topic, same]
  exact about

/-- The handling of a packet sends packets about the topics of its request only. -/
theorem processClientPacket_emits (env : Env) (index : Nat) (packet : TizcordPacket)
    (process : Process) :
    Emits (topicsOf packet.request)
      (process.log (.handling (process.clientAt index).socketFd packet
        (process.ctx.userOf (process.clientAt index).socketFd)))
      (processClientPacket env index packet process) := by
  rw [processClientPacket]
  generalize process.log (.handling (process.clientAt index).socketFd packet
    (process.ctx.userOf (process.clientAt index).socketFd)) = other
  cases type : PacketType.ofCode packet.type with
  | none => exact .refl other
  | some announced =>
    have request := TizcordPacket.request_of_type type
    cases announced <;> rw [handlePacket]
    case auth =>
      rw [handleAuthPacket]
      cases acted : AuthAction.ofCode packet.authAction with
      | none => exact .refl other
      | some action =>
        rw [TizcordPacket.requestOfType, acted, Option.map_some] at request
        rw [request]
        exact handleAuthAction_emits env _ _ packet other action (fun _ => by simp [topicsOf])
          (by simp [topicsOf]) (by simp [topicsOf])
    case dm =>
      rw [handleChatPacket, type, handleChatType]
      exact handlePrivateMessage_emits env _ _ other (PacketType.code_ofCode type).symm
    case channel =>
      rw [handleChatPacket, type, handleChatType]
      exact handleChannelMessage_emits env _ _ other (PacketType.code_ofCode type).symm
    case server =>
      rw [handleServerPacket]
      cases acted : ServerAction.ofCode packet.serverAction with
      | none =>
        rw [handleServerAction, sendActionResponse]
        have answered : (actionResponse .server packet.serverAction
            ResponseCode.errInvalid.code).request = none := by
          rw [request_actionResponse_server, TizcordPacket.serverAction, Image.int32,
            signed_signed]
          exact congrArg (Option.map Request.server) acted
        refine sendPacketToClient_emits env _ other fun topic about => ?_
        rw [TizcordPacket.topic, answered] at about
        cases about
      | some action =>
        rw [TizcordPacket.requestOfType, acted, Option.map_some] at request
        rw [request]
        refine handleServerAction_emits env _ index packet other action fun member => ?_
        cases action <;> first | exact absurd member (by decide) | decide
    case social =>
      rw [handleSocialPacket]
      have about : ∀ topic, packet.topic = some topic → topic ∈ topicsOf packet.request := by
        intro topic about
        rw [TizcordPacket.topic] at about
        obtain ⟨request, asked, is⟩ := Option.bind_eq_some_iff.mp about
        rw [asked]
        exact topic_subset request topic is
      split
      · exact refused_emits env _ _ other type about
      · cases acted : SocialAction.ofCode packet.socialAction with
        | none => exact refused_emits env _ _ other type about
        | some action =>
          rw [TizcordPacket.requestOfType, acted, Option.map_some] at request
          rw [request]
          refine handleSocialAction_emits env _ _ packet other action (fun member => ?_)
            fun unlisted => ?_
          · cases action <;> first | exact absurd member (by decide) | decide
          · cases action <;> first | exact absurd (by decide) unlisted | decide

/-! ### The packets of a connection -/

/-- What an effect adds to the packets that are told on a connection, where they are counted from
the handling of a packet of that connection that passes a test. -/
def Effect.tells (test : TizcordPacket → Bool) (fd : Int) (packets : List TizcordPacket) :
    Effect → List TizcordPacket
  | .accepted target _ => if target = fd then [] else packets
  | .handling target packet _ => if target = fd ∧ test packet = true then [] else packets
  | .sent target packet _ _ => if target = fd then packets ++ [packet] else packets
  | _ => packets

/-- The packets sent on the present connection with a descriptor since the last of its packets that
passes a test was handled. -/
def toldSince (test : TizcordPacket → Bool) (fd : Int) (trace : List Effect) :
    List TizcordPacket :=
  trace.foldl (Effect.tells test fd) []

/-- The packets sent on the present connection with a descriptor. -/
def heardOn (fd : Int) (trace : List Effect) : List TizcordPacket :=
  toldSince (fun _ => false) fd trace

variable {fd target : Int} {copies : List TizcordPacket}

/-- Whatever was told before on a connection, what is told in the meantime is about these topics
only. -/
def Adds (test : TizcordPacket → Bool) (fd : Int) (topics : List Topic)
    (before after : Process) : Prop :=
  ∃ effects, after.trace = before.trace ++ effects ∧ ∀ trace, ∃ packets,
    toldSince test fd (trace ++ effects) = toldSince test fd trace ++ packets ∧
      ∀ packet ∈ packets, ∀ topic, packet.topic = some topic → topic ∈ topics

theorem Adds.refl (test : TizcordPacket → Bool) (fd : Int) (topics : List Topic)
    (process : Process) : Adds test fd topics process process :=
  ⟨[], (List.append_nil _).symm, fun trace => ⟨[], by rw [List.append_nil, List.append_nil],
    fun _ member => absurd member List.not_mem_nil⟩⟩

theorem Adds.trans {test : TizcordPacket → Bool} (first : Adds test fd topics before middle)
    (second : Adds test fd topics middle after) : Adds test fd topics before after := by
  obtain ⟨effects, logged, tells⟩ := first
  obtain ⟨more, grown, tellsMore⟩ := second
  refine ⟨effects ++ more, by rw [grown, logged, List.append_assoc], fun trace => ?_⟩
  obtain ⟨early, told, earlyAbout⟩ := tells trace
  obtain ⟨late, toldLate, lateAbout⟩ := tellsMore (trace ++ effects)
  refine ⟨early ++ late, ?_, fun packet member => ?_⟩
  · rw [← List.append_assoc, toldLate, told, List.append_assoc]
  · rcases List.mem_append.mp member with inEarly | inLate
    · exact earlyAbout packet inEarly
    · exact lateAbout packet inLate

/-- Whatever was told before, the process adds packets about these topics only. -/
theorem Emits.gained_told (emits : Emits topics before after) :
    ∃ effects, after.trace = before.trace ++ effects ∧ ∀ test fd trace, ∃ packets,
      toldSince test fd (trace ++ effects) = toldSince test fd trace ++ packets ∧
        ∀ packet ∈ packets, ∀ topic, packet.topic = some topic → topic ∈ topics := by
  obtain ⟨effects, logged, about⟩ := emits.gained
  refine ⟨effects, logged, fun test fd trace => ?_⟩
  rw [toldSince, toldSince, List.foldl_append]
  generalize trace.foldl (Effect.tells test fd) [] = packets
  clear logged
  induction effects generalizing packets with
  | nil => exact ⟨[], (List.append_nil _).symm, fun _ member => absurd member List.not_mem_nil⟩
  | cons effect rest inductionHypothesis =>
    obtain ⟨first, later⟩ := List.forall_mem_cons.mp about
    obtain ⟨more, told, each⟩ := inductionHypothesis later (effect.tells test fd packets)
    rw [List.foldl_cons, told]
    cases effect with
    | accepted | handling => exact absurd first id
    | sent target packet status user =>
      rw [Effect.tells]
      split
      · refine ⟨packet :: more, List.append_assoc .., List.forall_mem_cons.mpr ⟨first, each⟩⟩
      · exact ⟨more, rfl, each⟩
    | _ => exact ⟨more, rfl, each⟩

theorem Emits.told (emits : Emits topics before after) (test : TizcordPacket → Bool) (fd : Int) :
    Adds test fd topics before after := by
  obtain ⟨effects, logged, told⟩ := emits.gained_told
  exact ⟨effects, logged, told test fd⟩

theorem toldSince_of_delivers {user : Option Int} {effects trace : List Effect}
    (delivers : Delivers fd user copies effects) (test : TizcordPacket → Bool) (target : Int) :
    toldSince test target (trace ++ effects) =
      toldSince test target trace ++ if fd = target then copies else [] := by
  rw [toldSince, toldSince, List.foldl_append]
  generalize trace.foldl (Effect.tells test target) [] = packets
  induction delivers generalizing packets with
  | nil =>
    rw [List.foldl_nil, ite_self, List.append_nil]
  | cons sent _ inductionHypothesis =>
    obtain ⟨status, rfl⟩ := sent
    rw [List.foldl_cons, inductionHypothesis, Effect.tells]
    by_cases own : fd = target
    · rw [if_pos own, if_pos own, if_pos own, List.append_assoc]
      rfl
    · rw [if_neg own, if_neg own, if_neg own]

/-- What sends a list of packets to a connection, sends nothing to another. -/
theorem SendsList.told (sent : SendsList fd copies before after) (test : TizcordPacket → Bool)
    (target : Int) : toldSince test target after.trace =
      toldSince test target before.trace ++ if fd = target then copies else [] := by
  obtain ⟨effects, logged, delivers⟩ := sent.gained
  rw [logged]
  exact toldSince_of_delivers delivers test target

theorem SendsList.adds (sent : SendsList fd copies before after) (test : TizcordPacket → Bool)
    (other : fd ≠ target) : Adds test target topics before after := by
  obtain ⟨effects, logged, delivers⟩ := sent.gained
  refine ⟨effects, logged, fun trace => ⟨[], ?_, fun _ member => absurd member List.not_mem_nil⟩⟩
  rw [toldSince_of_delivers delivers, if_neg other]

theorem heardOn_handling (fd : Int) (trace : List Effect) (target : Int) (packet : TizcordPacket)
    (user : Option Int) :
    heardOn fd (trace ++ [.handling target packet user]) = heardOn fd trace := by
  rw [heardOn, toldSince, List.foldl_append, List.foldl_cons, List.foldl_nil, Effect.tells,
    if_neg fun both => Bool.noConfusion both.2]
  rfl

/-- A connection with another descriptor takes nothing from what was told. -/
theorem toldSince_accepted (other : target ≠ fd) (test : TizcordPacket → Bool) (socket : Socket)
    (trace : List Effect) :
    toldSince test fd (trace ++ [.accepted target socket]) = toldSince test fd trace := by
  rw [toldSince, toldSince, List.foldl_append, List.foldl_cons, List.foldl_nil, Effect.tells,
    if_neg other]

/-- What was told since some packet was handled is the end of all that was sent. -/
theorem toldSince_suffix (test : TizcordPacket → Bool) (fd : Int) (trace : List Effect) :
    toldSince test fd trace <:+ heardOn fd trace := by
  rw [heardOn, toldSince, toldSince]
  have grows : ∀ told heard : List TizcordPacket, told <:+ heard →
      trace.foldl (Effect.tells test fd) told <:+
        trace.foldl (Effect.tells (fun _ => false) fd) heard := by
    induction trace with
    | nil => exact fun _ _ ends => ends
    | cons effect rest inductionHypothesis =>
      intro told heard ends
      refine inductionHypothesis _ _ ?_
      cases effect with
      | accepted target =>
        rw [Effect.tells, Effect.tells]
        split
        · exact List.suffix_rfl
        · exact ends
      | handling target packet user =>
        have kept : Effect.tells (fun _ => false) fd heard (.handling target packet user) = heard :=
          if_neg fun both => Bool.noConfusion both.2
        rw [kept, Effect.tells]
        split
        · exact List.nil_suffix
        · exact ends
      | sent target packet =>
        rw [Effect.tells, Effect.tells]
        split
        · obtain ⟨early, rfl⟩ := ends
          exact ⟨early, (List.append_assoc ..).symm⟩
        · exact ends
      | _ => exact ends
  exact grows [] [] List.suffix_rfl

end Emitting

end Tizcord
