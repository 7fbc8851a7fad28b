/-
This file proves that every handler acts in the steps of HandlerSteps.lean, from
the replies up to `processClientPacket`. A handler's checks are what makes its
steps permitted; an authorization, once checked, lasts for the whole handling.
-/

import Tizcord.Server.HandlerSteps
import Tizcord.Server.Server

namespace Tizcord

open CModel

/-! ### What steps preserve -/

section Preserved

variable {env : Env} {fd : Int} {beyond : List UInt8} {packet : TizcordPacket}

/-- Looking at a server changes no session. -/
theorem SignedIn.modify {ctx : ServerContext} {userId : Int} (signed : SignedIn ctx fd userId)
    (index : Nat) (serverIndex : Int) :
    SignedIn { ctx with
      clients := ctx.clients.modify index fun node =>
        { node with currentServerIndex := serverIndex } } fd userId := by
  obtain ⟨node, member, sameFd, authenticated, sameId⟩ := signed
  obtain ⟨place, bound, rfl⟩ := List.getElem_of_mem member
  refine ⟨_, List.getElem_mem (by rw [List.length_modify]; exact bound), ?_⟩
  rw [List.getElem_modify]
  split
  · exact ⟨sameFd, authenticated, sameId⟩
  · exact ⟨sameFd, authenticated, sameId⟩

theorem HandlerStep.authorized {before after : ServerContext} {effects : List Effect}
    (step : HandlerStep env fd beyond packet before effects after)
    (authorized : Authorized before fd packet) : Authorized after fd packet := by
  cases step with
  | reply => exact authorized
  | broadcast => exact authorized
  | forward => exact authorized
  | history => exact authorized
  | hash => exact authorized
  | call => exact authorized
  | look index serverIndex =>
    exact authorized.imp_right fun ⟨userId, signed⟩ => ⟨userId, signed.modify index serverIndex⟩
  | session index update asked =>
    obtain ⟨action, asked⟩ := asked
    exact Or.inl ((TizcordPacket.request_auth asked).1)

theorem Acts.authorized {start finish : Process} (acts : Acts env fd beyond packet start finish)
    (authorized : Authorized start.ctx fd packet) : Authorized finish.ctx fd packet :=
  Takes.invariant (Authorized · fd packet) HandlerStep.authorized acts authorized

theorem Acts.andThen {start middle finish : Process}
    (first : Acts env fd beyond packet start middle) (authorized : Authorized start.ctx fd packet)
    (second : Authorized middle.ctx fd packet → Acts env fd beyond packet middle finish) :
    Acts env fd beyond packet start finish :=
  first.trans (second (first.authorized authorized))

end Preserved

/-! ### Packets that show no message -/

theorem requestOfType_ne_message {answer : TizcordPacket} {type : PacketType}
    (other : type ≠ .channel ∧ type ≠ .dm) :
    answer.requestOfType type ≠ some (.channel .message) ∧
      answer.requestOfType type ≠ some (.dm .message) := by
  unfold TizcordPacket.requestOfType
  cases type with
  | auth => cases AuthAction.ofCode answer.authAction <;> simp
  | server => cases ServerAction.ofCode answer.serverAction <;> simp
  | social => cases SocialAction.ofCode answer.socialAction <;> simp
  | dm => exact absurd rfl other.2
  | channel => exact absurd rfl other.1

theorem not_isMessage_of_type {answer : TizcordPacket} {type : PacketType}
    (announced : answer.type = type.code) (other : type ≠ .channel ∧ type ≠ .dm) :
    ¬ IsMessage answer := by
  have decoded : PacketType.ofCode answer.type = some type := by
    rw [announced, PacketType.ofCode_code]
  rw [IsMessage, TizcordPacket.request_of_type decoded]
  exact not_or.mpr (requestOfType_ne_message other)

theorem not_isUserRow_of_type {answer : TizcordPacket} {type : PacketType}
    (announced : answer.type = type.code) (other : type ≠ .social) : ¬ IsUserRow answer := by
  have decoded : PacketType.ofCode answer.type = some type := by
    rw [announced, PacketType.ofCode_code]
  rintro ⟨asked, -⟩
  rw [TizcordPacket.request_of_type decoded] at asked
  cases type with
  | social => exact other rfl
  | auth | dm | server | channel =>
    rw [TizcordPacket.requestOfType] at asked
    obtain ⟨_, -, impossible⟩ := Option.map_eq_some_iff.mp asked
    exact Request.noConfusion impossible

theorem not_isUserRow_of_frame {answer : TizcordPacket} {frame : ListFrameType}
    (framed : answer.listFrame = frame.code) (other : frame ≠ .middle) : ¬ IsUserRow answer :=
  fun row => other (ListFrameType.code_injective (framed.symm.trans row.2))

theorem not_isUserRow_of_action {answer : TizcordPacket} {action : SocialAction}
    (announced : answer.type = PacketType.social.code)
    (acted : answer.socialAction = action.code) (other : action ≠ .listUsers) :
    ¬ IsUserRow answer := by
  have decoded : PacketType.ofCode answer.type = some .social := by
    rw [announced, PacketType.ofCode_code]
  have known : SocialAction.ofCode action.code = some action := by cases action <;> rfl
  rintro ⟨asked, -⟩
  rw [TizcordPacket.request_of_type decoded, TizcordPacket.requestOfType, acted, known] at asked
  exact other (Request.social.inj (Option.some.inj asked))

/-- The packet shows neither a message nor a user in the list of all users. -/
structure Plain (answer : TizcordPacket) : Prop where
  quiet : ¬ IsMessage answer
  unlisted : ¬ IsUserRow answer

theorem plain_of_type {answer : TizcordPacket} {type : PacketType}
    (announced : answer.type = type.code)
    (other : (type ≠ .channel ∧ type ≠ .dm) ∧ type ≠ .social) : Plain answer where
  quiet := not_isMessage_of_type announced other.1
  unlisted := not_isUserRow_of_type announced other.2

theorem plain_of_frame {answer : TizcordPacket} {type : PacketType} {frame : ListFrameType}
    (announced : answer.type = type.code) (other : type ≠ .channel ∧ type ≠ .dm)
    (framed : answer.listFrame = frame.code) (notRow : frame ≠ .middle) : Plain answer where
  quiet := not_isMessage_of_type announced other
  unlisted := not_isUserRow_of_frame framed notRow

/-- No field but the first overlaps the type. -/
theorem type_store (packet : TizcordPacket) (offset : Nat) (bytes : List UInt8)
    (behind : 4 ≤ offset) : TizcordPacket.type (packet.store offset bytes) = packet.type := by
  rw [TizcordPacket.type, TizcordPacket.type, Image.int32, Image.int32,
    Image.word_store_disjoint _ _ _ _ _ (Or.inl behind)]

theorem type_setType (packet : TizcordPacket) (type : PacketType) :
    (packet.setType type).type = type.code := by
  rw [TizcordPacket.type, TizcordPacket.setType, Image.int32_putInt32_same _ _ _ (by decide),
    signed_code]

theorem type_putInt32 (packet : TizcordPacket) (offset : Nat) (value : Int) (behind : 4 ≤ offset) :
    TizcordPacket.type (packet.putInt32 offset value) = packet.type :=
  type_store packet offset _ behind

theorem type_putInt64 (packet : TizcordPacket) (offset : Nat) (value : Int) (behind : 4 ≤ offset) :
    TizcordPacket.type (packet.putInt64 offset value) = packet.type :=
  type_store packet offset _ behind

theorem type_strncpy (packet : TizcordPacket) (offset count : Nat) (source : Text)
    (behind : 4 ≤ offset) :
    TizcordPacket.type (packet.strncpy offset count source) = packet.type :=
  type_store packet offset _ behind

theorem type_actionResponse (type : PacketType) (action statusCode : Int) :
    (actionResponse type action statusCode).type = type.code := by
  unfold actionResponse
  cases type <;>
    exact (type_putInt32 _ _ _ (by decide)).trans
      ((type_putInt32 _ _ _ (by decide)).trans (type_setType _ _))

theorem type_listPacket (type : PacketType) (listId index total : Int) (frame : ListFrameType) :
    (listPacket type listId index total frame).type = type.code := by
  simp (disch := decide) only [listPacket, TizcordPacket.setListId, TizcordPacket.setListIndex,
    TizcordPacket.setListTotal, TizcordPacket.setListFrame, type_putInt32, type_setType]

theorem type_emptyListPacket {action listId : Int} {answer : TizcordPacket}
    (made : emptyListPacket .server action listId = some answer) :
    answer.type = PacketType.server.code := by
  rw [← Option.some.inj made]
  simp (disch := decide) only [TizcordPacket.setServerAction, TizcordPacket.setServerStatusCode,
    type_putInt32, type_listPacket]

theorem type_listItemPacket {action listId : Int} {total index : Nat} {item : ListItem}
    {answer : TizcordPacket}
    (made : listItemPacket .server action listId total index item = some answer) :
    answer.type = PacketType.server.code := by
  rw [← Option.some.inj made]
  cases item.id <;> cases item.count <;>
    simp (disch := decide) only [Option.elim_none, Option.elim_some,
      TizcordPacket.setServerAction, TizcordPacket.setServerStatusCode,
      TizcordPacket.setServerServerId, TizcordPacket.setServerMemberCount,
      TizcordPacket.strncpyServerServerName, type_putInt32, type_putInt64, type_strncpy,
      type_listPacket]

theorem type_basePacket (env : Env) (process : Process) (type : PacketType) :
    (process.basePacket env type).type = type.code :=
  (type_putInt64 _ _ _ (by decide)).trans (type_setType _ _)

theorem type_socialStartPacket (env : Env) (process : Process) (action : SocialAction)
    (listId : Int) :
    (socialStartPacket env process action listId).type = PacketType.social.code := by
  simp (disch := decide) only [socialStartPacket, TizcordPacket.setSocialAction,
    TizcordPacket.setListId, TizcordPacket.setListFrame, type_putInt32, type_basePacket]

theorem type_socialItemPacket (env : Env) (process : Process) (action : SocialAction)
    (listId : Int) (index : Nat) :
    (socialItemPacket env process action listId index).type = PacketType.social.code := by
  simp (disch := decide) only [socialItemPacket, TizcordPacket.setSocialAction,
    TizcordPacket.setListId, TizcordPacket.setListIndex, TizcordPacket.setListTotal,
    TizcordPacket.setListFrame, type_putInt32, type_basePacket]

theorem type_socialEndPacket (env : Env) (process : Process) (action : SocialAction)
    (listId : Int) (total : Nat) :
    (socialEndPacket env process action listId total).type = PacketType.social.code := by
  simp (disch := decide) only [socialEndPacket, TizcordPacket.setSocialAction,
    TizcordPacket.setListId, TizcordPacket.setListTotal, TizcordPacket.setListFrame,
    type_putInt32, type_basePacket]

theorem type_authPacket (action : AuthAction) (statusCode : Int) :
    (authPacket action statusCode).type = PacketType.auth.code := by
  simp (disch := decide) only [authPacket, TizcordPacket.setAuthAction,
    TizcordPacket.setAuthStatusCode, type_putInt32, type_setType]

/-! ### Packets outside lists -/

theorem listFrame_store (packet : TizcordPacket) (offset : Nat) (bytes : List UInt8)
    (behind : 32 ≤ offset) :
    TizcordPacket.listFrame (packet.store offset bytes) = packet.listFrame := by
  rw [TizcordPacket.listFrame, TizcordPacket.listFrame, Image.int32, Image.int32,
    Image.word_store_disjoint _ _ _ _ _ (Or.inl behind)]

theorem listFrame_putInt32 (packet : TizcordPacket) (offset : Nat) (value : Int)
    (behind : 32 ≤ offset) :
    TizcordPacket.listFrame (packet.putInt32 offset value) = packet.listFrame :=
  listFrame_store packet offset _ behind

theorem listFrame_putInt64 (packet : TizcordPacket) (offset : Nat) (value : Int)
    (behind : 32 ≤ offset) :
    TizcordPacket.listFrame (packet.putInt64 offset value) = packet.listFrame :=
  listFrame_store packet offset _ behind

theorem listFrame_strncpy (packet : TizcordPacket) (offset count : Nat) (source : Text)
    (behind : 32 ≤ offset) :
    TizcordPacket.listFrame (packet.strncpy offset count source) = packet.listFrame :=
  listFrame_store packet offset _ behind

theorem listFrame_setListFrame (packet : TizcordPacket) (frame : ListFrameType) :
    (packet.setListFrame frame).listFrame = frame.code := by
  rw [TizcordPacket.listFrame, TizcordPacket.setListFrame,
    Image.int32_putInt32_same _ _ _ (by decide)]
  cases frame <;> rfl

theorem listFrame_setType (packet : TizcordPacket) (type : PacketType) :
    (packet.setType type).listFrame = packet.listFrame := by
  simp (disch := decide) [TizcordPacket.listFrame, TizcordPacket.setType]

theorem listFrame_basePacket (env : Env) (process : Process) (type : PacketType) :
    (process.basePacket env type).listFrame = ListFrameType.single.code := by
  simp (disch := decide) [Process.basePacket, createBasePacket, TizcordPacket.listFrame,
    TizcordPacket.setTimestamp, TizcordPacket.setType]
  rfl

theorem listFrame_actionResponse (type : PacketType) (action statusCode : Int) :
    (actionResponse type action statusCode).listFrame = ListFrameType.single.code := by
  have zero : TizcordPacket.listFrame Image.zero = ListFrameType.single.code := by
    simp [TizcordPacket.listFrame]
    rfl
  unfold actionResponse
  cases type <;>
    exact (listFrame_putInt32 _ _ _ (by decide)).trans
      ((listFrame_putInt32 _ _ _ (by decide)).trans ((listFrame_setType _ _).trans zero))

/-! ### Sending -/

section Acting

variable {env : Env} {fd : Int} {beyond : List UInt8} {packet : TizcordPacket}

theorem tick_acts (process : Process) : Acts env fd beyond packet process process.tick :=
  .idle rfl rfl

/-- A plain packet goes to the requester, or was asked for with authorization. -/
theorem send_acts {process : Process} {target : Int} {answer : TizcordPacket}
    (plain : Plain answer) (permitted : target = fd ∨ Authorized process.ctx fd packet) :
    Acts env fd beyond packet process (process.send env target answer) :=
  .single rfl (.reply _ plain.quiet permitted fun row => absurd row plain.unlisted)

theorem sendPacketToClient_acts {process : Process} {target : Int} {answer : TizcordPacket}
    (plain : Plain answer) (permitted : target = fd ∨ Authorized process.ctx fd packet) :
    Acts env fd beyond packet process (sendPacketToClient env target answer process).1 := by
  unfold sendPacketToClient
  split
  · exact .refl process
  · exact send_acts plain permitted

theorem sendActionResponse_acts {process : Process} {target : Int} {type : PacketType}
    (other : type ≠ .channel ∧ type ≠ .dm) (action : Int) (status : ResponseCode)
    (permitted : target = fd ∨ Authorized process.ctx fd packet) :
    Acts env fd beyond packet process
      (sendActionResponse env target type action status process) :=
  sendPacketToClient_acts (plain_of_frame (type_actionResponse _ _ _) other
    (listFrame_actionResponse _ _ _) (by decide)) permitted

theorem serverResponse_acts {process : Process} {target : Int} (action : ServerAction)
    (status : ResponseCode) (permitted : target = fd ∨ Authorized process.ctx fd packet) :
    Acts env fd beyond packet process (serverResponse env target action status process) :=
  sendActionResponse_acts (by decide) _ _ permitted

theorem socialResponse_acts {process : Process} {target : Int} (action : SocialAction)
    (status : ResponseCode) (permitted : target = fd ∨ Authorized process.ctx fd packet) :
    Acts env fd beyond packet process (socialResponse env target action status process) :=
  sendActionResponse_acts (by decide) _ _ permitted

theorem sendListItems_acts (target action listId : Int) (total index : Nat)
    (items : List ListItem) {process : Process} (authorized : Authorized process.ctx fd packet) :
    Acts env fd beyond packet process
      (sendListItems env target .server action listId total index items process).1 := by
  induction items generalizing index process with
  | nil => exact .refl process
  | cons item rest inductionHypothesis =>
    unfold sendListItems
    split
    · exact .refl process
    · rename_i answer made
      have plain := plain_of_type (type_listItemPacket made) (by decide)
      have head : Acts env fd beyond packet process
          (sendPacketToClient env target answer process).1 :=
        sendPacketToClient_acts plain (Or.inr authorized)
      dsimp only
      split
      · exact head
      · exact head.trans (inductionHypothesis _ (head.authorized authorized))

theorem sendListResponse_acts (target action : Int) (items : List ListItem) {process : Process}
    (authorized : Authorized process.ctx fd packet) :
    Acts env fd beyond packet process
      (sendListResponse env target .server action items process).1 := by
  have allocated : Acts env fd beyond packet process (allocateListId process).1 := .idle rfl rfl
  unfold sendListResponse
  split
  · exact .refl process
  · dsimp only
    split
    · split
      · exact allocated
      · rename_i answer made
        have plain := plain_of_type (type_emptyListPacket made) (by decide)
        exact allocated.trans (sendPacketToClient_acts plain (Or.inr authorized))
    · exact allocated.trans (sendListItems_acts _ _ _ _ _ _ authorized)

theorem serverListReply_acts (target : Int) (action : ServerAction) (status : Int)
    (items : List ListItem) {process : Process} (authorized : Authorized process.ctx fd packet) :
    Acts env fd beyond packet process
      (serverListReply env target action status items process) := by
  have list : Acts env fd beyond packet process
      (sendListResponse env target .server action.code items process).1 :=
    sendListResponse_acts target action.code items authorized
  unfold serverListReply
  split
  · exact serverResponse_acts _ _ (Or.inr authorized)
  · dsimp only
    split
    · exact list.trans (serverResponse_acts _ _ (Or.inr (list.authorized authorized)))
    · exact list

/-- A loop over the table acts in steps when its body does. -/
theorem forClients_acts {body : Nat → ClientNode → Process → Process} {process : Process}
    (holds : ServerContext → Prop)
    (preserved : ∀ {before effects after},
      HandlerStep env fd beyond packet before effects after → holds before → holds after)
    (acts : ∀ index process, holds process.ctx →
      Acts env fd beyond packet process (body index (process.clientAt index) process))
    (initial : holds process.ctx) :
    Acts env fd beyond packet process (process.forClients body) :=
  .foldl holds preserved (fun process index => acts index process) _ process initial

theorem look_acts {process : Process} (index : Nat) (serverIndex : Int)
    (authorized : Authorized process.ctx fd packet) (looks : MayLook packet) :
    Acts env fd beyond packet process
      (process.modifyClient index fun node => { node with currentServerIndex := serverIndex }) :=
  .single (List.append_nil _).symm (.look index serverIndex authorized looks)

theorem change_acts {Result : Type} {process : Process}
    {operation : DbEnv → Database → Database × Result} {call : Result → DbCall}
    (runs : ∀ env before, (call (operation env before).2).Runs env before (operation env before).1)
    (permitted : ∀ result, (call result).Permitted process.ctx fd beyond packet) :
    Acts env fd beyond packet process (process.change env operation call).1 :=
  .single rfl (.call process.clock (permitted _) (runs _ _))

/-! ### The node of the requester -/

theorem ServerContext.clientAt_mem {ctx : ServerContext} {index : Nat}
    (filled : ctx.clientAt index ≠ default) : ctx.clientAt index ∈ ctx.clients := by
  unfold clientAt at filled ⊢
  rw [List.getD_eq_getElem?_getD] at filled ⊢
  cases place : ctx.clients[index]? with
  | none =>
    rw [place] at filled
    exact absurd rfl filled
  | some node => exact List.mem_of_getElem? place

theorem clientAt_mem_of_authenticated {ctx : ServerContext} {index : Nat}
    (authenticated : (ctx.clientAt index).isAuthenticated = true) :
    ctx.clientAt index ∈ ctx.clients := by
  refine ctx.clientAt_mem fun empty => ?_
  rw [empty] at authenticated
  cases authenticated

theorem clientAt_mem_of_open {ctx : ServerContext} {index : Nat}
    (open' : 0 < (ctx.clientAt index).socketFd) : ctx.clientAt index ∈ ctx.clients := by
  refine ctx.clientAt_mem fun empty => ?_
  rw [empty] at open'
  exact absurd open' (by decide)

theorem authenticated_of_checked {node : ClientNode} (checked : ¬ (!node.isAuthenticated) = true) :
    node.isAuthenticated = true := by
  simpa using checked

theorem signedIn_of_clientAt {ctx : ServerContext} {index : Nat}
    (own : (ctx.clientAt index).socketFd = fd)
    (authenticated : (ctx.clientAt index).isAuthenticated = true) :
    SignedIn ctx fd (ctx.clientAt index).id :=
  ⟨_, clientAt_mem_of_authenticated authenticated, own, authenticated, rfl⟩

/-! ### Servers -/

section Servers

variable {process : Process} {index : Nat}

theorem listTizcordServers_acts (own : (process.clientAt index).socketFd = fd) :
    Acts env fd beyond packet process (listTizcordServers env index process) := by
  unfold listTizcordServers
  dsimp only
  split
  · exact serverResponse_acts _ _ (Or.inl own)
  · rename_i checked
    have authorized : Authorized process.ctx fd packet :=
      Or.inr ⟨_, signedIn_of_clientAt own (authenticated_of_checked checked)⟩
    exact (tick_acts process).trans (serverListReply_acts _ _ _ _ authorized)

theorem listTizcordChannels_acts (serverId : Int) (own : (process.clientAt index).socketFd = fd) :
    Acts env fd beyond packet process (listTizcordChannels env index serverId process) := by
  unfold listTizcordChannels
  dsimp only
  split
  · exact serverResponse_acts _ _ (Or.inl own)
  · split
    · exact serverResponse_acts _ _ (Or.inl own)
    · rename_i checked
      have authorized : Authorized process.ctx fd packet :=
        Or.inr ⟨_, signedIn_of_clientAt own (authenticated_of_checked checked)⟩
      exact (tick_acts process).trans (serverListReply_acts _ _ _ _ authorized)

/-- Members are listed to the requester, or with authorization to another client. -/
theorem listMembers_acts (serverId : Int)
    (permitted : (process.clientAt index).socketFd = fd ∨ Authorized process.ctx fd packet)
    (looks : MayLook packet) :
    Acts env fd beyond packet process (listMembers env index serverId process) := by
  unfold listMembers
  dsimp only
  split
  · exact serverResponse_acts _ _ permitted
  · split
    · exact serverResponse_acts _ _ permitted
    · rename_i checked
      have authenticated := authenticated_of_checked checked
      have authorized : Authorized process.ctx fd packet :=
        permitted.elim (fun own => Or.inr ⟨_, signedIn_of_clientAt own authenticated⟩) id
      have looked : Acts env fd beyond packet process (process.modifyClient index fun node =>
          { node with currentServerIndex := signed 32 serverId }) :=
        look_acts index (signed 32 serverId) authorized looks
      refine looked.trans ((tick_acts _).trans (serverListReply_acts _ _ _ _ ?_))
      exact looked.authorized authorized

theorem listJoinedServers_acts (own : (process.clientAt index).socketFd = fd) :
    Acts env fd beyond packet process (listJoinedServers env index process) := by
  unfold listJoinedServers
  dsimp only
  split
  · exact serverResponse_acts _ _ (Or.inl own)
  · rename_i checked
    have authorized : Authorized process.ctx fd packet :=
      Or.inr ⟨_, signedIn_of_clientAt own (authenticated_of_checked checked)⟩
    exact (tick_acts process).trans (serverListReply_acts _ _ _ _ authorized)

theorem notifyServerMemberList_acts (serverId : Int)
    (authorized : Authorized process.ctx fd packet) (looks : MayLook packet) :
    Acts env fd beyond packet process (notifyServerMemberList env serverId process) := by
  unfold notifyServerMemberList
  split
  · exact .refl process
  · refine forClients_acts (Authorized · fd packet) HandlerStep.authorized
      (fun index process authorized => ?_) authorized
    split
    · exact .refl process
    · split
      · exact .refl process
      · exact listMembers_acts serverId (Or.inr authorized) looks

theorem notifyServerMemberListsForUser_acts (userId : Int)
    (authorized : Authorized process.ctx fd packet) (looks : MayLook packet) :
    Acts env fd beyond packet process (notifyServerMemberListsForUser env userId process) := by
  unfold notifyServerMemberListsForUser
  split
  · exact .refl process
  · exact (tick_acts process).trans (.foldl (Authorized · fd packet) HandlerStep.authorized
      (fun _ _ authorized => notifyServerMemberList_acts _ authorized looks) _ _ authorized)

theorem joinTizcordServer_acts (own : (process.clientAt index).socketFd = fd)
    (asked : packet.request = some (.server .join)) :
    Acts env fd beyond packet process
      (joinTizcordServer env index packet.serverServerId process) := by
  unfold joinTizcordServer
  dsimp only
  split
  · exact serverResponse_acts _ _ (Or.inl own)
  · split
    · exact serverResponse_acts _ _ (Or.inl own)
    · rename_i checked
      have signed := signedIn_of_clientAt own (authenticated_of_checked checked)
      have authorized : Authorized process.ctx fd packet := Or.inr ⟨_, signed⟩
      have changed : Acts env fd beyond packet process (process.change env
          (fun env db => dbJoinServer env db packet.serverServerId (process.clientAt index).id false)
          (fun status => .joinServer packet.serverServerId (process.clientAt index).id status)).1 :=
        change_acts (fun _ _ => rfl) fun _ => ⟨signed, rfl, asked⟩
      refine changed.andThen authorized fun authorized => ?_
      split
      · exact (serverResponse_acts _ _ (Or.inl own)).andThen authorized
          fun authorized => notifyServerMemberList_acts _ authorized (Or.inr (Or.inl asked))
      · exact serverResponse_acts _ _ (Or.inl own)

theorem leaveTizcordServer_acts (own : (process.clientAt index).socketFd = fd)
    (asked : packet.request = some (.server .leave)) :
    Acts env fd beyond packet process
      (leaveTizcordServer env index packet.serverServerId process) := by
  unfold leaveTizcordServer
  dsimp only
  split
  · exact serverResponse_acts _ _ (Or.inl own)
  · split
    · exact serverResponse_acts _ _ (Or.inl own)
    · rename_i checked
      have signed := signedIn_of_clientAt own (authenticated_of_checked checked)
      have authorized : Authorized process.ctx fd packet := Or.inr ⟨_, signed⟩
      have looks : MayLook packet := Or.inr (Or.inr (Or.inl asked))
      have changed : Acts env fd beyond packet process (process.change env
          (fun env db => dbLeaveServer env db packet.serverServerId (process.clientAt index).id)
          (fun status => .leaveServer packet.serverServerId (process.clientAt index).id status)).1 :=
        change_acts (fun _ _ => rfl) fun _ => ⟨signed, rfl, asked⟩
      refine changed.andThen authorized fun authorized => ?_
      split
      · refine Acts.andThen ?_ authorized fun authorized =>
          (serverResponse_acts _ _ (Or.inl own)).andThen authorized
            fun authorized => notifyServerMemberList_acts _ authorized looks
        split
        · exact look_acts _ _ authorized looks
        · exact .refl _
      · exact serverResponse_acts _ _ (Or.inl own)

theorem createTizcordServer_acts (own : (process.clientAt index).socketFd = fd)
    (asked : packet.request = some (.server .create)) :
    Acts env fd beyond packet process
      (createTizcordServer env index (packet.serverServerName beyond) process) := by
  unfold createTizcordServer
  dsimp only
  split
  · exact serverResponse_acts _ _ (Or.inl own)
  · split
    · exact serverResponse_acts _ _ (Or.inl own)
    · rename_i checked
      have signed := signedIn_of_clientAt own (authenticated_of_checked checked)
      have changed : Acts env fd beyond packet process (process.change env
          (fun env db =>
            dbCreateServer env db (packet.serverServerName beyond) (process.clientAt index).id)
          (fun created => .createServer (packet.serverServerName beyond)
            (process.clientAt index).id created.1 created.2)).1 :=
        change_acts (fun _ _ => rfl) fun _ => ⟨signed, rfl, asked⟩
      refine changed.trans ?_
      split <;> exact serverResponse_acts _ _ (Or.inl own)

/-- A user the database knows as an administrator has a row that says so. -/
theorem mem_serverMembers_of_isAdmin {dbEnv : DbEnv} {database : Database} {serverId userId : Int}
    (isAdmin : dbUserIsServerAdmin dbEnv database serverId userId = some true) :
    ⟨serverId, userId, true⟩ ∈ database.serverMembers := by
  unfold dbUserIsServerAdmin DbEnv.firstRow at isAdmin
  dsimp only at isAdmin
  split at isAdmin
  · cases isAdmin
  · split at isAdmin
    · cases isAdmin
    · obtain ⟨row, first, admin⟩ := Option.map_eq_some_iff.mp isAdmin
      have member := List.mem_of_mem_head? first
      obtain ⟨present, selected⟩ := List.mem_filter.mp member
      have same : row.serverId = serverId ∧ row.userId = userId := by simpa using selected
      rw [← same.1, ← same.2, ← admin]
      exact present

theorem deleteTizcordServer_acts (own : (process.clientAt index).socketFd = fd)
    (asked : packet.request = some (.server .delete)) :
    Acts env fd beyond packet process
      (deleteTizcordServer env index packet.serverServerId process) := by
  unfold deleteTizcordServer
  dsimp only
  split
  · exact serverResponse_acts _ _ (Or.inl own)
  · split
    · exact serverResponse_acts _ _ (Or.inl own)
    · rename_i checked
      have signed := signedIn_of_clientAt own (authenticated_of_checked checked)
      refine (tick_acts process).trans ?_
      split
      · exact serverResponse_acts _ _ (Or.inl own)
      · rename_i admin
        have row := mem_serverMembers_of_isAdmin (not_not.mp admin)
        have changed : Acts env fd beyond packet process.tick (process.tick.change env
            (fun env db => dbDeleteServer env db packet.serverServerId (process.clientAt index).id)
            (fun status =>
              .deleteServer packet.serverServerId (process.clientAt index).id status)).1 :=
          change_acts (fun _ _ => rfl) fun _ => ⟨⟨signed, row⟩, rfl, asked⟩
        refine changed.trans ?_
        split <;> exact serverResponse_acts _ _ (Or.inl own)

theorem kickServerMember_acts (own : (process.clientAt index).socketFd = fd)
    (asked : packet.request = some (.server .kickMember)) :
    Acts env fd beyond packet process
      (kickServerMember env index packet.serverServerId packet.serverTargetUserId process) := by
  unfold kickServerMember
  dsimp only
  split
  · exact serverResponse_acts _ _ (Or.inl own)
  · split
    · exact serverResponse_acts _ _ (Or.inl own)
    · rename_i checked
      have signed := signedIn_of_clientAt own (authenticated_of_checked checked)
      refine (tick_acts process).trans ?_
      split
      · exact serverResponse_acts _ _ (Or.inl own)
      · rename_i admin
        have row := mem_serverMembers_of_isAdmin (not_not.mp admin)
        have changed : Acts env fd beyond packet process.tick (process.tick.change env
            (fun env db =>
              dbKickServerMember env db packet.serverServerId packet.serverTargetUserId)
            (fun status =>
              .kickServerMember packet.serverServerId packet.serverTargetUserId status)).1 :=
          change_acts (fun _ _ => rfl) fun _ => ⟨⟨_, signed, row⟩, rfl, rfl, asked⟩
        refine changed.trans ?_
        split <;> exact serverResponse_acts _ _ (Or.inl own)

theorem handleServerPacket_acts (own : (process.clientAt index).socketFd = fd)
    (type : PacketType.ofCode packet.type = some .server) :
    Acts env fd beyond packet process (handleServerPacket env beyond index packet process) := by
  rw [handleServerPacket]
  cases acted : ServerAction.ofCode packet.serverAction with
  | none =>
    rw [handleServerAction]
    exact sendActionResponse_acts (by decide) _ _ (Or.inl own)
  | some action =>
    have asked := ServerAction.ofCode_eq type acted
    cases action <;> rw [handleServerAction]
    case join => exact joinTizcordServer_acts own asked
    case leave => exact leaveTizcordServer_acts own asked
    case create => exact createTizcordServer_acts own asked
    case delete => exact deleteTizcordServer_acts own asked
    case list => exact listTizcordServers_acts own
    case listChannels => exact listTizcordChannels_acts _ own
    case listMembers =>
      exact listMembers_acts _ (Or.inl own) (Or.inr (Or.inr (Or.inr asked)))
    case listJoined => exact listJoinedServers_acts own
    case kickMember => exact kickServerMember_acts own asked

end Servers

/-! ### Users and friends -/

section Social

variable {process : Process}

theorem social_quiet {answer : TizcordPacket} (announced : answer.type = PacketType.social.code) :
    ¬ IsMessage answer :=
  not_isMessage_of_type announced (by decide)

theorem socialAction_socialItemPacket (env : Env) (process : Process) (action : SocialAction)
    (listId : Int) (index : Nat) :
    (socialItemPacket env process action listId index).socialAction = action.code := by
  simp (disch := decide) [socialItemPacket, TizcordPacket.socialAction,
    TizcordPacket.setSocialAction, TizcordPacket.setListId, TizcordPacket.setListIndex,
    TizcordPacket.setListTotal, TizcordPacket.setListFrame]
  cases action <;> rfl

theorem socialStartPacket_plain (env : Env) (process : Process) (action : SocialAction)
    (listId : Int) : Plain (socialStartPacket env process action listId) :=
  plain_of_frame (type_socialStartPacket _ _ _ _) (by decide) (listFrame_setListFrame _ .start)
    (by decide)

theorem socialEndPacket_plain (env : Env) (process : Process) (action : SocialAction)
    (listId : Int) (total : Nat) : Plain (socialEndPacket env process action listId total) :=
  plain_of_frame (type_socialEndPacket _ _ _ _ _) (by decide) (listFrame_setListFrame _ .end)
    (by decide)

theorem friendRequestCb_acts (target listId : Int) (item : FriendListRow × Nat)
    (authorized : Authorized process.ctx fd packet) :
    Acts env fd beyond packet process (friendRequestCb env target listId process item) := by
  have type : ((((socialItemPacket env process .listFriends listId item.2).setSocialTargetUserId
      item.1.targetUserId).strncpySocialTargetUsername item.1.username).setSocialStatusCode
        item.1.isIncoming).type = PacketType.social.code := by
    simp (disch := decide) only [TizcordPacket.setSocialTargetUserId,
      TizcordPacket.strncpySocialTargetUsername, TizcordPacket.setSocialStatusCode, type_putInt32,
      type_putInt64, type_strncpy, type_socialItemPacket]
  refine send_acts ⟨social_quiet type, @not_isUserRow_of_action _ .listFriends type ?_
    (by decide)⟩ (Or.inr authorized)
  have action := socialAction_socialItemPacket env process .listFriends listId item.2
  rw [TizcordPacket.socialAction] at action ⊢
  simp (disch := decide) [TizcordPacket.setSocialTargetUserId,
    TizcordPacket.strncpySocialTargetUsername, TizcordPacket.setSocialStatusCode, action]

/-- The id of a row fits into the field of a packet. -/
theorem signed_rowId (id : RowId) : signed 64 (id : Int) = id := by
  obtain ⟨lower, upper⟩ := id.2
  exact signed_of_bounds (by omega) (by omega)

theorem signed_userId {tables : Tables} {userId : Int} (known : userId ∈ tables.userIds) :
    signed 64 userId = userId := by
  obtain ⟨row, -, rfl⟩ := List.mem_map.mp known
  exact signed_rowId row.id

/-- The packet of a row of the list of all users shows the user of the row. -/
theorem userListCb_acts (target listId : Int) {item : UserListRow × Nat} {row : UserRow}
    (stored : row ∈ process.ctx.db.users) (is : item.1 = ⟨row.id, row.username, row.status⟩)
    (authorized : Authorized process.ctx fd packet) :
    Acts env fd beyond packet process (userListCb env target listId process item) := by
  have small : signed 64 row.id = row.id := signed_rowId row.id
  refine .single rfl (.reply _ (social_quiet ?_) (Or.inr authorized) fun _ =>
    ⟨row, stored, ?_, fun beyond => ?_⟩)
  · simp (disch := decide) only [TizcordPacket.setSocialStatus,
      TizcordPacket.setSocialTargetUserId, TizcordPacket.strncpySocialTargetUsername,
      TizcordPacket.strncpySocialTargetStatus, TizcordPacket.setSocialStatusCode, type_putInt32,
      type_putInt64, type_strncpy, type_socialItemPacket]
  · simp (disch := decide) [TizcordPacket.socialTargetUserId, TizcordPacket.setSocialTargetUserId,
      TizcordPacket.strncpySocialTargetUsername, TizcordPacket.strncpySocialTargetStatus,
      TizcordPacket.setSocialStatusCode, is, small]
  · rw [is]
    refine Image.text_of_slice _ beyond (by decide) ?_
    rw [TizcordPacket.setSocialStatusCode, Image.slice_putInt32_disjoint _ _ _ _ _ (by decide)]
    refine Image.slice_strncpy_same _ _ _ _ (by decide) ?_
    simp (disch := decide) [socialItemPacket, Process.basePacket, createBasePacket,
      TizcordPacket.setType, TizcordPacket.setTimestamp, TizcordPacket.setSocialAction,
      TizcordPacket.setListId, TizcordPacket.setListIndex, TizcordPacket.setListTotal,
      TizcordPacket.setListFrame, TizcordPacket.setSocialStatus,
      TizcordPacket.setSocialTargetUserId, TizcordPacket.strncpySocialTargetUsername]

/-- A stream is a first packet, the packets of its rows one by one, and a last packet. -/
theorem stream_acts {Item : Type} {callback : Process → Item × Nat → Process} {items : List Item}
    {target : Int} {first last : TizcordPacket} (firstPlain : Plain first)
    (row : ∀ other, ∀ item ∈ items, ∀ index, other.ctx.db = process.ctx.db →
      Authorized other.ctx fd packet →
      Acts env fd beyond packet other (callback other (item, index)))
    (sends : ∀ other item, ∃ answer, callback other item = other.send env target answer)
    (lastPlain : Plain last) (authorized : Authorized process.ctx fd packet) :
    Acts env fd beyond packet process
      ((items.zipIdx.foldl callback (process.send env target first).tick).send env target last) := by
  have started : Acts env fd beyond packet process (process.send env target first).tick :=
    (send_acts firstPlain (Or.inr authorized)).trans (tick_acts _)
  have rows : Acts env fd beyond packet (process.send env target first).tick
      (items.zipIdx.foldl callback (process.send env target first).tick) := by
    refine .foldl_of_invariant_mem (fun other => other.ctx = process.ctx) ?_ _ ?_ _ rfl
    · intro other item same
      obtain ⟨answer, sent⟩ := sends other item
      rw [sent]
      exact same
    · intro other item member same
      exact row other item.1 (List.fst_mem_of_mem_zipIdx member) item.2
        (congrArg ServerContext.db same) (same ▸ authorized)
  refine started.andThen authorized fun authorized => ?_
  exact rows.andThen authorized fun authorized => send_acts lastPlain (Or.inr authorized)

theorem sendFriendList_acts (target userId : Int) (authorized : Authorized process.ctx fd packet) :
    Acts env fd beyond packet process (sendFriendList env target userId process) :=
  stream_acts (socialStartPacket_plain _ _ _ _)
    (fun _ item _ index _ => friendRequestCb_acts target userId (item, index))
    (fun _ _ => ⟨_, rfl⟩) (socialEndPacket_plain _ _ _ _ _) authorized

theorem mem_users_of_listed {dbEnv : DbEnv} {database : Database} {listed : UserListRow}
    (member : listed ∈ (dbListAllUsers dbEnv database).1) :
    ∃ row ∈ database.users, listed = ⟨row.id, row.username, row.status⟩ := by
  unfold dbListAllUsers at member
  split at member
  · cases member
  · dsimp only at member
    obtain ⟨row, sorted, rfl⟩ := List.mem_map.mp ((fetch_isPrefix ..).subset member)
    exact ⟨row, (List.perm_insertionSort _ _).mem_iff.mp sorted, rfl⟩

theorem sendUserList_acts (target listId : Int) (authorized : Authorized process.ctx fd packet) :
    Acts env fd beyond packet process (sendUserList env target listId process) := by
  refine stream_acts (socialStartPacket_plain _ _ _ _) (fun other item member index same
    authorized => ?_) (fun _ _ => ⟨_, rfl⟩) (socialEndPacket_plain _ _ _ _ _) authorized
  obtain ⟨row, stored, is⟩ := mem_users_of_listed member
  exact userListCb_acts target listId (same.symm ▸ stored) is authorized

theorem notifyFriendListUpdate_acts (userId : Int) (authorized : Authorized process.ctx fd packet) :
    Acts env fd beyond packet process (notifyFriendListUpdate env userId process) := by
  unfold notifyFriendListUpdate
  split
  · exact .refl process
  · exact sendFriendList_acts _ _ authorized

theorem notifyAllUserLists_acts (authorized : Authorized process.ctx fd packet) :
    Acts env fd beyond packet process (notifyAllUserLists env process) := by
  refine forClients_acts (Authorized · fd packet) HandlerStep.authorized
    (fun index process authorized => ?_) authorized
  split
  · exact .refl process
  · exact sendUserList_acts _ _ authorized

theorem sendStatusUpdatePacket_acts (target : Int) (status : ResponseCode) (userId : Int)
    (username : Text) (statusText : Option Text) (isOnline : Bool)
    (authorized : Authorized process.ctx fd packet) :
    Acts env fd beyond packet process
      (sendStatusUpdatePacket env target status userId username statusText isOnline process) := by
  refine send_acts (@plain_of_frame _ .social .single ?_ (by decide) ?_ (by decide))
    (Or.inr authorized)
  · cases statusText <;>
      simp (disch := decide) only [Option.elim_none, Option.elim_some,
        TizcordPacket.setSocialAction, TizcordPacket.setSocialStatus,
        TizcordPacket.setSocialTargetUserId, TizcordPacket.strncpySocialTargetUsername,
        TizcordPacket.strncpySocialTargetStatus, TizcordPacket.setSocialStatusCode, type_putInt32,
        type_putInt64, type_strncpy, type_basePacket]
  · cases statusText <;>
      simp (disch := decide) only [Option.elim_none, Option.elim_some,
        TizcordPacket.setSocialAction, TizcordPacket.setSocialStatus,
        TizcordPacket.setSocialTargetUserId, TizcordPacket.strncpySocialTargetUsername,
        TizcordPacket.strncpySocialTargetStatus, TizcordPacket.setSocialStatusCode,
        listFrame_putInt32, listFrame_putInt64, listFrame_strncpy, listFrame_basePacket]

theorem notifyUserStatusUpdate_acts (userId : Int) (username statusText : Text)
    (authorized : Authorized process.ctx fd packet) :
    Acts env fd beyond packet process
      (notifyUserStatusUpdate env userId username statusText process) := by
  refine forClients_acts (Authorized · fd packet) HandlerStep.authorized
    (fun index process authorized => ?_) authorized
  split
  · exact sendStatusUpdatePacket_acts _ _ _ _ _ _ authorized
  · exact .refl process

/-- The id a name stands for is the id of a user. -/
theorem mem_userIds_of_found {dbEnv : DbEnv} {database : Database} {name : Text} {userId : Int}
    (found : dbGetUserIdByName dbEnv database name = some userId) : userId ∈ database.userIds := by
  unfold dbGetUserIdByName DbEnv.firstRow at found
  dsimp only at found
  split at found
  · cases found
  · split at found
    · cases found
    · obtain ⟨row, first, same⟩ := Option.map_eq_some_iff.mp found
      have present := List.mem_of_mem_filter (List.mem_of_mem_head? first)
      exact List.mem_map.mpr ⟨row, present, same⟩

theorem findTargetUser_acts (signed : ∃ userId, SignedIn process.ctx fd userId)
    (asked : packet.request = some (.social .friendRequest) ∨
      packet.request = some (.social .friendAccept) ∨
      packet.request = some (.social .friendReject) ∨
      packet.request = some (.social .friendRemove)) :
    Acts env fd beyond packet process
      (findTargetUser env (packet.socialTargetUsername beyond) process).1 :=
  .single rfl (HandlerStep.call process.clock
    (show DbCall.Permitted _ _ _ _ (.getUserIdByName _) from ⟨signed, rfl, asked⟩) rfl)

section Client

variable {client : ClientNode}

theorem friendRequest_acts (signed : SignedIn process.ctx fd client.id)
    (own : client.socketFd = fd) (asked : packet.request = some (.social .friendRequest)) :
    Acts env fd beyond packet process
      (friendRequest env client (packet.socialTargetUsername beyond) process) := by
  have authorized : Authorized process.ctx fd packet := Or.inr ⟨_, signed⟩
  have looked : Acts env fd beyond packet process
      (findTargetUser env (packet.socialTargetUsername beyond) process).1 :=
    findTargetUser_acts ⟨_, signed⟩ (Or.inl asked)
  unfold friendRequest
  refine looked.andThen authorized fun authorized => ?_
  dsimp only
  split
  · exact socialResponse_acts _ _ (Or.inl own)
  · rename_i friendId found
    split
    · exact socialResponse_acts _ _ (Or.inl own)
    · rename_i other
      have known : friendId ∈ process.ctx.db.userIds := mem_userIds_of_found found
      have changed : Acts env fd beyond packet _
          ((findTargetUser env (packet.socialTargetUsername beyond) process).1.change env
            (fun env db => dbSendFriendRequest env db client.id friendId)
            (fun status => .sendFriendRequest client.id friendId status)).1 :=
        change_acts (fun _ _ => rfl) fun _ => ⟨signed, known, other, asked⟩
      refine changed.andThen authorized fun authorized => ?_
      split
      · exact socialResponse_acts _ _ (Or.inl own)
      · split
        · exact socialResponse_acts _ _ (Or.inl own)
        · have answered : ∀ {process : Process}, Authorized process.ctx fd packet →
              Acts env fd beyond packet process
                (socialResponse env client.socketFd .friendRequest .ok process) :=
            fun _ => socialResponse_acts _ _ (Or.inl own)
          split
          · refine (answered authorized).andThen authorized fun authorized => ?_
            exact (notifyFriendListUpdate_acts _ authorized).andThen authorized
              fun authorized => notifyFriendListUpdate_acts _ authorized
          · exact (answered authorized).andThen authorized
              fun authorized => notifyFriendListUpdate_acts _ authorized

theorem friendAccept_acts (signed : SignedIn process.ctx fd client.id)
    (own : client.socketFd = fd) (asked : packet.request = some (.social .friendAccept)) :
    Acts env fd beyond packet process
      (friendAccept env client (packet.socialTargetUsername beyond) process) := by
  have authorized : Authorized process.ctx fd packet := Or.inr ⟨_, signed⟩
  have looked : Acts env fd beyond packet process
      (findTargetUser env (packet.socialTargetUsername beyond) process).1 :=
    findTargetUser_acts ⟨_, signed⟩ (Or.inr (Or.inl asked))
  unfold friendAccept
  refine looked.andThen authorized fun authorized => ?_
  dsimp only
  split
  · exact socialResponse_acts _ _ (Or.inl own)
  · rename_i friendId found
    have known : friendId ∈ process.ctx.db.userIds := mem_userIds_of_found found
    have changed : Acts env fd beyond packet _
        ((findTargetUser env (packet.socialTargetUsername beyond) process).1.change env
          (fun env db => dbAcceptFriendRequest env db client.id friendId)
          (fun status => .acceptFriendRequest client.id friendId status)).1 :=
      change_acts (fun _ _ => rfl) fun _ => ⟨signed, known, asked⟩
    refine changed.andThen authorized fun authorized => ?_
    split
    · exact socialResponse_acts _ _ (Or.inl own)
    · split
      · exact socialResponse_acts _ _ (Or.inl own)
      · exact (socialResponse_acts _ _ (Or.inl own)).andThen authorized
          fun authorized => notifyFriendListUpdate_acts _ authorized

/-- The requests that take a row away differ in their call alone. -/
theorem friendUnlink_acts {action : SocialAction}
    {operation : DbEnv → Database → Int → Int → Database × Int} {call : Int → Int → Int → DbCall}
    (signed : SignedIn process.ctx fd client.id) (own : client.socketFd = fd)
    (asked : packet.request = some (.social .friendReject) ∨
      packet.request = some (.social .friendRemove))
    (runs : ∀ env before first second, (call first second
      (operation env before first second).2).Runs env before (operation env before first second).1)
    (permitted : ∀ friendId ∈ process.ctx.db.userIds, ∀ status,
      (call client.id friendId status).Permitted process.ctx fd beyond packet) :
    Acts env fd beyond packet process
      (friendUnlink env client action operation call (packet.socialTargetUsername beyond)
        process) := by
  have authorized : Authorized process.ctx fd packet := Or.inr ⟨_, signed⟩
  have looked : Acts env fd beyond packet process
      (findTargetUser env (packet.socialTargetUsername beyond) process).1 :=
    findTargetUser_acts ⟨_, signed⟩ (Or.inr (Or.inr asked))
  unfold friendUnlink
  refine looked.andThen authorized fun authorized => ?_
  dsimp only
  split
  · exact socialResponse_acts _ _ (Or.inl own)
  · rename_i friendId found
    have known : friendId ∈ process.ctx.db.userIds := mem_userIds_of_found found
    have changed : Acts env fd beyond packet _
        ((findTargetUser env (packet.socialTargetUsername beyond) process).1.change env
          (fun env db => operation env db client.id friendId)
          (fun status => call client.id friendId status)).1 :=
      change_acts (fun _ _ => runs _ _ _ _) fun status => permitted friendId known status
    refine changed.andThen authorized fun authorized => ?_
    split
    · exact socialResponse_acts _ _ (Or.inl own)
    · exact (socialResponse_acts _ _ (Or.inl own)).andThen authorized
        fun authorized => notifyFriendListUpdate_acts _ authorized

theorem updateStatus_acts (signed : SignedIn process.ctx fd client.id)
    (asked : packet.request = some (.social .updateStatus)) :
    Acts env fd beyond packet process (updateStatus env beyond client packet process) := by
  have authorized : Authorized process.ctx fd packet := Or.inr ⟨_, signed⟩
  unfold updateStatus
  split
  · exact sendStatusUpdatePacket_acts _ _ _ _ _ _ authorized
  · have changed : Acts env fd beyond packet process (process.change env
        (fun env db =>
          dbUpdateUserStatus env db client.id (packet.socialTargetStatus beyond))
        (fun status =>
          .updateUserStatus client.id (packet.socialTargetStatus beyond) status)).1 :=
      change_acts (fun _ _ => rfl) fun _ => ⟨signed, rfl, asked⟩
    refine changed.andThen authorized fun authorized => ?_
    dsimp only
    split
    · exact sendStatusUpdatePacket_acts _ _ _ _ _ _ authorized
    · exact notifyUserStatusUpdate_acts _ _ _ authorized

end Client

theorem handleSocialPacket_acts {index : Nat} (own : (process.clientAt index).socketFd = fd)
    (type : PacketType.ofCode packet.type = some .social) :
    Acts env fd beyond packet process (handleSocialPacket env beyond index packet process) := by
  unfold handleSocialPacket
  dsimp only
  split
  · exact sendActionResponse_acts (by decide) _ _ (Or.inl own)
  · rename_i checked
    have signed := signedIn_of_clientAt own (authenticated_of_checked checked)
    have authorized : Authorized process.ctx fd packet := Or.inr ⟨_, signed⟩
    cases acted : SocialAction.ofCode packet.socialAction with
    | none =>
      rw [handleSocialAction]
      exact sendActionResponse_acts (by decide) _ _ (Or.inl own)
    | some action =>
      have asked := SocialAction.ofCode_eq type acted
      cases action <;> rw [handleSocialAction]
      case friendRequest => exact friendRequest_acts signed own asked
      case friendAccept => exact friendAccept_acts signed own asked
      case friendReject =>
        exact friendUnlink_acts signed own (Or.inl asked) (fun _ _ _ _ => rfl)
          fun friendId known _ => ⟨signed, known, asked⟩
      case friendRemove =>
        exact friendUnlink_acts signed own (Or.inr asked) (fun _ _ _ _ => rfl)
          fun friendId known _ => ⟨signed, known, asked⟩
      case listFriends => exact sendFriendList_acts _ _ authorized
      case listUsers => exact sendUserList_acts _ _ authorized
      case updateStatus => exact updateStatus_acts signed asked

end Social

/-! ### Chat -/

section Chat

variable {process : Process}

theorem senderNode_spec {ctx : ServerContext} {node : ClientNode}
    (found : senderNode ctx fd = some node) : node ∈ ctx.clients ∧ node.socketFd = fd := by
  obtain ⟨index, search, rfl⟩ := Option.map_eq_some_iff.mp found
  obtain ⟨bound, same, -⟩ := List.findIdx?_eq_some_iff_getElem.mp search
  have node : ctx.clientAt index = ctx.clients[index] := by
    rw [ServerContext.clientAt, List.getD_eq_getElem?_getD, List.getElem?_eq_getElem bound]
    rfl
  rw [node]
  exact ⟨List.getElem_mem bound, by simpa using same⟩

/-- Stamping a channel message leaves the place of the message and its text as they were. -/
theorem stampChannelMessage_same (packet : TizcordPacket) (beyond : List UInt8)
    (sender : Option ClientNode) :
    (stampChannelMessage sender packet).channelChannelId = packet.channelChannelId ∧
      (stampChannelMessage sender packet).channelMessage beyond = packet.channelMessage beyond := by
  cases sender with
  | none => exact ⟨rfl, rfl⟩
  | some node =>
    constructor
    · exact (Image.int64_strncpy_disjoint _ _ _ _ _ (by decide)).trans
        (Image.int64_putInt64_disjoint _ _ _ _ (by decide))
    · exact (Image.text_store_before _ _ _ _ _ (by rw [length_strncpyBytes]; decide)).trans
        (Image.text_store_before _ _ _ _ _ (by rw [length_natToBytes]; decide))

/-- Stamping a direct message leaves its action, its recipient and its text as they were. -/
theorem stampDirectMessage_same (packet : TizcordPacket) (beyond : List UInt8)
    (sender : Option ClientNode) :
    (stampDirectMessage sender packet).dmAction = packet.dmAction ∧
      (stampDirectMessage sender packet).dmRecipientId = packet.dmRecipientId ∧
      (stampDirectMessage sender packet).dmMessage beyond = packet.dmMessage beyond := by
  cases sender with
  | none => exact ⟨rfl, rfl, rfl⟩
  | some node =>
    refine ⟨?_, ?_, ?_⟩
    · exact Image.int32_putInt64_disjoint _ _ _ _ (by decide)
    · exact Image.int32_putInt64_disjoint _ _ _ _ (by decide)
    · exact Image.text_store_before _ _ _ _ _ (by rw [length_natToBytes]; decide)

/-- A broadcast only sends. -/
theorem channelBroadcast_ctx (answer : TizcordPacket) (senderFd : Int) (process : Process) :
    (channelBroadcast env answer senderFd process).ctx = process.ctx := by
  refine List.foldlRecOn _ _ (motive := fun other : Process => other.ctx = process.ctx) rfl ?_
  intro other same index _
  dsimp only
  split <;> exact same

theorem channelBroadcast_acts (senderFd : Int)
    (asked : packet.request = some (.channel .message)) :
    Acts env fd beyond packet process
      (channelBroadcast env (stampChannelMessage (senderNode process.ctx fd) packet) senderFd
        process) := by
  refine .foldl_of_invariant (fun other => other.ctx = process.ctx) ?_ ?_ _ process rfl
  · intro other index same
    dsimp only
    split <;> exact same
  · intro other index same
    dsimp only
    split
    · rename_i open'
      rw [← same]
      exact .single rfl (.broadcast _ asked (clientAt_mem_of_open open'.1) open'.1)
    · exact .refl other

theorem channelMessage_acts (asked : packet.request = some (.channel .message)) :
    Acts env fd beyond packet process (channelMessage env beyond packet fd process) := by
  have broadcast : Acts env fd beyond packet process
      (channelBroadcast env (stampChannelMessage (senderNode process.ctx fd) packet) (-1)
        process) := channelBroadcast_acts (-1) asked
  have same : (channelBroadcast env (stampChannelMessage (senderNode process.ctx fd) packet) (-1)
      process).ctx = process.ctx := channelBroadcast_ctx _ _ _
  unfold channelMessage
  dsimp only
  split
  · exact broadcast
  · rename_i node found
    refine broadcast.trans (change_acts (fun _ _ => rfl) fun _ => ?_)
    obtain ⟨member, own⟩ := senderNode_spec found
    obtain ⟨channel, content⟩ := stampChannelMessage_same packet beyond
      (senderNode process.ctx fd)
    rw [same]
    exact ⟨⟨node, member, own, rfl⟩, channel, content, asked⟩

/-- An answer about a channel, with the action it answers. -/
def ChannelReply (action : ChannelAction) (answer : TizcordPacket) : Prop :=
  answer.type = PacketType.channel.code ∧ answer.channelAction = action.code

/-- No field behind the action overlaps the type or the action. -/
theorem ChannelReply.store {action : ChannelAction} {answer : TizcordPacket}
    (reply : ChannelReply action answer) (offset : Nat) {bytes : List UInt8}
    (behind : 36 ≤ offset) : ChannelReply action (answer.store offset bytes) := by
  refine ⟨(type_store answer offset bytes (by omega)).trans reply.1, Eq.trans ?_ reply.2⟩
  rw [TizcordPacket.channelAction, TizcordPacket.channelAction, Image.int32, Image.int32,
    Image.word_store_disjoint _ _ _ _ _ (Or.inl behind)]

theorem ChannelReply.base (env : Env) (process : Process) (action : ChannelAction) :
    ChannelReply action
      ((process.basePacket env .channel).setChannelAction action.code) := by
  constructor
  · exact (type_putInt32 _ _ _ (by decide)).trans (type_basePacket _ _ _)
  · rw [TizcordPacket.channelAction, TizcordPacket.setChannelAction,
      Image.int32_putInt32_same _ _ _ (by decide)]
    cases action <;> rfl

/-- An answer about an action other than a message shows no message. -/
theorem ChannelReply.acts {action : ChannelAction} {answer : TizcordPacket}
    (reply : ChannelReply action answer) (other : action ≠ .message) (process : Process) :
    Acts env fd beyond packet process (process.send env fd answer) := by
  have decoded : PacketType.ofCode answer.type = some .channel := by
    rw [reply.1, PacketType.ofCode_code]
  have request : answer.requestOfType .channel = some (.channel action) := by
    rw [TizcordPacket.requestOfType, reply.2]
    cases action <;> rfl
  refine send_acts ⟨?_, not_isUserRow_of_type reply.1 (by decide)⟩ (Or.inl rfl)
  rw [IsMessage, TizcordPacket.request_of_type decoded, request]
  simpa using other

theorem senderIsAdmin_spec {node : ClientNode} {serverId : Int}
    (found : senderNode process.ctx fd = some node)
    (isAdmin : senderIsAdmin env process serverId node = true) :
    HasAdmin process.ctx fd serverId := by
  obtain ⟨member, own⟩ := senderNode_spec found
  exact ⟨node, member, own, mem_serverMembers_of_isAdmin (of_decide_eq_true isAdmin)⟩

theorem channelCreate_acts (asked : packet.request = some (.channel .create)) :
    Acts env fd beyond packet process (channelCreate env beyond packet fd process) := by
  have reply : ChannelReply .create (((process.basePacket env .channel).setChannelAction
      ChannelAction.create.code).setChannelServerId packet.channelServerId) :=
    (ChannelReply.base env process .create).store 40 (by decide)
  unfold channelCreate
  dsimp only
  split
  · exact (reply.store 48 (by decide)).acts (by decide) process
  · rename_i node found
    refine (tick_acts process).trans ?_
    split
    · exact (reply.store 48 (by decide)).acts (by decide) process.tick
    · rename_i checked
      have admin : HasAdmin process.ctx fd packet.channelServerId :=
        senderIsAdmin_spec found (by simpa using checked)
      have changed : Acts env fd beyond packet process.tick (process.tick.change env
          (fun env db => dbCreateChannel env db packet.channelServerId
            (packet.channelChannelName beyond))
          (fun created => .createChannel packet.channelServerId
            (packet.channelChannelName beyond) created)).1 :=
        change_acts (fun _ _ => rfl) fun _ => ⟨admin, rfl, rfl, asked⟩
      refine changed.trans ?_
      split
      · exact (reply.store 48 (by decide)).acts (by decide) _
      · exact (((reply.store 48 (by decide)).store 56 (by decide)).store 64
          (by decide)).acts (by decide) _

/-- The server of a channel is that of its row. -/
theorem mem_channels_of_found {dbEnv : DbEnv} {database : Database} {channelId serverId : Int}
    (found : dbGetChannelServerId dbEnv database channelId = some serverId) :
    ∃ row ∈ database.channels, (row.id : Int) = channelId ∧ row.serverId = serverId := by
  unfold dbGetChannelServerId DbEnv.firstRow at found
  dsimp only at found
  split at found
  · cases found
  · split at found
    · cases found
    · obtain ⟨row, first, same⟩ := Option.map_eq_some_iff.mp found
      obtain ⟨present, selected⟩ := List.mem_filter.mp (List.mem_of_mem_head? first)
      exact ⟨row, present, by simpa using selected, same⟩

theorem channelDelete_acts (asked : packet.request = some (.channel .delete)) :
    Acts env fd beyond packet process (channelDelete env packet fd process) := by
  have reply : ChannelReply .delete (((process.basePacket env .channel).setChannelAction
      ChannelAction.delete.code).setChannelChannelId packet.channelChannelId) :=
    (ChannelReply.base env process .delete).store 56 (by decide)
  have answer : ∀ (status : ResponseCode) (other : Process),
      Acts env fd beyond packet other (other.send env fd
        ((((process.basePacket env .channel).setChannelAction
          ChannelAction.delete.code).setChannelChannelId
            packet.channelChannelId).setChannelStatusCode status.code)) :=
    fun status other => (reply.store 48 (by decide)).acts (by decide) other
  unfold channelDelete
  dsimp only
  split
  · exact answer .errInternal process
  · rename_i node found
    refine (tick_acts process).trans ?_
    split
    · exact answer .errNotFound process.tick
    · rename_i serverId channel
      refine (tick_acts process.tick).trans ?_
      split
      · exact answer .errUnauthorized process.tick.tick
      · rename_i checked
        have sender : senderNode process.tick.ctx fd = some node := found
        have admin : HasAdmin process.tick.ctx fd serverId :=
          senderIsAdmin_spec sender (by simpa using checked)
        obtain ⟨row, present, sameId, sameServer⟩ := mem_channels_of_found channel
        have changed : Acts env fd beyond packet process.tick.tick (process.tick.tick.change env
            (fun env db => dbDeleteChannel env db packet.channelChannelId)
            (fun status => .deleteChannel packet.channelChannelId status)).1 :=
          change_acts (fun _ _ => rfl) fun _ =>
            ⟨⟨row, present, sameId, sameServer ▸ admin⟩, rfl, asked⟩
        refine changed.trans ?_
        split
        · exact answer .ok _
        · exact answer .errDb _

/-- The packets of a history go to the requester. -/
theorem history_acts {answer : TizcordPacket}
    (asked : packet.request = some (.channel .historyRequest) ∨
      packet.request = some (.dm .historyRequest))
    (stored : answer.listFrame = ListFrameType.middle.code → HasHistory process.ctx fd packet)
    (unlisted : ¬ IsUserRow answer) :
    Acts env fd beyond packet process (process.send env fd answer) :=
  .single rfl (.history _ asked stored unlisted)

/-- A history is a frame, its rows, of which there are none without a stored message, and another
frame. -/
theorem historyStream_acts {Item : Type} {callback : Process → Item → Process} {items : List Item}
    {first : TizcordPacket} {frame lastFrame : ListFrameType} (last : Process → TizcordPacket)
    (asked : packet.request = some (.channel .historyRequest) ∨
      packet.request = some (.dm .historyRequest))
    (opens : first.listFrame = frame.code) (closes : ∀ process,
      (last process).listFrame = lastFrame.code)
    (frames : frame ≠ .middle ∧ lastFrame ≠ .middle)
    (row : ∀ process item, ∃ answer, ¬ IsUserRow answer ∧
      callback process item = process.send env fd answer)
    (stored : items ≠ [] → HasHistory process.ctx fd packet) :
    Acts env fd beyond packet process
      ((items.foldl callback (process.send env fd first).tick).send env fd
        (last (items.foldl callback (process.send env fd first).tick))) := by
  have started : Acts env fd beyond packet process (process.send env fd first).tick := by
    refine (history_acts asked (fun middle => ?_)
      (not_isUserRow_of_frame opens frames.1)).trans (tick_acts _)
    exact absurd (ListFrameType.code_injective (opens.symm.trans middle)) frames.1
  have rows : Acts env fd beyond packet (process.send env fd first).tick
      (items.foldl callback (process.send env fd first).tick) := by
    rcases items with _ | ⟨item, rest⟩
    · exact .refl _
    · refine .foldl_of_invariant (fun other => other.ctx = process.ctx) ?_ ?_ _ _ rfl
      · intro other item same
        obtain ⟨answer, -, sent⟩ := row other item
        rw [sent]
        exact same
      · intro other item same
        obtain ⟨answer, unlisted, sent⟩ := row other item
        rw [sent]
        exact history_acts asked (fun _ => same ▸ stored (List.cons_ne_nil _ _)) unlisted
  refine (started.trans rows).trans (history_acts asked (fun middle => ?_)
    (not_isUserRow_of_frame (closes _) frames.2))
  exact absurd (ListFrameType.code_injective ((closes _).symm.trans middle)) frames.2

theorem listFrame_channelFramePacket (env : Env) (process : Process) (listId : Int)
    (frame : ListFrameType) : (channelFramePacket env process listId frame).listFrame = frame.code :=
  listFrame_setListFrame _ _

theorem listFrame_dmFramePacket (env : Env) (process : Process) (friendId : Int)
    (frame : ListFrameType) : (dmFramePacket env process friendId frame).listFrame = frame.code :=
  listFrame_setListFrame _ _

/-- A row of a history is sent in a packet about a chat. -/
theorem messageHistoryCb_sends_chat (env : Env) (channelId : Int) (process : Process)
    (item : MessageListRow × Nat) : ∃ answer, ¬ IsUserRow answer ∧
      messageHistoryCb env fd channelId process item = process.send env fd answer := by
  refine ⟨_, @not_isUserRow_of_type _ .channel ?_ (by decide), rfl⟩
  simp (disch := decide) only [TizcordPacket.setChannelAction, TizcordPacket.setListId,
    TizcordPacket.setListIndex, TizcordPacket.setListFrame, TizcordPacket.setChannelChannelId,
    TizcordPacket.setChannelMessageId, TizcordPacket.setTimestamp,
    TizcordPacket.strncpyChannelChannelName, TizcordPacket.strncpyChannelMessage, type_putInt32,
    type_putInt64, type_strncpy, type_basePacket]

theorem directMessageHistoryCb_sends_chat (env : Env) (userId friendId : Int) (name : Text)
    (process : Process) (item : DirectMessageListRow × Nat) : ∃ answer, ¬ IsUserRow answer ∧
      directMessageHistoryCb env fd userId friendId name process item =
        process.send env fd answer := by
  refine ⟨_, @not_isUserRow_of_type _ .dm ?_ (by decide), rfl⟩
  simp (disch := decide) only [TizcordPacket.setDmAction, TizcordPacket.setListId,
    TizcordPacket.setListIndex, TizcordPacket.setListFrame, TizcordPacket.setSenderId,
    TizcordPacket.setDmRecipientId, TizcordPacket.setDmMessageId, TizcordPacket.setTimestamp,
    TizcordPacket.strncpyDmMessage, type_putInt32, type_putInt64, type_strncpy, type_basePacket]

/-- A channel history with rows is that of a channel with messages. -/
theorem mem_messages_of_listed {dbEnv : DbEnv} {database : Database} {channelId : Int}
    (listed : (dbListChannelMessages dbEnv database channelId).1 ≠ []) :
    ∃ row ∈ database.messages, row.channelId = channelId := by
  by_contra none'
  have empty : (database.messages.filter fun row => row.channelId = channelId) = [] :=
    List.filter_eq_nil_iff.mpr fun row member => by simpa using fun same => none' ⟨row, member, same⟩
  refine listed ?_
  unfold dbListChannelMessages
  split
  · rfl
  · dsimp only
    rw [empty]
    exact List.prefix_nil.mp (fetch_isPrefix ..)

/-- A direct-message history with rows has a message from or to the requester. -/
theorem mem_directMessages_of_listed {dbEnv : DbEnv} {database : Database} {userId friendId : Int}
    (listed : (dbListDirectMessages dbEnv database userId friendId).1 ≠ []) :
    ∃ row ∈ database.directMessages, row.senderId = userId ∨ row.receiverId = userId := by
  by_contra none'
  refine listed ?_
  unfold dbListDirectMessages
  split
  · rfl
  · extract_lets joined selected newest rows
    have empty : selected = [] := by
      refine List.filter_eq_nil_iff.mpr fun row member between => none' ⟨row.1, ?_, ?_⟩
      · obtain ⟨message, present, found⟩ := List.mem_flatMap.mp member
        obtain ⟨sender, -, found⟩ := List.mem_flatMap.mp found
        obtain ⟨receiver, -, rfl⟩ := List.mem_map.mp found
        exact present
      · simp only [Bool.or_eq_true, Bool.and_eq_true, decide_eq_true_eq] at between
        exact between.imp And.left And.right
    have none'' : rows = [] := by
      dsimp only [rows, newest]
      rw [empty]
      rfl
    rw [none'']
    exact List.prefix_nil.mp (fetch_isPrefix ..)

theorem zipIdx_ne_nil {Item : Type} {items : List Item} (numbered : items.zipIdx ≠ []) :
    items ≠ [] := by
  rintro rfl
  exact numbered rfl

theorem channelHistory_acts (asked : packet.request = some (.channel .historyRequest)) :
    Acts env fd beyond packet process (channelHistory env packet fd process) := by
  refine historyStream_acts (fun other => channelFramePacket env other packet.channelChannelId .end)
    (Or.inl asked) (listFrame_channelFramePacket env process _ .start)
    (fun _ => listFrame_channelFramePacket ..) (by decide) (messageHistoryCb_sends_chat env _)
    fun listed => ?_
  exact Or.inl ⟨asked, mem_messages_of_listed (zipIdx_ne_nil listed)⟩

theorem handleChannelMessage_acts (type : PacketType.ofCode packet.type = some .channel) :
    Acts env fd beyond packet process (handleChannelMessage env beyond packet fd process) := by
  rw [handleChannelMessage]
  cases acted : ChannelAction.ofCode packet.channelAction with
  | none => exact .refl process
  | some action =>
    have asked := ChannelAction.ofCode_eq type acted
    cases action <;> rw [handleChannelAction]
    case message => exact channelMessage_acts asked
    case create => exact channelCreate_acts asked
    case delete => exact channelDelete_acts asked
    case historyRequest => exact channelHistory_acts asked

/-- The forward of a direct message, from a state with the same clients. -/
theorem directForward_acts (asked : packet.request = some (.dm .message)) (other : Process)
    (same : other.ctx.clients = process.ctx.clients) :
    Acts env fd beyond packet other
      (match recipientNode other.ctx packet.dmRecipientId with
      | none => other
      | some node => other.send env node.socketFd
          (stampDirectMessage (senderNode process.ctx fd) packet)) := by
  have sender : senderNode process.ctx fd = senderNode other.ctx fd := by
    unfold senderNode ServerContext.findClient ServerContext.clientAt
    rw [same]
  split
  · exact .refl other
  · next node found =>
    rw [sender]
    exact .single rfl (.forward _ asked found)

theorem directMessage_acts (asked : packet.request = some (.dm .message)) :
    Acts env fd beyond packet process
      (directMessage env beyond (stampDirectMessage (senderNode process.ctx fd) packet)
        (senderNode process.ctx fd) process) := by
  obtain ⟨-, recipient, content⟩ := stampDirectMessage_same packet beyond
    (senderNode process.ctx fd)
  have forwarded := @directForward_acts env fd beyond packet process asked
  unfold directMessage
  rw [recipient, content]
  cases found : senderNode process.ctx fd with
  | none =>
    rw [found] at forwarded
    exact forwarded process rfl
  | some node =>
    obtain ⟨member, own⟩ := senderNode_spec found
    rw [found] at forwarded
    have changed : Acts env fd beyond packet process (process.change env
        (fun env db => dbSaveDirectMessage env db node.id packet.dmRecipientId
          (packet.dmMessage beyond))
        (fun status => .saveDirectMessage node.id packet.dmRecipientId
          (packet.dmMessage beyond) status)).1 :=
      change_acts (fun _ _ => rfl) fun _ => ⟨⟨node, member, own, rfl⟩, rfl, rfl, asked⟩
    exact changed.trans (forwarded _ rfl)

theorem directMessageHistory_acts (asked : packet.request = some (.dm .historyRequest)) :
    Acts env fd beyond packet process
      (directMessageHistory env (stampDirectMessage (senderNode process.ctx fd) packet) fd
        (senderNode process.ctx fd) process) := by
  unfold directMessageHistory
  split
  · exact .refl process
  · rename_i node found
    obtain ⟨member, own⟩ := senderNode_spec found
    refine historyStream_acts (fun other => dmFramePacket env other _ .end) (Or.inr asked)
      (listFrame_dmFramePacket env process _ .start) (fun _ => listFrame_dmFramePacket ..)
      (by decide) (directMessageHistoryCb_sends_chat env _ _ _) fun listed =>
        Or.inr ⟨asked, node, member, own, ?_⟩
    exact mem_directMessages_of_listed (zipIdx_ne_nil listed)

theorem handlePrivateMessage_acts (type : PacketType.ofCode packet.type = some .dm) :
    Acts env fd beyond packet process (handlePrivateMessage env beyond packet fd process) := by
  rw [handlePrivateMessage, (stampDirectMessage_same packet beyond _).1]
  cases acted : DMAction.ofCode packet.dmAction with
  | none => exact .refl process
  | some action =>
    have asked := DMAction.ofCode_eq type acted
    cases action <;> rw [handleDmAction]
    case message => exact directMessage_acts asked
    case historyRequest =>
      exact directMessageHistory_acts asked

end Chat

/-! ### Authentication -/

section Auth

variable {process : Process} {action : AuthAction}

theorem auth_plain {answer : TizcordPacket} (announced : answer.type = PacketType.auth.code) :
    Plain answer :=
  plain_of_type announced (by decide)

theorem authReply_acts (action : AuthAction) (statusCode : Int) :
    Acts env fd beyond packet process (process.send env fd (authPacket action statusCode)) :=
  send_acts (auth_plain (type_authPacket _ _)) (Or.inl rfl)

theorem clear_acts (index : Nat) (asked : packet.request = some (.auth action)) :
    Acts env fd beyond packet process (process.modifyClient index clearClientSession) :=
  .single (List.append_nil _).symm (.session index clearClientSession ⟨_, asked⟩ (fun _ => rfl)
    (fun _ => rfl) fun node => { user := nofun, stranger := fun _ => ⟨rfl, node.username.text_clear⟩ })

theorem revokeExistingLogin_acts (userId : Int) (username : Text)
    (asked : packet.request = some (.auth action)) :
    Acts env fd beyond packet process (revokeExistingLogin env fd userId username process) := by
  have type := (TizcordPacket.request_auth asked).1
  refine forClients_acts (Authorized · fd packet) HandlerStep.authorized
    (fun index process authorized => ?_) (Or.inl type)
  dsimp only
  split
  · exact .refl process
  · split
    · exact .refl process
    · refine (send_acts (auth_plain ?_) (Or.inr authorized)).trans (clear_acts index asked)
      exact (type_strncpy _ _ _ _ (by decide)).trans (type_authPacket _ _)

/-- Revoking a login leaves the database as it is. -/
theorem revokeExistingLogin_db (userId : Int) (username : Text) :
    (revokeExistingLogin env fd userId username process).ctx.db = process.ctx.db := by
  refine List.foldlRecOn _ _ (motive := fun other : Process => other.ctx.db = process.ctx.db) rfl ?_
  intro other same index _
  dsimp only
  split
  · exact same
  · split <;> exact same

theorem linkIdentity_acts {userId : Int} (username : Text)
    (asked : packet.request = some (.auth action)) (known : userId ∈ process.ctx.db.userIds) :
    Acts env fd beyond packet process (linkIdentity fd userId username process) := by
  unfold linkIdentity
  split
  · exact .refl process
  · exact .single (List.append_nil _).symm (.session _ _ ⟨_, asked⟩ (fun _ => rfl) (fun _ => rfl)
      fun node => { user := fun _ => known, stranger := nofun })

theorem hashPassword_acts (setting : Text)
    (asked : packet.request = some (.auth .register) ∨ packet.request = some (.auth .login)) :
    Acts env fd beyond packet process
      (hashPassword env (packet.authPassword beyond) setting process).1 :=
  .single rfl (.hash setting asked)

/-- The id of a user that was created is the id of a user. -/
theorem mem_userIds_of_created {dbEnv : DbEnv} {before after : Database}
    {username passwordHash : Text} {userId : RowId}
    (created : dbCreateUser dbEnv before username passwordHash = (after, some userId)) :
    (userId : Int) ∈ after.userIds := by
  have inserted := Database.commit_eq_some.mp (runInsert_some created).1
  rw [inserted]
  simp [Tables.userIds]

/-- What registration does once the account is there. -/
theorem registered_acts {userId : Int} (username : Text)
    (asked : packet.request = some (.auth action)) (known : userId ∈ process.ctx.db.userIds) :
    Acts env fd beyond packet process
      ((notifyAllUserLists env (linkIdentity fd userId username process)).send env fd
        (authPacket .register ResponseCode.ok.code)) := by
  have linked : Acts env fd beyond packet process (linkIdentity fd userId username process) :=
    linkIdentity_acts username asked known
  have type := (TizcordPacket.request_auth asked).1
  refine linked.trans ?_
  exact (notifyAllUserLists_acts (Or.inl type)).trans (authReply_acts .register _)

theorem registerAccount_acts (asked : packet.request = some (.auth .register)) :
    Acts env fd beyond packet process (registerAccount env beyond fd packet process) := by
  unfold registerAccount
  refine (tick_acts process).trans ?_
  dsimp only
  split
  · exact authReply_acts .register 1
  · rename_i setting _
    refine (hashPassword_acts setting (Or.inl asked)).trans ?_
    split
    · exact authReply_acts .register 1
    · rename_i hash _
      have changed : Acts env fd beyond packet
          (hashPassword env (packet.authPassword beyond) setting process.tick).1
          ((hashPassword env (packet.authPassword beyond) setting process.tick).1.change env
            (fun env db => dbCreateUser env db (packet.authUsername beyond) hash)
            (fun created => .createUser (packet.authUsername beyond) hash created)).1 :=
        change_acts (fun _ _ => rfl) fun _ => ⟨asked, rfl⟩
      refine changed.trans ?_
      split
      · exact authReply_acts .register _
      · rename_i userId created
        have known : (userId : Int) ∈
            ((hashPassword env (packet.authPassword beyond) setting process.tick).1.change env
              (fun env db => dbCreateUser env db (packet.authUsername beyond) hash) fun created =>
                .createUser (packet.authUsername beyond) hash created).1.ctx.db.userIds :=
          mem_userIds_of_created (Prod.ext rfl created)
        exact registered_acts _ asked known

/-- The id a password is looked up with is the id of a user. -/
theorem mem_userIds_of_hash {dbEnv : DbEnv} {database : Database} {username hash : Text}
    {userId : Int} (found : dbGetPasswordHash dbEnv database username = some (hash, userId)) :
    userId ∈ database.userIds := by
  unfold dbGetPasswordHash DbEnv.firstRow at found
  dsimp only at found
  split at found
  · cases found
  · split at found
    · cases found
    · obtain ⟨row, first, same⟩ := Option.map_eq_some_iff.mp found
      have present := List.mem_of_mem_filter (List.mem_of_mem_head? first)
      exact List.mem_map.mpr ⟨row, present, (Prod.mk.inj same).2⟩

/-- What login does once the password has matched. -/
theorem loggedIn_acts {userId : Int} (username : Text)
    (asked : packet.request = some (.auth action)) (known : userId ∈ process.ctx.db.userIds) :
    Acts env fd beyond packet process
      ((notifyAllUserLists env (notifyServerMemberListsForUser env userId
        (linkIdentity fd userId username
          (revokeExistingLogin env fd userId username process)))).send env fd
            (authPacket .login ResponseCode.ok.code)) := by
  have revoked : Acts env fd beyond packet process
      (revokeExistingLogin env fd userId username process) :=
    revokeExistingLogin_acts userId username asked
  have linked : Acts env fd beyond packet (revokeExistingLogin env fd userId username process)
      (linkIdentity fd userId username (revokeExistingLogin env fd userId username process)) :=
    linkIdentity_acts username asked (by rw [revokeExistingLogin_db]; exact known)
  have type := (TizcordPacket.request_auth asked).1
  refine (revoked.trans linked).trans ?_
  refine (notifyServerMemberListsForUser_acts userId (Or.inl type) (Or.inl type)).trans ?_
  exact (notifyAllUserLists_acts (Or.inl type)).trans (authReply_acts .login _)

theorem loginAccount_acts (asked : packet.request = some (.auth .login)) :
    Acts env fd beyond packet process (loginAccount env beyond fd packet process) := by
  have looked : Acts env fd beyond packet process
      (process.log (.called (.getPasswordHash (packet.authUsername beyond)))).tick :=
    .single rfl (HandlerStep.call process.clock
      (show DbCall.Permitted _ _ _ _ (.getPasswordHash _) from ⟨asked, rfl⟩) rfl)
  unfold loginAccount
  refine looked.trans ?_
  dsimp only
  split
  · exact authReply_acts .login 1
  · rename_i dbHash dbUserId found
    have known : dbUserId ∈ process.ctx.db.userIds := mem_userIds_of_hash found
    refine (hashPassword_acts dbHash (Or.inr asked)).trans ?_
    split
    · exact authReply_acts .login _
    · exact loggedIn_acts _ asked known

theorem logoutAccount_acts (asked : packet.request = some (.auth .logout)) :
    Acts env fd beyond packet process (logoutAccount env fd process) := by
  have type := (TizcordPacket.request_auth asked).1
  unfold logoutAccount
  split
  · exact .refl process
  · dsimp only
    split
    · exact authReply_acts .logout _
    · rename_i index _ _
      refine (clear_acts index asked).trans ?_
      refine (notifyServerMemberListsForUser_acts (process.clientAt index).id (Or.inl type)
        (Or.inl type)).trans ?_
      refine (notifyAllUserLists_acts (Or.inl type)).trans (send_acts (auth_plain ?_) (Or.inl rfl))
      exact (type_strncpy _ _ _ _ (by decide)).trans (type_authPacket _ _)

theorem AuthAction.ofCode_eq {packet : TizcordPacket} {action : AuthAction}
    (type : PacketType.ofCode packet.type = some .auth)
    (acted : AuthAction.ofCode packet.authAction = some action) :
    packet.request = some (.auth action) := by
  rw [TizcordPacket.request_of_type type, TizcordPacket.requestOfType, acted, Option.map_some]

theorem handleAuthPacket_acts (type : PacketType.ofCode packet.type = some .auth) :
    Acts env fd beyond packet process (handleAuthPacket env beyond fd packet process) := by
  rw [handleAuthPacket]
  cases acted : AuthAction.ofCode packet.authAction with
  | none => exact .refl process
  | some action =>
    have asked := AuthAction.ofCode_eq type acted
    cases action <;> rw [handleAuthAction]
    case register => exact registerAccount_acts asked
    case login => exact loginAccount_acts asked
    case logout => exact logoutAccount_acts asked

end Auth

/-! ### All packets -/

theorem handleChatPacket_acts {process : Process} {type : PacketType}
    (announced : PacketType.ofCode packet.type = some type) (chat : type = .dm ∨ type = .channel) :
    Acts env fd beyond packet process (handleChatPacket env beyond packet fd process) := by
  rw [handleChatPacket, announced]
  rcases chat with rfl | rfl
  · exact handlePrivateMessage_acts announced
  · exact handleChannelMessage_acts announced

theorem handlePacket_acts {process : Process} {index : Nat}
    (own : (process.clientAt index).socketFd = fd) :
    Acts env fd beyond packet process
      (handlePacket env beyond index fd packet process (PacketType.ofCode packet.type)) := by
  cases announced : PacketType.ofCode packet.type with
  | none => exact .refl process
  | some type =>
    cases type <;> rw [handlePacket]
    case auth => exact handleAuthPacket_acts announced
    case dm => exact handleChatPacket_acts announced (Or.inl rfl)
    case server => exact handleServerPacket_acts own announced
    case channel => exact handleChatPacket_acts announced (Or.inr rfl)
    case social => exact handleSocialPacket_acts own announced

end Acting

/-- Once the packet is on record, its handling acts in steps. -/
theorem processClientPacket_acts (env : Env) (index : Nat) (packet : TizcordPacket)
    (process : Process) :
    Acts env (process.clientAt index).socketFd (env.beyond process.clock) packet
      (process.log (.handling (process.clientAt index).socketFd packet
        (process.ctx.userOf (process.clientAt index).socketFd)))
      (processClientPacket env index packet process) := by
  unfold processClientPacket
  exact handlePacket_acts rfl

end Tizcord
