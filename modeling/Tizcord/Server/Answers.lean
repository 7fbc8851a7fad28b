/-
This file proves what the answers of the server are worth. Every request but a message
is answered on the connection it came from, while it is handled; an answer that refuses
it means that nothing has happened, and any other that it has been carried out.
-/

import Tizcord.Server.Broadcasts
import Tizcord.Server.DirectHistories
import Tizcord.Server.FriendUpdates
import Tizcord.Server.ListReplies
import Tizcord.Server.Statuses

namespace Tizcord

open CModel

/-! ### Packets for requests -/

/-- The effect sends no packet but those of allowed requests, to allowed connections. -/
def Effect.SentAs (allowed : Int → Request → Prop) : Effect → Prop
  | .sent target packet _ _ => ∃ request, packet.request = some request ∧ allowed target request
  | _ => True

/-- The effect sends nothing to other connections. -/
def Effect.SentTo (fd : Int) : Effect → Prop
  | .sent target _ _ _ => target = fd
  | _ => True

/-- The process sends such packets only. -/
def SendsAs (allowed : Int → Request → Prop) : Process → Process → Prop :=
  LogsOnly (Effect.SentAs allowed)

/-- The process sends nothing. -/
def SendsNothing : Process → Process → Prop :=
  SendsAs fun _ _ => False

section Sending

variable {env : Env} {allowed more : Int → Request → Prop} {before after process : Process}
  {fd : Int} {packet : TizcordPacket} {request : Request}

theorem Effect.SentAs.mono {effect : Effect} (sent : effect.SentAs allowed)
    (permits : ∀ target request, allowed target request → more target request) :
    effect.SentAs more := by
  cases effect with
  | sent target packet status user =>
    obtain ⟨request, asked, permitted⟩ := sent
    exact ⟨request, asked, permits target request permitted⟩
  | _ => trivial

theorem SendsAs.mono (sends : SendsAs allowed before after)
    (permits : ∀ target request, allowed target request → more target request) :
    SendsAs more before after :=
  LogsOnly.mono sends fun _ sent => sent.mono permits

theorem SendsAs.sentTo (sends : SendsAs allowed before after)
    (own : ∀ target request, allowed target request → target = fd) :
    LogsOnly (Effect.SentTo fd) before after := by
  refine LogsOnly.mono sends fun effect sent => ?_
  cases effect with
  | sent target packet status user =>
    obtain ⟨request, -, permitted⟩ := sent
    exact own target request permitted
  | _ => trivial

theorem SendsNothing.sendsAs (sends : SendsNothing before after) : SendsAs allowed before after :=
  SendsAs.mono sends fun _ _ => False.elim

theorem sendsNothing_change {Result : Type} (env : Env) (process : Process)
    (operation : DbEnv → Database → Database × Result) (call : Result → DbCall) :
    SendsNothing process (process.change env operation call).1 :=
  LogsOnly.single (rfl : _ = process.trace ++ [_]) trivial

theorem SendsAs.send (env : Env) (fd : Int) (process : Process)
    (asked : packet.request = some request) (permitted : allowed fd request) :
    SendsAs allowed process (process.send env fd packet) :=
  LogsOnly.single (rfl : _ = process.trace ++ [_]) ⟨request, asked, permitted⟩

theorem SendsList.sendsAs {copies : List TizcordPacket} (sent : SendsList fd copies before after)
    (asked : ∀ copy ∈ copies, copy.request = some request) (permitted : allowed fd request) :
    SendsAs allowed before after :=
  sent.logs fun copy member _ _ => ⟨request, asked copy member, permitted⟩

theorem sendPacketToClient_sendsAs (env : Env) (fd : Int) (process : Process)
    (asked : packet.request = some request) (permitted : allowed fd request) :
    SendsAs allowed process (sendPacketToClient env fd packet process).1 := by
  rw [sendPacketToClient]
  split
  · exact LogsOnly.refl process
  · exact SendsAs.send env fd process asked permitted

theorem request_serverResponse (action : ServerAction) (status : ResponseCode) :
    (actionResponse .server action.code status.code).request = some (.server action) := by
  rw [request_actionResponse_server, action.ofCode_signed_code]
  rfl

theorem request_socialResponse (action : SocialAction) (status : ResponseCode) :
    (actionResponse .social action.code status.code).request = some (.social action) := by
  rw [request_actionResponse_social, action.ofCode_signed_code]
  rfl

/-! ### Lists of servers, channels and members -/

section Lists

variable {action : ServerAction}

theorem serverResponse_sendsAs (env : Env) (fd : Int) (status : ResponseCode) (process : Process)
    (permitted : allowed fd (.server action)) :
    SendsAs allowed process (serverResponse env fd action status process) :=
  sendPacketToClient_sendsAs env fd process (request_serverResponse action status) permitted

theorem sendListItems_sendsAs (env : Env) (fd listId : Int) (total index : Nat)
    (items : List ListItem) (process : Process) (permitted : allowed fd (.server action)) :
    SendsAs allowed process
      (sendListItems env fd .server action.code listId total index items process).1 := by
  induction items generalizing index process with
  | nil => exact LogsOnly.refl process
  | cons item rest inductionHypothesis =>
    cases made : listItemPacket .server action.code listId total index item with
    | none => cases made
    | some packet =>
      have carries := listItemPacket_carries made
      have asked := TizcordPacket.request_of_serverAction carries.type carries.action
      have head := sendPacketToClient_sendsAs env fd process asked permitted
      rw [sendListItems, made]
      dsimp only
      split
      · exact head
      · exact LogsOnly.trans head (inductionHypothesis _ _)

theorem sendListResponse_sendsAs (env : Env) (fd : Int) (items : List ListItem)
    (process : Process) (permitted : allowed fd (.server action)) :
    SendsAs allowed process (sendListResponse env fd .server action.code items process).1 := by
  have allocated : SendsAs allowed process (allocateListId process).1 := LogsOnly.idle rfl
  rw [sendListResponse]
  split
  · exact LogsOnly.refl process
  · dsimp only
    split
    · cases made : emptyListPacket .server action.code (allocateListId process).2 with
      | none => cases made
      | some packet =>
        have carries := emptyListPacket_carries made
        have asked := TizcordPacket.request_of_serverAction carries.type carries.action
        exact LogsOnly.trans allocated (sendPacketToClient_sendsAs env fd _ asked permitted)
    · exact LogsOnly.trans allocated (sendListItems_sendsAs env fd _ _ _ _ _ permitted)

theorem serverListReply_sendsAs (env : Env) (fd status : Int) (items : List ListItem)
    (process : Process) (permitted : allowed fd (.server action)) :
    SendsAs allowed process (serverListReply env fd action status items process) := by
  have sent := sendListResponse_sendsAs env fd items process permitted
  rw [serverListReply]
  split
  · exact serverResponse_sendsAs env fd _ process permitted
  · dsimp only
    split
    · exact LogsOnly.trans sent (serverResponse_sendsAs env fd _ _ permitted)
    · exact sent

theorem listMembers_sendsAs (env : Env) (index : Nat) (serverId : Int) (process : Process)
    (permitted : allowed (process.clientAt index).socketFd (.server .listMembers)) :
    SendsAs allowed process (listMembers env index serverId process) := by
  unfold listMembers
  dsimp only
  split
  · exact serverResponse_sendsAs env _ _ process permitted
  · split
    · exact serverResponse_sendsAs env _ _ process permitted
    · have looked : SendsAs allowed process (process.modifyClient index fun node =>
          { node with currentServerIndex := signed 32 serverId }).tick := LogsOnly.idle rfl
      exact LogsOnly.trans looked (serverListReply_sendsAs env _ _ _ _ permitted)

end Lists

/-! ### Notices -/

/-- The requests that the packets which tell others of a change seem to answer. -/
def notices : List Request :=
  [.server .listMembers, .social .listFriends, .social .listUsers]

def IsNotice (_ : Int) (request : Request) : Prop :=
  request ∈ notices

theorem SendsAs.others (tells : SendsAs IsNotice before after)
    (unlike : request ∉ notices) : SendsAs (fun _ other => other ≠ request) before after := by
  refine tells.mono fun target other notice => ?_
  rintro rfl
  exact unlike notice

theorem notifyServerMemberList_sendsAs (env : Env) (serverId : Int) (process : Process) :
    SendsAs IsNotice process (notifyServerMemberList env serverId process) := by
  unfold notifyServerMemberList
  split
  · exact LogsOnly.refl process
  · refine LogsOnly.forClients (fun index node process => ?_) process
    split
    · exact LogsOnly.refl process
    · split
      · exact LogsOnly.refl process
      · exact listMembers_sendsAs env index serverId process (by rw [IsNotice]; decide)

theorem notifyServerMemberListsForUser_sendsAs (env : Env) (userId : Int) (process : Process) :
    SendsAs IsNotice process (notifyServerMemberListsForUser env userId process) := by
  unfold notifyServerMemberListsForUser
  split
  · exact LogsOnly.refl process
  · have ticked : SendsAs IsNotice process process.tick := LogsOnly.idle rfl
    exact LogsOnly.trans ticked (LogsOnly.foldl (fun process (row : ServerListRow) =>
      notifyServerMemberList_sendsAs env row.serverId process) _ _)

theorem sendUserList_sendsAs (env : Env) (fd listId : Int) (process : Process)
    (permitted : allowed fd (.social .listUsers)) :
    SendsAs allowed process (sendUserList env fd listId process) := by
  obtain ⟨copies, stream, sent⟩ := sendUserList_sends env fd listId process
  exact sent.sendsAs
    (stream.request (fun _ _ carries => carries.request) fun _ closes => closes.request) permitted

theorem sendFriendList_sendsAs (env : Env) (fd userId : Int) (process : Process)
    (permitted : allowed fd (.social .listFriends)) :
    SendsAs allowed process (sendFriendList env fd userId process) := by
  obtain ⟨copies, stream, sent⟩ := sendFriendList_sends env fd userId process
  exact sent.sendsAs
    (stream.request (fun _ _ carries => carries.request) fun _ closes => closes.request) permitted

theorem notifyAllUserLists_sendsAs (env : Env) (process : Process) :
    SendsAs IsNotice process (notifyAllUserLists env process) := by
  unfold notifyAllUserLists
  refine LogsOnly.forClients (fun _ node process => ?_) process
  split
  · exact LogsOnly.refl process
  · exact sendUserList_sendsAs env _ _ process (by rw [IsNotice]; decide)

theorem notifyFriendListUpdate_sendsAs (env : Env) (userId : Int) (process : Process) :
    SendsAs IsNotice process (notifyFriendListUpdate env userId process) := by
  unfold notifyFriendListUpdate
  split
  · exact LogsOnly.refl process
  · exact sendFriendList_sendsAs env _ _ process (by rw [IsNotice]; decide)

theorem revokeExistingLogin_sendsAs (env : Env) (fd userId : Int) (username : Text)
    (process : Process) (permitted : ∀ target, allowed target (.auth .logout)) :
    SendsAs allowed process (revokeExistingLogin env fd userId username process) := by
  unfold revokeExistingLogin
  refine LogsOnly.forClients (fun index node process => ?_) process
  split
  · exact LogsOnly.refl process
  · split
    · exact LogsOnly.refl process
    · exact LogsOnly.trans (SendsAs.send env _ process (authNotice_request _ _ _) (permitted _))
        (LogsOnly.modifyClient _ index _)

end Sending

/-! ### Answers -/

/-- The request of the packets that answer a request: histories are sent as messages. -/
def Request.reply : Request → Request
  | .dm .historyRequest => .dm .message
  | .channel .historyRequest => .channel .message
  | request => request

/-- The request sends a message, which is passed on without an answer. -/
def Request.isMessage : Request → Bool
  | .dm .message | .channel .message => true
  | _ => false

/-- The code that confirms a request about authentication: a logout has one of its own. -/
def AuthAction.confirmation : AuthAction → ResponseCode
  | .logout => .done
  | _ => .ok

/-- The answer refuses the request. A packet of a list has a code that is not negative. -/
def Request.refusedBy (answer : TizcordPacket) : Request → Bool
  | .auth action => answer.authStatusCode ≠ action.confirmation.code
  | .server _ => answer.serverStatusCode < 0
  | .channel .create | .channel .delete => answer.channelStatusCode < 0
  | .social _ => answer.socialStatusCode < 0
  | _ => false

/-- The answer that an effect sends on a connection. -/
def Effect.answer (fd : Int) (request : Request) : Effect → Option TizcordPacket
  | .sent target packet _ _ =>
    if target = fd ∧ packet.request = some request.reply then some packet else none
  | _ => none

/-- The answers to a request that were sent on a connection. -/
def answersTo (fd : Int) (request : Request) (effects : List Effect) : List TizcordPacket :=
  effects.filterMap (Effect.answer fd request)

/-- Nothing has happened but that packets were sent on one connection. -/
structure Ignored (fd : Int) (before after : Process) (effects : List Effect) : Prop where
  database : after.ctx.db = before.ctx.db
  identities : after.ctx.identities = before.ctx.identities
  alone : ∀ target packet status user, .sent target packet status user ∈ effects → target = fd

/-- The tie to the user that a packet names has moved as the action says. -/
def TieAction.Granted (action : TieAction) (beyond : List UInt8) (client : ClientNode)
    (packet : TizcordPacket) (before after : ServerContext) : Prop :=
  ∃ user ∈ before.db.users, user.username = packet.socialTargetUsername beyond ∧
    ∃ status, 0 ≤ status ∧
      action.Outcome client.id user.id status before.db.friends after.db.friends

/-- The request of a client has been carried out. -/
def Request.Granted (env : Env) (beyond : List UInt8) (client : ClientNode)
    (packet : TizcordPacket) (before after : ServerContext) : Request → Prop
  | .auth .register => ∃ account ∈ after.db.accounts, account.userId ∉ before.db.userIds ∧
      account.username = packet.authUsername beyond ∧
      SignedIn after client.socketFd account.userId
  | .auth .login => ∃ account ∈ before.db.accounts,
      account.username = packet.authUsername beyond ∧
      env.crypt (packet.authPassword beyond) account.passwordHash = some account.passwordHash ∧
      SignedIn after client.socketFd account.userId
  | .auth .logout => ∀ userId, ¬ SignedIn after client.socketFd userId
  | .server .join => before.db.insertServerMember ⟨packet.serverServerId, client.id, false⟩ =
      some after.db
  | .server .leave => after.db = before.db.deleteServerMember (packet.serverServerId, client.id)
  | .server .create => ∃ id : RowId, (id : Int) ∉ before.db.serverIds ∧
      after.db.toTables = { before.db.toTables with
        servers := before.db.servers ++ [⟨id, packet.serverServerName beyond⟩]
        serverMembers := before.db.serverMembers ++ [⟨id, client.id, true⟩] }
  | .server .delete => after.db = before.db.deleteServer packet.serverServerId
  | .server .kickMember => after.db =
      before.db.deleteServerMember (packet.serverServerId, packet.serverTargetUserId)
  | .channel .create => ∃ id : RowId, after.db.toTables = { before.db.toTables with
      channels := before.db.channels ++
        [⟨id, packet.channelServerId, packet.channelChannelName beyond⟩] }
  | .channel .delete => after.db = before.db.deleteChannel packet.channelChannelId
  | .social .friendRequest => TieAction.request.Granted beyond client packet before after
  | .social .friendAccept => TieAction.accept.Granted beyond client packet before after
  | .social .friendReject => TieAction.reject.Granted beyond client packet before after
  | .social .friendRemove => TieAction.remove.Granted beyond client packet before after
  | .social .updateStatus => after.db.toTables =
      before.db.toTables.withStatus client.id (packet.socialTargetStatus beyond)
  | _ => after.db = before.db

/-- The request is answered on the connection: an answer that refuses it means that nothing has
happened, and any other that it has been granted. -/
def Answers (fd : Int) (request : Request) (granted : Prop) (before after : Process) : Prop :=
  ∃ effects, after.trace = before.trace ++ effects ∧ answersTo fd request effects ≠ [] ∧
    ∀ answer ∈ answersTo fd request effects,
      (request.refusedBy answer = true → Ignored fd before after effects) ∧
        (request.refusedBy answer = false → granted)

section Answering

variable {env : Env} {before middle after : Process} {fd : Int} {answer : TizcordPacket}
  {request : Request} {granted : Prop} {effects : List Effect}

theorem Process.send_trace (env : Env) (fd : Int) (packet : TizcordPacket) (process : Process) :
    ∃ status user, (process.send env fd packet).trace =
      process.trace ++ [.sent fd packet status user] :=
  ⟨_, _, rfl⟩

theorem answersTo_other
    (other : ∀ effect ∈ effects, effect.SentAs fun _ other => other ≠ request.reply) :
    answersTo fd request effects = [] := by
  refine List.filterMap_eq_nil_iff.mpr fun effect member => ?_
  have sent := other effect member
  cases effect with
  | sent target packet status user =>
    obtain ⟨asked, is, different⟩ := sent
    refine if_neg fun same => different ?_
    exact Option.some.inj (is.symm.trans same.2)
  | _ => rfl

theorem answersTo_own (asked : answer.request = some request.reply) (status : Int)
    (user : Option Int) : answersTo fd request [.sent fd answer status user] = [answer] := by
  rw [answersTo, List.filterMap_cons, Effect.answer, if_pos ⟨rfl, asked⟩]
  rfl

theorem answersTo_append (first last : List Effect) :
    answersTo fd request (first ++ last) =
      answersTo fd request first ++ answersTo fd request last :=
  List.filterMap_append

/-- A request that is read from the tables: all that is sent are answers on the connection. -/
theorem Answers.read (looks : SendsNothing before middle)
    (asked : answer.request = some request.reply)
    (last : LogsOnly (Effect.SentTo fd) (middle.send env fd answer) after)
    (database : after.ctx.db = before.ctx.db)
    (identities : after.ctx.identities = before.ctx.identities) (done : granted) :
    Answers fd request granted before after := by
  obtain ⟨quiet, logged, nothing⟩ := (SendsAs.sentTo looks fun _ _ => False.elim).gained
  obtain ⟨status, user, sent⟩ := middle.send_trace env fd answer
  obtain ⟨rows, ended, own⟩ := last.gained
  refine ⟨quiet ++ ([.sent fd answer status user] ++ rows), ?_, ?_, fun _ _ => ⟨fun _ => ?_,
    fun _ => done⟩⟩
  · rw [ended, sent, logged, List.append_assoc, List.append_assoc]
  · rw [answersTo_append, answersTo_append, answersTo_own asked]
    exact List.append_ne_nil_of_right_ne_nil _ (List.cons_ne_nil _ _)
  · refine ⟨database, identities, fun target packet status user member => ?_⟩
    rcases List.mem_append.mp member with early | late
    · exact nothing _ early
    · rcases List.mem_append.mp late with head | row
      · cases List.mem_singleton.mp head
        rfl
      · exact own _ row

/-- A refusal that is all that is sent. -/
theorem Answers.refused (looks : SendsNothing before middle)
    (database : middle.ctx.db = before.ctx.db)
    (identities : middle.ctx.identities = before.ctx.identities)
    (asked : answer.request = some request.reply) (refused : request.refusedBy answer = true) :
    Answers fd request granted before (middle.send env fd answer) := by
  obtain ⟨quiet, logged, nothing⟩ := LogsOnly.gained looks
  obtain ⟨status, user, sent⟩ := middle.send_trace env fd answer
  have silent : answersTo fd request quiet = [] := answersTo_other fun effect member =>
    (nothing effect member).mono fun _ _ => False.elim
  have alone : answersTo fd request (quiet ++ [.sent fd answer status user]) = [answer] := by
    rw [answersTo_append, silent, answersTo_own asked, List.nil_append]
  refine ⟨quiet ++ [.sent fd answer status user], ?_, ?_, fun other member => ?_⟩
  · rw [sent, logged, List.append_assoc]
  · rw [alone]
    exact List.cons_ne_nil _ _
  · rw [alone, List.mem_singleton] at member
    subst member
    refine ⟨fun _ => ⟨database, identities, fun target packet status user member => ?_⟩,
      fun confirmed => absurd (refused.symm.trans confirmed) Bool.noConfusion⟩
    rcases List.mem_append.mp member with early | late
    · exact (nothing _ early).elim fun _ impossible => impossible.2.elim
    · cases List.mem_singleton.mp late
      rfl

/-- A confirmation, before and after which others are told. -/
theorem Answers.carriedOut (first : SendsAs (fun _ other => other ≠ request.reply) before middle)
    (asked : answer.request = some request.reply) (confirmed : request.refusedBy answer = false)
    (last : SendsAs (fun _ other => other ≠ request.reply) (middle.send env fd answer) after)
    (done : granted) : Answers fd request granted before after := by
  obtain ⟨early, logged, otherEarly⟩ := LogsOnly.gained first
  obtain ⟨status, user, sent⟩ := middle.send_trace env fd answer
  obtain ⟨late, ended, otherLate⟩ := LogsOnly.gained last
  have alone : answersTo fd request (early ++ ([.sent fd answer status user] ++ late)) =
      [answer] := by
    rw [answersTo_append, answersTo_append, answersTo_other otherEarly,
      answersTo_other otherLate, answersTo_own asked, List.append_nil, List.nil_append]
  refine ⟨early ++ ([.sent fd answer status user] ++ late), ?_, ?_, fun other member => ?_⟩
  · rw [ended, sent, logged, List.append_assoc, List.append_assoc]
  · rw [alone]
    exact List.cons_ne_nil _ _
  · rw [alone, List.mem_singleton] at member
    subst member
    exact ⟨fun refused => absurd (refused.symm.trans confirmed) Bool.noConfusion, fun _ => done⟩

end Answering

/-! ### Requests about servers -/

section Servers

variable {env : Env} {beyond : List UInt8} {index : Nat} {packet : TizcordPacket}
  {process looked : Process} {fd : Int} {action : ServerAction} {granted : Prop}

theorem refusedBy_server {answer : TizcordPacket} {status : ResponseCode}
    (answered : answer.serverStatusCode = status.code) :
    Request.refusedBy answer (.server action) = decide (status.code < 0) := by
  show decide (answer.serverStatusCode < 0) = _
  rw [answered]

theorem serverResponse_eq (opened : 0 ≤ fd) (status : ResponseCode) (process : Process) :
    serverResponse env fd action status process =
      process.send env fd (actionResponse .server action.code status.code) := by
  rw [serverResponse, sendActionResponse, sendPacketToClient, if_neg (not_lt.mpr opened)]
  rfl

/-- A request about servers that is refused. -/
theorem server_refused (opened : 0 ≤ fd) (looks : SendsNothing process looked)
    (database : looked.ctx.db = process.ctx.db)
    (identities : looked.ctx.identities = process.ctx.identities) (status : ResponseCode)
    (error : status.code < 0) :
    Answers fd (.server action) granted process (serverResponse env fd action status looked) := by
  rw [serverResponse_eq opened]
  exact .refused looks database identities (request_serverResponse action status)
    ((refusedBy_server (serverStatusCode_actionResponse action status)).trans
      (decide_eq_true error))

/-- A request about servers that has been carried out, after which others are told. -/
theorem server_carriedOut (opened : 0 ≤ fd) (looks : SendsNothing process looked)
    {after : Process} (tells : SendsAs IsNotice (serverResponse env fd action .ok looked) after)
    (other : action ≠ .listMembers) (done : granted) :
    Answers fd (.server action) granted process after := by
  rw [serverResponse_eq opened] at tells
  exact .carriedOut (SendsNothing.sendsAs looks) (request_serverResponse action .ok)
    ((refusedBy_server (serverStatusCode_actionResponse action .ok)).trans (by decide))
    (tells.others (by simp [notices, Request.reply, other])) done

theorem change_looks {Result : Type} (env : Env) (process : Process)
    (operation : DbEnv → Database → Database × Result) (call : Result → DbCall)
    (looks : SendsNothing process looked) :
    SendsNothing process (looked.change env operation call).1 :=
  LogsOnly.trans looks (sendsNothing_change env looked operation call)

theorem sendsNothing_tick (process : Process) : SendsNothing process process.tick :=
  LogsOnly.idle rfl

theorem serverResponse_db (fd : Int) (action : ServerAction) (status : ResponseCode)
    (process : Process) :
    (serverResponse env fd action status process).ctx.db = process.ctx.db :=
  (serverResponse_notifies fd action status process).db

theorem notifyServerMemberList_db (serverId : Int) (process : Process) :
    (notifyServerMemberList env serverId process).ctx.db = process.ctx.db :=
  Notifies.db (notifyServerMemberList_acts serverId (Or.inl noRequest_type) (Or.inl noRequest_type))

/-- A request about servers that makes a call: it is confirmed if the call has succeeded, and
refused if the call has failed and changed nothing. -/
theorem server_called (opened : 0 ≤ fd) {operation : DbEnv → Database → Database × Int}
    {call : Int → DbCall} {ready told : Process} (looks : SendsNothing process looked)
    (database : looked.ctx.db = process.ctx.db)
    (identities : looked.ctx.identities = process.ctx.identities)
    (outcome : (operation (env.db looked.clock) looked.ctx.db).2 = 0 ∧ granted ∨
      (operation (env.db looked.clock) looked.ctx.db).2 = -1 ∧
        (operation (env.db looked.clock) looked.ctx.db).1 = looked.ctx.db)
    (readies : SendsNothing (looked.change env operation call).1 ready)
    (tells : SendsAs IsNotice (serverResponse env fd action .ok ready) told)
    (other : action ≠ .listMembers) :
    Answers fd (.server action) granted process
      (if (looked.change env operation call).2 = 0 then told
        else serverResponse env fd action .errDb (looked.change env operation call).1) := by
  have called : SendsNothing process (looked.change env operation call).1 :=
    LogsOnly.trans looks (sendsNothing_change env looked operation call)
  split
  · next done =>
    rcases outcome with ⟨-, granted⟩ | ⟨failed, -⟩
    · exact server_carriedOut opened (LogsOnly.trans called readies) tells other granted
    · exact absurd (done.symm.trans failed) (by decide)
  · next failed =>
    rcases outcome with ⟨done, -⟩ | ⟨-, unchanged⟩
    · exact absurd done failed
    · exact server_refused opened called (Eq.trans unchanged database) identities _ (by decide)

theorem joinTizcordServer_answers (env : Env) (beyond : List UInt8) (packet : TizcordPacket)
    (opened : 0 ≤ (process.clientAt index).socketFd) :
    Answers (process.clientAt index).socketFd (.server .join)
      (Request.Granted env beyond (process.clientAt index) packet process.ctx
        (joinTizcordServer env index packet.serverServerId process).ctx (.server .join)) process
      (joinTizcordServer env index packet.serverServerId process) := by
  have same : SendsNothing process process := LogsOnly.refl process
  unfold joinTizcordServer
  dsimp only
  split
  · exact server_refused opened same rfl rfl _ (by decide)
  · split
    · exact server_refused opened same rfl rfl _ (by decide)
    · refine server_called opened same rfl rfl ?_ (LogsOnly.refl _)
        (notifyServerMemberList_sendsAs ..) (by decide)
      refine (dbJoinServer_spec Prod.mk.eta.symm).imp_left fun joined => ⟨joined.1, ?_⟩
      have succeeded : (process.change env
        (fun env db => dbJoinServer env db packet.serverServerId (process.clientAt index).id false)
        fun status => .joinServer packet.serverServerId (process.clientAt index).id status).2 = 0 :=
        joined.1
      rw [Request.Granted, if_pos succeeded, notifyServerMemberList_db, serverResponse_db]
      exact joined.2

theorem leaveTizcordServer_answers (env : Env) (beyond : List UInt8) (packet : TizcordPacket)
    (opened : 0 ≤ (process.clientAt index).socketFd) :
    Answers (process.clientAt index).socketFd (.server .leave)
      (Request.Granted env beyond (process.clientAt index) packet process.ctx
        (leaveTizcordServer env index packet.serverServerId process).ctx (.server .leave)) process
      (leaveTizcordServer env index packet.serverServerId process) := by
  have same : SendsNothing process process := LogsOnly.refl process
  unfold leaveTizcordServer
  dsimp only
  split
  · exact server_refused opened same rfl rfl _ (by decide)
  · split
    · exact server_refused opened same rfl rfl _ (by decide)
    · refine server_called opened same rfl rfl ?_ ?_ (notifyServerMemberList_sendsAs ..) (by decide)
      · refine (dbLeaveServer_spec Prod.mk.eta.symm).imp_left fun left => ⟨left.1, ?_⟩
        have succeeded : (process.change env
          (fun env db => dbLeaveServer env db packet.serverServerId (process.clientAt index).id)
          fun status => .leaveServer packet.serverServerId (process.clientAt index).id status).2 =
            0 := left.1
        rw [Request.Granted, if_pos succeeded, notifyServerMemberList_db, serverResponse_db]
        split <;> exact left.2
      · split
        · exact LogsOnly.modifyClient _ _ _
        · exact LogsOnly.refl _

/-- A server is created together with the membership of its creator, or not at all. -/
theorem dbCreateServer_of_reliable {env : DbEnv} (reliable : env.Reliable) {before after : Database}
    {name : Text} {userId status : Int} {created : Option RowId}
    (user : userId ∈ before.userIds)
    (ran : dbCreateServer env before name userId = (after, created, status)) :
    (status = 0 ∧ ∃ id : RowId, (id : Int) ∉ before.serverIds ∧
        after.toTables = { before.toTables with
          servers := before.servers ++ [⟨id, name⟩]
          serverMembers := before.serverMembers ++ [⟨id, userId, true⟩] }) ∨
      status ≠ 0 ∧ after = before := by
  unfold dbCreateServer at ran
  split at ran
  · next failed =>
    obtain ⟨same, rest⟩ := Prod.mk.inj ran
    obtain ⟨-, answered⟩ := Prod.mk.inj rest
    refine Or.inr ⟨?_, same ▸ runInsert_none failed⟩
    rw [← answered]
    decide
  · next middle id inserted =>
    obtain ⟨same, rest⟩ := Prod.mk.inj ran
    obtain ⟨-, answered⟩ := Prod.mk.inj rest
    obtain ⟨added, fresh⟩ := runInsert_some inserted
    obtain ⟨joined, member⟩ := (insertServerMember_created fresh added).mpr user
    rw [dbJoinServer, runStatement_of_reliable (reliable.after 1), member] at same answered
    refine Or.inl ⟨answered.symm, id, fresh, ?_⟩
    rw [← same]
    dsimp only
    rw [Database.commit_eq_some.mp member, Database.commit_eq_some.mp added]

theorem createTizcordServer_answers (reliable : env.Reliable) (beyond : List UInt8)
    (packet : TizcordPacket) (opened : 0 ≤ (process.clientAt index).socketFd)
    (user : (process.clientAt index).isAuthenticated = true →
      (process.clientAt index).id ∈ process.ctx.db.userIds) :
    Answers (process.clientAt index).socketFd (.server .create)
      (Request.Granted env beyond (process.clientAt index) packet process.ctx
        (createTizcordServer env index (packet.serverServerName beyond) process).ctx
          (.server .create)) process
      (createTizcordServer env index (packet.serverServerName beyond) process) := by
  have same : SendsNothing process process := LogsOnly.refl process
  unfold createTizcordServer
  dsimp only
  split
  · exact server_refused opened same rfl rfl _ (by decide)
  · split
    · exact server_refused opened same rfl rfl _ (by decide)
    · next known =>
      rw [Bool.not_eq_true', Bool.not_eq_false] at known
      have created := dbCreateServer_of_reliable (reliable process.clock) (user known)
        (Prod.mk.eta.symm : dbCreateServer (env.db process.clock) process.ctx.db
          (packet.serverServerName beyond) (process.clientAt index).id = (_, _, _))
      have called := sendsNothing_change env process
        (fun env db => dbCreateServer env db (packet.serverServerName beyond)
          (process.clientAt index).id)
        fun created => .createServer (packet.serverServerName beyond) (process.clientAt index).id
          created.1 created.2
      split
      · next done =>
        rcases created with ⟨-, id, fresh, tables⟩ | ⟨failed, -⟩
        · refine server_carriedOut opened called (LogsOnly.refl _) (by decide) ⟨id, fresh, ?_⟩
          rw [serverResponse_db]
          exact tables
        · exact absurd done failed
      · next failed =>
        rcases created with ⟨done, -⟩ | ⟨-, unchanged⟩
        · exact absurd done failed
        · exact server_refused opened called unchanged rfl _ (by decide)

theorem deleteTizcordServer_answers (env : Env) (beyond : List UInt8) (packet : TizcordPacket)
    (opened : 0 ≤ (process.clientAt index).socketFd) :
    Answers (process.clientAt index).socketFd (.server .delete)
      (Request.Granted env beyond (process.clientAt index) packet process.ctx
        (deleteTizcordServer env index packet.serverServerId process).ctx (.server .delete)) process
      (deleteTizcordServer env index packet.serverServerId process) := by
  have same : SendsNothing process process := LogsOnly.refl process
  have ticked := sendsNothing_tick process
  unfold deleteTizcordServer
  dsimp only
  split
  · exact server_refused opened same rfl rfl _ (by decide)
  · split
    · exact server_refused opened same rfl rfl _ (by decide)
    · split
      · exact server_refused opened ticked rfl rfl _ (by decide)
      · refine server_called opened ticked rfl rfl ?_ (LogsOnly.refl _) (LogsOnly.refl _)
          (by decide)
        refine (dbDeleteServer_spec Prod.mk.eta.symm).imp_left fun deleted => ⟨deleted.1, ?_⟩
        have succeeded : (process.tick.change env
          (fun env db => dbDeleteServer env db packet.serverServerId (process.clientAt index).id)
          fun status => .deleteServer packet.serverServerId (process.clientAt index).id status).2 =
            0 := deleted.1
        rw [Request.Granted, if_pos succeeded, serverResponse_db]
        exact deleted.2

theorem kickServerMember_answers (env : Env) (beyond : List UInt8) (packet : TizcordPacket)
    (opened : 0 ≤ (process.clientAt index).socketFd) :
    Answers (process.clientAt index).socketFd (.server .kickMember)
      (Request.Granted env beyond (process.clientAt index) packet process.ctx
        (kickServerMember env index packet.serverServerId packet.serverTargetUserId process).ctx
          (.server .kickMember)) process
      (kickServerMember env index packet.serverServerId packet.serverTargetUserId process) := by
  have same : SendsNothing process process := LogsOnly.refl process
  have ticked := sendsNothing_tick process
  unfold kickServerMember
  dsimp only
  split
  · exact server_refused opened same rfl rfl _ (by decide)
  · split
    · exact server_refused opened same rfl rfl _ (by decide)
    · split
      · exact server_refused opened ticked rfl rfl _ (by decide)
      · refine server_called opened ticked rfl rfl ?_ (LogsOnly.refl _) (LogsOnly.refl _)
          (by decide)
        refine (dbKickServerMember_spec Prod.mk.eta.symm).imp_left fun kicked => ⟨kicked.1, ?_⟩
        have succeeded : (process.tick.change env
          (fun env db => dbKickServerMember env db packet.serverServerId packet.serverTargetUserId)
          fun status => .kickServerMember packet.serverServerId packet.serverTargetUserId
            status).2 = 0 := kicked.1
        rw [Request.Granted, if_pos succeeded, serverResponse_db]
        exact kicked.2

/-! ### Lists -/

/-- A list that is not too long is sent, or its front. -/
theorem sendListResponse_first (env : Env) (opened : 0 ≤ fd) (action : ServerAction)
    {items : List ListItem} (short : ¬ 2 ^ 31 - 1 < items.length) (process : Process) :
    ∃ answer, answer.request = some (.server action) ∧ ∃ middle, SendsNothing process middle ∧
      LogsOnly (Effect.SentTo fd) (middle.send env fd answer)
        (sendListResponse env fd .server action.code items process).1 := by
  have allocated : SendsNothing process (allocateListId process).1 := LogsOnly.idle rfl
  have sends : ∀ packet other, (sendPacketToClient env fd packet other).1 =
      other.send env fd packet := by
    intro packet other
    rw [sendPacketToClient, if_neg (not_lt.mpr opened)]
    rfl
  rw [sendListResponse, if_neg short]
  dsimp only
  generalize allocateListId process = made at allocated
  obtain ⟨middle, listId⟩ := made
  cases items with
  | nil =>
    rw [if_pos rfl]
    cases empty : emptyListPacket .server action.code listId with
    | none => cases empty
    | some packet =>
      have carries := emptyListPacket_carries empty
      refine ⟨packet, TizcordPacket.request_of_serverAction carries.type carries.action, middle,
        allocated, ?_⟩
      dsimp only
      rw [sends]
      exact LogsOnly.refl _
  | cons item rest =>
    rw [if_neg (List.cons_ne_nil _ _), sendListItems]
    cases first : listItemPacket .server action.code listId (item :: rest).length 0 item with
    | none => cases first
    | some packet =>
      have carries := listItemPacket_carries first
      refine ⟨packet, TizcordPacket.request_of_serverAction carries.type carries.action, middle,
        allocated, ?_⟩
      dsimp only
      rw [sends]
      split
      · exact LogsOnly.refl _
      · exact (@sendListItems_sendsAs (fun target _ => target = fd) action env fd listId _ _ rest _
          rfl).sentTo fun _ _ own => own

/-- A request that is answered with what has been read. -/
theorem serverListReply_answers (opened : 0 ≤ fd) (looks : SendsNothing process looked)
    (database : looked.ctx.db = process.ctx.db)
    (identities : looked.ctx.identities = process.ctx.identities) (status : Int)
    (items : List ListItem) (done : granted) :
    Answers fd (.server action) granted process
      (serverListReply env fd action status items looked) := by
  have notifies : Notifies env looked (serverListReply env fd action status items looked) :=
    serverListReply_acts fd action status items (Or.inl noRequest_type)
  have sameDb := notifies.db.trans database
  have sameIdentities := notifies.quiet.identities.trans identities
  rw [serverListReply] at sameDb sameIdentities ⊢
  by_cases failed : status ≠ 0
  · rw [if_pos failed]
    exact server_refused opened looks database identities _ (by decide)
  · rw [if_neg failed] at sameDb sameIdentities ⊢
    by_cases long : 2 ^ 31 - 1 < items.length
    · have refused : sendListResponse env fd .server action.code items looked = (looked, -1) := by
        rw [sendListResponse, if_pos long]
      rw [refused]
      exact server_refused opened looks database identities _ (by decide)
    · obtain ⟨answer, asked, middle, allocates, rest⟩ :=
        sendListResponse_first env opened action long looked
      refine .read (LogsOnly.trans looks allocates) asked (LogsOnly.trans rest ?_) sameDb
        sameIdentities done
      dsimp only
      split
      · exact (@serverResponse_sendsAs (fun target _ => target = fd) action env fd _ _ rfl).sentTo
          fun _ _ own => own
      · exact LogsOnly.refl _

theorem serverListReply_db (fd : Int) (action : ServerAction) (status : Int)
    (items : List ListItem) (process : Process) :
    (serverListReply env fd action status items process).ctx.db = process.ctx.db :=
  Notifies.db (serverListReply_acts fd action status items (Or.inl noRequest_type))

/-- Every request about servers is answered as it should be. -/
theorem handleServerAction_answers (reliable : env.Reliable) (beyond : List UInt8)
    (packet : TizcordPacket) (opened : 0 ≤ (process.clientAt index).socketFd)
    (user : (process.clientAt index).isAuthenticated = true →
      (process.clientAt index).id ∈ process.ctx.db.userIds) (action : ServerAction) :
    Answers (process.clientAt index).socketFd (.server action)
      (Request.Granted env beyond (process.clientAt index) packet process.ctx
        (handleServerAction env beyond index packet process (some action)).ctx (.server action))
      process (handleServerAction env beyond index packet process (some action)) := by
  have same : SendsNothing process process := LogsOnly.refl process
  have ticked := sendsNothing_tick process
  cases action <;> rw [handleServerAction]
  case join => exact joinTizcordServer_answers env beyond packet opened
  case leave => exact leaveTizcordServer_answers env beyond packet opened
  case create => exact createTizcordServer_answers reliable beyond packet opened user
  case delete => exact deleteTizcordServer_answers env beyond packet opened
  case kickMember => exact kickServerMember_answers env beyond packet opened
  case list =>
    unfold listTizcordServers
    dsimp only
    split
    · exact server_refused opened same rfl rfl _ (by decide)
    · exact serverListReply_answers opened ticked rfl rfl _ _ (serverListReply_db ..)
  case listChannels =>
    unfold listTizcordChannels
    dsimp only
    split
    · exact server_refused opened same rfl rfl _ (by decide)
    · split
      · exact server_refused opened same rfl rfl _ (by decide)
      · exact serverListReply_answers opened ticked rfl rfl _ _ (serverListReply_db ..)
  case listJoined =>
    unfold listJoinedServers
    dsimp only
    split
    · exact server_refused opened same rfl rfl _ (by decide)
    · exact serverListReply_answers opened ticked rfl rfl _ _ (serverListReply_db ..)
  case listMembers =>
    unfold listMembers
    dsimp only
    split
    · exact server_refused opened same rfl rfl _ (by decide)
    · split
      · exact server_refused opened same rfl rfl _ (by decide)
      · have looks : SendsNothing process (process.modifyClient index fun node =>
            { node with currentServerIndex := signed 32 packet.serverServerId }).tick :=
          LogsOnly.idle rfl
        have identities := identities_lookAt process index (signed 32 packet.serverServerId)
        exact serverListReply_answers opened looks rfl identities _ _ (serverListReply_db ..)

end Servers

/-! ### Requests between users -/

section Social

variable {env : Env} {beyond : List UInt8} {client : ClientNode} {packet : TizcordPacket}
  {process looked : Process} {fd : Int} {granted : Prop}

theorem socialStatusCode_actionResponse (action : SocialAction) (status : ResponseCode) :
    (actionResponse .social action.code status.code).socialStatusCode = status.code := by
  have statusCode : signed 32 status.code = status.code := by cases status <;> rfl
  simp (disch := decide) [actionResponse, TizcordPacket.socialStatusCode,
    TizcordPacket.setSocialAction, TizcordPacket.setSocialStatusCode, statusCode]

theorem refusedBy_social {action : SocialAction} {answer : TizcordPacket} {status : ResponseCode}
    (answered : answer.socialStatusCode = status.code) :
    Request.refusedBy answer (.social action) = decide (status.code < 0) := by
  show decide (answer.socialStatusCode < 0) = _
  rw [answered]

theorem socialResponse_eq (opened : 0 ≤ fd) (action : SocialAction) (status : ResponseCode)
    (process : Process) : socialResponse env fd action status process =
      process.send env fd (actionResponse .social action.code status.code) := by
  rw [socialResponse, sendActionResponse, sendPacketToClient, if_neg (not_lt.mpr opened)]
  rfl

/-- A request between users that is refused. -/
theorem social_refused (opened : 0 ≤ fd) (looks : SendsNothing process looked)
    (database : looked.ctx.db = process.ctx.db)
    (identities : looked.ctx.identities = process.ctx.identities) (action : SocialAction)
    (status : ResponseCode) (error : status.code < 0) :
    Answers fd (.social action) granted process (socialResponse env fd action status looked) := by
  rw [socialResponse_eq opened]
  exact .refused looks database identities (request_socialResponse action status)
    ((refusedBy_social (socialStatusCode_actionResponse action status)).trans
      (decide_eq_true error))

theorem findTargetUser_looks (env : Env) (name : Text) (process : Process) :
    SendsNothing process (findTargetUser env name process).1 :=
  LogsOnly.single (rfl : _ = process.trace ++ [_]) trivial

theorem TieAction.made_looks (action : TieAction) (env : Env) (client : ClientNode) (name : Text)
    (friendId : Int) (process : Process) :
    SendsNothing process (action.made env client name friendId process).1 :=
  LogsOnly.trans (findTargetUser_looks env name process) (sendsNothing_change env _ _ _)

/-- A request about a tie is refused, or the tie moves. -/
theorem TieAction.handle_answers (action : TieAction) (reliable : env.Reliable)
    (paired : Paired process.ctx.db.friends) (user : client.id ∈ process.ctx.db.userIds)
    (opened : 0 ≤ client.socketFd) (beyond : List UInt8) (packet : TizcordPacket) :
    Answers client.socketFd (.social action.socialAction)
      (action.Granted beyond client packet process.ctx
        (action.handle env client (packet.socialTargetUsername beyond) process).ctx) process
      (action.handle env client (packet.socialTargetUsername beyond) process) := by
  have handled := action.handle_cases reliable paired user (packet.socialTargetUsername beyond)
  generalize action.handle env client (packet.socialTargetUsername beyond) process = after
    at handled ⊢
  cases handled with
  | unmade status error is =>
    rw [is]
    exact social_refused opened (findTargetUser_looks ..) rfl rfl _ status error
  | failed status error found apart negative is =>
    rw [is]
    exact social_refused opened (action.made_looks ..)
      (TieAction.made_failed reliable paired user found apart negative) rfl _ status error
  | @moved friendId middle found apart succeeded is told =>
    have tells : SendsAs IsNotice middle after ∧ Notifies env middle after := by
      rcases told with rfl | rfl
      · exact ⟨notifyFriendListUpdate_sendsAs env friendId middle,
          notifyFriendListUpdate_notifies friendId middle⟩
      · exact ⟨LogsOnly.trans (notifyFriendListUpdate_sendsAs env client.id middle)
          (notifyFriendListUpdate_sendsAs env friendId _),
          (notifyFriendListUpdate_notifies client.id middle).trans
            (notifyFriendListUpdate_notifies friendId _)⟩
    have database : after.ctx.db = (action.made env client
        (packet.socialTargetUsername beyond) friendId process).1.ctx.db := by
      rw [tells.2.db, is, (socialResponse_notifies ..).db]
    have answered := tells.1
    rw [is, socialResponse_eq opened] at answered
    refine .carriedOut (SendsNothing.sendsAs (action.made_looks ..))
      (request_socialResponse action.socialAction .ok)
      ((refusedBy_social (socialStatusCode_actionResponse action.socialAction .ok)).trans
        (by decide)) (answered.others ?_) ?_
    · cases action <;> decide
    · obtain ⟨row, member, own, named⟩ :=
        (dbGetUserIdByName_of_reliable (reliable process.clock)).mp found
      have outcome := action.outcome (reliable (process.clock + 1)) paired user
        (mem_userIds_of_found found) apart
      refine ⟨row, member, named, _, succeeded, ?_⟩
      rw [database, own]
      exact outcome

/-- Packets to one connection that are sent after others. -/
theorem stream_sentTo {Row : Type} {callback : Process → Row → Process}
    (each : ∀ process row, ∃ packet, callback process row = process.send env fd packet)
    (rows : List Row) (process : Process) (last : Process → TizcordPacket) :
    LogsOnly (Effect.SentTo fd) process ((rows.foldl callback process.tick).send env fd
      (last (rows.foldl callback process.tick))) := by
  have sends : ∀ (process : Process) packet,
      LogsOnly (Effect.SentTo fd) process (process.send env fd packet) := fun process packet =>
    .single (rfl : _ = process.trace ++ [_]) rfl
  have ticked : LogsOnly (Effect.SentTo fd) process process.tick := .idle rfl
  refine ticked.trans (.trans (.foldl (fun process row => ?_) rows process.tick) (sends _ _))
  obtain ⟨packet, is⟩ := each process row
  rw [is]
  exact sends process packet

theorem sendFriendList_answers (env : Env) (fd userId : Int) (process : Process)
    (done : granted) :
    Answers fd (.social .listFriends) granted process (sendFriendList env fd userId process) := by
  obtain ⟨copies, -, sent⟩ := sendFriendList_sends env fd userId process
  have rest : LogsOnly (Effect.SentTo fd)
      (process.send env fd (socialStartPacket env process .listFriends userId))
      (sendFriendList env fd userId process) :=
    @stream_sentTo env fd _ (friendRequestCb env fd userId) (fun _ _ => ⟨_, rfl⟩) _ _ fun other =>
      socialEndPacket env other .listFriends userId _
  exact .read (LogsOnly.refl process) (socialStartPacket_request env process .listFriends userId)
    rest (by rw [sent.ctx]) (by rw [sent.ctx]) done

theorem sendUserList_answers (env : Env) (fd listId : Int) (process : Process)
    (done : granted) :
    Answers fd (.social .listUsers) granted process (sendUserList env fd listId process) := by
  obtain ⟨copies, -, sent⟩ := sendUserList_sends env fd listId process
  have rest : LogsOnly (Effect.SentTo fd)
      (process.send env fd (socialStartPacket env process .listUsers listId))
      (sendUserList env fd listId process) :=
    @stream_sentTo env fd _ (userListCb env fd listId) (fun _ _ => ⟨_, rfl⟩) _ _ fun other =>
      socialEndPacket env other .listUsers listId _
  exact .read (LogsOnly.refl process) (socialStartPacket_request env process .listUsers listId) rest
    (by rw [sent.ctx]) (by rw [sent.ctx]) done

/-- Answers that all confirm the request, the connection itself being one of those who get one. -/
theorem Answers.announced {request : Request} {before after : Process} {effects : List Effect}
    (logged : after.trace = before.trace ++ effects)
    (own : ∃ answer status user, answer.request = some request.reply ∧
      .sent fd answer status user ∈ effects)
    (confirmed : ∀ target answer status user, .sent target answer status user ∈ effects →
      request.refusedBy answer = false) (done : granted) :
    Answers fd request granted before after := by
  refine ⟨effects, logged, ?_, fun answer member => ?_⟩
  · obtain ⟨answer, status, user, asked, sent⟩ := own
    exact List.ne_nil_of_mem (List.mem_filterMap.mpr ⟨_, sent, if_pos ⟨rfl, asked⟩⟩)
  · obtain ⟨effect, sent, is⟩ := List.mem_filterMap.mp member
    cases effect with
    | sent target packet status user =>
      rw [Effect.answer] at is
      split at is
      · obtain rfl := Option.some.inj is
        have confirms := confirmed target packet status user sent
        exact ⟨fun refused => absurd (refused.symm.trans confirms) Bool.noConfusion, fun _ => done⟩
      · cases is
    | _ => cases is

theorem updateStatus_answers (env : Env) (beyond : List UInt8) (packet : TizcordPacket)
    (member : client ∈ process.ctx.clients) (authenticated : client.isAuthenticated = true)
    (opened : 0 < client.socketFd) (known : signed 64 client.id = client.id) :
    Answers client.socketFd (.social .updateStatus)
      (Request.Granted env beyond client packet process.ctx
        (updateStatus env beyond client packet process).ctx (.social .updateStatus)) process
      (updateStatus env beyond client packet process) := by
  have refused : ∀ (looked : Process) (status : ResponseCode) (granted : Prop),
      SendsNothing process looked → looked.ctx.db = process.ctx.db →
      looked.ctx.identities = process.ctx.identities → status.code < 0 →
      Answers client.socketFd (.social .updateStatus) granted process
        (sendStatusUpdatePacket env client.socketFd status client.id client.username.text none true
          looked) := by
    intro looked status granted looks database identities error
    obtain ⟨answer, tells, sent⟩ := sendStatusUpdatePacket_sends env client.socketFd status known
      client.username.text none true looked
    rw [sent]
    exact .refused looks database identities tells.request
      ((refusedBy_social tells.code).trans (decide_eq_true error))
  unfold updateStatus
  split
  · exact refused process _ _ (LogsOnly.refl process) rfl rfl (by decide)
  · next fit =>
    have short : (packet.socialTargetStatus beyond).bytes.length ≤ profileStatusLen := by
      rw [socialTargetStatus_of_short (by omega)]
      exact (by omega : statusLength packet ≤ profileStatusLen)
    have called := sendsNothing_change env process
      (fun env db => dbUpdateUserStatus env db client.id (packet.socialTargetStatus beyond))
      fun status => .updateUserStatus client.id (packet.socialTargetStatus beyond) status
    have updated := dbUpdateUserStatus_cases (Prod.mk.eta.symm : dbUpdateUserStatus
      (env.db process.clock) process.ctx.db client.id (packet.socialTargetStatus beyond) = _)
    dsimp only
    split
    · next failed =>
      rcases updated with ⟨done, -⟩ | ⟨-, unchanged⟩
      · exact absurd done failed
      · exact refused _ _ _ called unchanged rfl (by decide)
    · next done =>
      rcases updated with ⟨-, -, tables⟩ | ⟨failed, -⟩
      · generalize result : process.change env
          (fun env db => dbUpdateUserStatus env db client.id (packet.socialTargetStatus beyond))
          (fun status => .updateUserStatus client.id (packet.socialTargetStatus beyond) status) =
          changed
        have grown : changed.1.trace = process.trace ++ [.called (.updateUserStatus client.id
            (packet.socialTargetStatus beyond) changed.2)] := by
          rw [← result]
          rfl
        have stored : changed.1.ctx.db.toTables =
            process.ctx.db.toTables.withStatus client.id (packet.socialTargetStatus beyond) := by
          rw [← result]
          exact tables
        have clients : changed.1.ctx.clients = process.ctx.clients := by
          rw [← result]
          rfl
        obtain ⟨ctx, gain, logged, each⟩ := @notifyUserStatusUpdate_sends env client.id known
          client.username.text _ short changed.1
        rw [grown, List.append_assoc] at logged
        refine .announced logged ?_ (fun target answer status user sent => ?_) ?_
        · have chosen : client ∈ changed.1.ctx.clients.filter fun node =>
              0 < node.socketFd && node.isAuthenticated := by
            rw [clients]
            refine List.mem_filter.mpr ⟨member, ?_⟩
            rw [authenticated, decide_eq_true opened]
            rfl
          obtain ⟨answer, status, user, tells, sent⟩ := each.exists_of_mem chosen
          exact ⟨answer, status, user, tells.request, List.mem_append_right _ sent⟩
        · rcases List.mem_append.mp sent with call | push
          · cases List.mem_singleton.mp call
          · obtain ⟨_, _, _, _, tells, is⟩ := each.sent_of_mem push
            cases is
            exact (refusedBy_social tells.code).trans (by decide)
        · rw [Request.Granted, ctx]
          exact stored
      · exact absurd (failed.symm.trans (not_not.mp done)) (by decide)

/-- Every request of a user between users is answered as it should be. -/
theorem handleSocialAction_answers (reliable : env.Reliable)
    (paired : Paired process.ctx.db.friends) (valid : process.ctx.Valid)
    (member : client ∈ process.ctx.clients) (authenticated : client.isAuthenticated = true)
    (opened : 0 < client.socketFd) (beyond : List UInt8) (packet : TizcordPacket)
    (action : SocialAction) :
    Answers client.socketFd (.social action)
      (Request.Granted env beyond client packet process.ctx
        (handleSocialAction env beyond client packet process (some action)).ctx (.social action))
      process (handleSocialAction env beyond client packet process (some action)) := by
  have user := (valid client member).user authenticated
  have tie : ∀ action : TieAction, Answers client.socketFd (.social action.socialAction)
      (action.Granted beyond client packet process.ctx
        (action.handle env client (packet.socialTargetUsername beyond) process).ctx) process
      (action.handle env client (packet.socialTargetUsername beyond) process) := fun action =>
    action.handle_answers reliable paired user opened.le beyond packet
  cases action
  case friendRequest => exact tie .request
  case friendAccept => exact tie .accept
  case friendReject => exact tie .reject
  case friendRemove => exact tie .remove
  case listFriends =>
    obtain ⟨copies, -, sent⟩ := sendFriendList_sends env client.socketFd client.id process
    exact sendFriendList_answers env client.socketFd client.id process
      (congrArg ServerContext.db sent.ctx)
  case listUsers =>
    obtain ⟨copies, -, sent⟩ := sendUserList_sends env client.socketFd client.id process
    exact sendUserList_answers env client.socketFd client.id process
      (congrArg ServerContext.db sent.ctx)
  case updateStatus =>
    exact updateStatus_answers env beyond packet member authenticated opened (signed_userId user)

end Social

/-! ### Requests about channels -/

section Channels

variable {env : Env} {packet : TizcordPacket} {process : Process} {fd : Int} {granted : Prop}

theorem ChannelReply.request {action : ChannelAction} {answer : TizcordPacket}
    (reply : ChannelReply action answer) : answer.request = some (.channel action) := by
  have decoded : PacketType.ofCode answer.type = some .channel := by
    rw [reply.1, PacketType.ofCode_code]
  rw [TizcordPacket.request_of_type decoded, TizcordPacket.requestOfType, reply.2]
  cases action <;> rfl

theorem refusedBy_channel {action : ChannelAction} (other : action = .create ∨ action = .delete)
    {answer : TizcordPacket} {status : ResponseCode}
    (answered : answer.channelStatusCode = status.code) :
    Request.refusedBy answer (.channel action) = decide (status.code < 0) := by
  rcases other with rfl | rfl <;> show decide (answer.channelStatusCode < 0) = _ <;> rw [answered]

theorem channelStatusCode_set (answer : TizcordPacket) (status : ResponseCode) :
    (answer.setChannelStatusCode status.code).channelStatusCode = status.code := by
  rw [TizcordPacket.channelStatusCode, TizcordPacket.setChannelStatusCode,
    Image.int32_putInt32_same _ _ _ (by decide)]
  cases status <;> rfl

/-- The reply to the creation of a channel that has been made. -/
theorem channelStatusCode_created (answer : TizcordPacket) (status : ResponseCode)
    (channelId : Int) (name : Text) :
    (((answer.setChannelStatusCode status.code).setChannelChannelId
      channelId).strncpyChannelChannelName name).channelStatusCode = status.code := by
  refine Eq.trans ?_ (channelStatusCode_set answer status)
  simp (disch := decide) only [TizcordPacket.channelStatusCode,
    TizcordPacket.strncpyChannelChannelName, TizcordPacket.setChannelChannelId,
    Image.int32_strncpy_disjoint, Image.int32_putInt64_disjoint]

theorem channelCreate_answers (env : Env) (beyond : List UInt8) (client : ClientNode)
    (packet : TizcordPacket) (fd : Int) (process : Process) :
    Answers fd (.channel .create)
      (Request.Granted env beyond client packet process.ctx
        (channelCreate env beyond packet fd process).ctx (.channel .create)) process
      (channelCreate env beyond packet fd process) := by
  have reply : ChannelReply .create (((process.basePacket env .channel).setChannelAction
      ChannelAction.create.code).setChannelServerId packet.channelServerId) :=
    (ChannelReply.base env process .create).store 40 (by decide)
  unfold channelCreate
  dsimp only
  generalize ((process.basePacket env .channel).setChannelAction
      ChannelAction.create.code).setChannelServerId packet.channelServerId = base at reply ⊢
  have refused : ∀ (looked : Process) (status : ResponseCode) (granted : Prop),
      SendsNothing process looked → looked.ctx.db = process.ctx.db →
      looked.ctx.identities = process.ctx.identities → status.code < 0 →
      Answers fd (.channel .create) granted process
        (looked.send env fd (base.setChannelStatusCode status.code)) := by
    intro looked status granted looks database identities error
    have answered : ChannelReply .create (base.setChannelStatusCode status.code) :=
      reply.store 48 (by decide)
    exact .refused looks database identities answered.request
      ((refusedBy_channel (Or.inl rfl) (channelStatusCode_set _ _)).trans (decide_eq_true error))
  cases senderNode process.ctx fd with
  | none => exact refused process .errUnauthorized _ (LogsOnly.refl process) rfl rfl (by decide)
  | some sender =>
    have ticked := sendsNothing_tick process
    dsimp only
    split
    · exact refused _ .errUnauthorized _ ticked rfl rfl (by decide)
    · have called := change_looks env process
        (fun env db => dbCreateChannel env db packet.channelServerId
          (packet.channelChannelName beyond))
        (fun created => .createChannel packet.channelServerId (packet.channelChannelName beyond)
          created) ticked
      have made := dbCreateChannel_spec (Prod.mk.eta.symm : dbCreateChannel
        (env.db process.tick.clock) process.ctx.db packet.channelServerId
          (packet.channelChannelName beyond) = _)
      generalize result : process.tick.change env (fun env db => dbCreateChannel env db
        packet.channelServerId (packet.channelChannelName beyond))
        (fun created => .createChannel packet.channelServerId (packet.channelChannelName beyond)
          created) = changed at called ⊢
      have database : changed.1.ctx.db = (dbCreateChannel (env.db process.tick.clock)
          process.ctx.db packet.channelServerId (packet.channelChannelName beyond)).1 := by
        rw [← result]
        rfl
      have identities : changed.1.ctx.identities = process.ctx.identities := by
        rw [← result]
        rfl
      have created : changed.2 = (dbCreateChannel (env.db process.tick.clock)
          process.ctx.db packet.channelServerId (packet.channelChannelName beyond)).2 := by
        rw [← result]
        rfl
      rw [← database, ← created] at made
      rcases made with ⟨failed, unchanged⟩ | ⟨id, succeeded, tables⟩
      · rw [failed]
        exact refused _ .errDb _ called unchanged identities (by decide)
      · rw [succeeded]
        have answered : ChannelReply .create (((base.setChannelStatusCode
            ResponseCode.ok.code).setChannelChannelId id).strncpyChannelChannelName
              (packet.channelChannelName beyond)) :=
          ((reply.store 48 (by decide)).store 56 (by decide)).store 64 (by decide)
        refine .carriedOut (SendsNothing.sendsAs called) answered.request
          ((refusedBy_channel (Or.inl rfl) (channelStatusCode_created _ _ _ _)).trans (by decide))
          (LogsOnly.refl _) ⟨id, ?_⟩
        exact tables

theorem channelDelete_answers (env : Env) (beyond : List UInt8) (client : ClientNode)
    (packet : TizcordPacket) (fd : Int) (process : Process) :
    Answers fd (.channel .delete)
      (Request.Granted env beyond client packet process.ctx
        (channelDelete env packet fd process).ctx (.channel .delete)) process
      (channelDelete env packet fd process) := by
  have reply : ChannelReply .delete (((process.basePacket env .channel).setChannelAction
      ChannelAction.delete.code).setChannelChannelId packet.channelChannelId) :=
    (ChannelReply.base env process .delete).store 56 (by decide)
  unfold channelDelete
  dsimp only
  generalize ((process.basePacket env .channel).setChannelAction
      ChannelAction.delete.code).setChannelChannelId packet.channelChannelId = base at reply ⊢
  have answered : ∀ status : ResponseCode,
      ChannelReply .delete (base.setChannelStatusCode status.code) := fun _ =>
    reply.store 48 (by decide)
  have refused : ∀ (looked : Process) (status : ResponseCode) (granted : Prop),
      SendsNothing process looked → looked.ctx.db = process.ctx.db →
      looked.ctx.identities = process.ctx.identities → status.code < 0 →
      Answers fd (.channel .delete) granted process
        (looked.send env fd (base.setChannelStatusCode status.code)) := by
    intro looked status granted looks database identities error
    exact .refused looks database identities (answered status).request
      ((refusedBy_channel (Or.inr rfl) (channelStatusCode_set _ _)).trans (decide_eq_true error))
  cases senderNode process.ctx fd with
  | none => exact refused process .errInternal _ (LogsOnly.refl process) rfl rfl (by decide)
  | some sender =>
    have ticked := sendsNothing_tick process
    have twice : SendsNothing process process.tick.tick := LogsOnly.idle rfl
    dsimp only
    cases process.read env fun env db => dbGetChannelServerId env db packet.channelChannelId with
    | none => exact refused _ .errNotFound _ ticked rfl rfl (by decide)
    | some serverId =>
      dsimp only
      split
      · exact refused _ .errUnauthorized _ twice rfl rfl (by decide)
      · have called := change_looks env process
          (fun env db => dbDeleteChannel env db packet.channelChannelId)
          (fun status => .deleteChannel packet.channelChannelId status) twice
        have deleted := dbDeleteChannel_spec (Prod.mk.eta.symm : dbDeleteChannel
          (env.db process.tick.tick.clock) process.ctx.db packet.channelChannelId = _)
        split
        · next done =>
          rcases deleted with ⟨-, removed⟩ | ⟨failed, -⟩
          · exact .carriedOut (SendsNothing.sendsAs called) (answered .ok).request
              ((refusedBy_channel (Or.inr rfl) (channelStatusCode_set _ _)).trans (by decide))
              (LogsOnly.refl _) removed
          · exact absurd (done.symm.trans failed) (by decide)
        · next failed =>
          rcases deleted with ⟨done, -⟩ | ⟨-, unchanged⟩
          · exact absurd done failed
          · exact refused _ .errDb _ called unchanged rfl (by decide)

theorem channelFramePacket_request (env : Env) (process : Process) (listId : Int)
    (frame : ListFrameType) :
    (channelFramePacket env process listId frame).request = some (.channel .message) := by
  refine ChannelReply.request ⟨type_channelFramePacket env process listId frame, ?_⟩
  simp (disch := decide) only [channelFramePacket, TizcordPacket.channelAction,
    TizcordPacket.setChannelAction, TizcordPacket.setListId, TizcordPacket.setListFrame,
    Image.int32_putInt32_disjoint, Image.int32_putInt32_same]
  rfl

theorem dmFramePacket_request (env : Env) (process : Process) (friendId : Int)
    (frame : ListFrameType) :
    (dmFramePacket env process friendId frame).request = some (.dm .message) := by
  have decoded : PacketType.ofCode (dmFramePacket env process friendId frame).type = some .dm := by
    rw [type_dmFramePacket, PacketType.ofCode_code]
  have acted : (dmFramePacket env process friendId frame).dmAction = DMAction.message.code := by
    simp (disch := decide) only [dmFramePacket, TizcordPacket.dmAction, TizcordPacket.setDmAction,
      TizcordPacket.setDmRecipientId, TizcordPacket.setListId, TizcordPacket.setListFrame,
      Image.int32_putInt32_disjoint, Image.int32_putInt32_same]
    rfl
  rw [TizcordPacket.request_of_type decoded, TizcordPacket.requestOfType, acted]
  rfl

theorem channelHistory_answers (env : Env) (packet : TizcordPacket) (fd : Int)
    (process : Process) (done : granted) :
    Answers fd (.channel .historyRequest) granted process
      (channelHistory env packet fd process) := by
  obtain ⟨copies, -, sent⟩ := channelHistory_sends env packet fd process
  have rest : LogsOnly (Effect.SentTo fd)
      (process.send env fd (channelFramePacket env process packet.channelChannelId .start))
      (channelHistory env packet fd process) :=
    @stream_sentTo env fd _ (messageHistoryCb env fd packet.channelChannelId)
      (fun _ _ => ⟨_, rfl⟩) _ _ fun other =>
        channelFramePacket env other packet.channelChannelId .end
  exact .read (LogsOnly.refl process) (channelFramePacket_request env process _ .start) rest
    (by rw [sent.ctx]) (by rw [sent.ctx]) done

theorem directMessageHistory_answers (env : Env) (packet : TizcordPacket) (fd : Int)
    (node : ClientNode) (process : Process) (done : granted) :
    Answers fd (.dm .historyRequest) granted process
      (directMessageHistory env packet fd (some node) process) := by
  obtain ⟨copies, -, sent⟩ := directMessageHistory_sends env packet fd node process
  have rest : LogsOnly (Effect.SentTo fd)
      (process.send env fd (dmFramePacket env process packet.dmRecipientId .start))
      (directMessageHistory env packet fd (some node) process) :=
    @stream_sentTo env fd _ (directMessageHistoryCb env fd node.id packet.dmRecipientId
      (node.username.text.take (maxNameLen - 1))) (fun _ _ => ⟨_, rfl⟩) _ _ fun other =>
        dmFramePacket env other packet.dmRecipientId .end
  exact .read (LogsOnly.refl process) (dmFramePacket_request env process _ .start) rest
    (by rw [sent.ctx]) (by rw [sent.ctx]) done

end Channels

/-! ### Requests about authentication -/

section Auth

variable {env : Env} {beyond : List UInt8} {packet : TizcordPacket} {client : ClientNode}
  {process looked : Process} {fd : Int} {granted : Prop}

theorem authStatusCode_authPacket (action : AuthAction) {statusCode : Int}
    (small : signed 32 statusCode = statusCode) :
    (authPacket action statusCode).authStatusCode = statusCode := by
  simp (disch := decide) [authPacket, TizcordPacket.authStatusCode,
    TizcordPacket.setAuthStatusCode, small]

theorem refusedBy_auth {action : AuthAction} {answer : TizcordPacket} {statusCode : Int}
    (answered : answer.authStatusCode = statusCode) :
    Request.refusedBy answer (.auth action) =
      decide (statusCode ≠ action.confirmation.code) := by
  show decide (answer.authStatusCode ≠ action.confirmation.code) = _
  rw [answered]

/-- A request about authentication that is refused. -/
theorem auth_refused (looks : SendsNothing process looked)
    (database : looked.ctx.db = process.ctx.db)
    (identities : looked.ctx.identities = process.ctx.identities) {action : AuthAction}
    {statusCode : Int} (small : signed 32 statusCode = statusCode)
    (error : statusCode ≠ action.confirmation.code) :
    Answers fd (.auth action) granted process
      (looked.send env fd (authPacket action statusCode)) :=
  .refused looks database identities (authPacket_request action statusCode)
    ((refusedBy_auth (authStatusCode_authPacket action small)).trans (decide_eq_true error))

theorem linkIdentity_sendsNothing (fd userId : Int) (username : Text) (process : Process) :
    SendsNothing process (linkIdentity fd userId username process) :=
  LogsOnly.idle (linkIdentity_rest fd userId username process).2

/-- A connection whose identity has been written is that of the user. -/
theorem signedIn_of_linked {after : ServerContext} {userId : Int} {username : Text}
    {identities : List Identity} (linked : after.identities =
      changeIdentity fd (.linked userId username) identities)
    (present : fd ∈ identities.map Identity.socketFd) : SignedIn after fd userId := by
  obtain ⟨identity, member, own⟩ := List.mem_map.mp present
  refine signedIn_iff.mpr ⟨identity.linked userId username, ?_, own, rfl, rfl⟩
  rw [linked]
  exact List.mem_map.mpr ⟨identity, member, if_pos own⟩

theorem registerAccount_answers (distinct : process.ctx.fds.Nodup)
    (present : client.socketFd ∈ process.ctx.fds) :
    Answers client.socketFd (.auth .register)
      (Request.Granted env beyond client packet process.ctx
        (registerAccount env beyond client.socketFd packet process).ctx (.auth .register)) process
      (registerAccount env beyond client.socketFd packet process) := by
  unfold registerAccount
  rw [Request.Granted]
  generalize packet.authUsername beyond = username
  generalize packet.authPassword beyond = password
  have ticked := sendsNothing_tick process
  dsimp only
  cases env.salt process.clock with
  | none => exact auth_refused ticked rfl rfl rfl (by decide)
  | some setting =>
    have hashes : SendsNothing process (process.tick.log (.hashed password setting)) :=
      LogsOnly.trans ticked (LogsOnly.single (rfl : _ = process.trace ++ [_]) trivial)
    have quietly : Quiet process (process.tick.log (.hashed password setting)) :=
      .trans (⟨rfl, rfl, rfl⟩ : Quiet process process.tick) (quiet_log (fun _ => rfl) _)
    dsimp only [hashPassword]
    have sameDb : (process.tick.log (.hashed password setting)).ctx.db = process.ctx.db := rfl
    generalize process.tick.log (.hashed password setting) = hashed at hashes quietly sameDb ⊢
    cases result : env.crypt password setting with
    | none => exact auth_refused hashes sameDb quietly.identities rfl (by decide)
    | some hash =>
      dsimp only
      have called := change_looks env process (fun env db => dbCreateUser env db username hash)
        (fun created => .createUser username hash created) hashes
      have spec := dbCreateUser_spec (Prod.mk.eta.symm : dbCreateUser (env.db hashed.clock)
        hashed.ctx.db username hash = _)
      generalize result : hashed.change env (fun env db => dbCreateUser env db username hash)
        (fun created => .createUser username hash created) = created at called ⊢
      have database : created.1.ctx.db =
          (dbCreateUser (env.db hashed.clock) hashed.ctx.db username hash).1 := by
        rw [← result]
        rfl
      have identities : created.1.ctx.identities = process.ctx.identities := by
        rw [← result]
        exact quietly.identities
      have answer : created.2 =
          (dbCreateUser (env.db hashed.clock) hashed.ctx.db username hash).2 := by
        rw [← result]
        rfl
      rw [← database, ← answer, sameDb] at spec
      rcases spec with ⟨failed, unchanged⟩ | ⟨id, succeeded, fresh, tables⟩
      · rw [failed]
        exact auth_refused called unchanged identities rfl (by decide)
      · rw [succeeded]
        dsimp only
        have fds : created.1.ctx.fds = process.ctx.fds := by
          rw [fds_eq_identities, identities, fds_eq_identities]
        have linked := linkIdentity_identities (fds ▸ distinct) client.socketFd id username
        have told := (notifyAllUserLists_quiet env
          (linkIdentity client.socketFd id username created.1)).trans
          (quiet_send env client.socketFd (authPacket .register ResponseCode.ok.code) _)
        have announces := notifyAllUserLists_sendsAs env
          (linkIdentity client.socketFd id username created.1)
        refine .carriedOut (LogsOnly.trans (SendsNothing.sendsAs called) (LogsOnly.trans
          (SendsNothing.sendsAs (linkIdentity_sendsNothing ..))
            (announces.others (by decide))))
          (authPacket_request .register _)
          ((refusedBy_auth (authStatusCode_authPacket .register rfl)).trans (by decide))
          (LogsOnly.refl _) ⟨⟨id, username, hash⟩, ?_, fresh, rfl, ?_⟩
        · rw [told.accounts, (linkIdentity_rest ..).1, Tables.accounts, tables]
          simp
        · refine signedIn_of_linked (told.identities.trans linked) ?_
          rw [← fds_eq_identities, fds]
          exact present

theorem loginAccount_answers (distinct : process.ctx.fds.Nodup)
    (present : client.socketFd ∈ process.ctx.fds) :
    Answers client.socketFd (.auth .login)
      (Request.Granted env beyond client packet process.ctx
        (loginAccount env beyond client.socketFd packet process).ctx (.auth .login)) process
      (loginAccount env beyond client.socketFd packet process) := by
  unfold loginAccount
  rw [Request.Granted]
  generalize packet.authUsername beyond = username
  generalize packet.authPassword beyond = password
  have looks : SendsNothing process (process.log (.called (.getPasswordHash username))).tick :=
    LogsOnly.single (rfl : _ = process.trace ++ [_]) trivial
  have quietly : Quiet process (process.log (.called (.getPasswordHash username))).tick :=
    (quiet_log (silent_called rfl) process).trans ⟨rfl, rfl, rfl⟩
  have sameDb : (process.log (.called (.getPasswordHash username))).tick.ctx.db =
    process.ctx.db := rfl
  dsimp only [Process.read]
  generalize (process.log (.called (.getPasswordHash username))).tick = looked
    at looks quietly sameDb ⊢
  cases found : dbGetPasswordHash (env.db process.clock) process.ctx.db username with
  | none => exact auth_refused looks sameDb quietly.identities rfl (by decide)
  | some result =>
    obtain ⟨dbHash, dbUserId⟩ := result
    have hashes : SendsNothing process (hashPassword env password dbHash looked).1 :=
      LogsOnly.trans looks (LogsOnly.single (rfl : _ = looked.trace ++ [_]) trivial)
    have computes : Quiet process (hashPassword env password dbHash looked).1 :=
      quietly.trans (quiet_log (fun _ => rfl) _)
    have hashedDb : (hashPassword env password dbHash looked).1.ctx.db = process.ctx.db := sameDb
    have result : (hashPassword env password dbHash looked).2 = env.crypt password dbHash := rfl
    dsimp only
    generalize hashPassword env password dbHash looked = computed
      at hashes computes hashedDb result ⊢
    by_cases wrong : computed.2 ≠ some dbHash
    · rw [if_pos wrong]
      exact auth_refused hashes hashedDb computes.identities rfl (by decide)
    · rw [if_neg wrong]
      have logsIn := @logsInto_of_known env process client.socketFd ⟨dbUserId, username, dbHash⟩
        username password distinct (account_of_hash found) rfl (result ▸ not_not.mp wrong) _
        computes
      have revokes : SendsAs (fun _ other => other ≠ .auth .login) computed.1
          (revokeExistingLogin env client.socketFd dbUserId username computed.1) :=
        revokeExistingLogin_sendsAs env client.socketFd dbUserId username computed.1 fun _ => by
          decide
      have announces := LogsOnly.trans (notifyServerMemberListsForUser_sendsAs env dbUserId
        (linkIdentity client.socketFd dbUserId username
          (revokeExistingLogin env client.socketFd dbUserId username computed.1)))
        (notifyAllUserLists_sendsAs env _)
      refine .carriedOut (LogsOnly.trans (SendsNothing.sendsAs hashes) (LogsOnly.trans revokes
        (LogsOnly.trans (SendsNothing.sendsAs (linkIdentity_sendsNothing ..))
          (SendsAs.others announces (by decide))))) (authPacket_request .login _)
        ((refusedBy_auth (authStatusCode_authPacket .login rfl)).trans (by decide))
        (LogsOnly.refl _) ⟨⟨dbUserId, username, dbHash⟩, account_of_hash found, rfl,
          result ▸ not_not.mp wrong, ?_⟩
      refine signedIn_of_linked logsIn.identities ?_
      rw [fds_revokeIdentities, ← fds_eq_identities]
      exact present

theorem logoutAccount_answers (distinct : process.ctx.fds.Nodup) (valid : process.ctx.Valid)
    (present : client.socketFd ∈ process.ctx.fds) :
    Answers client.socketFd (.auth .logout)
      (Request.Granted env beyond client packet process.ctx
        (logoutAccount env client.socketFd process).ctx (.auth .logout)) process
      (logoutAccount env client.socketFd process) := by
  have out := logoutAccount_changes env distinct valid client.socketFd
  have ended : ∀ userId, ¬ SignedIn (logoutAccount env client.socketFd process).ctx
      client.socketFd userId := by
    intro userId signed
    obtain ⟨identity, member, own, authenticated, -⟩ := signedIn_iff.mp signed
    rw [out.identities] at member
    obtain ⟨old, -, is⟩ := List.mem_map.mp member
    split at is
    · rw [← is] at authenticated
      cases authenticated
    · next other => exact other (is ▸ own)
  rw [Request.Granted]
  unfold logoutAccount at ended ⊢
  cases found : process.ctx.findClient client.socketFd with
  | none =>
    obtain ⟨node, member, own⟩ := List.mem_map.mp present
    exact absurd own (of_decide_eq_false (List.findIdx?_eq_none_iff.mp found node member))
  | some index =>
    rw [found] at ended
    dsimp only at ended ⊢
    split
    · exact auth_refused (LogsOnly.refl process) rfl rfl rfl (by decide)
    · next known =>
      rw [if_neg known] at ended
      generalize (process.clientAt index).username.text.take (maxNameLen - 1) = username at ended ⊢
      have clears : SendsNothing process (process.modifyClient index clearClientSession) :=
        LogsOnly.modifyClient process index _
      have announces := LogsOnly.trans (notifyServerMemberListsForUser_sendsAs env
        (process.clientAt index).id (process.modifyClient index clearClientSession))
        (notifyAllUserLists_sendsAs env _)
      have code : ((authPacket .logout ResponseCode.done.code).strncpyAuthUsername
          username).authStatusCode = ResponseCode.done.code :=
        (Image.int32_strncpy_disjoint _ _ _ _ _ (by decide)).trans
          (authStatusCode_authPacket .logout rfl)
      exact .carriedOut (LogsOnly.trans (SendsNothing.sendsAs clears)
        (SendsAs.others announces (by decide))) (authNotice_request .logout _ username)
        ((refusedBy_auth code).trans (by decide)) (LogsOnly.refl _) ended

end Auth

/-! ### Main theorem -/

section Main

variable {env : Env} {process : Process} {index : Nat} {packet : TizcordPacket}
  {request : Request}

theorem handleAuthAction_answers (beyond : List UInt8) {client : ClientNode}
    (distinct : process.ctx.fds.Nodup) (valid : process.ctx.Valid)
    (present : client.socketFd ∈ process.ctx.fds) (packet : TizcordPacket) (action : AuthAction) :
    Answers client.socketFd (.auth action)
      (Request.Granted env beyond client packet process.ctx
        (handleAuthAction env beyond client.socketFd packet process (some action)).ctx
          (.auth action)) process
      (handleAuthAction env beyond client.socketFd packet process (some action)) := by
  cases action with
  | register => exact registerAccount_answers distinct present
  | login => exact loginAccount_answers distinct present
  | logout => exact logoutAccount_answers distinct valid present

theorem SocialAction.code_ofCode {code : Int} {action : SocialAction}
    (decoded : SocialAction.ofCode code = some action) : action.code = code := by
  unfold SocialAction.ofCode at decoded
  split at decoded <;> cases decoded <;> rfl

/-- A request between users is refused to those who are not logged in. -/
theorem handleSocialPacket_stranger {action : SocialAction} {granted : Prop}
    (opened : 0 ≤ (process.clientAt index).socketFd) (beyond : List UInt8)
    (stranger : (process.clientAt index).isAuthenticated = false)
    (acted : SocialAction.ofCode packet.socialAction = some action) :
    Answers (process.clientAt index).socketFd (.social action) granted process
      (handleSocialPacket env beyond index packet process) := by
  have code := SocialAction.code_ofCode acted
  have refused := @social_refused env process process _ granted opened (LogsOnly.refl process) rfl
    rfl action .errUnauthorized (by decide)
  rw [socialResponse, code] at refused
  unfold handleSocialPacket
  dsimp only
  rw [stranger, Bool.not_false, if_pos rfl]
  exact refused

/-- A request of a connection is answered as it should be. -/
theorem processClientPacket_answers (reliable : env.Reliable)
    (paired : Paired process.ctx.db.friends) (distinct : process.ctx.fds.Nodup)
    (valid : process.ctx.Valid) (inside : index < process.ctx.clients.length)
    (opened : 0 < (process.clientAt index).socketFd) (asked : packet.request = some request)
    (other : request.isMessage = false) :
    Answers (process.clientAt index).socketFd request
      (request.Granted env (env.beyond process.clock) (process.clientAt index) packet process.ctx
        (processClientPacket env index packet process).ctx)
      (process.begun index packet) (processClientPacket env index packet process) := by
  have member := clientAt_mem_of_lt inside
  have present : (process.clientAt index).socketFd ∈ process.ctx.fds := List.mem_map_of_mem member
  cases request with
  | auth action =>
    rw [processClientPacket_auth asked]
    exact @handleAuthAction_answers env (process.begun index packet) _ _ distinct valid present
      packet action
  | server action =>
    rw [processClientPacket_serverAction env index process asked]
    exact @handleServerAction_answers env index (process.begun index packet) reliable _ packet
      opened.le (valid _ member).user action
  | social action =>
    cases authenticated : (process.clientAt index).isAuthenticated with
    | false =>
      obtain ⟨type, acted⟩ := TizcordPacket.request_social asked
      rw [processClientPacket, type, handlePacket]
      exact @handleSocialPacket_stranger env (process.begun index packet) index packet action _
        opened.le _ authenticated acted
    | true =>
      rw [processClientPacket_social asked authenticated]
      exact @handleSocialAction_answers env (process.clientAt index) (process.begun index packet)
        reliable paired valid member authenticated opened _ packet action
  | channel action =>
    cases action with
    | message => cases other
    | historyRequest =>
      rw [processClientPacket_channelHistory env index process asked]
      obtain ⟨copies, -, sent⟩ := channelHistory_sends env packet
        (process.clientAt index).socketFd (process.begun index packet)
      exact channelHistory_answers env packet _ (process.begun index packet)
        (congrArg ServerContext.db sent.ctx)
    | create =>
      obtain ⟨type, acted⟩ := TizcordPacket.request_channel asked
      rw [processClientPacket, type, handlePacket, handleChatPacket, type, handleChatType,
        handleChannelMessage, acted, handleChannelAction]
      exact channelCreate_answers env _ (process.clientAt index) packet _
        (process.begun index packet)
    | delete =>
      obtain ⟨type, acted⟩ := TizcordPacket.request_channel asked
      rw [processClientPacket, type, handlePacket, handleChatPacket, type, handleChatType,
        handleChannelMessage, acted, handleChannelAction]
      exact channelDelete_answers env _ (process.clientAt index) packet _
        (process.begun index packet)
  | dm action =>
    cases action with
    | message => cases other
    | historyRequest =>
      have own := senderNode_own distinct inside
      rw [processClientPacket_directMessageHistory env index process asked]
      rw [show senderNode process.ctx (process.clientAt index).socketFd =
        some (process.clientAt index) from own]
      obtain ⟨copies, -, sent⟩ := directMessageHistory_sends env
        (stampDirectMessage (some (process.clientAt index)) packet)
        (process.clientAt index).socketFd (process.clientAt index) (process.begun index packet)
      exact directMessageHistory_answers env _ _ _ (process.begun index packet)
        (congrArg ServerContext.db sent.ctx)

/-- In every run of a server whose database does not fail, every request but a message is answered
on its own connection, and the answer is true: when it refuses the request, nothing has happened,
and when it does not, the request has been carried out. -/
theorem answers_are_true (reliable : env.Reliable) {serverFd : Int} {loop : Loop}
    {readSet : Finset Int}
    (handled : Handled env (fun _ _ _ => True) serverFd loop readSet index packet)
    (asked : packet.request = some request) (other : request.isMessage = false) :
    Answers (loop.process.clientAt index).socketFd request
      (request.Granted env (env.beyond loop.process.clock)
        ((receiveClient index loop).1.process.clientAt index) packet loop.process.ctx
        (processClientPacket env index packet (receiveClient index loop).1.process).ctx)
      ((receiveClient index loop).1.process.begun index packet)
      (processClientPacket env index packet (receiveClient index loop).1.process) := by
  have received : (receiveClient index loop).1.Consistent :=
    receiveClient_consistent handled.reachable.consistent
  have inside : index < (receiveClient index loop).1.process.ctx.clients.length := by
    rw [receiveClient_length]
    exact handled.inside
  have same := @receiveClient_clientAt_fd index loop handled.inside
  have opened : 0 < ((receiveClient index loop).1.process.clientAt index).socketFd := by
    rw [same]
    exact handled.handed.ready.1
  rw [← same]
  exact processClientPacket_answers reliable (handled.reachable.paired reliable) received.distinct
    received.valid inside opened asked other

end Main

/-- The user who registers, creates a server and then a channel in it. -/
theorem answers_are_true_channel : ∃ packet, packet.request = some (.channel .create) ∧
    Answers 4 (.channel .create)
      (Request.Granted Env.ideal (Env.ideal.beyond (messageLoop [createServerPacket,
          firstChannelPacket .create]).process.clock)
        ((receiveClient 0 (messageLoop [createServerPacket,
          firstChannelPacket .create])).1.process.clientAt 0) packet
        (messageLoop [createServerPacket, firstChannelPacket .create]).process.ctx
        (processClientPacket Env.ideal 0 packet (receiveClient 0 (messageLoop [createServerPacket,
          firstChannelPacket .create])).1.process).ctx (.channel .create))
      ((receiveClient 0 (messageLoop [createServerPacket,
        firstChannelPacket .create])).1.process.begun 0 packet)
      (processClientPacket Env.ideal 0 packet (receiveClient 0 (messageLoop [createServerPacket,
        firstChannelPacket .create])).1.process) := by
  have own : ((messageLoop [createServerPacket, firstChannelPacket .create]).process.clientAt
      0).socketFd = 4 := by decide +kernel
  obtain ⟨packet, handled, holds⟩ := messageLoop_handled (fun _ _ _ => true)
    (fun _ _ _ _ => trivial) [createServerPacket, firstChannelPacket .create] (by decide +kernel)
    (by decide +kernel) (by decide +kernel)
    (fun packet => packet.request = some (.channel .create)) (by decide +kernel)
  have asked := of_decide_eq_true holds
  have answered := answers_are_true Env.ideal_reliable handled asked rfl
  rw [own] at answered
  exact ⟨packet, asked, answered⟩

end Tizcord
