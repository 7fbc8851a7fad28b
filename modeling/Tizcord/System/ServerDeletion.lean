/-
This file follows the deletion of a server from the request of a client to the
reply and back into the client, which compares the reply with its active server.
-/

import Tizcord.System.ServerList
import Tizcord.Server.Copies
import Tizcord.Server.FieldTexts

namespace Tizcord

open CModel

section Replies

variable {env : Env} {index : Nat} {packet reply : TizcordPacket} {process : Process} {fd : Int}

/-- A reply to an action sends one packet, or none on a descriptor that is no descriptor. -/
theorem serverResponse_trace (env : Env) (fd : Int) (action : ServerAction) (status : ResponseCode)
    (process : Process) :
    ∃ gain, (serverResponse env fd action status process).trace = process.trace ++ gain ∧
      ∀ target copy sendStatus user, .sent target copy sendStatus user ∈ gain →
        copy = actionResponse .server action.code status.code := by
  unfold serverResponse sendActionResponse sendPacketToClient
  split
  · exact ⟨[], (List.append_nil _).symm, fun _ _ _ _ member => absurd member List.not_mem_nil⟩
  · refine ⟨[_], rfl, fun target copy sendStatus user member => ?_⟩
    exact (Effect.sent.inj (List.mem_singleton.mp member)).2.1

/-- A call of the database sends nothing. -/
theorem change_then_serverResponse_trace {Result : Type} (env : Env) (fd : Int)
    (action : ServerAction) (status : ResponseCode) (process : Process)
    (operation : DbEnv → Database → Database × Result) (call : Result → DbCall) :
    ∃ gain, (serverResponse env fd action status (process.change env operation call).1).trace =
        process.trace ++ gain ∧
      ∀ target copy sendStatus user, .sent target copy sendStatus user ∈ gain →
        copy = actionResponse .server action.code status.code := by
  obtain ⟨gain, logged, sent⟩ := serverResponse_trace env fd action status
    (process.change env operation call).1
  rw [Process.change_trace, List.append_assoc] at logged
  refine ⟨_, logged, fun target copy sendStatus user member => ?_⟩
  rcases List.mem_append.mp member with called | late
  · exact nomatch List.mem_singleton.mp called
  · exact sent target copy sendStatus user late

/-- The replies to a deletion; a good one is about a server with a positive id. -/
theorem deleteTizcordServer_trace (env : Env) (index : Nat) (serverId : Int) (process : Process) :
    ∃ gain, (deleteTizcordServer env index serverId process).trace = process.trace ++ gain ∧
      ∀ target copy sendStatus user, .sent target copy sendStatus user ∈ gain →
        ∃ status : ResponseCode, copy = actionResponse .server ServerAction.delete.code status.code ∧
          (status = .ok → 0 < serverId) := by
  have refused : ∀ (status : ResponseCode) (process : Process), status ≠ .ok →
      ∃ gain, (serverResponse env (process.clientAt index).socketFd .delete status process).trace =
          process.trace ++ gain ∧
        ∀ target copy sendStatus user, .sent target copy sendStatus user ∈ gain →
          ∃ status : ResponseCode,
            copy = actionResponse .server ServerAction.delete.code status.code ∧
              (status = .ok → 0 < serverId) := by
    intro status process bad
    obtain ⟨gain, logged, sent⟩ := serverResponse_trace env (process.clientAt index).socketFd
      .delete status process
    exact ⟨gain, logged, fun target copy sendStatus user member =>
      ⟨status, sent target copy sendStatus user member, fun good => absurd good bad⟩⟩
  unfold deleteTizcordServer
  dsimp only
  split
  · exact refused .errInvalid process (by decide)
  · next positive =>
    split
    · exact refused .errUnauthorized process (by decide)
    · split
      · exact refused .errUnauthorized process.tick (by decide)
      · split
        all_goals
          obtain ⟨gain, logged, sent⟩ := change_then_serverResponse_trace env
            (process.clientAt index).socketFd .delete _ process.tick
            (fun env db => dbDeleteServer env db serverId (process.clientAt index).id)
            (fun status => .deleteServer serverId (process.clientAt index).id status)
          exact ⟨gain, logged, fun target copy sendStatus user member =>
            ⟨_, sent target copy sendStatus user member, fun _ => by omega⟩⟩

/-- Every packet sent for a deletion is a reply without the id of the server. -/
theorem reply_of_delete (asked : packet.request = some (.server .delete))
    (sent : Sends env index packet process fd reply) :
    ∃ status : ResponseCode, reply = actionResponse .server ServerAction.delete.code status.code ∧
      (status = .ok → 0 < packet.serverServerId) := by
  obtain ⟨type, acted⟩ := TizcordPacket.request_server asked
  have handled : processClientPacket env index packet process =
      deleteTizcordServer env index packet.serverServerId
        (process.log (.handling (process.clientAt index).socketFd packet
          (process.ctx.userOf (process.clientAt index).socketFd))) := by
    rw [processClientPacket, type, handlePacket, handleServerPacket, acted, handleServerAction]
  obtain ⟨gain, logged, replies⟩ := deleteTizcordServer_trace env index packet.serverServerId
    (process.log (.handling (process.clientAt index).socketFd packet
      (process.ctx.userOf (process.clientAt index).socketFd)))
  obtain ⟨sendStatus, user, member⟩ := sent.of_gain handled logged
  exact replies fd reply sendStatus user member

end Replies

/-! ### The reply at the client -/

/-- What a reply of the server type carries, and what it does not: its server id is 0. -/
theorem actionResponse_server (action : ServerAction) (status : ResponseCode) :
    (actionResponse .server action.code status.code).request = some (.server action) ∧
      (actionResponse .server action.code status.code).serverStatusCode = status.code ∧
      (actionResponse .server action.code status.code).serverServerId = 0 := by
  have statusCode : signed 32 status.code = status.code := by cases status <;> rfl
  have type := type_actionResponse .server action.code status.code
  refine ⟨TizcordPacket.request_of_serverAction type ?_, ?_, ?_⟩ <;>
    simp (disch := decide) [actionResponse, TizcordPacket.setType, TizcordPacket.setServerAction,
      TizcordPacket.setServerStatusCode, TizcordPacket.serverAction,
      TizcordPacket.serverStatusCode, TizcordPacket.serverServerId, statusCode]

/-- The client is out of any server, and back at the list. -/
structure TakenOut (ui : Ui) : Prop where
  activeServer : ui.activeServer = none
  user : ∃ user, ui.currentUser = some user ∧ (ui.users.slot user).serverId = -1
  screen : ui.currentScreen = .servers

theorem closeCommandLine_activeServer (ui : Ui) :
    ui.closeCommandLine.activeServer = ui.activeServer := by
  unfold Ui.closeCommandLine
  split <;> rfl

/-- A good reply to a deletion leaves a client in its server, when that has another id than 0. -/
theorem serverDeleted_activeServer {now : Int} {reply : TizcordPacket} {ui after : Ui}
    {server : Fin uiMaxServers} (anonymous : reply.serverServerId = 0)
    (active : ui.activeServer = some server) (id : (ui.servers.slot server).id ≠ 0)
    (processed : serverDeleted now reply ui = .ok after) : after.activeServer = some server := by
  unfold serverDeleted at processed
  split at processed
  · have same : (Client.listAllServersRequest now ui.closeCommandLine).activeServer =
        some server := by
      rw [Client.listAllServersRequest, safeSendPacket_activeServer,
        closeCommandLine_activeServer, active]
    have servers : (Client.listAllServersRequest now ui.closeCommandLine).servers = ui.servers := by
      rw [Client.listAllServersRequest, safeSendPacket_servers, (closeCommandLine_same ui).servers]
    dsimp only at processed
    rw [same, servers] at processed
    dsimp only at processed
    rw [anonymous, if_neg id] at processed
    rw [← Except.ok.inj processed]
    exact same
  · rw [← Except.ok.inj processed]
    exact active

/-- However a client's server is deleted, the reply to the deletion does not take the client out
of it. -/
theorem deletion_never_takes_out (env : Env) (index : Nat) (packet reply : TizcordPacket)
    (process : Process) (fd : Int) (asked : packet.request = some (.server .delete))
    (sent : Sends env index packet process fd reply)
    (good : reply.serverStatusCode = ResponseCode.ok.code) (now : Int) (ui : Ui)
    (server : Fin uiMaxServers) (active : ui.activeServer = some server)
    (denotes : (ui.servers.slot server).id = packet.serverServerId) :
    ¬ ∃ after, processNetworkPacket now reply ui = .ok after ∧ TakenOut after := by
  rintro ⟨after, processed, taken⟩
  obtain ⟨status, rfl, positive⟩ := reply_of_delete asked sent
  obtain ⟨requested, statusCode, anonymous⟩ := actionResponse_server .delete status
  rw [processNetworkPacket_eq, requested, processRequest, updateServerState] at processed
  rw [statusCode] at good
  have isOk : status = .ok := by
    cases status with
    | ok => rfl
    | _ => exact absurd good (by decide)
  have id : (ui.servers.slot server).id ≠ 0 := by
    rw [denotes]
    exact (positive isOk).ne'
  have still := serverDeleted_activeServer anonymous active id processed
  exact Option.some_ne_none _ (still.symm.trans taken.activeServer)

/-! ### A run in which a server is deleted -/

/-- The deletion of the server with the id 1. -/
def deletePacket : TizcordPacket :=
  (Client.serverRequest 0 .delete).setServerServerId 1

theorem deletePacket_request : deletePacket.request = some (.server .delete) := by
  decide +kernel

theorem deletePacket_serverId : deletePacket.serverServerId = 1 := by
  decide +kernel

/-- Whether an effect sends the good reply to the connection 4. -/
def confirmsDeletion : Effect → Bool
  | .sent target copy _ _ => target = 4 ∧ copy.serverStatusCode = ResponseCode.ok.code
  | _ => false

theorem creator_deletes : ∃ reply, Sends Env.ideal 0 deletePacket creatorProcess 4 reply ∧
    reply.serverStatusCode = ResponseCode.ok.code := by
  have found : ((processClientPacket Env.ideal 0 deletePacket creatorProcess).trace.drop
      creatorProcess.trace.length).any confirmsDeletion = true := by
    decide +kernel
  obtain ⟨effect, member, is⟩ := List.any_eq_true.mp found
  cases effect with
  | sent target copy status user =>
    obtain ⟨rfl, good⟩ := of_decide_eq_true is
    exact ⟨copy, ⟨status, user, member⟩, good⟩
  | _ => cases is

theorem deletion_never_takes_out_creator : ∃ ui reply, runUi chatRounds Ui.start = .ok ui ∧
    Sends Env.ideal 0 deletePacket creatorProcess 4 reply ∧
      ¬ ∃ after, processNetworkPacket 0 reply ui = .ok after ∧ TakenOut after := by
  obtain ⟨ui, ran, opened, id, -⟩ := chatRounds_target
  obtain ⟨reply, sent, good⟩ := creator_deletes
  exact ⟨ui, reply, ran, sent, deletion_never_takes_out Env.ideal 0 deletePacket reply creatorProcess
    4 deletePacket_request sent good 0 ui 0 (openServer_eq_some.mp opened).1
    (id.trans deletePacket_serverId.symm)⟩

/-- The creator of the only server deletes it, and stays in it. -/
theorem creator_stays :
    ¬ ∀ (env : Env) (index : Nat) (packet reply : TizcordPacket) (process : Process) (fd : Int),
      packet.request = some (.server .delete) → Sends env index packet process fd reply →
      reply.serverStatusCode = ResponseCode.ok.code → ∀ (now : Int) (ui : Ui)
        (server : Fin uiMaxServers), ui.activeServer = some server →
        (ui.servers.slot server).id = packet.serverServerId →
        ∃ after, processNetworkPacket now reply ui = .ok after ∧ TakenOut after := by
  intro claim
  obtain ⟨ui, -, opened, id, -⟩ := chatRounds_target
  obtain ⟨reply, sent, good⟩ := creator_deletes
  have active := (openServer_eq_some.mp opened).1
  obtain ⟨after, processed, taken⟩ := claim Env.ideal 0 deletePacket reply creatorProcess 4
    deletePacket_request sent good 0 ui 0 active (id.trans deletePacket_serverId.symm)
  obtain ⟨status, rfl, -⟩ := reply_of_delete deletePacket_request sent
  obtain ⟨requested, -, anonymous⟩ := actionResponse_server .delete status
  rw [processNetworkPacket_eq, requested, processRequest, updateServerState] at processed
  have still := serverDeleted_activeServer anonymous active (by rw [id]; decide) processed
  exact Option.some_ne_none _ (still.symm.trans taken.activeServer)

end Tizcord
