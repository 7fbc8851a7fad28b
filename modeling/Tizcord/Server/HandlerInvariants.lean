/-
This file derives from the steps alone what the handling of any packet keeps:
the connections of the table and their half-received packets, the accounts, and
the validity of every node. It also says which effects a handler can have.
-/

import Tizcord.Server.DbEffects

namespace Tizcord

open CModel

variable {env : Env} {fd : Int} {beyond : List UInt8} {packet : TizcordPacket}
  {before after : ServerContext} {effects : List Effect}

/-! ### Tables of nodes -/

/-- Writing to a node keeps what the write does not touch. -/
theorem map_modify_of_same {Node Part : Type} (part : Node → Part) (update : Node → Node)
    (same : ∀ node, part (update node) = part node) (nodes : List Node) (index : Nat) :
    (nodes.modify index update).map part = nodes.map part := by
  refine List.ext_getElem (by simp) fun place _ _ => ?_
  rw [List.getElem_map, List.getElem_map, List.getElem_modify]
  split
  · exact same _
  · rfl

/-- A node after a write is an old node, or one the write has made. -/
theorem mem_modify {Node : Type} {update : Node → Node} {nodes : List Node} {index : Nat}
    {node : Node} (member : node ∈ nodes.modify index update) :
    node ∈ nodes ∨ ∃ old ∈ nodes, node = update old := by
  obtain ⟨place, bound, rfl⟩ := List.getElem_of_mem member
  rw [List.length_modify] at bound
  rw [List.getElem_modify]
  split
  · exact Or.inr ⟨_, List.getElem_mem bound, rfl⟩
  · exact Or.inl (List.getElem_mem bound)

/-! ### Connections -/

/-- What the loop keeps in a node: the descriptor and the half-received packet. -/
def ClientNode.connection (node : ClientNode) : Int × ReceiveBuffer :=
  (node.socketFd, node.receiveBuffer)

def ServerContext.connections (ctx : ServerContext) : List (Int × ReceiveBuffer) :=
  ctx.clients.map ClientNode.connection

theorem HandlerStep.connections (step : HandlerStep env fd beyond packet before effects after) :
    after.connections = before.connections := by
  cases step with
  | look index serverIndex =>
    exact map_modify_of_same ClientNode.connection
      (fun node => { node with currentServerIndex := serverIndex }) (fun _ => rfl) before.clients
      index
  | session index update _ sameFd sameBuffer =>
    exact map_modify_of_same ClientNode.connection update
      (fun node => Prod.ext (sameFd node) (sameBuffer node)) before.clients index
  | reply | broadcast | forward | history | hash | call => rfl

theorem HandlerStep.serverFd (step : HandlerStep env fd beyond packet before effects after) :
    after.serverFd = before.serverFd := by
  cases step <;> rfl

/-! ### Accounts and sessions -/

theorem HandlerStep.userIds (step : HandlerStep env fd beyond packet before effects after) :
    before.db.userIds ⊆ after.db.userIds := by
  cases step with
  | call _ _ runs => exact runs.userIds_subset
  | reply | broadcast | forward | history | hash | look | session => exact fun _ member => member

theorem ClientNode.Valid.mono {db later : Database} {node : ClientNode} (valid : node.Valid db)
    (grown : db.userIds ⊆ later.userIds) : node.Valid later where
  user authenticated := grown (valid.user authenticated)
  stranger := valid.stranger

/-- Every node of the table is valid. -/
def ServerContext.Valid (ctx : ServerContext) : Prop :=
  ∀ node ∈ ctx.clients, node.Valid ctx.db

theorem HandlerStep.valid (step : HandlerStep env fd beyond packet before effects after)
    (valid : before.Valid) : after.Valid := by
  cases step with
  | call _ _ runs => exact fun node member => (valid node member).mono runs.userIds_subset
  | look index =>
    intro node member
    rcases mem_modify member with old | ⟨old, oldMember, rfl⟩
    · exact valid node old
    · exact ⟨(valid old oldMember).user, (valid old oldMember).stranger⟩
  | session index update _ _ _ updated =>
    intro node member
    rcases mem_modify member with old | ⟨old, -, rfl⟩
    · exact valid node old
    · exact updated old
  | reply | broadcast | forward | history | hash => exact valid

/-- Who a connection is. -/
structure Identity where
  socketFd : Int
  isAuthenticated : Bool
  id : Int
  username : Text

def ClientNode.identity (node : ClientNode) : Identity :=
  ⟨node.socketFd, node.isAuthenticated, node.id, node.username.text⟩

def ServerContext.identities (ctx : ServerContext) : List Identity :=
  ctx.clients.map ClientNode.identity

/-- Only authentication changes who a connection is. -/
theorem HandlerStep.identities (step : HandlerStep env fd beyond packet before effects after)
    (other : ∀ action, packet.request ≠ some (.auth action)) :
    after.identities = before.identities := by
  cases step with
  | look index serverIndex =>
    exact map_modify_of_same ClientNode.identity
      (fun node => { node with currentServerIndex := serverIndex }) (fun _ => rfl) before.clients
      index
  | session _ _ asked =>
    obtain ⟨action, asked⟩ := asked
    exact absurd asked (other action)
  | reply | broadcast | forward | history | hash | call => rfl

theorem ServerContext.userOf_eq (ctx : ServerContext) (fd : Int) :
    ctx.userOf fd =
      (ctx.identities.find? fun identity =>
        identity.socketFd = fd && identity.isAuthenticated).map Identity.id := by
  rw [userOf, identities, List.find?_map, Option.map_map]
  rfl

theorem userOf_congr (same : after.identities = before.identities) :
    after.userOf fd = before.userOf fd := by
  rw [ServerContext.userOf_eq, ServerContext.userOf_eq, same]

/-- A connection without a user has a node that is not authenticated. -/
theorem not_authenticated_of_userOf {node : ClientNode} (none' : before.userOf fd = none)
    (member : node ∈ before.clients) (own : node.socketFd = fd) :
    node.isAuthenticated = false := by
  have absent := List.find?_eq_none.mp (Option.map_eq_none_iff.mp none') node member
  simpa [own] using absent

/-! ### Effects -/

/-- The effects of handlers; all others are the loop's. -/
def Effect.OfHandler : Effect → Prop
  | .sent .. | .hashed .. | .called .. => True
  | _ => False

theorem HandlerStep.ofHandler (step : HandlerStep env fd beyond packet before effects after) :
    ∀ effect ∈ effects, effect.OfHandler := by
  intro effect member
  cases step with
  | look | session => exact absurd member List.not_mem_nil
  | reply | broadcast | forward | history | hash | call =>
    rw [List.mem_singleton.mp member]
    exact trivial

/-- Between two states of the table, all that the loop relies on is kept. -/
structure Keeps (before after : ServerContext) : Prop where
  connections : after.connections = before.connections
  serverFd : after.serverFd = before.serverFd
  userIds : before.db.userIds ⊆ after.db.userIds
  valid : before.Valid → after.Valid

theorem Keeps.refl (ctx : ServerContext) : Keeps ctx ctx :=
  ⟨rfl, rfl, fun _ member => member, id⟩

theorem Keeps.trans {middle : ServerContext} (first : Keeps before middle)
    (second : Keeps middle after) : Keeps before after where
  connections := second.connections.trans first.connections
  serverFd := second.serverFd.trans first.serverFd
  userIds := List.Subset.trans first.userIds second.userIds
  valid valid := second.valid (first.valid valid)

theorem HandlerStep.keeps (step : HandlerStep env fd beyond packet before effects after) :
    Keeps before after :=
  ⟨step.connections, step.serverFd, step.userIds, step.valid⟩

theorem Acts.keeps {start finish : Process} (acts : Acts env fd beyond packet start finish) :
    Keeps start.ctx finish.ctx :=
  Takes.invariant (Keeps start.ctx ·) (fun step kept => kept.trans step.keeps) acts (.refl _)

theorem Acts.trace {start finish : Process} (acts : Acts env fd beyond packet start finish) :
    ∃ effects, finish.trace = start.trace ++ effects ∧ ∀ effect ∈ effects, effect.OfHandler := by
  obtain ⟨effects, logged, steps⟩ := acts
  exact ⟨effects, logged, steps.events_of_invariant (fun _ => True) (fun _ _ => trivial)
    (fun step _ => step.ofHandler) trivial⟩

/-! ### Notices -/

/-- An authentication packet without an action. The process tells clients about a change as it
could for such a packet, which asks for nothing. -/
def noRequest : TizcordPacket :=
  (TizcordPacket.setType Image.zero .auth).setAuthAction 3

theorem noRequest_type : PacketType.ofCode noRequest.type = some .auth := by
  have type : noRequest.type = PacketType.auth.code := by
    rw [noRequest, TizcordPacket.setAuthAction, TizcordPacket.type, TizcordPacket.setType,
      Image.int32_putInt32_disjoint _ _ _ _ (by decide),
      Image.int32_putInt32_same _ _ _ (by decide)]
    rfl
  rw [type, PacketType.ofCode_code]

theorem noRequest_request : noRequest.request = none := by
  have action : noRequest.authAction = 3 := by
    rw [noRequest, TizcordPacket.authAction, TizcordPacket.setAuthAction,
      Image.int32_putInt32_same _ _ _ (by decide)]
    rfl
  rw [TizcordPacket.request_of_type noRequest_type, TizcordPacket.requestOfType, action]
  rfl

/-- The process tells clients about a change. -/
abbrev Notifies (env : Env) (before after : Process) : Prop :=
  Acts env 0 [] noRequest before after

theorem DbCall.not_permitted_noRequest {call : DbCall} :
    ¬ call.Permitted before fd beyond noRequest := by
  intro permitted
  cases call <;> simp [DbCall.Permitted, noRequest_request] at permitted

/-- A notice is a packet that shows no message, or a look at a server. -/
theorem HandlerStep.notice (step : HandlerStep env fd beyond noRequest before effects after) :
    (∃ target answer status user, effects = [.sent target answer status user] ∧
      ¬ IsMessage answer ∧ after = before) ∨
    ∃ index serverIndex, effects = [] ∧ after = { before with
      clients := before.clients.modify index fun node =>
        { node with currentServerIndex := serverIndex } } := by
  have impossible : ∀ request, noRequest.request ≠ some request := by
    intro request
    rw [noRequest_request]
    exact nofun
  cases step with
  | reply status quiet => exact Or.inl ⟨_, _, status, _, rfl, quiet, rfl⟩
  | broadcast _ asked => exact absurd asked (impossible _)
  | forward _ asked => exact absurd asked (impossible _)
  | history _ asked => exact asked.elim (absurd · (impossible _)) (absurd · (impossible _))
  | hash _ asked => exact asked.elim (absurd · (impossible _)) (absurd · (impossible _))
  | call _ permitted => exact absurd permitted DbCall.not_permitted_noRequest
  | look index serverIndex => exact Or.inr ⟨index, serverIndex, rfl, rfl⟩
  | session _ _ asked =>
    obtain ⟨action, asked⟩ := asked
    exact absurd asked (impossible _)

end Tizcord
