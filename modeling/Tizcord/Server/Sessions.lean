/-
This file is about the sessions of the table: which connection is authenticated as
which user, and what registration, login, logout and the end of a connection do
to this.
-/

import Tizcord.Server.Reachable

namespace Tizcord

open CModel

/-! ### Looking up a connection -/

section Lookup

variable {ctx : ServerContext} {index : Nat}

/-- No other node has the descriptor of the node at an index. -/
theorem clientAt_unique (distinct : ctx.fds.Nodup) (inside : index < ctx.clients.length)
    {node : ClientNode} (member : node ∈ ctx.clients)
    (same : node.socketFd = (ctx.clientAt index).socketFd) : node = ctx.clientAt index :=
  List.inj_on_of_nodup_map distinct member (clientAt_mem_of_lt inside) same

theorem findClient_own (distinct : ctx.fds.Nodup) (inside : index < ctx.clients.length) :
    ctx.findClient (ctx.clientAt index).socketFd = some index := by
  rw [ServerContext.findClient, List.findIdx?_eq_some_iff_getElem]
  refine ⟨inside, decide_eq_true (by rw [clientAt_eq_getElem inside]), fun earlier before same => ?_⟩
  have insideFds : index < ctx.fds.length := by
    rw [ServerContext.fds, List.length_map]
    exact inside
  have earlierInside : earlier < ctx.fds.length := before.trans insideFds
  have equal : ctx.fds[earlier] = ctx.fds[index] := by
    rw [clientAt_eq_getElem inside] at same
    simpa [ServerContext.fds] using same
  exact before.ne ((distinct.getElem_inj_iff).mp equal)

theorem senderNode_own (distinct : ctx.fds.Nodup) (inside : index < ctx.clients.length) :
    senderNode ctx (ctx.clientAt index).socketFd = some (ctx.clientAt index) := by
  rw [senderNode, findClient_own distinct inside, Option.map_some]

/-- The user of a connection is that of its node. -/
theorem userOf_own (distinct : ctx.fds.Nodup) (inside : index < ctx.clients.length) :
    ctx.userOf (ctx.clientAt index).socketFd =
      if (ctx.clientAt index).isAuthenticated then some (ctx.clientAt index).id else none := by
  rw [ServerContext.userOf]
  cases found : ctx.clients.find? fun node =>
      node.socketFd = (ctx.clientAt index).socketFd && node.isAuthenticated with
  | none =>
    have absent := List.find?_eq_none.mp found _ (clientAt_mem_of_lt inside)
    rw [if_neg (by simpa using absent)]
    rfl
  | some node =>
    have holds := List.find?_some found
    rw [Bool.and_eq_true] at holds
    have same := clientAt_unique distinct inside (List.mem_of_find?_eq_some found)
      (of_decide_eq_true holds.1)
    rw [same] at holds ⊢
    rw [if_pos holds.2]
    rfl

/-- The copies of a channel message carry the id of the node that sent it. -/
theorem stampChannelMessage_senderId (packet : TizcordPacket) (node : ClientNode) :
    (stampChannelMessage (some node) packet).senderId = signed 64 node.id :=
  (Image.int64_strncpy_disjoint _ _ _ _ _ (by decide)).trans
    (Image.int64_putInt64_same _ _ _ (by decide))

theorem stampDirectMessage_senderId (packet : TizcordPacket) (node : ClientNode) :
    (stampDirectMessage (some node) packet).senderId = signed 64 node.id :=
  Image.int64_putInt64_same _ _ _ (by decide)

end Lookup

/-! ### Identities -/

/-- The identity of a connection after `clear_client_session`. -/
def Identity.cleared (identity : Identity) : Identity :=
  ⟨identity.socketFd, false, 0, Text.empty⟩

/-- The identity of a connection that has become that of a user. -/
def Identity.linked (userId : Int) (username : Text) (identity : Identity) : Identity :=
  ⟨identity.socketFd, true, userId, username.take (maxNameLen - 1)⟩

/-- Change the identity of the connection with a descriptor. -/
def changeIdentity (fd : Int) (change : Identity → Identity) (identities : List Identity) :
    List Identity :=
  identities.map fun identity => if identity.socketFd = fd then change identity else identity

/-- Whether a login on a connection ends the session of another one. -/
def Identity.Revoked (fd userId : Int) (identity : Identity) : Prop :=
  (0 < identity.socketFd ∧ identity.socketFd ≠ fd) ∧ identity.isAuthenticated = true ∧
    identity.id = userId

instance (fd userId : Int) (identity : Identity) : Decidable (identity.Revoked fd userId) :=
  inferInstanceAs (Decidable (_ ∧ _ ∧ _))

/-- The identities after a login has ended the other sessions of its user. -/
def revokeIdentities (fd userId : Int) (identities : List Identity) : List Identity :=
  identities.map fun identity =>
    if identity.Revoked fd userId then identity.cleared else identity

section Identities

variable {env : Env} {ctx : ServerContext} {process : Process} {index : Nat} {fd : Int}

theorem fds_eq_identities (ctx : ServerContext) :
    ctx.fds = ctx.identities.map Identity.socketFd := by
  rw [ServerContext.fds, ServerContext.identities, List.map_map]
  rfl

theorem ServerContext.fresh_ne {ctx : ServerContext} {fd : Int} (fresh : fd ∉ ctx.fds)
    {identity : Identity} (member : identity ∈ ctx.identities) : fd ≠ identity.socketFd := by
  rintro rfl
  rw [fds_eq_identities] at fresh
  exact fresh (List.mem_map.mpr ⟨identity, member, rfl⟩)

theorem mem_identities {identity : Identity} :
    identity ∈ ctx.identities ↔ ∃ node ∈ ctx.clients, node.identity = identity :=
  List.mem_map

theorem signedIn_iff {fd userId : Int} : SignedIn ctx fd userId ↔ ∃ identity ∈ ctx.identities,
    identity.socketFd = fd ∧ identity.isAuthenticated = true ∧ identity.id = userId := by
  constructor
  · rintro ⟨node, present, own, authenticated, same⟩
    exact ⟨node.identity, mem_identities.mpr ⟨node, present, rfl⟩, own, authenticated, same⟩
  · rintro ⟨identity, present, own, authenticated, same⟩
    obtain ⟨node, member, rfl⟩ := mem_identities.mp present
    exact ⟨node, member, own, authenticated, same⟩

theorem signedIn_congr {before after : ServerContext} {fd userId : Int}
    (same : after.identities = before.identities) :
    SignedIn after fd userId ↔ SignedIn before fd userId := by
  rw [signedIn_iff, signedIn_iff, same]

/-- What a write does is decided by the item it is at. -/
theorem modify_congr {Item : Type} {items : List Item} {first second : Item → Item}
    (same : ∀ inside : index < items.length, first items[index] = second items[index]) :
    items.modify index first = items.modify index second := by
  refine List.ext_getElem (by simp) fun place _ inside => ?_
  rw [List.getElem_modify, List.getElem_modify]
  split
  · next equal =>
    subst equal
    exact same (by simpa using inside)
  · rfl

theorem identities_modify {update : ClientNode → ClientNode} {change : Identity → Identity}
    (is : ∀ node, (update node).identity = change node.identity) (clients : List ClientNode) :
    (clients.modify index update).map ClientNode.identity =
      (clients.map ClientNode.identity).modify index change := by
  refine List.ext_getElem (by simp) fun place _ _ => ?_
  rw [List.getElem_map, List.getElem_modify, List.getElem_modify, List.getElem_map]
  split
  · exact is _
  · rfl

/-- Writing to the only connection with a descriptor changes its identity. -/
theorem modify_eq_changeIdentity (distinct : ctx.fds.Nodup) (inside : index < ctx.clients.length)
    (change : Identity → Identity) :
    ctx.identities.modify index change =
      changeIdentity (ctx.clientAt index).socketFd change ctx.identities := by
  refine List.ext_getElem (by simp [changeIdentity]) fun place bound _ => ?_
  have placeInside : place < ctx.clients.length := by
    simpa [ServerContext.identities] using bound
  have same : index = place ↔ ctx.clients[place].socketFd = (ctx.clientAt index).socketFd := by
    constructor
    · rintro rfl
      rw [clientAt_eq_getElem inside]
    · intro equal
      have fdsEqual : ctx.fds[place]? = ctx.fds[index]? := by
        rw [clientAt_eq_getElem inside] at equal
        simp [ServerContext.fds, placeInside, inside, equal]
      exact ((List.getElem?_inj (by simpa [ServerContext.fds] using placeInside) distinct).mp
        fdsEqual).symm
  simp only [List.getElem_modify, changeIdentity, List.getElem_map, ServerContext.identities,
    ClientNode.identity]
  by_cases equal : index = place
  · rw [if_pos equal, if_pos (same.mp equal)]
  · rw [if_neg equal, if_neg fun own => equal (same.mpr own)]

theorem findClient_spec (found : ctx.findClient fd = some index) :
    index < ctx.clients.length ∧ (ctx.clientAt index).socketFd = fd := by
  obtain ⟨inside, own, -⟩ := List.findIdx?_eq_some_iff_getElem.mp found
  rw [clientAt_eq_getElem inside]
  exact ⟨inside, of_decide_eq_true own⟩

/-- Linking an identity changes that of the connection, if it is in the table. -/
theorem linkIdentity_identities (distinct : process.ctx.fds.Nodup) (fd userId : Int)
    (username : Text) :
    (linkIdentity fd userId username process).ctx.identities =
      changeIdentity fd (.linked userId username) process.ctx.identities := by
  rw [linkIdentity]
  cases found : process.ctx.findClient fd with
  | none =>
    have absent := List.findIdx?_eq_none_iff.mp found
    symm
    refine (List.map_congr_left fun identity member => ?_).trans (List.map_id _)
    obtain ⟨node, present, rfl⟩ := mem_identities.mp member
    exact if_neg (of_decide_eq_false (absent node present))
  | some index =>
    obtain ⟨inside, rfl⟩ := findClient_spec found
    rw [← modify_eq_changeIdentity distinct inside]
    exact identities_modify (fun node => by
      rw [ClientNode.identity, Identity.linked, TextBuffer.text_strncpy]
      rfl) _

theorem receiveClient_identities (index : Nat) (loop : Loop) :
    (receiveClient index loop).1.process.ctx.identities = loop.process.ctx.identities :=
  map_modify_of_same ClientNode.identity
    (fun node => { node with receiveBuffer := (packetReceivePartial
      (loop.sockets (loop.process.clientAt index).socketFd)
      (loop.process.clientAt index).receiveBuffer).2.2 }) (fun _ => rfl) _ _

theorem userIsOnline_eq (ctx : ServerContext) (userId : Int) :
    userIsOnline ctx userId = ctx.identities.any fun identity =>
      0 < identity.socketFd && identity.isAuthenticated && identity.id = userId := by
  rw [userIsOnline, ServerContext.identities, List.any_map]
  rfl

theorem identity_clearClientSession (node : ClientNode) :
    (clearClientSession node).identity = node.identity.cleared := by
  rw [ClientNode.identity, clearClientSession, TextBuffer.text_clear]
  rfl

/-- Changing the items of a list one after the other changes all of them. -/
theorem foldl_modify_range' {Item : Type} (change : Item → Item) (before items : List Item) :
    (List.range' before.length items.length).foldl (fun items index => items.modify index change)
      (before ++ items) = before ++ items.map change := by
  induction items generalizing before with
  | nil => rfl
  | cons item rest inductionHypothesis =>
    have modified : (before ++ item :: rest).modify before.length change =
        (before ++ [change item]) ++ rest := by
      rw [List.modify_eq_take_cons_drop (by simp)]
      simp
    have step := inductionHypothesis (before ++ [change item])
    rw [List.length_append, List.length_singleton] at step
    rw [List.length_cons, List.range'_succ, List.foldl_cons, modified, step, List.append_assoc]
    rfl

/-- A loop over the table whose body changes the node it is at changes all of them. -/
theorem forClients_clients {body : Nat → ClientNode → Process → Process}
    {change : ClientNode → ClientNode}
    (changes : ∀ index (process : Process),
      (body index (process.clientAt index) process).ctx.clients =
        process.ctx.clients.modify index change) (process : Process) :
    (process.forClients body).ctx.clients = process.ctx.clients.map change := by
  have folded : (process.forClients body).ctx.clients =
      (List.range process.ctx.clients.length).foldl
        (fun clients index => clients.modify index change) process.ctx.clients :=
    (List.foldl_hom (fun process : Process => process.ctx.clients)
      fun process index => (changes index process).symm).symm
  rw [folded, List.range_eq_range']
  exact foldl_modify_range' change [] process.ctx.clients

/-- Ending the other sessions of a user clears their nodes. -/
theorem revokeExistingLogin_clients (env : Env) (fd userId : Int) (username : Text)
    (process : Process) :
    (revokeExistingLogin env fd userId username process).ctx.clients =
      process.ctx.clients.map fun node =>
        if node.identity.Revoked fd userId then clearClientSession node else node := by
  refine forClients_clients (fun index process => ?_) process
  have own : ∀ inside : index < process.ctx.clients.length,
      process.ctx.clients[index] = process.clientAt index := fun inside => by
    rw [Process.clientAt, clientAt_eq_getElem inside]
  have unchanged : ¬ (process.clientAt index).identity.Revoked fd userId →
      process.ctx.clients = process.ctx.clients.modify index fun node =>
        if node.identity.Revoked fd userId then clearClientSession node else node := by
    intro kept
    rw [show process.ctx.clients.modify index _ = process.ctx.clients.modify index id from
      modify_congr fun inside => by rw [own inside, if_neg kept, id], List.modify_id]
  dsimp only
  split
  · next skipped =>
    refine unchanged fun revoked => ?_
    rcases skipped with closed | same
    · exact absurd revoked.1.1 (not_lt.mpr closed)
    · exact revoked.1.2 same
  · next going =>
    split
    · next skipped =>
      refine unchanged fun revoked => ?_
      rcases skipped with stranger | other
      · have authenticated : (process.clientAt index).isAuthenticated = true := revoked.2.1
        rw [stranger] at authenticated
        cases authenticated
      · exact other revoked.2.2
    · next ends =>
      rw [not_or] at going ends
      have revoked : (process.clientAt index).identity.Revoked fd userId := by
        refine ⟨⟨not_le.mp going.1, going.2⟩, ?_, not_not.mp ends.2⟩
        exact (Bool.not_eq_false _).mp ends.1
      have cleared : process.ctx.clients.modify index clearClientSession =
          process.ctx.clients.modify index fun node =>
            if node.identity.Revoked fd userId then clearClientSession node else node :=
        modify_congr fun inside => by rw [own inside, if_pos revoked]
      exact cleared

theorem revokeExistingLogin_identities (env : Env) (fd userId : Int) (username : Text)
    (process : Process) :
    (revokeExistingLogin env fd userId username process).ctx.identities =
      revokeIdentities fd userId process.ctx.identities := by
  rw [ServerContext.identities, revokeExistingLogin_clients, revokeIdentities,
    ServerContext.identities, List.map_map, List.map_map]
  refine List.map_congr_left fun node _ => ?_
  rw [Function.comp, Function.comp]
  split
  · exact identity_clearClientSession node
  · rfl

end Identities

end Tizcord
