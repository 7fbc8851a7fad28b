/-
This file is about the name a message is shown under. The server writes the
identity of the sender into every copy, and whatever else the packet claims, the
clients show the message under the name of its sender.
-/

import Tizcord.Client.Views
import Tizcord.Server.LiveMessages

namespace Tizcord

open CModel

/-! ### What a client knows of its friends -/

/-- An entry of a friend list has the id of a user, and the name of this user if there is one. -/
def RightlyNamed (database : Database) (friend : UIFriend) : Prop :=
  0 < friend.id ∧ ∀ user ∈ database.users, user.id = friend.id → user.username = friend.username

/-- The friends of the client at a connection are named as in the tables, and are others than its
own user. -/
structure KnowsFriends (ctx : ServerContext) (fd : Int) (ui : Ui) : Prop where
  named : ∀ friend ∈ ui.friends.entries, RightlyNamed ctx.db friend
  others : ∀ userId, SignedIn ctx fd userId → ∀ friend ∈ ui.friends.entries, friend.id ≠ userId

/-- The client files a message for a packet, behind the messages of a view. -/
def Appends (now : Int) (packet : TizcordPacket) (ui : Ui) (view : View) (message : Message) :
    Prop :=
  ∃ after, processNetworkPacket now packet ui = .ok after ∧
    (after.view view).entries = (ui.view view).entries ++ [message]

section Speakers

variable {now : Int} {packet : TizcordPacket} {ui : Ui} {view : View} {message : Message}

theorem receiveMessage_append {messages : Messages} {filed : Message}
    (appended : (receiveMessage packet filed messages).entries = messages.entries ++ [message]) :
    message = filed := by
  rw [receiveMessage] at appended
  split at appended
  · exact absurd appended.symm (List.append_ne_nil_of_right_ne_nil _ (List.cons_ne_nil _ _))
  · split at appended
    · exact absurd (List.self_eq_append_right.mp appended) (List.cons_ne_nil _ _)
    · by_cases room : messages.count < maxMessages
      · rw [SlotArray.entries_file_of_room room] at appended
        exact (List.singleton_inj.mp (List.append_cancel_left appended)).symm
      · rw [SlotArray.file_of_full room] at appended
        exact absurd (List.self_eq_append_right.mp appended) (List.cons_ne_nil _ _)

/-- What a client files for a message packet is the message of the packet, in its view. -/
theorem Appends.filed (appends : Appends now packet ui view message) (is : IsMessage packet) :
    messageView packet ui = some view ∧ message = filedMessage packet ui view := by
  obtain ⟨after, processed, appended⟩ := appends
  have changed : (after.view view).entries ≠ (ui.view view).entries := by
    rw [appended]
    exact fun same => List.cons_ne_nil _ _ (List.append_right_eq_self.mp same)
  cases filed : messageView packet ui with
  | none =>
    obtain rfl := Except.ok.inj (processed.symm.trans (processMessage_of_none is filed))
    exact absurd rfl changed
  | some target =>
    obtain ⟨other, same, views⟩ : ∃ after, processNetworkPacket now packet ui = .ok after ∧
        ∀ view, after.view view = if view = target then
          receiveMessage packet (filedMessage packet ui target) (ui.view view)
        else ui.view view := processMessage_of_some is filed
    obtain rfl := Except.ok.inj (processed.symm.trans same)
    by_cases here : view = target
    · subst here
      rw [views, if_pos rfl] at appended
      exact ⟨rfl, receiveMessage_append appended⟩
    · rw [views, if_neg here] at changed
      exact absurd rfl changed

/-! ### Names in copies -/

/-- The name that a client reads in the copy of a channel message is that of the sender, whatever
the sender wrote into the field. -/
theorem channelMessageOf_stamped (node : ClientNode) (packet : TizcordPacket)
    (named : node.username.text ≠ Text.empty)
    (short : node.username.text.bytes.length < maxNameLen) :
    (channelMessageOf (stampChannelMessage (some node) packet)).sender = node.username.text := by
  have stamped : ((stampChannelMessage (some node) packet).channelChannelName []).take
      (maxNameLen - 1) = node.username.text.take (maxNameLen - 1) :=
    Image.take_text_strncpy (packet.setSenderId node.id) node.username.text [] (by decide)
  rw [Text.take_of_length_le (Nat.le_sub_one_of_lt short)] at stamped
  rw [channelMessageOf]
  generalize (stampChannelMessage (some node) packet).channelChannelName [] = name at stamped ⊢
  have shown : 0 < name.bytes.length := by
    refine List.length_pos_iff.mpr fun nothing => named (Text.ext ?_)
    rw [← stamped]
    exact (congrArg (List.take _) nothing).trans List.take_nil
  dsimp only
  rw [if_pos shown]
  exact stamped

/-- The name that a client reads in the copy of a direct message is that of the friend with the id
in the copy. -/
theorem dmMessageOf_sender {index : Fin maxFriends} {database : Database} {user : UserRow}
    (named : RightlyNamed database (ui.friends.slot index)) (known : user ∈ database.users)
    (short : user.username.bytes.length < maxNameLen) (own : packet.senderId = user.id)
    (found : (ui.friends.slot index).id = user.id) :
    (dmMessageOf packet ui (ui.friends.slot index)).sender = user.username := by
  rw [dmMessageOf]
  dsimp only
  rw [if_pos (own.trans found.symm), ← named.2 user known found.symm]
  exact Text.take_of_length_le (Nat.le_sub_one_of_lt short)

end Speakers

/-! ### Copies -/

/-- Every copy of the packet has the id of the user. -/
def SpeaksAs (env : Env) (index : Nat) (packet : TizcordPacket) (process : Process)
    (user : UserRow) : Prop :=
  ∀ fd copy, Sends env index packet process fd copy → copy.senderId = user.id

/-- Every client that files a message for a copy of the packet files it under the name of the user.
For direct messages the client has to know its friends. -/
def ShownAs (env : Env) (index : Nat) (packet : TizcordPacket) (process : Process)
    (user : UserRow) : Prop :=
  ∀ fd copy, Sends env index packet process fd copy →
    ∀ now ui view filed, Appends now copy ui view filed →
      (∀ friend, view = .friend friend → KnowsFriends process.ctx fd ui) →
        filed.sender = user.username

section Copies

variable {env : Env} {process : Process} {index : Nat} {packet copy : TizcordPacket}
  {user : UserRow} {fd : Int}

theorem senderId_channelMessage (known : user ∈ process.ctx.db.users)
    (own : user.id = (process.clientAt index).id) :
    (stampChannelMessage (some (process.clientAt index)) packet).senderId = user.id := by
  have id : (user.id : Int) ∈ process.ctx.db.userIds := List.mem_map.mpr ⟨user, known, rfl⟩
  rw [stampChannelMessage_senderId]
  exact (congrArg _ own.symm).trans (signed_userId id)

theorem senderId_directMessage (known : user ∈ process.ctx.db.users)
    (own : user.id = (process.clientAt index).id) :
    (stampDirectMessage (some (process.clientAt index)) packet).senderId = user.id := by
  have id : (user.id : Int) ∈ process.ctx.db.userIds := List.mem_map.mpr ⟨user, known, rfl⟩
  rw [stampDirectMessage_senderId]
  exact (congrArg _ own.symm).trans (signed_userId id)

/-- A copy of a message is the packet, stamped by the sender. -/
theorem copy_stamped (distinct : process.ctx.fds.Nodup)
    (inside : index < process.ctx.clients.length)
    (sent : Sends env index packet process fd copy) :
    (packet.request = some (.channel .message) →
      copy = stampChannelMessage (some (process.clientAt index)) packet) ∧
    (packet.request = some (.dm .message) →
      copy = stampDirectMessage (some (process.clientAt index)) packet) := by
  have own := senderNode_own distinct inside
  constructor
  · intro asked
    have same := copy_of_channelMessage asked sent
    rwa [Process.clientAt, own] at same
  · intro asked
    obtain ⟨same, -⟩ := copy_of_directMessage asked sent
    rwa [Process.clientAt, own] at same

theorem speaksAs_message (distinct : process.ctx.fds.Nodup)
    (inside : index < process.ctx.clients.length) (message : IsMessage packet)
    (known : user ∈ process.ctx.db.users) (own : user.id = (process.clientAt index).id) :
    SpeaksAs env index packet process user := by
  intro fd copy sent
  have stamped := copy_stamped distinct inside sent
  rcases message with asked | asked
  · rw [stamped.1 asked]
    exact senderId_channelMessage known own
  · rw [stamped.2 asked]
    exact senderId_directMessage known own

theorem shownAs_channelMessage (distinct : process.ctx.fds.Nodup)
    (inside : index < process.ctx.clients.length)
    (asked : packet.request = some (.channel .message))
    (called : (process.clientAt index).username.text = user.username)
    (named : user.username ≠ Text.empty) (short : user.username.bytes.length < maxNameLen) :
    ShownAs env index packet process user := by
  intro fd copy sent now ui view filed appends _
  obtain rfl := (copy_stamped distinct inside sent).1 asked
  have copied : (stampChannelMessage (some (process.clientAt index)) packet).request =
      some (.channel .message) := stampChannelMessage_request _ _ asked
  obtain ⟨place, rfl⟩ := appends.filed (Or.inl copied)
  rw [messageView, copied, messageViewOf] at place
  obtain ⟨_, -, rfl⟩ := Option.map_eq_some_iff.mp place
  rw [← called] at named short ⊢
  exact channelMessageOf_stamped _ packet named short

theorem shownAs_directMessage (distinct : process.ctx.fds.Nodup) (valid : process.ctx.Valid)
    (inside : index < process.ctx.clients.length)
    (asked : packet.request = some (.dm .message)) (known : user ∈ process.ctx.db.users)
    (own : user.id = (process.clientAt index).id)
    (short : user.username.bytes.length < maxNameLen) :
    ShownAs env index packet process user := by
  intro fd copy sent now ui view filed appends knows
  obtain ⟨-, recipient, found, target⟩ := copy_of_directMessage asked sent
  obtain rfl := (copy_stamped distinct inside sent).2 asked
  have copied : (stampDirectMessage (some (process.clientAt index)) packet).request =
      some (.dm .message) := stampDirectMessage_request _ _ asked
  have sender : (stampDirectMessage (some (process.clientAt index)) packet).senderId = user.id :=
    senderId_directMessage known own
  obtain ⟨place, rfl⟩ := appends.filed (Or.inr copied)
  rw [messageView, copied, messageViewOf] at place
  obtain ⟨friend, first, rfl⟩ := Option.map_eq_some_iff.mp place
  obtain ⟨named, others⟩ := knows friend rfl
  obtain ⟨used, matches'⟩ := SlotArray.find?_eq_some first
  have listed : ui.friends.slot friend ∈ ui.friends.entries :=
    SlotArray.mem_entries.mpr ⟨friend, used, rfl⟩
  refine dmMessageOf_sender (named _ listed) known short sender ?_
  rw [Bool.or_eq_true, decide_eq_true_eq, decide_eq_true_eq, sender,
    (stampDirectMessage_same packet [] _).2.1] at matches'
  -- The friend is not the recipient: that is the own user of the client, or nobody.
  refine matches'.resolve_right fun is => ?_
  have receives := List.find?_some found
  rw [Bool.and_eq_true, decide_eq_true_eq, decide_eq_true_eq] at receives
  have member := List.mem_of_find?_eq_some found
  cases authenticated : recipient.isAuthenticated with
  | true =>
    exact others recipient.id ⟨recipient, member, target, authenticated, rfl⟩ _ listed
      (is.trans receives.2.symm)
  | false =>
    have nobody := ((valid recipient member).stranger authenticated).1
    have positive := (named _ listed).1
    rw [is, ← receives.2, nobody] at positive
    exact absurd positive (lt_irrefl 0)

end Copies

/-! ### Main theorem -/

/-- In every run, every copy of a message packet of an authenticated connection has the id of the
user of the connection, and is shown under the name of this user, as long as the name is not empty
and fits into a name field. -/
theorem nobody_forges (env : Env) (serverFd : Int) {loop : Loop} {readSet : Finset Int}
    {index : Nat} {packet : TizcordPacket} (message : IsMessage packet)
    (handled : Handled env (fun _ _ _ => True) serverFd loop readSet index packet)
    (authenticated :
      ((receiveClient index loop).1.process.clientAt index).isAuthenticated = true) :
    ∃ user ∈ (receiveClient index loop).1.process.ctx.db.users,
      user.id = ((receiveClient index loop).1.process.clientAt index).id ∧
        SpeaksAs env index packet (receiveClient index loop).1.process user ∧
        (user.username ≠ Text.empty → user.username.bytes.length < maxNameLen →
          ShownAs env index packet (receiveClient index loop).1.process user) := by
  have received : (receiveClient index loop).1.Consistent :=
    receiveClient_consistent handled.reachable.consistent
  have inside : index < (receiveClient index loop).1.process.ctx.clients.length := by
    rw [receiveClient_length]
    exact handled.inside
  have named := handled.namedIn
  generalize (receiveClient index loop).1 = loop at received inside named authenticated ⊢
  obtain ⟨user, known, own⟩ := List.mem_map.mp
    ((received.valid _ (clientAt_mem_of_lt inside)).user authenticated)
  refine ⟨user, known, own, speaksAs_message received.distinct inside message known own,
    fun nonempty short => ?_⟩
  have called : (loop.process.clientAt index).username.text = user.username :=
    (named user known own).trans (Text.take_of_length_le (Nat.le_sub_one_of_lt short))
  rcases message with asked | asked
  · exact shownAs_channelMessage received.distinct inside asked called nonempty short
  · exact shownAs_directMessage received.distinct received.valid inside asked known own short

/-- The loop of the server after two users have registered, with the names `a` and `b`, when the
first one writes to the second in the name of the second. -/
def forgingLoop : Loop :=
  runServer Env.ideal 3 (pairEvents [(directPacket .message 2).setSenderId 2] [] [4, 5])

/-- The second user gets the message, as one of the first. -/
theorem nobody_forges_pair : ∃ packet copy, packet.senderId = 2 ∧
    Sends Env.ideal 0 packet (receiveClient 0 forgingLoop).1.process 5 copy ∧
    copy.senderId = 1 ∧
    ∀ now ui view filed, Appends now copy ui view filed →
      (∀ friend, view = .friend friend →
        KnowsFriends (receiveClient 0 forgingLoop).1.process.ctx 5 ui) →
        filed.sender = Text.letterA := by
  obtain ⟨packet, handled, holds⟩ := runServer_handled (fun _ _ _ => true)
    (fun _ _ _ _ => trivial)
    (pairEvents [(directPacket .message 2).setSenderId 2] [] [4, 5])
    (Finset.mem_singleton_self 4) (by decide +kernel)
    (by decide +kernel) (by decide +kernel) (fun packet =>
      packet.request = some (.dm .message) && (packet.senderId = 2 && packet.dmRecipientId = 2))
    (by decide +kernel)
  rw [Bool.and_eq_true, Bool.and_eq_true, decide_eq_true_eq, decide_eq_true_eq,
    decide_eq_true_eq] at holds
  rw [← forgingLoop] at handled
  obtain ⟨asked, forged, recipient⟩ := holds
  have state : ((receiveClient 0 forgingLoop).1.process.clientAt 0).isAuthenticated = true ∧
      ((receiveClient 0 forgingLoop).1.process.clientAt 0).id = 1 ∧
      (∀ user ∈ (receiveClient 0 forgingLoop).1.process.ctx.db.users, (user.id : Int) = 1 →
        user.username = Text.letterA) ∧
      (recipientNode (receiveClient 0 forgingLoop).1.process.ctx 2).map ClientNode.socketFd =
        some 5 := by decide +kernel
  generalize forgingLoop = loop at handled state ⊢
  obtain ⟨authenticated, id, names, receives⟩ := state
  obtain ⟨user, known, own, speaks, shown⟩ :=
    nobody_forges Env.ideal 3 (Or.inr asked) handled authenticated
  have name := names user known (own.trans id)
  have received : (receiveClient 0 loop).1.Consistent :=
    receiveClient_consistent handled.reachable.consistent
  obtain ⟨status, forwards, gain, forwarded, -⟩ :=
    @handlingGain_directMessage Env.ideal 0 packet _ asked received.distinct (by
      rw [receiveClient_length]
      exact handled.inside)
  rw [recipient] at forwarded
  obtain ⟨node, found, there⟩ := Option.map_eq_some_iff.mp receives
  rcases forwarded with ⟨none', -⟩ | ⟨target, sent, reader, found', rfl⟩
  · rw [found] at none'
    cases none'
  · obtain rfl := Option.some.inj (found.symm.trans found')
    rw [there] at gain
    have sends : Sends Env.ideal 0 packet (receiveClient 0 loop).1.process 5
        (stampDirectMessage (some ((receiveClient 0 loop).1.process.clientAt 0)) packet) := by
      refine ⟨sent, reader, ?_⟩
      rw [← handlingGain, gain]
      exact List.mem_cons_of_mem _ (List.mem_cons_of_mem _ List.mem_cons_self)
    refine ⟨packet, _, forged, sends, ?_, fun now ui view filed appends knows => ?_⟩
    · rw [speaks 5 _ sends, own, id]
    · rw [← name]
      exact shown (by rw [name]; decide) (by rw [name]; decide) 5 _ sends now ui view filed appends
        knows

end Tizcord
