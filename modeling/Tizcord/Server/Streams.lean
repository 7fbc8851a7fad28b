/-
This file is about streams: what the server sends to one connection in one go,
packet by packet. A stream of rows is a packet for each row, in the order of the
rows, and what a client is told is what these packets carry.
-/

import Tizcord.Server.Origins

namespace Tizcord

open CModel

/-! ### Packets in a row -/

/-- The effects send these packets to a descriptor, in this order, and do nothing else. -/
def Delivers (fd : Int) (user : Option Int) (copies : List TizcordPacket)
    (effects : List Effect) : Prop :=
  List.Forall₂ (fun copy effect => ∃ status, effect = .sent fd copy status user) copies effects

/-- What sends packets in two groups first sends those of the first group. -/
theorem Delivers.split {fd : Int} {user : Option Int} {first second : List TizcordPacket}
    {effects : List Effect} (delivers : Delivers fd user (first ++ second) effects) :
    ∃ early late, effects = early ++ late ∧ Delivers fd user first early ∧
      Delivers fd user second late := by
  induction first generalizing effects with
  | nil => exact ⟨[], effects, rfl, .nil, delivers⟩
  | cons copy rest inductionHypothesis =>
    obtain ⟨effect, later, sent, delivered, rfl⟩ := List.forall₂_cons_left_iff.mp delivers
    obtain ⟨early, late, rfl, earlySent, lateSent⟩ := inductionHypothesis delivered
    exact ⟨effect :: early, late, rfl, .cons sent earlySent, lateSent⟩

/-- The process sends these packets to a descriptor, and does nothing else. -/
structure SendsList (fd : Int) (copies : List TizcordPacket) (before after : Process) : Prop where
  ctx : after.ctx = before.ctx
  gained : ∃ effects, after.trace = before.trace ++ effects ∧
    Delivers fd (before.ctx.userOf fd) copies effects

section Lists

variable {env : Env} {fd : Int} {before middle after : Process} {first second : List TizcordPacket}

theorem SendsList.idle (same : after.ctx = before.ctx) (logged : after.trace = before.trace) :
    SendsList fd [] before after where
  ctx := same
  gained := ⟨[], by rw [logged, List.append_nil], .nil⟩

theorem SendsList.trans (sent : SendsList fd first before middle)
    (then' : SendsList fd second middle after) : SendsList fd (first ++ second) before after where
  ctx := then'.ctx.trans sent.ctx
  gained := by
    obtain ⟨effects, logged, delivers⟩ := sent.gained
    obtain ⟨later, loggedLater, rest⟩ := then'.gained
    rw [sent.ctx] at rest
    exact ⟨effects ++ later, by rw [loggedLater, logged, List.append_assoc],
      List.rel_append delivers rest⟩

theorem sendsList_send (env : Env) (fd : Int) (process : Process) (packet : TizcordPacket) :
    SendsList fd [packet] process (process.send env fd packet) where
  ctx := rfl
  gained := ⟨_, rfl, .cons ⟨_, rfl⟩ .nil⟩

/-- What is gained where a handler sends a list of packets, and does nothing else. -/
theorem SendsList.handlingGain {index : Nat} {packet : TizcordPacket} {process : Process}
    (sent : SendsList fd first (process.log (.handling (process.clientAt index).socketFd packet
      (process.ctx.userOf (process.clientAt index).socketFd))) after)
    (handled : processClientPacket env index packet process = after) :
    ∃ effects, handlingGain env index packet process =
        .handling (process.clientAt index).socketFd packet
          (process.ctx.userOf (process.clientAt index).socketFd) :: effects ∧
      Delivers fd (process.ctx.userOf fd) first effects := by
  obtain ⟨effects, logged, delivers⟩ := sent.gained
  have whole := processClientPacket_trace env index packet process
  rw [handled, logged, Process.log, List.append_assoc] at whole
  exact ⟨effects, (List.append_cancel_left whole).symm, delivers⟩

/-- A loop that sends a packet for every row sends a stream of the rows. -/
theorem sendsList_foldl {Row : Type} {carries : Row → TizcordPacket → Prop}
    {cb : Process → Row × Nat → Process} {ctx : ServerContext}
    (sends : ∀ process row index, process.ctx = ctx →
      ∃ copy, carries row copy ∧ SendsList fd [copy] process (cb process (row, index)))
    (rows : List Row) (start : Nat) (process : Process) (is : process.ctx = ctx) :
    ∃ copies, List.Forall₂ carries rows copies ∧
      SendsList fd copies process ((rows.zipIdx start).foldl cb process) := by
  induction rows generalizing start process with
  | nil => exact ⟨[], .nil, .idle rfl rfl⟩
  | cons row rest inductionHypothesis =>
    obtain ⟨copy, carried, sent⟩ := sends process row start is
    obtain ⟨copies, each, sentRest⟩ := inductionHypothesis (start + 1) _ (sent.ctx.trans is)
    exact ⟨copy :: copies, .cons carried each, sent.trans sentRest⟩

/-- A stream of rows between two frames. -/
structure IsStream {Row : Type} (opens closes : TizcordPacket → Prop)
    (carries : Row → TizcordPacket → Prop) (rows : List Row) (copies : List TizcordPacket) :
    Prop where
  split : ∃ first items last, copies = first :: (items ++ [last]) ∧ opens first ∧
    List.Forall₂ carries rows items ∧ closes last

theorem sendsList_stream {Row : Type} {opens closes : TizcordPacket → Prop}
    {carries : Row → TizcordPacket → Prop} {cb : Process → Row × Nat → Process}
    {process : Process} {first : TizcordPacket} {rows : List Row} {last : Process → TizcordPacket}
    (opened : opens first)
    (sends : ∀ other row index, other.ctx = process.ctx →
      ∃ copy, carries row copy ∧ SendsList fd [copy] other (cb other (row, index)))
    (closed : ∀ other, closes (last other)) :
    ∃ copies, IsStream opens closes carries rows copies ∧
      SendsList fd copies process
        ((rows.zipIdx.foldl cb (process.send env fd first).tick).send env fd
          (last (rows.zipIdx.foldl cb (process.send env fd first).tick))) := by
  have frame := sendsList_send env fd process first
  obtain ⟨items, each, sent⟩ :=
    sendsList_foldl sends rows 0 (process.send env fd first).tick rfl
  generalize is : rows.zipIdx.foldl cb (process.send env fd first).tick = listed at sent ⊢
  refine ⟨first :: (items ++ [last listed]),
    ⟨first, items, last listed, rfl, opened, each, closed listed⟩, ?_⟩
  have started : SendsList fd [first] process (process.send env fd first).tick := ⟨rfl, frame.gained⟩
  exact started.trans (sent.trans (sendsList_send env fd _ _))

/-- Each of some nodes is sent a packet on its connection, in the order of the nodes. -/
def SendsEach (nodes : List ClientNode) (tells : TizcordPacket → Prop) (effects : List Effect) :
    Prop :=
  List.Forall₂ (fun node effect => ∃ answer status user, tells answer ∧
    effect = .sent node.socketFd answer status user) nodes effects

theorem SendsEach.exists_of_mem {nodes : List ClientNode} {tells : TizcordPacket → Prop}
    {effects : List Effect} (each : SendsEach nodes tells effects) {node : ClientNode}
    (member : node ∈ nodes) :
    ∃ answer status user, tells answer ∧ .sent node.socketFd answer status user ∈ effects := by
  obtain ⟨place, inside, rfl⟩ := List.getElem_of_mem member
  have insideToo : place < effects.length := each.length_eq ▸ inside
  obtain ⟨answer, status, user, told, is⟩ := (List.forall₂_iff_get.mp each).2 place inside insideToo
  exact ⟨answer, status, user, told, is ▸ List.getElem_mem insideToo⟩

theorem SendsEach.sent_of_mem {nodes : List ClientNode} {tells : TizcordPacket → Prop}
    {effects : List Effect} (each : SendsEach nodes tells effects) {effect : Effect}
    (member : effect ∈ effects) :
    ∃ fd answer status user, tells answer ∧ effect = .sent fd answer status user := by
  obtain ⟨place, inside, rfl⟩ := List.getElem_of_mem member
  have insideToo : place < nodes.length := each.length_eq.symm ▸ inside
  obtain ⟨answer, status, user, told, is⟩ := (List.forall₂_iff_get.mp each).2 place insideToo inside
  exact ⟨_, answer, status, user, told, is⟩

/-- A loop over the table whose body sends a packet to the nodes that are chosen sends these
packets, and does nothing else. -/
theorem forClients_sends {chosen : ClientNode → Bool} {tells : TizcordPacket → Prop}
    {body : Nat → ClientNode → Process → Process} (process : Process)
    (sends : ∀ index node other, other.ctx = process.ctx → chosen node = true →
      ∃ answer, tells answer ∧ body index node other = other.send env node.socketFd answer)
    (skips : ∀ index node other, chosen node = false → body index node other = other) :
    (process.forClients body).ctx = process.ctx ∧
      ∃ gain, (process.forClients body).trace = process.trace ++ gain ∧
        SendsEach (process.ctx.clients.filter chosen) tells gain := by
  have loop : ∀ (indices : List Nat) (other : Process), other.ctx = process.ctx →
      (indices.foldl (fun other index => body index (other.clientAt index) other) other).ctx =
          process.ctx ∧
        ∃ gain, (indices.foldl (fun other index =>
            body index (other.clientAt index) other) other).trace = other.trace ++ gain ∧
          SendsEach ((indices.map process.clientAt).filter chosen) tells gain := by
    intro indices
    induction indices with
    | nil => exact fun other same => ⟨same, [], (List.append_nil _).symm, .nil⟩
    | cons head rest inductionHypothesis =>
      intro other same
      have node : other.clientAt head = process.clientAt head := by
        rw [Process.clientAt, Process.clientAt, same]
      rw [List.foldl_cons, List.map_cons, List.filter_cons, node]
      cases is : chosen (process.clientAt head) with
      | true =>
        obtain ⟨answer, told, sent⟩ := sends head _ other same is
        obtain ⟨kept, gain, logged, later⟩ := inductionHypothesis
          (other.send env (process.clientAt head).socketFd answer) same
        rw [sent, if_pos rfl]
        exact ⟨kept, _ :: gain, logged.trans (List.append_assoc ..),
          .cons ⟨answer, _, _, told, rfl⟩ later⟩
      | false =>
        rw [skips head _ other is, if_neg Bool.false_ne_true]
        exact inductionHypothesis other same
  have all : (List.range process.ctx.clients.length).map process.clientAt =
      process.ctx.clients := by
    refine List.ext_getElem (by simp) fun place bound inside => ?_
    rw [List.getElem_map, List.getElem_range, Process.clientAt, clientAt_eq_getElem inside]
  rw [← all]
  exact loop (List.range process.ctx.clients.length) process rfl

end Lists

/-! ### The history of a channel -/

/-- The packet is a frame of a stream. -/
def IsFrame (frame : ListFrameType) (packet : TizcordPacket) : Prop :=
  packet.listFrame = frame.code

/-- The packet shows a row of the history of a channel: the id of the channel, the name of the
author and the text, each cut to the size of its field. -/
structure CarriesMessage (channelId : Int) (row : MessageListRow) (packet : TizcordPacket) :
    Prop where
  frame : IsFrame .middle packet
  channel : packet.channelChannelId = signed 64 channelId
  author : ∀ beyond, packet.channelChannelName beyond = row.username.take (maxNameLen - 1)
  text : ∀ beyond, packet.channelMessage beyond = row.content.take (messageLen - 1)

theorem messageHistoryCb_sends (env : Env) (fd channelId : Int) (process : Process)
    (row : MessageListRow) (index : Nat) :
    ∃ copy, CarriesMessage channelId row copy ∧
      SendsList fd [copy] process (messageHistoryCb env fd channelId process (row, index)) := by
  rw [messageHistoryCb]
  refine ⟨_, ⟨?_, ?_, fun beyond => ?_, fun beyond => ?_⟩, sendsList_send env fd process _⟩
  · rw [IsFrame]
    simp (disch := decide) [TizcordPacket.listFrame, TizcordPacket.setListFrame,
      TizcordPacket.setChannelChannelId, TizcordPacket.setChannelMessageId,
      TizcordPacket.setTimestamp, TizcordPacket.strncpyChannelChannelName,
      TizcordPacket.strncpyChannelMessage, signed_frame]
  · simp (disch := decide) [TizcordPacket.channelChannelId, TizcordPacket.setChannelChannelId,
      TizcordPacket.setChannelMessageId, TizcordPacket.setTimestamp,
      TizcordPacket.strncpyChannelChannelName, TizcordPacket.strncpyChannelMessage]
  · refine Image.text_of_slice _ beyond (by decide) ?_
    rw [TizcordPacket.strncpyChannelMessage, Image.slice_strncpy_disjoint _ _ _ _ _ _ (by decide)]
    refine Image.slice_strncpy_same _ _ _ _ (by decide) ?_
    simp (disch := decide) [Process.basePacket, createBasePacket, TizcordPacket.setType,
      TizcordPacket.setTimestamp, TizcordPacket.setChannelAction, TizcordPacket.setListId,
      TizcordPacket.setListIndex, TizcordPacket.setListFrame, TizcordPacket.setChannelChannelId,
      TizcordPacket.setChannelMessageId]
  · refine Image.text_of_slice _ beyond (by decide)
      (Image.slice_strncpy_same _ _ _ _ (by decide) ?_)
    simp (disch := decide) [Process.basePacket, createBasePacket, TizcordPacket.setType,
      TizcordPacket.setTimestamp, TizcordPacket.setChannelAction, TizcordPacket.setListId,
      TizcordPacket.setListIndex, TizcordPacket.setListFrame, TizcordPacket.setChannelChannelId,
      TizcordPacket.setChannelMessageId, TizcordPacket.strncpyChannelChannelName]

/-- The history of a channel is sent as a stream of its rows. -/
theorem channelHistory_sends (env : Env) (packet : TizcordPacket) (fd : Int) (process : Process) :
    ∃ copies, IsStream (IsFrame .start) (IsFrame .end) (CarriesMessage packet.channelChannelId)
        (dbListChannelMessages (env.db (process.clock + 1)) process.ctx.db
          packet.channelChannelId).1 copies ∧
      SendsList fd copies process (channelHistory env packet fd process) := by
  unfold channelHistory
  dsimp only
  generalize packet.channelChannelId = channelId
  have opened : IsFrame .start (channelFramePacket env process channelId .start) :=
    listFrame_channelFramePacket ..
  have closed : ∀ other, IsFrame .end (channelFramePacket env other channelId .end) :=
    fun other => listFrame_channelFramePacket ..
  exact sendsList_stream opened
    (fun other row index _ => messageHistoryCb_sends env fd channelId other row index) closed

end Tizcord
