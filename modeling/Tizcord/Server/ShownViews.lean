/-
This file is about what connections have been shown: a view that is read, packet by
packet, from all that was sent on a connection. What is said about it holds whatever
the view was at first, so it is the packets alone that decide it.
-/

import Tizcord.Server.AuthChanges
import Tizcord.Server.SentPackets

namespace Tizcord

open CModel

/-- What was sent on the connection after some effects, read in order, leaves a reader with a good
view, whatever it began with. -/
def Process.Shown {View : Type} (process : Process) (read : View → TizcordPacket → View)
    (past : List Effect) (good : View → Prop) (fd : Int) : Prop :=
  ∃ later, process.trace = past ++ later ∧ ∀ view, good ((heardOn fd later).foldl read view)

section Shown

variable {View : Type} {read : View → TizcordPacket → View} {past : List Effect}
  {before after process : Process} {good start : View → Prop} {fd : Int}
  {copies : List TizcordPacket} {topics : List Topic}

theorem Process.Shown.weaken (shown : process.Shown read past start fd)
    (weaker : ∀ view, start view → good view) : process.Shown read past good fd := by
  obtain ⟨later, logged, reads⟩ := shown
  exact ⟨later, logged, fun view => weaker _ (reads view)⟩

/-- Anything has been shown a view. -/
theorem Process.shown_any (since : past <+: process.trace) :
    process.Shown read past (fun _ => True) fd := by
  obtain ⟨later, logged⟩ := since
  exact ⟨later, logged.symm, fun _ => trivial⟩

/-- Packets that each leave a view alone leave it alone. -/
theorem foldl_of_ignored {packets : List TizcordPacket} {view : View}
    (ignored : ∀ packet ∈ packets, ∀ view, read view packet = view) :
    packets.foldl read view = view := by
  induction packets with
  | nil => rfl
  | cons packet rest inductionHypothesis =>
    obtain ⟨first, later⟩ := List.forall_mem_cons.mp ignored
    rw [List.foldl_cons, first, inductionHypothesis later]

/-- Packets about topics that are not read leave what was shown. -/
theorem Process.Shown.of_emits (shown : before.Shown read past good fd)
    (emits : Emits topics before after)
    (other : ∀ packet : TizcordPacket, (∀ topic, packet.topic = some topic → topic ∈ topics) →
      ∀ view, read view packet = view) : after.Shown read past good fd := by
  obtain ⟨later, logged, reads⟩ := shown
  obtain ⟨effects, grown, told⟩ := emits.gained_told
  obtain ⟨packets, heard, about⟩ := told (fun _ => false) fd later
  refine ⟨later ++ effects, by rw [grown, logged, List.append_assoc], fun view => ?_⟩
  rw [heardOn, heard, List.foldl_append,
    foldl_of_ignored fun packet member => other packet (about packet member)]
  exact reads view

theorem Process.Shown.elsewhere {target : Int} (shown : before.Shown read past good fd)
    (sent : SendsList target copies before after) (other : target ≠ fd) :
    after.Shown read past good fd := by
  obtain ⟨later, logged, reads⟩ := shown
  obtain ⟨effects, grown, delivers⟩ := sent.gained
  refine ⟨later ++ effects, by rw [grown, logged, List.append_assoc], fun view => ?_⟩
  rw [heardOn, toldSince_of_delivers delivers, if_neg other, List.append_nil]
  exact reads view

/-- A connection that is sent a list is shown what is read from it. -/
theorem Process.Shown.told (shown : before.Shown read past start fd)
    (sent : SendsList fd copies before after)
    (reads : ∀ view, start view → good (copies.foldl read view)) :
    after.Shown read past good fd := by
  obtain ⟨later, logged, started⟩ := shown
  obtain ⟨effects, grown, delivers⟩ := sent.gained
  refine ⟨later ++ effects, by rw [grown, logged, List.append_assoc], fun view => ?_⟩
  rw [heardOn, toldSince_of_delivers delivers, if_pos rfl, List.foldl_append]
  exact reads _ (started view)

/-- The note that a packet is handled tells nothing. -/
theorem Process.Shown.begun (shown : process.Shown read past good fd) (index : Nat)
    (packet : TizcordPacket) : (process.begun index packet).Shown read past good fd := by
  obtain ⟨later, logged, reads⟩ := shown
  refine ⟨later ++ [_], (congrArg (· ++ [_]) logged).trans (List.append_assoc ..), fun view => ?_⟩
  rw [heardOn_handling]
  exact reads view

/-- A new connection takes nothing from what others have been shown. -/
theorem Loop.shown_accepted {loop : Loop} {target : Int}
    (shown : loop.process.Shown read past good fd) (socket : Socket) (other : target ≠ fd) :
    (loop.accepted target socket).process.Shown read past good fd := by
  obtain ⟨later, logged, reads⟩ := shown
  refine ⟨later ++ [_], (congrArg (· ++ [_]) logged).trans (List.append_assoc ..), fun view => ?_⟩
  rw [heardOn, toldSince_accepted other]
  exact reads view

/-- A loop that sends the connections of chosen nodes lists that are read as good views, and does
nothing at the others, leaves all chosen ones with good views. Which views are good depends on the
connection. -/
theorem forClients_shown {body : Nat → ClientNode → Process → Process}
    {good start : Int → View → Prop} (chosen : ClientNode → Prop) (process : Process)
    (sends : ∀ index (other : Process), other.ctx = process.ctx →
      chosen (process.clientAt index) → ∃ copies,
        SendsList (process.clientAt index).socketFd copies other
          (body index (process.clientAt index) other) ∧
        ∀ view, start (process.clientAt index).socketFd view →
          good (process.clientAt index).socketFd (copies.foldl read view))
    (skips : ∀ index (other : Process), ¬ chosen (process.clientAt index) →
      body index (process.clientAt index) other = other)
    (weaker : ∀ fd view, good fd view → start fd view) :
    (process.forClients body).ctx = process.ctx ∧
      ∀ fd, process.Shown read past (start fd) fd →
        (process.Shown read past (good fd) fd ∨
          ∃ node ∈ process.ctx.clients, node.socketFd = fd ∧ chosen node) →
        (process.forClients body).Shown read past (good fd) fd := by
  -- what one pass of the loop does to what a connection has been shown
  have pass : ∀ index (other : Process), other.ctx = process.ctx →
      (body index (other.clientAt index) other).ctx = process.ctx ∧
        ∀ fd, other.Shown read past (start fd) fd →
          (body index (other.clientAt index) other).Shown read past (start fd) fd ∧
          (other.Shown read past (good fd) fd ∨
              (process.clientAt index).socketFd = fd ∧ chosen (process.clientAt index) →
            (body index (other.clientAt index) other).Shown read past (good fd) fd) := by
    intro index other same
    have node : other.clientAt index = process.clientAt index := by
      rw [Process.clientAt, Process.clientAt, same]
    rw [node]
    by_cases chosen' : chosen (process.clientAt index)
    · obtain ⟨copies, sent, reads⟩ := sends index other same chosen'
      refine ⟨sent.ctx.trans same, fun fd shown => ?_⟩
      by_cases own : (process.clientAt index).socketFd = fd
      · subst own
        have told := shown.told sent reads
        exact ⟨told.weaken (weaker _), fun _ => told⟩
      · refine ⟨shown.elsewhere sent own, ?_⟩
        rintro (told | ⟨here, -⟩)
        · exact told.elsewhere sent own
        · exact absurd here own
    · rw [skips index other chosen']
      refine ⟨same, fun fd shown => ⟨shown, ?_⟩⟩
      rintro (told | ⟨-, here⟩)
      · exact told
      · exact absurd here chosen'
  have loop : ∀ (indices : List Nat) (other : Process), other.ctx = process.ctx →
      (indices.foldl (fun other index => body index (other.clientAt index) other) other).ctx =
          process.ctx ∧
        ∀ fd, other.Shown read past (start fd) fd →
          (other.Shown read past (good fd) fd ∨ ∃ index ∈ indices,
              (process.clientAt index).socketFd = fd ∧ chosen (process.clientAt index)) →
            (indices.foldl (fun other index => body index (other.clientAt index) other)
              other).Shown read past (good fd) fd := by
    intro indices
    induction indices with
    | nil =>
      refine fun other same => ⟨same, fun fd _ told => ?_⟩
      rcases told with told | ⟨_, member, -⟩
      · exact told
      · exact absurd member List.not_mem_nil
    | cons head rest inductionHypothesis =>
      intro other same
      obtain ⟨kept, passed⟩ := pass head other same
      obtain ⟨ctx, later⟩ := inductionHypothesis _ kept
      refine ⟨ctx, fun fd shown told => ?_⟩
      obtain ⟨still, reached⟩ := passed fd shown
      refine later fd still ?_
      rcases told with told | ⟨index, member, here⟩
      · exact Or.inl (reached (Or.inl told))
      · rcases List.mem_cons.mp member with rfl | behind
        · exact Or.inl (reached (Or.inr here))
        · exact Or.inr ⟨index, behind, here⟩
  obtain ⟨ctx, told⟩ := loop (List.range process.ctx.clients.length) process rfl
  refine ⟨ctx, fun fd shown either => told fd shown (either.imp_right ?_)⟩
  rintro ⟨node, present, own, here⟩
  obtain ⟨index, inside, rfl⟩ := List.getElem_of_mem present
  refine ⟨index, List.mem_range.mpr inside, ?_⟩
  rw [Process.clientAt, clientAt_eq_getElem inside]
  exact ⟨own, here⟩

end Shown

theorem rejected_emits (process : Process) (fd : Int) :
    Emits [] process (process.log (.rejected fd)) :=
  .single (rfl : _ = process.trace ++ [_]) trivial

theorem receiveClient_emits (index : Nat) (loop : Loop) :
    Emits [] loop.process (receiveClient index loop).1.process :=
  .single (rfl : _ = loop.process.trace ++ [_]) trivial

end Tizcord
