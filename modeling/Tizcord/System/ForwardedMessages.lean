/-
This file follows a message from its sender through the server into another
client: which fields of the packet reach the receiver as the sender wrote them,
and what they can do there.
-/

import Tizcord.Client.Views
import Tizcord.Server.Copies
import Tizcord.Server.Privacy

namespace Tizcord

open CModel

/-! ### What a message can do to a view -/

/-- A copy is a message, and has the frame mark that its sender wrote. -/
theorem copy_of_message {env : Env} {index : Nat} {packet copy : TizcordPacket} {process : Process}
    {fd : Int} (message : IsMessage packet) (sent : Sends env index packet process fd copy) :
    IsMessage copy ∧ copy.listFrame = packet.listFrame := by
  rcases message with asked | asked
  · rw [copy_of_channelMessage asked sent]
    exact ⟨Or.inl (stampChannelMessage_request _ _ asked), stampChannelMessage_frame _ _⟩
  · rw [(copy_of_directMessage asked sent).1]
    exact ⟨Or.inr (stampDirectMessage_request _ _ asked), stampDirectMessage_frame _ _⟩

/-- A forwarded message only adds to the views of its receiver exactly when its sender has not
marked it as the start of a stream, or there is no message to lose where it is filed. -/
theorem forwarded_onlyAdds_iff (env : Env) (index : Nat) (packet copy : TizcordPacket)
    (process : Process) (fd : Int) (message : IsMessage packet)
    (sent : Sends env index packet process fd copy) (now : Int) (ui : Ui) :
    (∃ after, processNetworkPacket now copy ui = .ok after ∧ OnlyAdds ui after) ↔
      packet.listFrame ≠ ListFrameType.start.code ∨
        ∀ view, messageView copy ui = some view → (ui.view view).count = 0 := by
  obtain ⟨messageToo, frame⟩ := copy_of_message message sent
  rw [message_onlyAdds_iff messageToo, frame]

/-- The two connections after a user with the name `a` has registered on the first. -/
def registeredProcess : Process :=
  (runServer Env.ideal 3 registeredEvents).process

theorem sends_of_any {env : Env} {index : Nat} {packet : TizcordPacket} {process : Process}
    {fd : Int}
    (found : ((processClientPacket env index packet process).trace.drop process.trace.length).any
      (fun effect => match effect with
        | .sent target _ _ _ => target = fd
        | _ => false) = true) : ∃ copy, Sends env index packet process fd copy := by
  obtain ⟨effect, member, is⟩ := List.any_eq_true.mp found
  cases effect with
  | sent target copy status user =>
    obtain rfl := of_decide_eq_true is
    exact ⟨copy, status, user, member⟩
  | _ => cases is

theorem registered_forwards (frame : ListFrameType) :
    ∃ copy, Sends Env.ideal 0 (channelPacket frame) registeredProcess 5 copy := by
  cases frame <;> exact sends_of_any (by decide +kernel)

theorem channelPacket_isMessage (frame : ListFrameType) : IsMessage (channelPacket frame) := by
  cases frame <;> decide +kernel

/-- Whatever frame mark a channel message has, its copy is filed in the open channel. -/
theorem messageView_copy {frame : ListFrameType} {copy : TizcordPacket}
    (sent : Sends Env.ideal 0 (channelPacket frame) registeredProcess 5 copy) (ui : Ui) :
    messageView copy ui = messageView (channelPacket .start) ui := by
  have asked : ∀ frame, (channelPacket frame).request = some (.channel .message) := by
    intro frame
    cases frame <;> decide +kernel
  have copied : copy.request = some (.channel .message) := by
    rw [copy_of_channelMessage (asked frame) sent]
    exact stampChannelMessage_request _ _ (asked frame)
  rw [messageView, messageView, asked .start, copied]
  rfl

theorem forwarded_onlyAdds_opened :
    ∃ copy ui view after, messageView copy ui = some view ∧ (ui.view view).count = 1 ∧
      processNetworkPacket 0 copy ui = .ok after ∧ OnlyAdds ui after := by
  obtain ⟨copy, sent⟩ := registered_forwards .single
  obtain ⟨ui, -, target, filled⟩ := chatRounds_run
  obtain ⟨after, processed⟩ := (forwarded_onlyAdds_iff Env.ideal 0 (channelPacket .single) copy
    registeredProcess 5 (channelPacket_isMessage .single) sent 0 ui).mpr
      (Or.inl (by decide +kernel))
  exact ⟨copy, ui, .channel 0 0, after, (messageView_copy sent ui).trans target, filled,
    processed⟩

/-- A message marked as the start of a stream empties the view of its receiver. -/
theorem forged_start_empties :
    ¬ ∀ (env : Env) (index : Nat) (packet copy : TizcordPacket) (process : Process) (fd : Int),
      IsMessage packet → Sends env index packet process fd copy → ∀ (now : Int) (ui : Ui),
        ∃ after, processNetworkPacket now copy ui = .ok after ∧ OnlyAdds ui after := by
  intro claim
  obtain ⟨copy, sent⟩ := registered_forwards .start
  obtain ⟨ui, -, target, filled⟩ := chatRounds_run
  have message := channelPacket_isMessage .start
  obtain ⟨messageToo, frame⟩ := copy_of_message message sent
  have onlyAdds :=
    claim Env.ideal 0 (channelPacket .start) copy registeredProcess 5 message sent 0 ui
  rcases (message_onlyAdds_iff messageToo 0 ui).mp onlyAdds with other | empty
  · rw [frame] at other
    exact other (by decide +kernel)
  · have none' := empty _ ((messageView_copy sent ui).trans target)
    rw [filled] at none'
    exact absurd none' (by decide)

end Tizcord
