/-
This file follows a status from the command line of one client through the server
into the lists of all others. The limit of 64 bytes is checked in five places; as
they agree, every place behind the first passes the status on as it is.
-/

import Tizcord.Client.Views
import Tizcord.Server.Broadcasts
import Tizcord.Server.Multiplexing
import Tizcord.System.StatusCommand

namespace Tizcord

open CModel

/-! ### The last update -/

/-- The last update of the status of a user that went through is this one. -/
def HasStatus (trace : List Effect) (userId : Int) (statusText : Text) : Prop :=
  Since (fun _ effect => effect = .called (.updateUserStatus userId statusText 0))
    (fun _ effect => ∃ newText, effect = .called (.updateUserStatus userId newText 0)) trace

section Updates

variable {env : Env} {allowed : ServerContext → Int → TizcordPacket → Prop} {serverFd : Int}
  {machine : Machine} {trace : List Effect} {userId : Int} {statusText : Text} {index : Nat}
  {packet : TizcordPacket} {process : Process}

theorem recordedStatus_of_has (has : HasStatus trace userId statusText) :
    recordedStatus userId trace = statusText := by
  induction trace using List.reverseRecOn with
  | nil => exact absurd has not_since_nil
  | append_singleton trace effect inductionHypothesis =>
    rw [recordedStatus_append_singleton]
    rcases since_append_singleton.mp has with rfl | ⟨earlier, other⟩
    · exact if_pos ⟨rfl, rfl⟩
    · rw [inductionHypothesis earlier]
      cases effect with
      | called call =>
        cases call with
        | updateUserStatus id newText status =>
          refine if_neg ?_
          rintro ⟨rfl, rfl⟩
          exact other ⟨newText, rfl⟩
        | _ => rfl
      | _ => rfl

/-- A status the server takes is the last one on record. -/
theorem TakesStatus.has (taken : TakesStatus env index packet process statusText) :
    HasStatus (processClientPacket env index packet process).trace (process.clientAt index).id
      statusText := by
  obtain ⟨pushes, gained, each⟩ := taken.told
  have logged := processClientPacket_trace env index packet process
  rw [gained, List.append_cons] at logged
  refine ⟨_, _, pushes, logged, rfl, ?_⟩
  rintro middle later rest rfl ⟨newText, rfl⟩
  obtain ⟨fd, copy, status, user, -, is⟩ :=
    each.sent_of_mem (List.mem_append_right _ List.mem_cons_self)
  exact Effect.noConfusion is

end Updates

/-! ### Handled updates -/

section Requests

variable {env : Env} {allowed : ServerContext → Int → TizcordPacket → Prop} {serverFd : Int}
  {loop : Loop} {readSet : Finset Int} {index : Nat} {packet : TizcordPacket}

/-- A packet that is handled for a session of a user, is handled for a user in the tables. -/
theorem Handled.session (handled : Handled env allowed serverFd loop readSet index packet)
    (authenticated : (loop.process.clientAt index).isAuthenticated = true) :
    ((receiveClient index loop).1.process.clientAt index).isAuthenticated = true ∧
      ((receiveClient index loop).1.process.clientAt index).id =
        (loop.process.clientAt index).id ∧
      ((receiveClient index loop).1.process.clientAt index).id ∈
        (receiveClient index loop).1.process.ctx.db.userIds := by
  have same := receiveClient_clientAt handled.inside
  have signedIn : ((receiveClient index loop).1.process.clientAt index).isAuthenticated = true :=
    (congrArg Identity.isAuthenticated same).trans authenticated
  have inside : index < (receiveClient index loop).1.process.ctx.clients.length :=
    (receiveClient_length index loop).symm ▸ handled.inside
  exact ⟨signedIn, congrArg Identity.id same,
    (receiveClient_valid handled.reachable.consistent.valid _ (clientAt_mem_of_lt inside)).user
      signedIn⟩

theorem Handled.takes_iff (handled : Handled env allowed serverFd loop readSet index packet)
    (reliable : env.Reliable)
    (authenticated : (loop.process.clientAt index).isAuthenticated = true)
    (asked : packet.request = some (.social .updateStatus)) :
    (TakesStatus env index packet (receiveClient index loop).1.process
        (cString packet.socialTargetStatusField) ↔
      1 ≤ statusLength packet ∧ statusLength packet ≤ profileStatusLen) ∧
    (¬ (1 ≤ statusLength packet ∧ statusLength packet ≤ profileStatusLen) →
      RefusesStatus env index packet (receiveClient index loop).1.process) := by
  obtain ⟨signedIn, -, known⟩ := handled.session authenticated
  exact takesStatus_iff reliable signedIn known asked

/-- What a client has sent for a line, the server takes. -/
theorem Handled.takes_submitted {now : Int} {ui : Ui} {rest : Text}
    (handled : Handled env allowed serverFd loop readSet index packet) (reliable : env.Reliable)
    (authenticated : (loop.process.clientAt index).isAuthenticated = true)
    (submits : ui.Submits now (setStatusText.append rest) packet) :
    TakesStatus env index packet (receiveClient index loop).1.process (trimmed rest) := by
  obtain ⟨⟨-, fits⟩, -, same⟩ := (submits_setStatus_iff submits.shown submits.line).mp submits
  obtain ⟨asked, carried⟩ := sendStatusUpdate_carries now fits.2
  rw [same] at asked carried
  have taken := (handled.takes_iff reliable authenticated asked).1
  rw [statusLength, carried] at taken
  exact taken.mpr fits

end Requests

/-! ### Main theorem -/

/-- A status survives the whole path. A line with `/setstatus` is sent exactly when the command
stands alone or has a space behind it, and its text, without the spaces on both sides, has 1 to 64
bytes; what is sent the server takes, so that it is the last update on record. Of any status packet
from a signed-in connection the server takes the text exactly when the field has 1 to 64 bytes
before its first zero byte, and refuses the packet otherwise. As long as an update is the last one
on record, the tables and all rows of the lists of users show its text; and so does every client
that lists the user when it has processed the packet that tells of the update. -/
theorem status_survives {env : Env} (reliable : env.Reliable)
    (allowed : ServerContext → Int → TizcordPacket → Prop) (serverFd : Int) :
    (∀ (now : Int) (ui : Ui) (rest : Text), ui.currentScreen = .command → ui.connected = true →
      ui.cmdInput.text = setStatusText.append rest →
      ((∃ packet, ui.Submits now (setStatusText.append rest) packet) ↔
        IsStatusArgument rest ∧ 1 ≤ (trimmed rest).bytes.length ∧
          (trimmed rest).bytes.length ≤ profileStatusLen)) ∧
    (∀ (now : Int) (ui : Ui) (rest : Text) (packet : TizcordPacket),
      ui.Submits now (setStatusText.append rest) packet →
      ∀ loop readSet index, Handled env allowed serverFd loop readSet index packet →
        (loop.process.clientAt index).isAuthenticated = true →
        TakesStatus env index packet (receiveClient index loop).1.process (trimmed rest) ∧
          HasStatus (serviceClient env readSet index loop).1.process.trace
            (loop.process.clientAt index).id (trimmed rest)) ∧
    (∀ loop readSet index packet, Handled env allowed serverFd loop readSet index packet →
      (loop.process.clientAt index).isAuthenticated = true →
      packet.request = some (.social .updateStatus) →
      (TakesStatus env index packet (receiveClient index loop).1.process
          (cString packet.socialTargetStatusField) ↔
        1 ≤ statusLength packet ∧ statusLength packet ≤ profileStatusLen) ∧
      (¬ (1 ≤ statusLength packet ∧ statusLength packet ≤ profileStatusLen) →
        RefusesStatus env index packet (receiveClient index loop).1.process)) ∧
    (∀ machine, ReachableWhen env allowed serverFd machine → ∀ userId statusText,
      (HasStatus machine.loop.process.trace userId statusText →
        ∀ row ∈ machine.loop.process.ctx.db.users, row.id = userId → row.status = statusText) ∧
      ∀ earlier fd copy status user later,
        machine.loop.process.trace = earlier ++ .sent fd copy status user :: later →
        HasStatus earlier userId statusText → IsUserRow copy → copy.socialTargetUserId = userId →
        ∀ beyond, copy.socialTargetStatus beyond = statusText) ∧
    ∀ userId statusText push, TellsStatus .ok userId statusText push →
      statusText.bytes.length ≤ profileStatusLen → ∀ now ui,
      ∃ after, processNetworkPacket now push ui = .ok after ∧
        after.HoldsStatus userId statusText ∧
        ∀ index, ui.allUsers.find? (fun user => user.id = userId) = some index →
          after.allUsers.find? (fun user => user.id = userId) = some index := by
  refine ⟨?_, ?_, ?_, ?_, ?_⟩
  · intro now ui rest shown connected typed
    constructor
    · rintro ⟨packet, submits⟩
      exact ((submits_setStatus_iff shown typed).mp submits).1
    · exact fun fits => ⟨_, (submits_setStatus_iff shown typed).mpr ⟨fits, connected, rfl⟩⟩
  · intro now ui rest packet submits loop readSet index handled authenticated
    have taken := handled.takes_submitted reliable authenticated submits
    have has := taken.has
    rw [(handled.session authenticated).2.1] at has
    rw [serviceClient_of_handsOn env handled.handed]
    exact ⟨taken, has⟩
  · intro loop readSet index packet handled authenticated asked
    exact handled.takes_iff reliable authenticated asked
  · intro machine reachable userId statusText
    obtain ⟨stored, rows⟩ := reachable.rows_show_status
    constructor
    · rintro has row member rfl
      rw [stored row member, recordedStatus_of_has has]
    · rintro earlier fd copy status user later split has isRow rfl beyond
      rw [rows earlier fd copy status user later split isRow beyond, recordedStatus_of_has has]
  · exact fun userId statusText push tells short now ui =>
      processNetworkPacket_tellsStatus tells short now ui

/-! ### A status of one letter -/

/-- A space, and the letter `b`. -/
def spaceLetter : Text := (Text.ofString " ").append Text.letterB

/-- The user signs in and types the command with the status `b`. -/
def statusRounds : List UiRound :=
  [.of (authAnswer .login .ok),
    .press (.f1 :: typeText ((Text.ofString "setstatus").append spaceLetter))]

/-- The request to store the status `b`. -/
def statusRequest : TizcordPacket :=
  (Client.socialRequest 0 .updateStatus).strncpySocialTargetStatus Text.letterB

theorem statusRequest_handled :
    Handled Env.ideal (fun _ _ _ => True) 3 (messageLoop [statusRequest]) {4} 0 statusRequest ∧
      ((messageLoop [statusRequest]).process.clientAt 0).isAuthenticated = true ∧
      ((messageLoop [statusRequest]).process.clientAt 0).socketFd = 4 ∧
      ((messageLoop [statusRequest]).process.clientAt 0).id = 1 := by
  have facts : selectReady (messageLoop [statusRequest]) {4} = {4} ∧
      (0 < (messageLoop [statusRequest]).process.ctx.clients.length ∧
        ((messageLoop [statusRequest]).process.clientAt 0).socketFd = 4) ∧
      ((messageLoop [statusRequest]).process.clientAt 0).isAuthenticated = true ∧
      ((messageLoop [statusRequest]).process.clientAt 0).id = 1 ∧
      (receiveClient 0 (messageLoop [statusRequest])).2.packet?.any (fun _ => true && true) =
        true ∧
      ((messageLoop [statusRequest]).process.clientAt 0).receiveBuffer.offset = 0 ∧
      ((messageLoop [statusRequest]).sockets 4).script = [.count 1000] ∧
      ((messageLoop [statusRequest]).sockets 4).stream = clientBytes statusRequest := by
    decide +kernel
  obtain ⟨ready, open', authenticated, first, received, empty, script, stream⟩ := facts
  obtain ⟨packet, handled, -⟩ := messageLoop_handled (fun _ _ _ => true)
    (fun _ _ _ _ => trivial) [statusRequest] (by decide +kernel) ready open' (fun _ => true)
    received
  have social : PacketType.ofCode statusRequest.type = some .social := by decide +kernel
  have whole : ((messageLoop [statusRequest]).sockets
      ((messageLoop [statusRequest]).process.clientAt 0).socketFd).stream =
        (swapPacket statusRequest statusRequest.type).toBytes ++ [] := by
    rw [open'.2, stream, List.append_nil, clientBytes]
  obtain rfl : packet = statusRequest := by
    refine handled.handed.packet_eq ?_ empty social whole
    · rw [open'.2, script]
      decide
  exact ⟨handled, authenticated, open'.2, first⟩

/-- The status is sent, stored, and told to the only client, which then has it. -/
theorem status_survives_letter : ∃ ui push after, runUi statusRounds Ui.start = .ok ui ∧
    ui.Submits 0 (setStatusText.append spaceLetter) statusRequest ∧
    TakesStatus Env.ideal 0 statusRequest
      (receiveClient 0 (messageLoop [statusRequest])).1.process Text.letterB ∧
    Sends Env.ideal 0 statusRequest (receiveClient 0 (messageLoop [statusRequest])).1.process 4
      push ∧
    processNetworkPacket 0 push ui = .ok after ∧ after.HoldsStatus 1 Text.letterB := by
  obtain ⟨ui, ran, shown, typed, connected⟩ : ∃ ui, runUi statusRounds Ui.start = .ok ui ∧
      ui.currentScreen = .command ∧ ui.cmdInput.text = setStatusText.append spaceLetter ∧
      ui.connected = true := reached_of_any (by decide +kernel)
  have argument : trimmed spaceLetter = Text.letterB := by decide +kernel
  obtain ⟨command, sent, -, -, push⟩ :=
    status_survives Env.ideal_reliable (fun _ _ _ => True) 3
  obtain ⟨packet, submits⟩ := (command 0 ui spaceLetter shown connected typed).mpr
    ⟨Or.inr (by decide +kernel), by decide +kernel, by decide +kernel⟩
  have same := ((submits_setStatus_iff shown typed).mp submits).2.2
  rw [argument] at same
  obtain rfl : statusRequest = packet := same
  obtain ⟨handled, authenticated, open', first⟩ := statusRequest_handled
  obtain ⟨taken, -⟩ := sent 0 ui spaceLetter statusRequest submits _ _ _ handled authenticated
  rw [argument] at taken
  obtain ⟨signedIn, same, -⟩ := handled.session authenticated
  have own := (receiveClient_clientAt_fd handled.inside).trans open'
  have listed : (receiveClient 0 (messageLoop [statusRequest])).1.process.clientAt 0 ∈
      (receiveClient 0 (messageLoop [statusRequest])).1.process.ctx.clients.filter fun node =>
        0 < node.socketFd && node.isAuthenticated := by
    refine List.mem_filter.mpr ⟨clientAt_mem_of_lt ?_, ?_⟩
    · rw [receiveClient_length]
      exact handled.inside
    · rw [own, signedIn]
      rfl
  obtain ⟨pushes, gained, each⟩ := taken.told
  obtain ⟨answer, status, user, tells, told⟩ := each.exists_of_mem listed
  rw [same, first] at tells
  obtain ⟨after, processed, holds, -⟩ := push 1 Text.letterB answer tells (by decide) 0 ui
  refine ⟨ui, answer, after, ran, submits, taken, sends_iff.mpr ⟨status, user, ?_⟩, processed, holds⟩
  rw [gained, ← own]
  exact List.mem_cons_of_mem _ (List.mem_cons_of_mem _ told)

end Tizcord
