/-
This file follows a status through the client: from the command line into a
packet, and from a packet that tells of it into the list of all users.
-/

import Tizcord.Client.Commands
import Tizcord.Client.Steps
import Tizcord.Server.Statuses

namespace Tizcord

open CModel

/-! ### The command -/

def setStatusText : Text := Text.ofString "/setstatus"

/-- A text without the spaces on both sides. -/
def trimmed (text : Text) : Text where
  bytes := (text.bytes.dropWhile (· = 32)).rdropWhile (· = 32)
  clean member := text.clean ((List.dropWhile_suffix _).subset
    ((List.rdropWhile_prefix _ _).subset member))

/-- What stands behind `/setstatus` makes it a command: nothing, or a space and more. -/
def IsStatusArgument (rest : Text) : Prop :=
  rest = Text.empty ∨ rest.bytes.head? = some 32

instance (rest : Text) : Decidable (IsStatusArgument rest) :=
  inferInstanceAs (Decidable (_ ∨ _))

section Command

variable {rest : Text}

/-- The other commands neither start like `/setstatus` nor go on behind it. -/
theorem setStatusText_apart :
    (∀ other ∈ nameCommands, Apart setStatusText other) ∧
      Apart setStatusText (Text.ofString "/help") ∧
      Apart setStatusText (Text.ofString "/leaveserver") := by
  decide +kernel

theorem append_eq_self_iff : setStatusText.append rest = setStatusText ↔ rest = Text.empty := by
  constructor
  · intro same
    exact Text.ext (List.append_right_eq_self.mp (congrArg Text.bytes same))
  · rintro rfl
    exact Text.ext (List.append_nil _)

theorem startsWith_space_iff : (setStatusText.append rest).startsWith
    (Text.ofString "/setstatus ") = true ↔ rest.bytes.head? = some 32 := by
  have split : (Text.ofString "/setstatus ").bytes = setStatusText.bytes ++ [32] := by
    decide +kernel
  have whole : (setStatusText.append rest).bytes = setStatusText.bytes ++ rest.bytes := rfl
  rw [startsWith_iff, split, whole, List.prefix_append_right_inj]
  cases rest.bytes with
  | nil => simp
  | cons byte others =>
    rw [List.cons_prefix_cons, List.head?_cons, Option.some_inj]
    exact ⟨fun both => both.1.symm, fun same => ⟨same.symm, List.nil_prefix⟩⟩

/-- A line that starts with `/setstatus` calls this command or none. -/
theorem commandOf_setStatus (rest : Text) : commandOf (setStatusText.append rest) =
    if IsStatusArgument rest then .setStatus else .unknown := by
  obtain ⟨names, help, leaveServer⟩ := setStatusText_apart
  have starts := startsWith_append setStatusText rest
  have whole := @append_eq_self_iff rest
  have longer := @startsWith_space_iff rest
  have command : Text.ofString "/setstatus" = setStatusText := rfl
  generalize setStatusText.append rest = line at starts whole longer
  simp only [nameCommands, List.map_cons, List.map_nil, List.forall_mem_cons] at names
  obtain ⟨friend, accept, unfriend, reject, createServer, kick, createChannel, deleteServer,
    deleteChannel, -⟩ := names
  unfold commandOf
  rw [if_neg (help.ne starts), if_neg (friend.not_startsWith starts),
    if_neg (accept.not_startsWith starts), if_neg (unfriend.not_startsWith starts),
    if_neg (reject.not_startsWith starts), if_neg (createServer.not_startsWith starts),
    if_neg (leaveServer.ne starts), if_neg (kick.not_startsWith starts),
    if_neg (createChannel.not_startsWith starts), if_neg (deleteServer.not_startsWith starts),
    if_neg (deleteChannel.not_startsWith starts), command]
  have takes : IsStatusArgument rest ↔
      line = setStatusText ∨ line.startsWith (Text.ofString "/setstatus ") = true :=
    or_congr whole.symm longer.symm
  rw [if_congr takes rfl rfl, ite_or]

/-- The status that the command takes is what stands behind it, without the spaces on both
sides. -/
theorem statusArgument_append (rest : Text) :
    statusArgument (setStatusText.append rest) = trimmed rest := by
  have length : setStatusText.bytes.length = 10 := by decide +kernel
  have behind := drop_append setStatusText rest
  rw [length] at behind
  refine Text.ext ?_
  rw [statusArgument, behind, stripTrailing_bytes, trimmed]
  dsimp only [Text.drop]
  have split := @List.takeWhile_append_dropWhile _ (fun byte : UInt8 => decide (byte = 32))
    rest.bytes
  have front := @List.takeWhile_prefix _ rest.bytes (fun byte : UInt8 => decide (byte = 32))
  rw [List.append_cancel_left ((List.prefix_iff_eq_append.mp front).trans split.symm)]

/-! ### The packet -/

/-- A request to store a status of at most 64 bytes carries it as it is. -/
theorem sendStatusUpdate_carries (now : Int) {statusText : Text}
    (short : statusText.bytes.length ≤ profileStatusLen) :
    ((Client.socialRequest now .updateStatus).strncpySocialTargetStatus statusText).request =
        some (.social .updateStatus) ∧
      cString ((Client.socialRequest now .updateStatus).strncpySocialTargetStatus
        statusText).socialTargetStatusField = statusText := by
  constructor
  · refine SocialAction.ofCode_eq ?_ ?_
    · simp (disch := decide) [Client.socialRequest, createBasePacket, TizcordPacket.type,
        TizcordPacket.setType, TizcordPacket.setTimestamp, TizcordPacket.setSocialAction,
        TizcordPacket.strncpySocialTargetStatus, signed_code]
    · simp (disch := decide) [Client.socialRequest, TizcordPacket.socialAction,
        TizcordPacket.setSocialAction, TizcordPacket.strncpySocialTargetStatus]
      rfl
  · have field := Image.slice_strncpy_same (Client.socialRequest now .updateStatus) 88
      profileStatusLen statusText (by decide) (by
        simp (disch := decide) [Client.socialRequest, createBasePacket, TizcordPacket.setType,
          TizcordPacket.setTimestamp, TizcordPacket.setSocialAction])
    rw [TizcordPacket.socialTargetStatusField, TizcordPacket.strncpySocialTargetStatus, field,
      cString_strncpyBytes, Text.take_of_length_le short]

/-- A line that starts with `/setstatus` is sent as a request exactly when nothing or a space
stands behind the command, and between the spaces 1 to 64 bytes. -/
theorem submits_setStatus_iff {now : Int} {ui : Ui} {packet : TizcordPacket}
    (shown : ui.currentScreen = .command) (typed : ui.cmdInput.text = setStatusText.append rest) :
    ui.Submits now (setStatusText.append rest) packet ↔
      (IsStatusArgument rest ∧ 1 ≤ (trimmed rest).bytes.length ∧
        (trimmed rest).bytes.length ≤ profileStatusLen) ∧ ui.connected = true ∧
      (Client.socialRequest now .updateStatus).strncpySocialTargetStatus (trimmed rest) =
        packet := by
  have command := commandOf_setStatus rest
  have argument := statusArgument_append rest
  generalize setStatusText.append rest = line at typed command argument ⊢
  have nothing : ui.requests ≠ ui.requests ++ [packet] := fun same =>
    absurd (List.self_eq_append_right.mp same) (List.cons_ne_nil _ _)
  by_cases takes : IsStatusArgument rest
  · rw [if_pos takes] at command
    have ran : runCommand now line ui (commandOf line) = .ok (setStatusCommand now line ui) := by
      rw [command]
      rfl
    rw [Ui.submits_iff shown typed ran, setStatusCommand, argument]
    dsimp only
    split
    · next none' =>
      refine ⟨fun sent => absurd sent nothing, ?_⟩
      rintro ⟨⟨-, some', -⟩, -⟩
      omega
    · split
      · next long =>
        refine ⟨fun sent => absurd sent nothing, ?_⟩
        rintro ⟨⟨-, -, short⟩, -⟩
        omega
      · next some' short =>
        have fits : IsStatusArgument rest ∧ 1 ≤ (trimmed rest).bytes.length ∧
            (trimmed rest).bytes.length ≤ profileStatusLen := ⟨takes, by omega, by omega⟩
        rw [and_iff_right fits]
        exact safeSendPacket_requests _ ui
  · rw [if_neg takes] at command
    have ran : runCommand now line ui (commandOf line) =
        .ok (false, ui.say "Error: Unknown command.") := by
      rw [command]
      rfl
    rw [Ui.submits_iff shown typed ran]
    exact ⟨fun sent => absurd sent nothing, fun both => absurd both.1.1 takes⟩

end Command

/-! ### The list of all users -/

section Push

variable {now userId : Int} {statusText : Text} {ui : Ui} {packet : TizcordPacket}

/-- A packet that tells of a status leaves it in the first row of its user. -/
theorem find?_updateListedUser {users : SlotArray UIUser maxAllUsers} {index : Fin maxAllUsers}
    (found : users.find? (fun user => user.id = userId) = some index)
    (user : packet.socialTargetUserId = userId) :
    (updateListedUser packet users).find? (fun user => user.id = userId) = some index ∧
      ((updateListedUser packet users).slot index).status =
        (packet.socialTargetStatus []).take profileStatusLen := by
  rw [updateListedUser, user, found]
  dsimp only
  constructor
  · refine Eq.trans (SlotArray.find?_modify index ?_) found
    exact fun _ => rfl
  · rw [SlotArray.slot_modify_same]

theorem statusUpdated_allUsers (ok : packet.socialStatusCode = ResponseCode.ok.code) :
    (statusUpdated now packet ui).allUsers = updateListedUser packet ui.allUsers := by
  rw [statusUpdated, if_pos ok]
  dsimp only
  split
  · rw [Ui.closeCommandLine, Client.requestUserList, Client.safeSendPacket]
    split <;> split <;> rfl
  · rfl

/-- The client has the status in its row of the user: the first one, and the only one where users
are listed once. -/
structure Ui.HoldsStatus (ui : Ui) (userId : Int) (statusText : Text) : Prop where
  first : ∀ index, ui.allUsers.find? (fun user => user.id = userId) = some index →
    (ui.allUsers.slot index).status = statusText
  only : (∀ index other, ui.allUsers.inUse index = true → ui.allUsers.inUse other = true →
      (ui.allUsers.slot index).id = (ui.allUsers.slot other).id → index = other) →
    ∀ index, ui.allUsers.inUse index = true → (ui.allUsers.slot index).id = userId →
      (ui.allUsers.slot index).status = statusText

theorem Ui.holdsStatus_of_first
    (first : ∀ index, ui.allUsers.find? (fun user => user.id = userId) = some index →
      (ui.allUsers.slot index).status = statusText) : ui.HoldsStatus userId statusText where
  first := first
  only := by
    intro distinct index used own
    cases found : ui.allUsers.find? (fun user => user.id = userId) with
    | none =>
      have unlisted := SlotArray.find?_eq_none.mp found (ui.allUsers.slot index)
        (SlotArray.mem_entries.mpr ⟨index, SlotArray.inUse_iff.mp used, rfl⟩)
      exact absurd own (of_decide_eq_false unlisted)
    | some other =>
      obtain ⟨usedToo, same⟩ := SlotArray.find?_eq_some found
      rw [distinct index other used (SlotArray.inUse_iff.mpr usedToo)
        (own.trans (of_decide_eq_true same).symm)]
      exact first other found

/-- After a packet that tells of a status, a client has it in its row of the user. -/
theorem processNetworkPacket_tellsStatus (tells : TellsStatus .ok userId statusText packet)
    (short : statusText.bytes.length ≤ profileStatusLen) (now : Int) (ui : Ui) :
    ∃ after, processNetworkPacket now packet ui = .ok after ∧
      after.HoldsStatus userId statusText ∧
      ∀ index, ui.allUsers.find? (fun user => user.id = userId) = some index →
        after.allUsers.find? (fun user => user.id = userId) = some index := by
  refine ⟨statusUpdated now packet ui, ?_, Ui.holdsStatus_of_first fun index found => ?_,
    fun index found => ?_⟩
  · rw [processNetworkPacket_eq, tells.request, processRequest, updateSocialState]
  · rw [statusUpdated_allUsers tells.code] at found ⊢
    cases listed : ui.allUsers.find? (fun user => user.id = userId) with
    | none =>
      rw [updateListedUser, tells.user, listed] at found
      exact absurd (listed.symm.trans found) (Option.some_ne_none _).symm
    | some other =>
      obtain ⟨same, status⟩ := find?_updateListedUser listed tells.user
      obtain rfl := Option.some.inj (same.symm.trans found)
      rw [status, tells.text, Text.take_of_length_le short]
  · rw [statusUpdated_allUsers tells.code]
    exact (find?_updateListedUser found tells.user).1

end Push

end Tizcord
