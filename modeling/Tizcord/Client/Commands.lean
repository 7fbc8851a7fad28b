/-
This file says how a line is read as a command: which command a line calls that
starts in a certain way, what stripping leaves of its argument, and what ENTER
sends for it.
-/

import Tizcord.Client.Input
import Mathlib.Data.List.DropRight

namespace Tizcord

open CModel

/-! ### How a line starts -/

section Texts

variable {line start other rest : Text}

theorem startsWith_iff : line.startsWith start = true ↔ start.bytes <+: line.bytes :=
  List.isPrefixOf_iff_prefix

theorem startsWith_append (start rest : Text) : (start.append rest).startsWith start = true :=
  startsWith_iff.mpr (List.prefix_append _ _)

theorem drop_append (start rest : Text) : (start.append rest).drop start.bytes.length = rest :=
  Text.ext List.drop_left

/-- Neither of two texts goes on where the other one ends. -/
def Apart (start other : Text) : Prop :=
  ¬ start.bytes <+: other.bytes ∧ ¬ other.bytes <+: start.bytes

instance (start other : Text) : Decidable (Apart start other) :=
  inferInstanceAs (Decidable (_ ∧ _))

theorem Apart.not_startsWith (apart : Apart start other) (starts : line.startsWith start = true) :
    ¬ line.startsWith other = true := by
  intro both
  rcases List.prefix_or_prefix_of_prefix (startsWith_iff.mp starts) (startsWith_iff.mp both) with
    longer | shorter
  · exact apart.1 longer
  · exact apart.2 shorter

theorem Apart.ne (apart : Apart start other) (starts : line.startsWith start = true) :
    line ≠ other := by
  rintro rfl
  exact apart.1 (startsWith_iff.mp starts)

end Texts

/-! ### Which command a line calls -/

/-- How the commands with a name behind them start. -/
def nameCommands : List Text :=
  ["/friend ", "/accept ", "/unfriend ", "/reject ", "/createserver ", "/kick ", "/createchannel ",
    "/deleteserver ", "/deletechannel "].map Text.ofString

/-- The other texts with which the source compares a line. -/
def otherCommands : List Text :=
  ["/help", "/leaveserver", "/setstatus", "/setstatus "].map Text.ofString

/-- Behind a command with a name no other command goes on. -/
theorem nameCommands_apart : ∀ start ∈ nameCommands,
    (∀ other ∈ nameCommands, other ≠ start → Apart start other) ∧
      ∀ other ∈ otherCommands, Apart start other := by
  decide +kernel

/-- What stands behind a command with a name is of no importance to which command it is. -/
theorem commandOf_of_startsWith {line start : Text} (member : start ∈ nameCommands)
    (starts : line.startsWith start = true) : commandOf line = commandOf start := by
  obtain ⟨names, others⟩ := nameCommands_apart start member
  have self : start.startsWith start = true := startsWith_iff.mpr List.prefix_rfl
  have same : ∀ other ∈ nameCommands, line.startsWith other = start.startsWith other := by
    intro other present
    by_cases equal : other = start
    · rw [equal, starts, self]
    · have apart := names other present equal
      rw [Bool.eq_false_iff.mpr (apart.not_startsWith starts),
        Bool.eq_false_iff.mpr (apart.not_startsWith self)]
  simp only [nameCommands, List.map_cons, List.map_nil, List.forall_mem_cons] at same
  simp only [otherCommands, List.map_cons, List.map_nil, List.forall_mem_cons] at others
  obtain ⟨friend, accept, unfriend, reject, createServer, kick, createChannel, deleteServer,
    deleteChannel, -⟩ := same
  obtain ⟨help, leaveServer, status, setStatus, -⟩ := others
  have setStatusOf : line.startsWith (Text.ofString "/setstatus ") =
      start.startsWith (Text.ofString "/setstatus ") := by
    rw [Bool.eq_false_iff.mpr (setStatus.not_startsWith starts),
      Bool.eq_false_iff.mpr (setStatus.not_startsWith self)]
  unfold commandOf
  rw [friend, accept, unfriend, reject, createServer, kick, createChannel, deleteServer,
    deleteChannel, setStatusOf, if_neg (help.ne starts), if_neg (help.ne self),
    if_neg (leaveServer.ne starts), if_neg (leaveServer.ne self), if_neg (status.ne starts),
    if_neg (status.ne self)]

/-! ### Arguments -/

/-- What stripping leaves: the text up to its last byte that is no space. -/
theorem stripTrailing_bytes (text : Text) :
    (stripTrailing text).bytes = text.bytes.rdropWhile (· = 32) := by
  rw [stripTrailing, Text.take, ← List.length_reverse]
  exact (List.prefix_iff_eq_take.mp (List.rdropWhile_prefix _ _)).symm

theorem stripTrailing_eq_self_iff {text : Text} :
    stripTrailing text = text ↔ text.bytes.getLast? ≠ some 32 := by
  have bytes : stripTrailing text = text ↔ (stripTrailing text).bytes = text.bytes :=
    ⟨congrArg Text.bytes, Text.ext⟩
  rw [bytes, stripTrailing_bytes, List.rdropWhile_eq_self_iff]
  constructor
  · intro last is
    obtain ⟨init, split⟩ := List.getLast?_eq_some_iff.mp is
    refine last (by rw [split]; exact List.concat_ne_nil _ _) ?_
    simp [split]
  · intro other nonempty is
    refine other ?_
    rw [List.getLast?_eq_some_getLast nonempty, of_decide_eq_true is]

theorem length_stripTrailing (text : Text) :
    (stripTrailing text).bytes.length ≤ text.bytes.length := by
  rw [stripTrailing_bytes]
  exact (List.rdropWhile_prefix _ _).length_le

theorem length_storedName (name : Text) : (storedName name).bytes.length < maxNameLen := by
  have cut : (storedName name).bytes.length ≤ maxNameLen - 1 := List.length_take_le _ _
  exact Nat.lt_of_le_of_lt cut (by decide)

/-- A command finds the whole argument as the name exactly when the argument has room in a name
and no space at its end. -/
theorem commandName_append_iff (start argument : Text) :
    commandName start.bytes.length (start.append argument) = argument ↔
      argument.bytes.length < maxNameLen ∧ argument.bytes.getLast? ≠ some 32 := by
  rw [commandName, drop_append]
  constructor
  · intro same
    have short : argument.bytes.length < maxNameLen := by
      rw [← same]
      exact (length_stripTrailing _).trans_lt (length_storedName _)
    rw [storedName, Text.take_of_length_le (Nat.le_sub_one_of_lt short)] at same
    exact ⟨short, stripTrailing_eq_self_iff.mp same⟩
  · rintro ⟨short, last⟩
    rw [storedName, Text.take_of_length_le (Nat.le_sub_one_of_lt short)]
    exact stripTrailing_eq_self_iff.mpr last

/-! ### What ENTER sends -/

/-- ENTER on the command line sends a packet, and nothing else. -/
structure Ui.Submits (now : Int) (ui : Ui) (line : Text) (packet : TizcordPacket) : Prop where
  shown : ui.currentScreen = .command
  line : ui.cmdInput.text = line
  sends : ∃ after, handleKey now .enter ui = .ok after ∧ after.requests = ui.requests ++ [packet]

section Submitted

variable {now : Int} {ui : Ui} {line : Text} {result : CommandResult} {packet : TizcordPacket}

theorem handleKey_submit (shown : ui.currentScreen = .command) :
    handleKey now .enter ui = submitCommand now ui := by
  rw [handleKey, shown]
  rfl

/-- What a command sends is sent, whether the command line closes or not. -/
theorem submitCommand_requests
    (ran : runCommand now ui.cmdInput.text ui (commandOf ui.cmdInput.text) = .ok result) :
    ∃ after, submitCommand now ui = .ok after ∧ after.requests = result.2.requests := by
  unfold submitCommand
  dsimp only
  rw [ran]
  refine ⟨_, rfl, ?_⟩
  split <;> rfl

theorem Ui.submits_iff (shown : ui.currentScreen = .command) (typed : ui.cmdInput.text = line)
    (ran : runCommand now line ui (commandOf line) = .ok result) :
    ui.Submits now line packet ↔ result.2.requests = ui.requests ++ [packet] := by
  subst typed
  obtain ⟨after, submitted, requests⟩ := submitCommand_requests ran
  rw [← handleKey_submit shown] at submitted
  constructor
  · rintro ⟨-, -, other, handled, sent⟩
    obtain rfl := Except.ok.inj (submitted.symm.trans handled)
    rw [← requests, sent]
  · exact fun sent => ⟨shown, rfl, after, submitted, requests.trans sent⟩

/-- What is handed to the socket is sent when there is one. -/
theorem safeSendPacket_requests (request : TizcordPacket) (ui : Ui) :
    (Client.safeSendPacket request ui).requests = ui.requests ++ [packet] ↔
      ui.connected = true ∧ request = packet := by
  rw [Client.safeSendPacket]
  split
  · next connected =>
    rw [List.append_cancel_left_eq, List.singleton_inj]
    exact ⟨fun same => ⟨connected, same⟩, And.right⟩
  · next disconnected =>
    refine ⟨fun same => ?_, fun both => absurd both.1 disconnected⟩
    exact absurd (List.self_eq_append_right.mp same) (List.cons_ne_nil _ _)

end Submitted

end Tizcord
