/-
This file compares the command line with what its user has typed. The buffer and
its length are kept apart: F1 writes a slash and sets the length, but no
terminator behind the slash, so what was left behind it comes back.
-/

import Tizcord.Client.Navigation
import Tizcord.Client.Views
import Mathlib.Data.List.GetD

namespace Tizcord

open CModel

/-! ### Lines -/

/-- The slash with which the command line opens. -/
def slash : Text := ⟨[47], by decide⟩

/-- An input line holds a text: its length is that of the text, and behind the text stands a zero
byte. -/
structure InputLine.Holds (line : InputLine) (typed : Text) : Prop where
  length : line.length = typed.bytes.length
  short : typed.bytes.length < maxMsgLen
  memory : ∀ index ≤ typed.bytes.length, line.memory.byte index = typed.bytes.getD index 0

/-- What stands behind the first character of a line is what was typed there, if anything was. -/
def InputLine.Keeps (line : InputLine) (typed : Text) : Prop :=
  line.memory.byte 1 = typed.bytes.getD 1 0

/-- A text with one more character, as long as there is room for it and a terminator. -/
def typeBehind (typed : Text) (character : Printable) : Text :=
  if typed.bytes.length < maxMsgLen - 1 then typed.append character.text else typed

/-- A text without its last character. -/
def eraseLast (typed : Text) : Text :=
  typed.take (typed.bytes.length - 1)

section Lines

variable {line : InputLine} {typed : Text}

theorem InputLine.Holds.slice (holds : line.Holds typed) :
    line.memory.slice 0 (typed.bytes.length + 1) = typed.bytes ++ [0] := by
  refine List.ext_getElem (by simp) fun index inside bound => ?_
  rw [Image.length_slice] at inside
  rw [Image.getElem_slice, Nat.zero_add, holds.memory index (by omega)]
  by_cases last : index = typed.bytes.length
  · subst last
    simp
  · have below : index < typed.bytes.length := by omega
    rw [List.getElem_append_left below, List.getD_eq_getElem _ _ below]

/-- A line that holds a text reads as the text. -/
theorem InputLine.Holds.text (holds : line.Holds typed) : line.text = typed := by
  have short := holds.short
  have none' : cString [0] = Text.empty := Text.ext (by simp [cString, Text.empty])
  have terminated : (0 : UInt8) ∈ line.memory.slice 0 (typed.bytes.length + 1) := by
    rw [holds.slice]
    exact List.mem_append_right _ (List.mem_singleton.mpr rfl)
  rw [InputLine.text, Image.text_of_terminated _ _ _ _ (by omega) terminated, holds.slice]
  refine Text.ext ?_
  rw [cString_append_of_not_mem typed.clean, none']
  exact List.append_nil _

theorem InputLine.Holds.keeps (holds : line.Holds typed) (some' : 0 < typed.bytes.length) :
    line.Keeps typed :=
  holds.memory 1 some'

theorem InputLine.Holds.type (holds : line.Holds typed) (character : Printable) :
    (line.type character.val).Holds (typeBehind typed character) := by
  have length := holds.length
  rw [InputLine.type, typeBehind, length]
  by_cases room : typed.bytes.length < maxMsgLen - 1
  · rw [if_pos room, if_pos room]
    have more : (typed.append character.text).bytes = typed.bytes ++ [character.val] := rfl
    have longer : (typed.append character.text).bytes.length = typed.bytes.length + 1 := by
      rw [more, List.length_append, List.length_singleton]
    refine ⟨longer.symm, by omega, fun index inside => ?_⟩
    rw [longer] at inside
    rw [more, Image.byte_store]
    by_cases old : index < typed.bytes.length
    · rw [if_neg (by omega), holds.memory index old.le, List.getD_append _ _ _ _ old]
    · rw [if_pos ⟨by omega, by omega, by simp; omega⟩,
        List.getD_append_right _ _ _ _ (Nat.not_lt.mp old)]
      obtain same | next : index - typed.bytes.length = 0 ∨ index - typed.bytes.length = 1 := by
        omega
      · rw [same]
        rfl
      · rw [next]
        rfl
  · rw [if_neg room, if_neg room]
    exact holds

theorem length_typeBehind (typed : Text) (character : Printable) :
    0 < (typeBehind typed character).bytes.length := by
  have size : 0 < maxMsgLen - 1 := by decide
  rw [typeBehind]
  split
  · exact Nat.succ_le_of_lt (List.length_pos_of_ne_nil (List.concat_ne_nil _ _))
  · omega

theorem InputLine.Holds.backspace (holds : line.Holds typed) :
    line.backspace.Holds (eraseLast typed) := by
  have length := holds.length
  have short := holds.short
  have less : (eraseLast typed).bytes.length = typed.bytes.length - 1 := by
    simp [eraseLast, Text.take]
  rw [InputLine.backspace, length]
  by_cases some' : 0 < typed.bytes.length
  · rw [if_pos some']
    refine ⟨less.symm, by omega, fun index inside => ?_⟩
    have taken : (eraseLast typed).bytes.getD index 0 =
        if index < typed.bytes.length - 1 then typed.bytes.getD index 0 else 0 := by
      simp only [eraseLast, Text.take, List.getD_eq_getElem?_getD, List.getElem?_take]
      split <;> rfl
    rw [taken, Image.byte_store]
    by_cases old : index < typed.bytes.length - 1
    · rw [if_pos old, if_neg (by omega), holds.memory index (by omega)]
    · rw [if_neg old, if_pos ⟨by omega, by omega, by simp; omega⟩]
      have last : index - (typed.bytes.length - 1) = 0 := by omega
      rw [last]
      rfl
  · have empty : typed.bytes = [] := List.eq_nil_of_length_eq_zero (by omega)
    have same : eraseLast typed = typed := Text.ext (by simp [eraseLast, Text.take, empty])
    rw [if_neg some', same]
    exact holds

theorem InputLine.Keeps.backspace (keeps : line.Keeps typed) (holds : line.Holds typed) :
    line.backspace.Keeps (eraseLast typed) := by
  by_cases long : 1 < typed.bytes.length
  · refine holds.backspace.keeps ?_
    simp [eraseLast, Text.take]
    omega
  · have second : typed.bytes.getD 1 0 = 0 := List.getD_eq_default _ _ (by omega)
    have less : (eraseLast typed).bytes.getD 1 0 = 0 := by
      refine List.getD_eq_default _ _ ?_
      simp [eraseLast, Text.take]
      omega
    rw [Keeps, second] at keeps
    rw [Keeps, less, InputLine.backspace]
    split
    · rw [Image.byte_store, if_neg (by rw [holds.length]; simp; omega)]
      exact keeps
    · exact keeps

theorem InputLine.Keeps.clear (keeps : line.Keeps typed) : line.clear.Keeps typed := by
  rw [Keeps, InputLine.clear, Image.byte_store, if_neg (by simp)]
  exact keeps

theorem InputLine.byte_openCommand (line : InputLine) (index : Nat) :
    line.openCommand.memory.byte index = if index = 0 then 47 else line.memory.byte index := by
  rw [openCommand, Image.byte_store]
  by_cases first : index = 0
  · subst first
    rfl
  · rw [if_neg (by simp; omega), if_neg first]

/-- What was typed last on a command line comes back behind the slash when it opens again, unless
it was not more than one character. -/
theorem InputLine.Keeps.opens (keeps : line.Keeps typed) :
    line.openCommand.Holds slash ∧ typed.bytes.length ≤ 1 ∨
      line.openCommand.text ≠ slash ∧ 1 < typed.bytes.length := by
  by_cases long : 1 < typed.bytes.length
  · refine Or.inr ⟨fun same => ?_, long⟩
    have second : line.memory.byte 1 ≠ 0 := by
      rw [keeps, List.getD_eq_getElem _ _ long]
      intro zero
      exact typed.clean (zero ▸ List.getElem_mem long)
    have start : line.openCommand.memory.slice 0 2 = [47, line.memory.byte 1] := by
      rw [Image.slice]
      simp [List.range_succ, byte_openCommand]
    have unterminated : (0 : UInt8) ∉ line.openCommand.memory.slice 0 2 := by
      rw [start]
      simp [second.symm]
    have bytes := Image.text_of_unterminated _ 0 2 [] (by decide) unterminated
    rw [← InputLine.text, same, start] at bytes
    cases bytes
  · refine Or.inl ⟨⟨rfl, by decide, fun index inside => ?_⟩, Nat.not_lt.mp long⟩
    rw [byte_openCommand]
    have cases' : index = 0 ∨ index = 1 := by
      have small : index ≤ 1 := inside
      omega
    rcases cases' with rfl | rfl
    · rfl
    · rw [if_neg Nat.one_ne_zero, keeps, List.getD_eq_default _ _ (Nat.not_lt.mp long)]
      rfl

end Lines

/-! ### Typing -/

/-- The client, and what was typed on its command line since that was opened. -/
structure Typing where
  ui : Ui
  typed : Text

/-- What stands on the command line after a key, when it holds what was typed. -/
inductive Typed (ui : Ui) (typed : Text) : List UiEvent → Text → Prop where
  | opened (takes : ui.takesCommand) : Typed ui typed [.key .f1] slash
  | character {character : Printable} (shown : ui.currentScreen = .command) :
      Typed ui typed [.key (.printable character)] (typeBehind typed character)
  | erased (shown : ui.currentScreen = .command) :
      Typed ui typed [.key .backspace] (eraseLast typed)
  | other {events : List UiEvent} (unopened : ui.takesCommand → .key .f1 ∉ events)
      (unedited : ui.currentScreen = .command → .key .backspace ∉ events ∧
        ∀ character, .key (.printable character) ∉ events) : Typed ui typed events typed

/-- A step of the client while someone types. -/
structure TypingStep (before : Typing) (events : List UiEvent) (after : Typing) : Prop where
  step : UiStep before.ui events after.ui
  typed : Typed before.ui before.typed events after.typed

/-- While the command line is open it reads as what was typed, and ends where its length says. -/
def Typing.Right (state : Typing) : Prop :=
  state.ui.currentScreen = .command →
    state.ui.cmdInput.text = state.typed ∧ state.ui.cmdInput.length = state.typed.bytes.length

/-- When F1 opens the command line, not more than one character was typed on it before. -/
def Typing.Allows (state : Typing) (events : List UiEvent) : Prop :=
  .key .f1 ∈ events → state.ui.takesCommand → state.typed.bytes.length ≤ 1

/-- What holds as long as the command line is right. -/
structure Typing.Invariant (state : Typing) : Prop where
  previous : state.ui.previousScreen ≠ .command
  keeps : state.ui.cmdInput.Keeps state.typed
  holds : state.ui.currentScreen = .command → state.ui.cmdInput.Holds state.typed

theorem Typing.Invariant.right {state : Typing} (invariant : state.Invariant) : state.Right :=
  fun shown => ⟨(invariant.holds shown).text, (invariant.holds shown).length⟩

/-! ### Steps -/

section Steps

variable {before after : Typing} {events : List UiEvent}

theorem handleKey_opensCommand {ui : Ui} (takes : ui.takesCommand) (now : Int) :
    handleKey now .f1 ui = .ok ui.openCommandLine := by
  rcases takes with (shown | shown | shown) | ⟨shown, empty⟩
  · rw [handleKey, shown]
    rfl
  · rw [handleKey, shown]
    rfl
  · rw [handleKey, shown]
    rfl
  · rw [handleKey, shown]
    dsimp only [handleChatInput]
    rw [if_pos empty]

theorem not_command_of_takesCommand {ui : Ui} (takes : ui.takesCommand) :
    ui.currentScreen ≠ .command := by
  rcases takes with (shown | shown | shown) | ⟨shown, -⟩ <;>
  · rw [shown]
    nofun

/-- A step that leaves the line alone, and does not open it. -/
theorem Typing.Invariant.idle (invariant : before.Invariant) (typed : after.typed = before.typed)
    (line : after.ui.cmdInput = before.ui.cmdInput)
    (previous : after.ui.previousScreen = before.ui.previousScreen)
    (shown : after.ui.currentScreen = .command → before.ui.currentScreen = .command) :
    after.Invariant where
  previous := by
    rw [previous]
    exact invariant.previous
  keeps := by
    rw [line, typed]
    exact invariant.keeps
  holds is := by
    rw [line, typed]
    exact invariant.holds (shown is)

/-- A step that clears the line, and closes it. -/
theorem Typing.Invariant.closed (invariant : before.Invariant) (typed : after.typed = before.typed)
    (line : after.ui.cmdInput = before.ui.cmdInput.clear)
    (previous : after.ui.previousScreen ≠ .command) (shown : after.ui.currentScreen ≠ .command) :
    after.Invariant where
  previous := previous
  keeps := by
    rw [line, typed]
    exact invariant.keeps.clear
  holds is := absurd is shown

/-- The good end of a command leaves the line alone, or clears and closes it. -/
theorem Typing.Invariant.finished (invariant : before.Invariant)
    (typed : after.typed = before.typed)
    (line : after.ui.cmdInput = before.ui.place.closeCommand.line)
    (previous : after.ui.previousScreen = before.ui.previousScreen)
    (shown : after.ui.currentScreen = .command →
      before.ui.place.closeCommand.screen = .command) : after.Invariant := by
  by_cases open' : before.ui.currentScreen = .command
  · have closed : before.ui.place.closeCommand = { before.ui.place with
        line := before.ui.cmdInput.clear, screen := before.ui.previousScreen } := if_pos open'
    rw [closed] at line shown
    refine invariant.closed typed line (previous ▸ invariant.previous) fun is => ?_
    exact invariant.previous (shown is)
  · have same : before.ui.place.closeCommand = before.ui.place := if_neg open'
    rw [same] at line shown
    exact invariant.idle typed line previous shown

theorem Typing.Invariant.packet {packet : TizcordPacket} (invariant : before.Invariant)
    (typed : after.typed = before.typed) (moves : PacketMoves packet before.ui after.ui) :
    after.Invariant := by
  have screen : after.ui.currentScreen = after.ui.place.screen := rfl
  have line : after.ui.cmdInput = after.ui.place.line := rfl
  have previous : after.ui.previousScreen = after.ui.place.previous := rfl
  cases moves with
  | stays place =>
    rw [place] at screen line previous
    exact invariant.idle typed line previous fun is => screen.symm.trans is
  | signsIn _ _ place =>
    rw [place] at screen line previous
    exact invariant.idle typed line previous fun is => nomatch screen.symm.trans is
  | signsOut _ place =>
    rw [place] at screen line previous
    refine invariant.closed typed line ?_ ?_
    · rw [previous]
      nofun
    · rw [screen]
      nofun
  | leaves _ place =>
    rw [place] at screen line previous
    exact invariant.idle typed line previous fun is => nomatch screen.symm.trans is
  | closes place =>
    rw [place] at screen line previous
    exact invariant.finished typed line
      (previous.trans (congrArg Place.previous (Place.closeCommand_eq _)))
      fun is => screen.symm.trans is
  | deletes _ _ place =>
    rw [place] at screen line previous
    exact invariant.finished typed line
      (previous.trans (congrArg Place.previous (Place.closeCommand_eq _)))
      fun is => nomatch screen.symm.trans is
  | resets _ _ place =>
    rw [place] at screen line previous
    exact invariant.finished typed line
      (previous.trans (congrArg Place.previous (Place.closeCommand_eq _)))
      fun is => screen.symm.trans is
  | selects _ _ _ _ place =>
    rw [place] at screen line previous
    exact invariant.idle typed line previous fun is => screen.symm.trans is

/-- A key that neither opens nor edits the command line. -/
theorem Typing.Invariant.otherKey {key : Key} (invariant : before.Invariant)
    (typed : after.typed = before.typed) (moves : KeyMoves before.ui after.ui key)
    (unopened : before.ui.takesCommand → key ≠ .f1)
    (unedited : before.ui.currentScreen = .command → key ≠ .backspace ∧
      ∀ character, key ≠ .printable character) : after.Invariant := by
  have screen : after.ui.currentScreen = after.ui.place.screen := rfl
  have line : after.ui.cmdInput = after.ui.place.line := rfl
  have previous : after.ui.previousScreen = after.ui.place.previous := rfl
  cases moves with
  | stays place | changesChannel _ _ _ place | changesFriend _ _ _ place =>
    rw [place] at screen line previous
    exact invariant.idle typed line previous fun is => screen.symm.trans is
  | leavesChat _ _ place | opensDms _ place | entersServer _ _ _ place =>
    rw [place] at screen line previous
    exact invariant.idle typed line previous fun is => nomatch screen.symm.trans is
  | switchesForm _ form place =>
    rw [place] at screen line previous
    refine invariant.idle typed line previous fun is => ?_
    rcases form with form | form <;> exact nomatch form.symm.trans (screen.symm.trans is)
  | turns _ list place =>
    rw [place] at screen line previous
    refine invariant.idle typed line previous fun is => ?_
    rcases list with list | list | list <;> exact nomatch list.symm.trans (screen.symm.trans is)
  | opensCommand takes => exact absurd rfl (unopened takes)
  | cancels shown place =>
    rw [place] at screen line previous
    exact invariant.idle typed line previous fun _ => shown
  | submits shown place =>
    rw [place] at screen line previous
    refine invariant.closed typed line (previous ▸ invariant.previous) fun is => ?_
    exact invariant.previous (screen.symm.trans is)
  | erases shown => exact absurd rfl (unedited shown).1
  | types shown => exact absurd rfl ((unedited shown).2 _)

theorem handleKey_command {ui next : Ui} {now : Int} {key : Key}
    (shown : ui.currentScreen = .command) (handled : handleKey now key ui = .ok next) :
    handleCommandInput now key ui = .ok next := by
  rw [handleKey, shown] at handled
  exact handled

/-- A step whose typing is allowed keeps the invariant. -/
theorem TypingStep.invariant (step : TypingStep before events after)
    (invariant : before.Invariant) (allowed : before.Allows events) : after.Invariant := by
  obtain ⟨ui, text⟩ := before
  obtain ⟨next, typed⟩ := after
  obtain ⟨taken, types⟩ := step
  dsimp only at taken types
  cases taken with
  | packet now packet processed =>
    cases types with
    | other => exact invariant.packet rfl (processNetworkPacket_moves processed)
  | draw =>
    cases types with
    | other =>
      rcases redraw_place ui with place | ⟨-, -, place⟩ <;>
        exact invariant.idle rfl (congrArg Place.line place) (congrArg Place.previous place)
          fun shown => (congrArg Place.screen place).symm.trans shown
  | disconnect =>
    cases types with
    | other => exact invariant.idle rfl rfl rfl id
  | key now key handled =>
    cases types with
    | opened takes =>
      obtain rfl := Except.ok.inj ((handleKey_opensCommand takes now).symm.trans handled)
      have short := allowed List.mem_cons_self takes
      obtain ⟨holds, -⟩ := invariant.keeps.opens.resolve_right fun long => by
        exact absurd long.2 (Nat.not_lt.mpr short)
      exact ⟨not_command_of_takesCommand takes, holds.keeps (by decide), fun _ => holds⟩
    | @character character shown =>
      have place := handleCommandInput_types (handleKey_command shown handled)
      have line : next.cmdInput = ui.cmdInput.type character.val := congrArg Place.line place
      have previous : next.previousScreen = ui.previousScreen := congrArg Place.previous place
      have holds : next.cmdInput.Holds (typeBehind text character) := by
        rw [line]
        exact (invariant.holds shown).type character
      exact ⟨previous ▸ invariant.previous, holds.keeps (length_typeBehind text character),
        fun _ => holds⟩
    | erased shown =>
      have place := handleCommandInput_erases (handleKey_command shown handled)
      have line : next.cmdInput = ui.cmdInput.backspace := congrArg Place.line place
      have previous : next.previousScreen = ui.previousScreen := congrArg Place.previous place
      refine ⟨previous ▸ invariant.previous, ?_, fun _ => ?_⟩
      · rw [line]
        exact invariant.keeps.backspace (invariant.holds shown)
      · rw [line]
        exact (invariant.holds shown).backspace
    | other unopened unedited =>
      refine invariant.otherKey rfl (handleKey_moves handled) ?_ ?_
      · intro takes same
        exact unopened takes (same ▸ List.mem_singleton.mpr rfl)
      · intro shown
        obtain ⟨kept, unwritten⟩ := unedited shown
        refine ⟨fun same => ?_, fun character same => ?_⟩
        · exact kept (same ▸ List.mem_singleton.mpr rfl)
        · exact unwritten character (same ▸ List.mem_singleton.mpr rfl)

/-- A step after which the line is right was allowed. -/
theorem TypingStep.allowed (step : TypingStep before events after) (invariant : before.Invariant)
    (right : after.Right) : before.Allows events := by
  intro pressed takes
  obtain ⟨ui, text⟩ := before
  obtain ⟨next, typed⟩ := after
  obtain ⟨taken, types⟩ := step
  dsimp only at taken types
  cases types with
  | opened =>
    cases taken with
    | key now key handled =>
      obtain rfl := Except.ok.inj ((handleKey_opensCommand takes now).symm.trans handled)
      rcases invariant.keeps.opens with ⟨-, short⟩ | ⟨other, -⟩
      · exact short
      · exact absurd (right rfl).1 other
  | character | erased => exact nomatch List.mem_singleton.mp pressed
  | other unopened => exact absurd pressed (unopened takes)

end Steps

/-! ### Runs -/

/-- The client when it starts, with nothing typed. -/
def Typing.start : Typing := ⟨Ui.start, Text.empty⟩

theorem Typing.start_invariant : Typing.start.Invariant where
  previous := nofun
  keeps := rfl
  holds := nofun

/-- In a run of the client the command that is typed is the command that is read, in every state
with the command line open, exactly when F1 never opens the command line over more than one
character that was typed there before. -/
theorem command_typed_iff {visits : List (Visit Typing UiEvent)} {last : Typing}
    (steps : Steps (Recorded TypingStep) Typing.start visits last) :
    (∀ visit ∈ visits, visit.after.Right) ↔
      ∀ visit ∈ visits, visit.before.Allows visit.events :=
  steps.good_iff_allowed Typing.Invariant
    (fun step invariant _ => ⟨step.allowed invariant, fun allowed =>
      (step.invariant invariant allowed).right⟩)
    (fun step invariant _ right => step.invariant invariant (step.allowed invariant right))
    Typing.start_invariant Typing.start_invariant.right

/-- A client that has signed in, and has nothing typed. -/
theorem signedIn_typing : ∃ ui, ui.currentScreen = .servers ∧
    TypingStep Typing.start [.packet (authAnswer .login .ok)] ⟨ui, Text.empty⟩ := by
  have signs : (takeIn Ui.start (.packet (authAnswer .login .ok))).toOption.any
      (fun ui => ui.currentScreen = .servers) = true := by decide +kernel
  cases taken : takeIn Ui.start (.packet (authAnswer .login .ok)) with
  | error fault =>
    rw [taken] at signs
    cases signs
  | ok ui =>
    rw [taken] at signs
    refine ⟨ui, of_decide_eq_true signs, .packet 0 _ taken, .other ?_ ?_⟩
    · exact fun _ pressed => nomatch List.mem_singleton.mp pressed
    · exact fun shown => nomatch shown

theorem opens_typing {ui : Ui} {text : Text} (takes : ui.takesCommand) :
    TypingStep ⟨ui, text⟩ [.key .f1] ⟨ui.openCommandLine, slash⟩ :=
  ⟨.key 0 _ (handleKey_opensCommand takes 0), .opened takes⟩

theorem takes_commandKey {ui next : Ui} {key : Key} (shown : ui.currentScreen = .command)
    (handled : handleCommandInput 0 key ui = .ok next) : UiStep ui [.key key] next := by
  refine .key 0 _ ?_
  rw [handleKey, shown]
  exact handled

theorem types_typing {ui : Ui} {text : Text} (shown : ui.currentScreen = .command)
    (character : Printable) : ∃ next : Ui,
      next.currentScreen = .command ∧ next.previousScreen = ui.previousScreen ∧
        TypingStep ⟨ui, text⟩ [.key (.printable character)] ⟨next, typeBehind text character⟩ := by
  by_cases room : ui.cmdInput.length < maxMsgLen - 1
  · refine ⟨{ ui with
        cmdInput := ui.cmdInput.type character.val
        commandStatusMsg := Text.empty
        showHelp := false }, shown, rfl, takes_commandKey shown ?_, .character shown⟩
    exact congrArg Except.ok (if_pos room)
  · refine ⟨ui, shown, rfl, takes_commandKey shown ?_, .character shown⟩
    exact congrArg Except.ok (if_neg room)

theorem erases_typing {ui : Ui} {text : Text} (shown : ui.currentScreen = .command) :
    ∃ next : Ui, next.currentScreen = .command ∧ next.previousScreen = ui.previousScreen ∧
      TypingStep ⟨ui, text⟩ [.key .backspace] ⟨next, eraseLast text⟩ :=
  ⟨{ ui with cmdInput := ui.cmdInput.backspace, showHelp := false }, shown, rfl,
    takes_commandKey shown rfl, .erased shown⟩

theorem cancels_typing {ui : Ui} {text : Text} (shown : ui.currentScreen = .command)
    (list : ui.previousScreen.IsList) :
    ∃ next : Ui, next.takesCommand ∧ TypingStep ⟨ui, text⟩ [.key .escape] ⟨next, text⟩ := by
  refine ⟨{ ui with currentScreen := ui.previousScreen, showHelp := false }, Or.inl list,
    takes_commandKey shown rfl, .other ?_ fun _ => ?_⟩
  · exact fun takes => absurd shown (not_command_of_takesCommand takes)
  · refine ⟨fun pressed => ?_, fun _ pressed => ?_⟩ <;>
    · exact nomatch List.mem_singleton.mp pressed

/-- A key that does not open the line is allowed. -/
theorem Typing.allows_otherKey {state : Typing} {key : Key} (other : key ≠ .f1) :
    state.Allows [.key key] := by
  intro pressed
  cases List.mem_singleton.mp pressed
  exact absurd rfl other

/-- A character is typed on the command line and erased again, ESC closes the line, and F1 opens it
once more. -/
theorem command_typed_again : ∃ character visits last,
    Steps (Recorded TypingStep) Typing.start visits last ∧
      last.ui.currentScreen = .command ∧ (visits.map Visit.events).flatten =
        [.packet (authAnswer .login .ok), .key .f1, .key (.printable character),
          .key .backspace, .key .escape, .key .f1] ∧
      ∀ visit ∈ visits, visit.after.Right := by
  have character : Printable := ⟨97, by decide⟩
  obtain ⟨ui, shown, signsIn⟩ := signedIn_typing
  have opens := @opens_typing ui Text.empty (Or.inl (Or.inl shown))
  obtain ⟨typed, open', list, types⟩ := @types_typing ui.openCommandLine slash rfl character
  obtain ⟨erased, stays, back, erases⟩ := @erases_typing typed (typeBehind slash character) open'
  obtain ⟨closed, takes, cancels⟩ := @cancels_typing erased
    (eraseLast (typeBehind slash character)) stays (back.trans list ▸ Or.inl shown)
  have again := @opens_typing closed (eraseLast (typeBehind slash character)) takes
  have steps := (((((Steps.single (Recorded.take signsIn)).more (.take opens)).more
    (.take types)).more (.take erases)).more (.take cancels)).more (.take again)
  refine ⟨character, _, _, steps, rfl, rfl, (command_typed_iff steps).mpr fun visit member => ?_⟩
  simp only [List.mem_append, List.mem_singleton] at member
  rcases member with ((((first | second) | third) | fourth) | fifth) | last
  · rw [first]
    exact fun pressed => nomatch List.mem_singleton.mp pressed
  · rw [second]
    exact fun _ _ => Nat.zero_le _
  · rw [third]
    exact Typing.allows_otherKey nofun
  · rw [fourth]
    exact Typing.allows_otherKey nofun
  · rw [fifth]
    exact Typing.allows_otherKey nofun
  · rw [last]
    exact fun _ _ => Nat.le_refl 1

/-- A command that is cancelled with ESC stands on the command line when F1 opens it again. -/
theorem command_reappears : ¬ ∀ (visits : List (Visit Typing UiEvent)) (last : Typing),
    Steps (Recorded TypingStep) Typing.start visits last →
      ∀ visit ∈ visits, visit.after.Right := by
  intro claim
  have character : Printable := ⟨97, by decide⟩
  obtain ⟨ui, shown, signsIn⟩ := signedIn_typing
  have opens := @opens_typing ui Text.empty (Or.inl (Or.inl shown))
  obtain ⟨typed, open', list, types⟩ := @types_typing ui.openCommandLine slash rfl character
  obtain ⟨closed, takes, cancels⟩ := @cancels_typing typed (typeBehind slash character) open'
    (list ▸ Or.inl shown)
  have again := @opens_typing closed (typeBehind slash character) takes
  have steps := (((Steps.single (Recorded.take signsIn)).more (.take opens)).more
    (.take types)).more (.take cancels)
  have right : Typing.Right ⟨closed.openCommandLine, slash⟩ :=
    claim _ _ (steps.more (.take again)) _ (List.mem_append_right _ List.mem_cons_self)
  have first := signsIn.invariant Typing.start_invariant
    fun pressed => nomatch List.mem_singleton.mp pressed
  have second := opens.invariant first fun _ _ => Nat.zero_le _
  have third := types.invariant second (Typing.allows_otherKey nofun)
  have fourth := cancels.invariant third (Typing.allows_otherKey nofun)
  have short := again.allowed fourth right List.mem_cons_self takes
  have long : (typeBehind slash character).bytes.length = 2 := rfl
  dsimp only at short
  omega

end Tizcord
