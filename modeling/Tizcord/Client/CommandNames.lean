/-
This file compares the commands that create something with those that delete it.
The former cut the name and strip the spaces behind it; the latter look for the
argument as it stands. So what was created is found again only where there was
nothing to cut and nothing to strip.
-/

import Tizcord.Client.Commands
import Tizcord.Client.Views

namespace Tizcord

open CModel

/-! ### Commands about names -/

/-- What is created and deleted by name. -/
inductive Named where
  | server | channel

namespace Named

def createCommand : Named → Text
  | .server => Text.ofString "/createserver "
  | .channel => Text.ofString "/createchannel "

def deleteCommand : Named → Text
  | .server => Text.ofString "/deleteserver "
  | .channel => Text.ofString "/deletechannel "

/-- A request to create something under a name. -/
def Creates (packet : TizcordPacket) (name : Text) : Named → Prop
  | .server => packet.request = some (.server .create) ∧ packet.serverServerName [] = name
  | .channel => packet.request = some (.channel .create) ∧ packet.channelChannelName [] = name

def deleteRequest (now id : Int) : Named → TizcordPacket
  | .server => (Client.serverRequest now .delete).setServerServerId id
  | .channel => (Client.channelRequest now .delete).setChannelChannelId id

/-- What the client lists under a name has an id: the first server with that name, or the first
channel of the active server, as long as its chat is behind the command line. -/
def Lists (ui : Ui) (name : Text) (id : Int) : Named → Prop
  | .server => ∃ index, ui.servers.find? (fun entry => entry.name = name) = some index ∧
      (ui.servers.slot index).id = id
  | .channel => ui.previousScreen = .chat ∧ ∃ server, ui.openServer = some server ∧
      ∃ index, (ui.servers.slot server).channels.find? (fun channel => channel.name = name) =
          some index ∧
        ((ui.servers.slot server).channels.slot index).id = id

/-- What is listed under two names does not go by one id in requests. -/
def OneName (ui : Ui) (kind : Named) : Prop :=
  ∀ name other id otherId, kind.Lists ui name id → kind.Lists ui other otherId →
    signed 64 id = signed 64 otherId → name = other

theorem createCommand_mem (kind : Named) : kind.createCommand ∈ nameCommands := by
  cases kind <;> decide +kernel

theorem deleteCommand_mem (kind : Named) : kind.deleteCommand ∈ nameCommands := by
  cases kind <;> decide +kernel

section Requests

variable {now id otherId : Int} {packet : TizcordPacket} {name argument : Text} {ui : Ui}

theorem serverRequest_creates (short : name.bytes.length < maxNameLen) :
    Named.server.Creates ((Client.serverRequest now .create).strncpyServerServerName name) name := by
  refine ⟨TizcordPacket.request_of_serverAction ?_ ?_, ?_⟩
  · simp (disch := decide) [Client.serverRequest, createBasePacket, TizcordPacket.type,
      TizcordPacket.setType, TizcordPacket.setTimestamp, TizcordPacket.setServerAction,
      TizcordPacket.strncpyServerServerName, signed_code]
  · simp (disch := decide) [Client.serverRequest, TizcordPacket.serverAction,
      TizcordPacket.setServerAction, TizcordPacket.strncpyServerServerName]
  · have cut := Image.text_of_slice
      ((Client.serverRequest now .create).strncpyServerServerName name) [] (by decide)
      (Image.slice_strncpy_same (Client.serverRequest now .create) 64 (maxNameLen - 1) name
        (by decide) (by
          simp (disch := decide) [Client.serverRequest, createBasePacket, TizcordPacket.setType,
            TizcordPacket.setTimestamp, TizcordPacket.setServerAction]))
    rw [Text.take_of_length_le (Nat.le_sub_one_of_lt short)] at cut
    exact cut

theorem channelRequest_creates {serverId : Int} (short : name.bytes.length < maxNameLen) :
    Named.channel.Creates (((Client.channelRequest now .create).setChannelServerId
      serverId).strncpyChannelChannelName name) name := by
  refine ⟨ChannelAction.ofCode_eq ?_ ?_, ?_⟩
  · simp (disch := decide) [Client.channelRequest, createBasePacket, TizcordPacket.type,
      TizcordPacket.setType, TizcordPacket.setTimestamp, TizcordPacket.setChannelAction,
      TizcordPacket.setChannelServerId, TizcordPacket.strncpyChannelChannelName, signed_code]
  · simp (disch := decide) [Client.channelRequest, TizcordPacket.channelAction,
      TizcordPacket.setChannelAction, TizcordPacket.setChannelServerId,
      TizcordPacket.strncpyChannelChannelName]
    rfl
  · have cut := Image.text_of_slice
      (((Client.channelRequest now .create).setChannelServerId serverId).strncpyChannelChannelName
        name) [] (by decide)
      (Image.slice_strncpy_same ((Client.channelRequest now .create).setChannelServerId serverId)
        64 (maxNameLen - 1) name (by decide) (by
          simp (disch := decide) [Client.channelRequest, createBasePacket, TizcordPacket.setType,
            TizcordPacket.setTimestamp, TizcordPacket.setChannelAction,
            TizcordPacket.setChannelServerId]))
    rw [Text.take_of_length_le (Nat.le_sub_one_of_lt short)] at cut
    exact cut

/-- A request to delete shows the id, as far as it fits. -/
theorem deleteRequest_injective {kind : Named}
    (same : kind.deleteRequest now id = kind.deleteRequest now otherId) :
    signed 64 id = signed 64 otherId := by
  cases kind with
  | server =>
    have ids := congrArg TizcordPacket.serverServerId same
    simpa (disch := decide) [deleteRequest, TizcordPacket.serverServerId,
      TizcordPacket.setServerServerId] using ids
  | channel =>
    have ids := congrArg TizcordPacket.channelChannelId same
    simpa (disch := decide) [deleteRequest, TizcordPacket.channelChannelId,
      TizcordPacket.setChannelChannelId] using ids

/-! ### What the commands send -/

/-- What is created is the name that the command makes of its argument. -/
theorem creates_of_submits {kind : Named}
    (submits : ui.Submits now (kind.createCommand.append argument) packet) :
    ui.connected = true ∧ kind.Creates packet
      (commandName kind.createCommand.bytes.length (kind.createCommand.append argument)) := by
  have command := commandOf_of_startsWith kind.createCommand_mem
    (startsWith_append kind.createCommand argument)
  have short : (commandName kind.createCommand.bytes.length
      (kind.createCommand.append argument)).bytes.length < maxNameLen :=
    (length_stripTrailing _).trans_lt (length_storedName _)
  cases kind with
  | server =>
    have is : commandOf Named.server.createCommand = .createServer := by decide +kernel
    have start : Named.server.createCommand.bytes.length = 14 := by decide +kernel
    rw [start] at short ⊢
    generalize Named.server.createCommand.append argument = line at submits command short ⊢
    have ran : runCommand now line ui (commandOf line) = .ok (createServerCommand now line ui) := by
      rw [command, is]
      rfl
    have sent := (Ui.submits_iff submits.shown submits.line ran).mp submits
    rw [createServerCommand] at sent
    dsimp only at sent
    split at sent
    · exact absurd (List.self_eq_append_right.mp sent) (List.cons_ne_nil _ _)
    · obtain ⟨connected, rfl⟩ := (safeSendPacket_requests _ _).mp sent
      exact ⟨connected, serverRequest_creates short⟩
  | channel =>
    have is : commandOf Named.channel.createCommand = .createChannel := by decide +kernel
    have start : Named.channel.createCommand.bytes.length = 15 := by decide +kernel
    rw [start] at short ⊢
    generalize Named.channel.createCommand.append argument = line at submits command short ⊢
    have ran : runCommand now line ui (commandOf line) =
        .ok (createChannelCommand now line ui) := by
      rw [command, is]
      rfl
    have sent := (Ui.submits_iff submits.shown submits.line ran).mp submits
    have nothing : ui.requests ≠ ui.requests ++ [packet] := fun same =>
      absurd (List.self_eq_append_right.mp same) (List.cons_ne_nil _ _)
    rw [createChannelCommand] at sent
    dsimp only at sent
    split at sent
    · exact absurd sent nothing
    · split at sent
      · exact absurd sent nothing
      · split at sent
        · exact absurd sent nothing
        · obtain ⟨connected, rfl⟩ := (safeSendPacket_requests _ _).mp sent
          exact ⟨connected, channelRequest_creates short⟩

/-- A command that has looked for something sends a request for it if it was found and has an
id. -/
theorem sends_found_iff {Index : Type} (found : Option Index) (idOf : Index → Int)
    (request : Int → TizcordPacket) (success failure : String) :
    (if found.elim (-1) idOf ≠ -1 then
        (Client.safeSendPacket (request (found.elim (-1) idOf)) ui).say success
      else ui.say failure).requests = ui.requests ++ [packet] ↔
    ∃ id, (∃ index, found = some index ∧ idOf index = id) ∧
      id ≠ -1 ∧ ui.connected = true ∧ request id = packet := by
  have nothing : ui.requests ≠ ui.requests ++ [packet] := fun same =>
    absurd (List.self_eq_append_right.mp same) (List.cons_ne_nil _ _)
  cases found with
  | none =>
    rw [Option.elim_none, if_neg (not_not.mpr rfl)]
    refine ⟨fun sent => absurd sent nothing, ?_⟩
    rintro ⟨_, ⟨_, none', -⟩, -⟩
    cases none'
  | some index =>
    rw [Option.elim_some]
    by_cases known : idOf index ≠ -1
    · rw [if_pos known]
      refine (safeSendPacket_requests (request (idOf index)) ui).trans ⟨fun sent => ?_, ?_⟩
      · exact ⟨idOf index, ⟨index, rfl, rfl⟩, known, sent⟩
      · rintro ⟨_, ⟨_, same, rfl⟩, -, sent⟩
        obtain rfl := Option.some.inj same
        exact sent
    · rw [if_neg known]
      refine ⟨fun sent => absurd sent nothing, ?_⟩
      rintro ⟨_, ⟨_, same, rfl⟩, is, -⟩
      obtain rfl := Option.some.inj same
      exact absurd is known

/-- What is deleted is what is listed under the argument, unless it has no id. -/
theorem submits_delete_iff {kind : Named} (shown : ui.currentScreen = .command)
    (typed : ui.cmdInput.text = kind.deleteCommand.append argument) :
    ui.Submits now (kind.deleteCommand.append argument) packet ↔
      ∃ id, kind.Lists ui argument id ∧
        id ≠ -1 ∧ ui.connected = true ∧ kind.deleteRequest now id = packet := by
  have command := commandOf_of_startsWith kind.deleteCommand_mem
    (startsWith_append kind.deleteCommand argument)
  have named := drop_append kind.deleteCommand argument
  cases kind with
  | server =>
    have is : commandOf Named.server.deleteCommand = .deleteServer := by decide +kernel
    have start : Named.server.deleteCommand.bytes.length = 14 := by decide +kernel
    rw [start] at named
    generalize Named.server.deleteCommand.append argument = line at command named typed ⊢
    have ran : runCommand now line ui (commandOf line) = .ok (deleteServerCommand now line ui) := by
      rw [command, is]
      rfl
    rw [Ui.submits_iff shown typed ran, deleteServerCommand]
    dsimp only
    rw [named]
    exact sends_found_iff _ (fun index => (ui.servers.slot index).id)
      (fun id => Named.server.deleteRequest now id) _ _
  | channel =>
    have is : commandOf Named.channel.deleteCommand = .deleteChannel := by decide +kernel
    have start : Named.channel.deleteCommand.bytes.length = 15 := by decide +kernel
    rw [start] at named
    generalize Named.channel.deleteCommand.append argument = line at command named typed ⊢
    have ran : runCommand now line ui (commandOf line) =
        .ok (deleteChannelCommand now line ui) := by
      rw [command, is]
      rfl
    have nothing : ui.requests ≠ ui.requests ++ [packet] := fun same =>
      absurd (List.self_eq_append_right.mp same) (List.cons_ne_nil _ _)
    rw [Ui.submits_iff shown typed ran, deleteChannelCommand]
    dsimp only
    rw [named]
    by_cases behind : ui.previousScreen = .chat
    · rw [if_neg (not_not.mpr behind)]
      cases opened : ui.openServer with
      | none =>
        refine ⟨fun sent => absurd sent nothing, ?_⟩
        rintro ⟨_, ⟨-, _, none', -⟩, -⟩
        exact absurd (opened.symm.trans none') (Option.some_ne_none _).symm
      | some server =>
        refine (sends_found_iff _ (fun index => ((ui.servers.slot server).channels.slot index).id)
          (fun id => Named.channel.deleteRequest now id) _ _).trans ?_
        refine exists_congr fun id => and_congr_left fun _ => ⟨fun found => ?_, ?_⟩
        · exact ⟨behind, server, opened, found⟩
        · rintro ⟨-, other, same, found⟩
          obtain rfl := Option.some.inj (opened.symm.trans same)
          exact found
    · rw [if_pos behind]
      refine ⟨fun sent => absurd sent nothing, ?_⟩
      rintro ⟨_, ⟨chat, -⟩, -⟩
      exact absurd chat behind

end Requests

/-- What is listed under a name is listed with one id. -/
theorem Lists.unique {kind : Named} {ui : Ui} {name : Text} {id otherId : Int}
    (listed : kind.Lists ui name id) (also : kind.Lists ui name otherId) : id = otherId := by
  cases kind with
  | server =>
    obtain ⟨index, found, rfl⟩ := listed
    obtain ⟨other, same, rfl⟩ := also
    rw [Option.some.inj (found.symm.trans same)]
  | channel =>
    obtain ⟨-, server, opened, index, found, rfl⟩ := listed
    obtain ⟨-, other, openedToo, same, sameId, rfl⟩ := also
    obtain rfl := Option.some.inj (opened.symm.trans openedToo)
    rw [Option.some.inj (found.symm.trans sameId)]

end Named

/-! ### Main theorem -/

/-- Where a line has made the client request a server with a certain name, or a channel, and
something is listed under this name, the line to delete it with the same argument makes the client
send the request to delete it exactly when it has an id and the argument has room in a name and no
space at its end. -/
theorem delete_finds_created_iff {kind : Named} {argument : Text} {now : Int} {ui : Ui}
    {packet : TizcordPacket} (created : ui.Submits now (kind.createCommand.append argument) packet)
    {name : Text} (named : kind.Creates packet name) {later : Int} {after : Ui}
    (shown : after.currentScreen = .command)
    (typed : after.cmdInput.text = kind.deleteCommand.append argument)
    {id : Int} (listed : kind.Lists after name id)
    (oneName : kind.OneName after) :
    after.Submits later (kind.deleteCommand.append argument) (kind.deleteRequest later id) ↔
      id ≠ -1 ∧ after.connected = true ∧ argument.bytes.length < maxNameLen ∧
        argument.bytes.getLast? ≠ some 32 := by
  obtain ⟨-, requested⟩ := Named.creates_of_submits created
  have made : commandName kind.createCommand.bytes.length (kind.createCommand.append argument) =
      name := by
    cases kind with
    | server | channel => exact requested.2.symm.trans named.2
  rw [Named.submits_delete_iff shown typed,
    ← commandName_append_iff kind.createCommand argument, made]
  constructor
  · rintro ⟨found, listedToo, known, connected, same⟩
    have equal : argument = name :=
      oneName _ _ _ _ listedToo listed (Named.deleteRequest_injective same)
    rw [equal] at listedToo
    exact ⟨listedToo.unique listed ▸ known, connected, equal.symm⟩
  · rintro ⟨known, connected, rfl⟩
    exact ⟨id, listed, known, connected, rfl⟩

/-! ### A server that is created and deleted -/

/-- The user signs in and types the command to create a server. -/
def createRounds (argument : Text) : List UiRound :=
  [.of (authAnswer .login .ok),
    .press (.f1 :: typeText ((Text.ofString "createserver ").append argument))]

/-- The user creates the server, gets the list of servers, and types the command to delete it. -/
def deleteRounds (argument : Text) : List UiRound :=
  createRounds argument ++ [.press [.enter], .of (serverRow .list 1 1),
    .press (.f1 :: typeText ((Text.ofString "deleteserver ").append argument))]

theorem submits_create {now : Int} {ui : Ui} {argument : Text}
    (shown : ui.currentScreen = .command)
    (typed : ui.cmdInput.text = Named.server.createCommand.append argument)
    (connected : ui.connected = true)
    (named : commandName 14 (Named.server.createCommand.append argument) ≠ Text.empty) :
    ui.Submits now (Named.server.createCommand.append argument)
      ((Client.serverRequest now .create).strncpyServerServerName
        (commandName 14 (Named.server.createCommand.append argument))) := by
  have command := commandOf_of_startsWith Named.server.createCommand_mem
    (startsWith_append Named.server.createCommand argument)
  have is : commandOf Named.server.createCommand = .createServer := by decide +kernel
  generalize Named.server.createCommand.append argument = line at command named typed ⊢
  have ran : runCommand now line ui (commandOf line) = .ok (createServerCommand now line ui) := by
    rw [command, is]
    rfl
  rw [Ui.submits_iff shown typed ran, createServerCommand]
  dsimp only
  rw [if_neg named]
  exact (safeSendPacket_requests _ _).mpr ⟨connected, rfl⟩

/-- Of one server in the list there is one name. -/
theorem oneName_of_single {ui : Ui} (single : ui.servers.count = 1) : Named.server.OneName ui := by
  have first : ∀ {name : Text} {index : Fin uiMaxServers},
      ui.servers.find? (fun entry => entry.name = name) = some index →
        index.val = 0 ∧ (ui.servers.slot index).name = name := by
    intro name index found
    obtain ⟨used, is⟩ := SlotArray.find?_eq_some found
    exact ⟨Nat.lt_one_iff.mp (single ▸ used), of_decide_eq_true is⟩
  rintro name other id otherId ⟨index, found, -⟩ ⟨otherIndex, foundToo, -⟩ -
  obtain ⟨zero, rfl⟩ := first found
  obtain ⟨zeroToo, rfl⟩ := first foundToo
  rw [Fin.ext (zero.trans zeroToo.symm)]

/-- The server `b` is created, and deleted again. -/
theorem delete_finds_created_iff_letter : ∃ ui packet after, runUi (createRounds Text.letterB)
      Ui.start = .ok ui ∧ runUi (deleteRounds Text.letterB) Ui.start = .ok after ∧
    ui.Submits 0 (Named.server.createCommand.append Text.letterB) packet ∧
    after.Submits 0 (Named.server.deleteCommand.append Text.letterB)
      (Named.server.deleteRequest 0 1) := by
  obtain ⟨ui, ran, shown, typed, connected⟩ : ∃ ui, runUi (createRounds Text.letterB) Ui.start =
      .ok ui ∧ ui.currentScreen = .command ∧
        ui.cmdInput.text = Named.server.createCommand.append Text.letterB ∧ ui.connected = true :=
    reached_of_any (by decide +kernel)
  obtain ⟨after, ranAfter, shownAfter, typedAfter, connectedAfter, found, id, single⟩ :
      ∃ after, runUi (deleteRounds Text.letterB) Ui.start = .ok after ∧
        after.currentScreen = .command ∧
        after.cmdInput.text = Named.server.deleteCommand.append Text.letterB ∧
        after.connected = true ∧
        after.servers.find? (fun entry => entry.name = Text.letterB) = some 0 ∧
        (after.servers.slot 0).id = 1 ∧ after.servers.count = 1 :=
    reached_of_any (by decide +kernel)
  have name : commandName 14 (Named.server.createCommand.append Text.letterB) = Text.letterB := by
    decide +kernel
  have created := @submits_create 0 ui Text.letterB shown typed connected (by rw [name]; decide)
  rw [name] at created
  refine ⟨ui, _, after, ran, ranAfter, created, ?_⟩
  exact (delete_finds_created_iff created (Named.serverRequest_creates (by decide)) shownAfter
    typedAfter ⟨0, found, id⟩ (oneName_of_single single)).mpr
      ⟨by decide, connectedAfter, by decide, by decide⟩

/-- The letter `b` and a space. -/
def spacedLetter : Text := Text.letterB.append (Text.ofString " ")

/-- A server that is created with a space behind its name is not found with this space. -/
theorem delete_misses_created : ∃ ui packet after, runUi (createRounds spacedLetter) Ui.start =
      .ok ui ∧ runUi (deleteRounds spacedLetter) Ui.start = .ok after ∧
    ui.Submits 0 (Named.server.createCommand.append spacedLetter) packet ∧
    Named.server.Creates packet Text.letterB ∧ Named.server.Lists after Text.letterB 1 ∧
    after.currentScreen = .command ∧ after.connected = true ∧
    after.cmdInput.text = Named.server.deleteCommand.append spacedLetter ∧
    ∀ request, ¬ after.Submits 0 (Named.server.deleteCommand.append spacedLetter) request := by
  obtain ⟨ui, ran, shown, typed, connected⟩ : ∃ ui, runUi (createRounds spacedLetter) Ui.start =
      .ok ui ∧ ui.currentScreen = .command ∧
        ui.cmdInput.text = Named.server.createCommand.append spacedLetter ∧ ui.connected = true :=
    reached_of_any (by decide +kernel)
  obtain ⟨after, ranAfter, shownAfter, typedAfter, connectedAfter, found, id, missing⟩ :
      ∃ after, runUi (deleteRounds spacedLetter) Ui.start = .ok after ∧
        after.currentScreen = .command ∧
        after.cmdInput.text = Named.server.deleteCommand.append spacedLetter ∧
        after.connected = true ∧
        after.servers.find? (fun entry => entry.name = Text.letterB) = some 0 ∧
        (after.servers.slot 0).id = 1 ∧
        after.servers.find? (fun entry => entry.name = spacedLetter) = none :=
    reached_of_any (by decide +kernel)
  have name : commandName 14 (Named.server.createCommand.append spacedLetter) = Text.letterB := by
    decide +kernel
  have created := @submits_create 0 ui spacedLetter shown typed connected (by rw [name]; decide)
  rw [name] at created
  refine ⟨ui, _, after, ran, ranAfter, created, Named.serverRequest_creates (by decide),
    ⟨0, found, id⟩, shownAfter, connectedAfter, typedAfter, fun request submits => ?_⟩
  obtain ⟨_, ⟨index, listed, -⟩, -⟩ := (Named.submits_delete_iff shownAfter typedAfter).mp submits
  exact absurd (missing.symm.trans listed) (Option.some_ne_none _).symm

end Tizcord
