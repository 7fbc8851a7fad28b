/-
This file is about status updates on the server: which texts are stored, who is
told, and what the rows of the lists of all users show afterwards. A text that
does not fit is refused before it reaches the database, so nothing is ever cut.
-/

import Tizcord.Server.Friendships
import Tizcord.Server.Streams

namespace Tizcord

open CModel

/-! ### Status packets -/

/-- The packet tells how a status update of a user has ended, and the status. -/
structure TellsStatus (code : ResponseCode) (userId : Int) (statusText : Text)
    (packet : TizcordPacket) : Prop where
  request : packet.request = some (.social .updateStatus)
  code : packet.socialStatusCode = code.code
  user : packet.socialTargetUserId = userId
  text : ∀ beyond, packet.socialTargetStatus beyond = statusText

theorem sendStatusUpdatePacket_sends (env : Env) (fd : Int) (code : ResponseCode) {userId : Int}
    (known : signed 64 userId = userId) (username : Text) (statusText : Option Text)
    (isOnline : Bool) (process : Process) :
    ∃ answer, TellsStatus code userId ((statusText.getD Text.empty).take profileStatusLen) answer ∧
      sendStatusUpdatePacket env fd code userId username statusText isOnline process =
        process.send env fd answer := by
  refine ⟨_, ⟨SocialAction.ofCode_eq ?_ ?_, ?_, ?_, fun beyond => ?_⟩, rfl⟩
  · cases statusText <;>
      simp (disch := decide) only [Option.elim_none, Option.elim_some,
        TizcordPacket.setSocialAction, TizcordPacket.setSocialStatus,
        TizcordPacket.setSocialTargetUserId, TizcordPacket.strncpySocialTargetUsername,
        TizcordPacket.strncpySocialTargetStatus, TizcordPacket.setSocialStatusCode, type_putInt32,
        type_putInt64, type_strncpy, type_basePacket] <;>
      rfl
  · cases statusText <;>
      simp (disch := decide) [TizcordPacket.socialAction, TizcordPacket.setSocialAction,
        TizcordPacket.setSocialStatus, TizcordPacket.setSocialTargetUserId,
        TizcordPacket.strncpySocialTargetUsername, TizcordPacket.strncpySocialTargetStatus,
        TizcordPacket.setSocialStatusCode] <;>
      rfl
  · cases statusText <;>
      simp (disch := decide) [TizcordPacket.socialStatusCode, TizcordPacket.setSocialAction,
        TizcordPacket.setSocialStatus, TizcordPacket.setSocialTargetUserId,
        TizcordPacket.strncpySocialTargetUsername, TizcordPacket.strncpySocialTargetStatus,
        TizcordPacket.setSocialStatusCode] <;>
      cases code <;> rfl
  · cases statusText <;>
      simp (disch := decide) [TizcordPacket.socialTargetUserId, TizcordPacket.setSocialAction,
        TizcordPacket.setSocialStatus, TizcordPacket.setSocialTargetUserId,
        TizcordPacket.strncpySocialTargetUsername, TizcordPacket.strncpySocialTargetStatus,
        TizcordPacket.setSocialStatusCode, known]
  · cases statusText with
    | none =>
      refine @Image.text_of_slice _ _ 88 0 Text.empty beyond (by decide) ?_
      simp (disch := decide) [Process.basePacket, createBasePacket, TizcordPacket.setType,
        TizcordPacket.setTimestamp, TizcordPacket.setSocialAction,
        TizcordPacket.setSocialStatusCode, TizcordPacket.setSocialStatus,
        TizcordPacket.setSocialTargetUserId, TizcordPacket.strncpySocialTargetUsername,
        strncpyBytes]
    | some statusText =>
      refine Image.text_of_slice _ beyond (by decide)
        (Image.slice_strncpy_same _ _ _ _ (by decide) ?_)
      simp (disch := decide) [Process.basePacket, createBasePacket, TizcordPacket.setType,
        TizcordPacket.setTimestamp, TizcordPacket.setSocialAction,
        TizcordPacket.setSocialStatusCode, TizcordPacket.setSocialStatus,
        TizcordPacket.setSocialTargetUserId, TizcordPacket.strncpySocialTargetUsername]

/-- A text in the field that ends inside it is read from the field alone. -/
theorem socialTargetStatus_of_short {packet : TizcordPacket}
    (short : statusLength packet ≤ profileStatusLen) (beyond : List UInt8) :
    packet.socialTargetStatus beyond = cString packet.socialTargetStatusField := by
  refine Image.text_of_terminated _ _ _ _ (by decide) (mem_of_length_cString_lt ?_)
  have length : packet.socialTargetStatusField.length = profileStatusLen + 1 :=
    Image.length_slice ..
  exact Nat.lt_of_le_of_lt short (length ▸ Nat.lt_succ_self _)

/-! ### The status in the tables -/

/-- The tables with a new status of a user. -/
def Tables.withStatus (tables : Tables) (userId : Int) (statusText : Text) : Tables :=
  { tables with
    users := tables.users.map fun row =>
      if (row.id : Int) = userId then { row with status := statusText } else row }

theorem characterCount_le_length (text : Text) : characterCount text ≤ text.bytes.length := by
  have count : ∀ (bytes : List UInt8) (inside : Bool),
      characterCount.count inside bytes ≤ bytes.length := by
    intro bytes
    induction bytes with
    | nil => exact fun _ => Nat.le_refl 0
    | cons byte rest inductionHypothesis =>
      intro inside
      rw [characterCount.count, List.length_cons]
      split
      · exact (inductionHypothesis true).trans (Nat.le_succ _)
      · exact Nat.succ_le_succ (inductionHypothesis _)
  exact count text.bytes false

theorem userIds_withStatus (tables : Tables) (userId : Int) (statusText : Text) :
    (tables.withStatus userId statusText).userIds = tables.userIds := by
  rw [Tables.userIds, Tables.withStatus, List.map_map]
  refine List.map_congr_left fun row _ => ?_
  dsimp only [Function.comp]
  split <;> rfl

/-- A status of at most 64 bytes violates no constraint. -/
theorem integrity_withStatus (database : Database) (userId : Int) {statusText : Text}
    (short : statusText.bytes.length ≤ profileStatusLen) :
    (database.toTables.withStatus userId statusText).Integrity := by
  have same := userIds_withStatus database.toTables userId statusText
  have key : ∀ {Key : Type} (key : UserRow → Key),
      (∀ row : UserRow, key { row with status := statusText } = key row) →
      UniqueOn key database.users →
      UniqueOn key (database.toTables.withStatus userId statusText).users :=
    fun key kept unique => unique.map fun row => by split <;> simp only [kept]
  exact { database.integrity with
    users_id := key _ (fun _ => rfl) database.integrity.users_id
    users_username := key _ (fun _ => rfl) database.integrity.users_username
    users_email := key _ (fun _ => rfl) database.integrity.users_email
    users_status := by
      intro row member
      obtain ⟨old, present, rfl⟩ := List.mem_map.mp member
      split
      · exact (characterCount_le_length statusText).trans short
      · exact database.integrity.users_status old present
    friends_user := same.symm ▸ database.integrity.friends_user
    friends_friend := same.symm ▸ database.integrity.friends_friend
    members_user := same.symm ▸ database.integrity.members_user
    messages_user := same.symm ▸ database.integrity.messages_user
    direct_sender := same.symm ▸ database.integrity.direct_sender
    direct_receiver := same.symm ▸ database.integrity.direct_receiver }

theorem countP_pos_of_mem_userIds {tables : Tables} {userId : Int} :
    0 < tables.users.countP (fun row => (row.id : Int) = userId) ↔ userId ∈ tables.userIds := by
  rw [List.countP_pos_iff, Tables.userIds, List.mem_map]
  simp only [decide_eq_true_eq]

/-- A call that updates a status has stored it for the user when its status is 0, and has done
nothing otherwise. -/
theorem dbUpdateUserStatus_cases {env : DbEnv} {before after : Database} {userId status : Int}
    {statusText : Text} (ran : dbUpdateUserStatus env before userId statusText = (after, status)) :
    status = 0 ∧ userId ∈ before.userIds ∧
        after.toTables = before.toTables.withStatus userId statusText ∨
      status = -1 ∧ after = before := by
  unfold dbUpdateUserStatus at ran
  dsimp only at ran
  split at ran
  · next succeeded =>
    obtain ⟨same, answered⟩ := Prod.mk.inj ran
    rcases runStatement_cases (Prod.ext same succeeded) with ⟨-, updated⟩ | ⟨failed, -⟩
    · have tables := Database.commit_eq_some.mp updated
      split at answered
      · next some' =>
        exact Or.inl ⟨answered.symm, countP_pos_of_mem_userIds.mp some', tables⟩
      · next none' =>
        refine Or.inr ⟨answered.symm, Database.ext (tables.trans ?_)⟩
        have untouched : (before.users.map fun row =>
            if (row.id : Int) = userId then { row with status := statusText } else row) =
              before.users := by
          refine (List.map_congr_left fun row member => ?_).trans (List.map_id _)
          refine if_neg fun own => none' (countP_pos_of_mem_userIds.mpr ?_)
          exact own ▸ List.mem_map_of_mem member
        rw [untouched]
    · exact absurd failed (by decide)
  · next failed =>
    rcases runStatement_cases ran with ⟨succeeded, -⟩ | unchanged
    · rw [ran] at failed
      exact absurd succeeded failed
    · exact Or.inr unchanged

/-- With a database that does not fail, a status of at most 64 bytes is stored. -/
theorem dbUpdateUserStatus_of_reliable {env : DbEnv} (reliable : env.Reliable)
    {database : Database} {userId : Int} (known : userId ∈ database.userIds) {statusText : Text}
    (short : statusText.bytes.length ≤ profileStatusLen) :
    ∃ after, dbUpdateUserStatus env database userId statusText = (after, 0) ∧
      after.toTables = database.toTables.withStatus userId statusText := by
  have committed : database.updateUserStatus userId statusText =
      some ⟨_, integrity_withStatus database userId short⟩ :=
    Database.commit_of_integrity (integrity_withStatus database userId short)
  refine ⟨⟨_, integrity_withStatus database userId short⟩, ?_, rfl⟩
  rw [dbUpdateUserStatus, runStatement_of_reliable reliable, committed]
  dsimp only
  rw [if_pos rfl, if_pos (countP_pos_of_mem_userIds.mpr known)]

/-! ### One status update -/

section Update

variable {env : Env} {index : Nat} {packet : TizcordPacket} {process : Process}

/-- The server stores a status for the user of the connection, and sends it to every connection
on which someone is signed in. -/
structure TakesStatus (env : Env) (index : Nat) (packet : TizcordPacket) (process : Process)
    (statusText : Text) : Prop where
  stored : (processClientPacket env index packet process).ctx.db.toTables =
    process.ctx.db.toTables.withStatus (process.clientAt index).id statusText
  told : ∃ pushes, handlingGain env index packet process =
      .handling (process.clientAt index).socketFd packet
        (process.ctx.userOf (process.clientAt index).socketFd) ::
      .called (.updateUserStatus (process.clientAt index).id statusText 0) :: pushes ∧
    SendsEach (process.ctx.clients.filter fun node => 0 < node.socketFd && node.isAuthenticated)
      (TellsStatus .ok (process.clientAt index).id statusText) pushes

/-- The server stores nothing, and tells nobody but the connection itself. -/
structure RefusesStatus (env : Env) (index : Nat) (packet : TizcordPacket) (process : Process) :
    Prop where
  kept : (processClientPacket env index packet process).ctx.db = process.ctx.db
  told : ∃ answer status, handlingGain env index packet process =
      [.handling (process.clientAt index).socketFd packet
          (process.ctx.userOf (process.clientAt index).socketFd),
        .sent (process.clientAt index).socketFd answer status
          (process.ctx.userOf (process.clientAt index).socketFd)] ∧
    TellsStatus .errInvalid (process.clientAt index).id Text.empty answer

theorem notifyUserStatusUpdate_sends {userId : Int} (known : signed 64 userId = userId)
    (username : Text) {statusText : Text} (short : statusText.bytes.length ≤ profileStatusLen)
    (process : Process) :
    (notifyUserStatusUpdate env userId username statusText process).ctx = process.ctx ∧
      ∃ gain, (notifyUserStatusUpdate env userId username statusText process).trace =
          process.trace ++ gain ∧
        SendsEach (process.ctx.clients.filter fun node =>
            0 < node.socketFd && node.isAuthenticated)
          (TellsStatus .ok userId statusText) gain := by
  refine @forClients_sends env (fun node => 0 < node.socketFd && node.isAuthenticated)
    (TellsStatus .ok userId statusText) _ process (fun index node other _ chosen => ?_)
    fun index node other skipped => ?_
  · rw [Bool.and_eq_true, decide_eq_true_eq] at chosen
    obtain ⟨answer, tells, sent⟩ := sendStatusUpdatePacket_sends env node.socketFd .ok known
      username (some statusText) (userIsOnline process.ctx userId) other
    rw [Option.getD_some, Text.take_of_length_le short] at tells
    exact ⟨answer, tells, (if_pos chosen).trans sent⟩
  · refine if_neg fun both => ?_
    rw [Bool.and_eq_false_iff] at skipped
    rcases skipped with closed | stranger
    · exact of_decide_eq_false closed both.1
    · exact absurd both.2 (stranger ▸ Bool.false_ne_true)

theorem updateStatus_refused (authenticated : (process.clientAt index).isAuthenticated = true)
    (known : (process.clientAt index).id ∈ process.ctx.db.userIds)
    (asked : packet.request = some (.social .updateStatus))
    (unfit : statusLength packet = 0 ∨ profileStatusLen < statusLength packet) :
    RefusesStatus env index packet process := by
  have handled : processClientPacket env index packet process = _ :=
    processClientPacket_social asked authenticated
  rw [handleSocialAction, updateStatus, if_pos unfit] at handled
  obtain ⟨answer, tells, sent⟩ := sendStatusUpdatePacket_sends env
    (process.clientAt index).socketFd .errInvalid (signed_userId known)
    (process.clientAt index).username.text none true (process.log
      (.handling (process.clientAt index).socketFd packet
        (process.ctx.userOf (process.clientAt index).socketFd)))
  rw [sent] at handled
  have logged := processClientPacket_trace env index packet process
  rw [handled] at logged
  have gained := List.append_cancel_left ((List.append_assoc ..).symm.trans logged)
  refine ⟨?_, answer, _, gained.symm, tells⟩
  rw [handled]
  rfl

theorem updateStatus_of_stored {client : ClientNode} {after : Database}
    (fit : 0 < statusLength packet ∧ statusLength packet ≤ profileStatusLen)
    (ran : dbUpdateUserStatus (env.db process.clock) process.ctx.db client.id
      (cString packet.socialTargetStatusField) = (after, 0)) (beyond : List UInt8) :
    updateStatus env beyond client packet process =
      notifyUserStatusUpdate env client.id client.username.text
        (cString packet.socialTargetStatusField)
        ((process.withDb after).log (.called (.updateUserStatus client.id
          (cString packet.socialTargetStatusField) 0))).tick := by
  have inRange : ¬ (statusLength packet = 0 ∨ profileStatusLen < statusLength packet) := by omega
  rw [updateStatus, if_neg inRange, socialTargetStatus_of_short fit.2]
  dsimp only
  rw [Process.change, ran]
  dsimp only
  rw [if_neg (not_not.mpr rfl)]

theorem updateStatus_taken (reliable : env.Reliable)
    (authenticated : (process.clientAt index).isAuthenticated = true)
    (known : (process.clientAt index).id ∈ process.ctx.db.userIds)
    (asked : packet.request = some (.social .updateStatus))
    (fit : 0 < statusLength packet ∧ statusLength packet ≤ profileStatusLen) :
    TakesStatus env index packet process (cString packet.socialTargetStatusField) := by
  obtain ⟨after, ran, stored⟩ :=
    dbUpdateUserStatus_of_reliable (reliable process.clock) known fit.2
  have updated := @updateStatus_of_stored env packet (process.log
    (.handling (process.clientAt index).socketFd packet
      (process.ctx.userOf (process.clientAt index).socketFd))) (process.clientAt index) after fit
    ran (env.beyond process.clock)
  have handled : processClientPacket env index packet process = _ :=
    (processClientPacket_social asked authenticated).trans updated
  obtain ⟨same, pushes, logged, each⟩ := @notifyUserStatusUpdate_sends env
    (process.clientAt index).id (signed_userId known) (process.clientAt index).username.text
    (cString packet.socialTargetStatusField) fit.2
    ((((process.log (.handling (process.clientAt index).socketFd packet
          (process.ctx.userOf (process.clientAt index).socketFd))).withDb after).log
        (.called (.updateUserStatus (process.clientAt index).id
          (cString packet.socialTargetStatusField) 0))).tick)
  have whole := processClientPacket_trace env index packet process
  rw [handled] at whole
  refine ⟨?_, pushes, ?_, each⟩
  · rw [handled, same]
    exact stored
  · refine List.append_cancel_left (whole.symm.trans (logged.trans ?_))
    rw [Process.tick, Process.log, Process.withDb, Process.log]
    simp

/-- The server stores the text of a status packet and tells the others exactly when the field holds
1 to 64 bytes before its first zero byte; otherwise it refuses the packet. -/
theorem takesStatus_iff (reliable : env.Reliable)
    (authenticated : (process.clientAt index).isAuthenticated = true)
    (known : (process.clientAt index).id ∈ process.ctx.db.userIds)
    (asked : packet.request = some (.social .updateStatus)) :
    (TakesStatus env index packet process (cString packet.socialTargetStatusField) ↔
      1 ≤ statusLength packet ∧ statusLength packet ≤ profileStatusLen) ∧
    (¬ (1 ≤ statusLength packet ∧ statusLength packet ≤ profileStatusLen) →
      RefusesStatus env index packet process) := by
  have refused : ¬ (1 ≤ statusLength packet ∧ statusLength packet ≤ profileStatusLen) →
      RefusesStatus env index packet process :=
    fun unfit => updateStatus_refused authenticated known asked (by omega)
  refine ⟨⟨fun taken => ?_, fun fit => ?_⟩, refused⟩
  · by_contra unfit
    obtain ⟨pushes, stored, -⟩ := taken.told
    obtain ⟨answer, status, alone, -⟩ := (refused unfit).told
    have second := List.cons_injective (alone.symm.trans stored)
    exact Effect.noConfusion (List.cons.inj second).1
  · exact updateStatus_taken reliable authenticated known asked fit

end Update

/-! ### Statuses in the record -/

/-- What an effect makes of the status of a user: an update that went through replaces it. -/
def Effect.setsStatus (userId : Int) (statusText : Text) : Effect → Text
  | .called (.updateUserStatus id newText status) =>
    if id = userId ∧ status = 0 then newText else statusText
  | _ => statusText

/-- The status of a user by the record: that of the last update that went through, and an empty
one before the first. -/
def recordedStatus (userId : Int) (trace : List Effect) : Text :=
  trace.foldl (Effect.setsStatus userId) Text.empty

/-- A row of a list of all users shows the status that its user had by the record when it was
sent, as far as it fits. -/
def RowsShowStatus (trace : List Effect) : Prop :=
  ∀ earlier fd copy status user later, trace = earlier ++ .sent fd copy status user :: later →
    IsUserRow copy → ∀ beyond, copy.socialTargetStatus beyond =
      (recordedStatus copy.socialTargetUserId earlier).take profileStatusLen

/-- The tables and the rows that were sent agree with the record about the statuses. -/
structure StatusesAgree (database : Database) (trace : List Effect) : Prop where
  stored : ∀ row ∈ database.users, row.status = recordedStatus row.id trace
  unknown : ∀ userId ∉ database.userIds, recordedStatus userId trace = Text.empty
  shown : RowsShowStatus trace

section Record

variable {trace : List Effect} {effect : Effect} {database before after : Database}

theorem recordedStatus_append_singleton (userId : Int) (trace : List Effect) (effect : Effect) :
    recordedStatus userId (trace ++ [effect]) =
      effect.setsStatus userId (recordedStatus userId trace) := by
  rw [recordedStatus, List.foldl_append]
  rfl

theorem RowsShowStatus.append (shown : RowsShowStatus trace)
    (row : ∀ fd copy status user, effect = .sent fd copy status user → IsUserRow copy →
      ∀ beyond, copy.socialTargetStatus beyond =
        (recordedStatus copy.socialTargetUserId trace).take profileStatusLen) :
    RowsShowStatus (trace ++ [effect]) := by
  intro earlier fd copy status user later split isRow
  rcases cut_append_singleton split with ⟨rfl, same, -⟩ | ⟨middle, -, before⟩
  · exact row fd copy status user same isRow
  · exact shown earlier fd copy status user middle before isRow

/-- An effect that stores no status, and shows users as they are in the tables. -/
theorem StatusesAgree.append (agree : StatusesAgree database trace)
    (sets : ∀ userId statusText, effect.setsStatus userId statusText = statusText)
    (row : ∀ fd copy status user, effect = .sent fd copy status user → IsUserRow copy →
      ShowsUser database copy) : StatusesAgree database (trace ++ [effect]) where
  stored row' member := by
    rw [recordedStatus_append_singleton, sets]
    exact agree.stored row' member
  unknown userId unknown := by
    rw [recordedStatus_append_singleton, sets]
    exact agree.unknown userId unknown
  shown := by
    refine agree.shown.append fun fd copy status user same isRow beyond => ?_
    obtain ⟨shown, member, id, text⟩ := row fd copy status user same isRow
    rw [text beyond, id, agree.stored shown member]

/-- An effect that is no packet and no call of the database. -/
theorem StatusesAgree.idle (agree : StatusesAgree database trace)
    (unsent : ∀ fd copy status user, effect ≠ .sent fd copy status user)
    (uncalled : ∀ call, effect ≠ .called call) : StatusesAgree database (trace ++ [effect]) := by
  refine agree.append (fun userId statusText => ?_) fun fd copy status user is =>
    absurd is (unsent fd copy status user)
  cases effect with
  | called call => exact absurd rfl (uncalled call)
  | started | accepted | rejected | received | handling | closed | sent | hashed => rfl

/-- A call that changes no user. -/
theorem StatusesAgree.call_same {call : DbCall} (agree : StatusesAgree before trace)
    (same : after.users = before.users)
    (sets : ∀ userId statusText, (Effect.called call).setsStatus userId statusText = statusText) :
    StatusesAgree after (trace ++ [.called call]) := by
  have called := agree.append sets fun _ _ _ _ is => Effect.noConfusion is
  have ids : after.userIds = before.userIds := by
    rw [Tables.userIds, same]
    rfl
  exact ⟨same.symm ▸ called.stored, ids.symm ▸ called.unknown, called.shown⟩

/-- A call of the database keeps the agreement. -/
theorem StatusesAgree.call {env : DbEnv} {call : DbCall} (agree : StatusesAgree before trace)
    (runs : call.Runs env before after) : StatusesAgree after (trace ++ [.called call]) := by
  have shown : RowsShowStatus (trace ++ [.called call]) :=
    agree.shown.append fun _ _ _ _ is => Effect.noConfusion is
  have frame := runs.frame
  cases call with
  | createUser username passwordHash created =>
    have recorded : ∀ userId, recordedStatus userId
        (trace ++ [.called (.createUser username passwordHash created)]) =
          recordedStatus userId trace := fun userId => recordedStatus_append_singleton ..
    rcases dbCreateUser_spec runs with ⟨-, rfl⟩ | ⟨id, -, fresh, tables⟩
    · exact agree.call_same rfl fun _ _ => rfl
    · refine ⟨fun row member => ?_, fun userId unknown => ?_, shown⟩
      · rw [tables] at member
        rw [recorded]
        rcases List.mem_append.mp member with old | new
        · exact agree.stored row old
        · rw [List.mem_singleton.mp new]
          exact (agree.unknown id fresh).symm
      · rw [recorded]
        refine agree.unknown userId fun known => unknown ?_
        rw [Tables.userIds, tables, List.map_append]
        exact List.mem_append_left _ known
  | updateUserStatus id newText status =>
    have recorded : ∀ userId, recordedStatus userId
        (trace ++ [.called (.updateUserStatus id newText status)]) =
          if id = userId ∧ status = 0 then newText else recordedStatus userId trace :=
      fun userId => recordedStatus_append_singleton ..
    rcases dbUpdateUserStatus_cases runs with ⟨rfl, known, tables⟩ | ⟨rfl, rfl⟩
    · refine ⟨fun row member => ?_, fun userId unknown => ?_, shown⟩
      · rw [tables] at member
        obtain ⟨old, present, rfl⟩ := List.mem_map.mp member
        rw [recorded]
        by_cases own : (old.id : Int) = id
        · rw [if_pos own, if_pos ⟨own.symm, rfl⟩]
        · rw [if_neg own, if_neg fun both => own both.1.symm]
          exact agree.stored old present
      · rw [tables, userIds_withStatus] at unknown
        rw [recorded, if_neg fun both : id = userId ∧ (0 : Int) = 0 => unknown (both.1 ▸ known)]
        exact agree.unknown userId unknown
    · exact agree.call_same rfl fun userId statusText => if_neg fun both => by cases both.2
  | _ => exact agree.call_same (congrArg Tables.users frame :) fun _ _ => rfl

/-- A step of the handling of a packet keeps the agreement. -/
theorem HandlerStep.statuses {env : Env} {fd : Int} {beyond : List UInt8} {packet : TizcordPacket}
    {first last : ServerContext} {effects : List Effect}
    (step : HandlerStep env fd beyond packet first effects last)
    (agree : StatusesAgree first.db trace) : StatusesAgree last.db (trace ++ effects) := by
  have noRow : ∀ {target copy status user}, ¬ IsUserRow copy →
      StatusesAgree first.db (trace ++ [.sent target copy status user]) := by
    intro target copy status user unlisted
    refine agree.append (fun _ _ => rfl) fun _ _ _ _ is isRow => absurd ?_ unlisted
    rwa [← (Effect.sent.inj is).2.1] at isRow
  have chat : ∀ {copy : TizcordPacket} {request : Request}, copy.request = some request →
      request ≠ .social .listUsers → ¬ IsUserRow copy := fun asked other row =>
    other (Option.some.inj (asked.symm.trans row.1))
  cases step with
  | reply _ _ _ listed =>
    refine agree.append (fun _ _ => rfl) fun _ _ _ _ is isRow => ?_
    rw [← (Effect.sent.inj is).2.1] at isRow ⊢
    exact listed isRow
  | broadcast _ asked => exact noRow (chat (stampChannelMessage_request packet _ asked) (by decide))
  | forward _ asked => exact noRow (chat (stampDirectMessage_request packet _ asked) (by decide))
  | history _ _ _ unlisted => exact noRow unlisted
  | hash => exact agree.idle (fun _ _ _ _ => Effect.noConfusion) fun _ => Effect.noConfusion
  | call time permitted runs => exact agree.call runs
  | look | session =>
    rw [List.append_nil]
    exact agree

theorem Acts.statuses {env : Env} {fd : Int} {beyond : List UInt8} {packet : TizcordPacket}
    {first last : Process} (acts : Acts env fd beyond packet first last)
    (agree : StatusesAgree first.ctx.db first.trace) : StatusesAgree last.ctx.db last.trace :=
  Takes.invariant_log (fun ctx past => StatusesAgree ctx.db past)
    (fun step held => step.statuses held) acts agree

end Record

/-! ### Statuses in a run -/

section Run

variable {env : Env} {allowed : ServerContext → Int → TizcordPacket → Prop} {serverFd : Int}
  {machine : Machine} {index : Nat} {packet : TizcordPacket} {process : Process}

theorem statusesAgree_empty : StatusesAgree Database.empty [] where
  stored _ member := absurd member List.not_mem_nil
  unknown _ _ := rfl
  shown _ _ _ _ _ _ split := absurd split.symm (List.append_ne_nil_of_right_ne_nil _
    (List.cons_ne_nil _ _))

theorem ReachableWhen.statuses (reachable : ReachableWhen env allowed serverFd machine) :
    StatusesAgree machine.loop.process.ctx.db machine.loop.process.trace := by
  have idle : ∀ {database trace effect}, StatusesAgree database trace →
      (∀ fd copy status user, effect ≠ .sent fd copy status user) →
      (∀ call, effect ≠ .called call) → StatusesAgree database (trace ++ [effect]) :=
    fun agree unsent uncalled => agree.idle unsent uncalled
  have invariant : RunInvariant env allowed serverFd fun process =>
      StatusesAgree process.ctx.db process.trace :=
    { started := idle statusesAgree_empty (fun _ _ _ _ => Effect.noConfusion)
        fun _ => Effect.noConfusion
      restarted := fun _ _ held => idle held (fun _ _ _ _ => Effect.noConfusion)
        fun _ => Effect.noConfusion
      rejected := fun _ _ held => idle held (fun _ _ _ _ => Effect.noConfusion)
        fun _ => Effect.noConfusion
      accepted := fun _ _ _ _ _ _ held => idle held (fun _ _ _ _ => Effect.noConfusion)
        fun _ => Effect.noConfusion
      received := fun _ _ _ held => idle held (fun _ _ _ _ => Effect.noConfusion)
        fun _ => Effect.noConfusion
      closed := fun _ _ _ inside _ held => Acts.statuses (disconnectClient_notifies env inside)
        (idle held (fun _ _ _ _ => Effect.noConfusion) fun _ => Effect.noConfusion)
      handled := fun _ _ index packet _ held => (processClientPacket_acts env index packet _).statuses
        (idle held (fun _ _ _ _ => Effect.noConfusion) fun _ => Effect.noConfusion) }
  exact invariant.reachable reachable

/-- A status that is too long reaches no call of the database, and neither does an empty one. -/
theorem not_called_of_unfit (asked : packet.request = some (.social .updateStatus))
    (unfit : statusLength packet = 0 ∨ profileStatusLen < statusLength packet) (call : DbCall) :
    .called call ∉ handlingGain env index packet process := by
  have sends : ∃ effects, (processClientPacket env index packet process).trace =
      process.trace ++ [.handling (process.clientAt index).socketFd packet
        (process.ctx.userOf (process.clientAt index).socketFd)] ++ effects ∧
      ∀ effect ∈ effects, ∃ fd copy status user, effect = .sent fd copy status user := by
    cases authenticated : (process.clientAt index).isAuthenticated with
    | true =>
      have handled : processClientPacket env index packet process = _ :=
        processClientPacket_social asked authenticated
      rw [handled, handleSocialAction, updateStatus, if_pos unfit]
      exact ⟨_, rfl, fun effect member => ⟨_, _, _, _, List.mem_singleton.mp member⟩⟩
    | false =>
      obtain ⟨type, -⟩ := TizcordPacket.request_social asked
      have checked : ((process.log (.handling (process.clientAt index).socketFd packet
          (process.ctx.userOf (process.clientAt index).socketFd))).clientAt index).isAuthenticated =
            false := authenticated
      rw [processClientPacket, type, handlePacket, handleSocialPacket, checked, Bool.not_false,
        if_pos rfl, sendActionResponse, sendPacketToClient]
      split
      · exact ⟨[], (List.append_nil _).symm, fun _ member => absurd member List.not_mem_nil⟩
      · exact ⟨_, rfl, fun effect member => ⟨_, _, _, _, List.mem_singleton.mp member⟩⟩
  obtain ⟨effects, logged, sent⟩ := sends
  have gained := List.append_cancel_left ((processClientPacket_trace env index packet
    process).symm.trans (logged.trans (List.append_assoc ..)))
  rw [gained]
  rintro (_ | ⟨_, late⟩)
  obtain ⟨fd, copy, status, user, is⟩ := sent _ late
  exact Effect.noConfusion is

/-- In a run, the text of every update of a status fits. -/
theorem ReachableWhen.updates_short (reachable : ReachableWhen env allowed serverFd machine)
    {userId status : Int} {newText : Text}
    (member : .called (.updateUserStatus userId newText status) ∈ machine.loop.process.trace) :
    newText.bytes.length ≤ profileStatusLen := by
  have requested : Effect.Requested (.called (.updateUserStatus userId newText status)) := trivial
  obtain ⟨loop, readSet, index, packet, -, gained, -⟩ := reachable.origin requested member
  obtain ⟨ctx, -, text, asked⟩ := permitted_of_gain gained
  have fits : statusLength packet ≤ profileStatusLen := by
    by_contra long
    exact not_called_of_unfit asked (Or.inr (Nat.lt_of_not_le long)) _ gained
  rw [text, socialTargetStatus_of_short fits]
  exact fits

/-- The status of a user by the record is empty, or the text of an update on record. -/
theorem recordedStatus_cases (userId : Int) (trace : List Effect) :
    recordedStatus userId trace = Text.empty ∨ ∃ status,
      .called (.updateUserStatus userId (recordedStatus userId trace) status) ∈ trace := by
  induction trace using List.reverseRecOn with
  | nil => exact Or.inl rfl
  | append_singleton trace effect inductionHypothesis =>
    rw [recordedStatus_append_singleton]
    have unchanged : effect.setsStatus userId (recordedStatus userId trace) =
        recordedStatus userId trace →
        effect.setsStatus userId (recordedStatus userId trace) = Text.empty ∨ ∃ status,
          .called (.updateUserStatus userId (effect.setsStatus userId (recordedStatus userId trace))
            status) ∈ trace ++ [effect] := by
      intro same
      rw [same]
      exact inductionHypothesis.imp_right fun ⟨status, member⟩ =>
        ⟨status, List.mem_append_left _ member⟩
    cases effect with
    | called call =>
      cases call with
      | updateUserStatus id newText status =>
        by_cases own : id = userId ∧ status = 0
        · have sets : (Effect.called (.updateUserStatus id newText status)).setsStatus userId
              (recordedStatus userId trace) = newText := if_pos own
          rw [sets, ← own.1]
          exact Or.inr ⟨status, List.mem_append_right _ List.mem_cons_self⟩
        · exact unchanged (if_neg own)
      | _ => exact unchanged rfl
    | _ => exact unchanged rfl

theorem ReachableWhen.recordedStatus_short
    (reachable : ReachableWhen env allowed serverFd machine) (userId : Int) {earlier : List Effect}
    (past : earlier <+: machine.loop.process.trace) :
    (recordedStatus userId earlier).bytes.length ≤ profileStatusLen := by
  rcases recordedStatus_cases userId earlier with empty | ⟨status, member⟩
  · rw [empty]
    exact Nat.zero_le _
  · exact reachable.updates_short (past.subset member)

/-- In a run, the status of a user in the tables is the last one on record, and every row of a list
of all users shows, byte for byte, the last status of its user at the time it was sent. -/
theorem ReachableWhen.rows_show_status (reachable : ReachableWhen env allowed serverFd machine) :
    (∀ row ∈ machine.loop.process.ctx.db.users,
      row.status = recordedStatus row.id machine.loop.process.trace) ∧
    ∀ earlier fd copy status user later,
      machine.loop.process.trace = earlier ++ .sent fd copy status user :: later →
      IsUserRow copy → ∀ beyond,
        copy.socialTargetStatus beyond = recordedStatus copy.socialTargetUserId earlier := by
  refine ⟨reachable.statuses.stored, ?_⟩
  intro earlier fd copy status user later split isRow beyond
  rw [reachable.statuses.shown earlier fd copy status user later split isRow beyond]
  exact Text.take_of_length_le (reachable.recordedStatus_short _ ⟨_, split.symm⟩)

end Run

end Tizcord
