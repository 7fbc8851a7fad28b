/-
This file is about who is shown as online. The server sends the list of all users
to everybody whenever a session begins or ends, and the news when a user changes
their status; between these, what the clients have been told stays true.
-/

import Tizcord.Client.UserList
import Tizcord.Server.SentPackets
import Tizcord.Server.Statuses

namespace Tizcord

open CModel

/-! ### The list as it should be -/

/-- A user as the list of all users shows them. -/
def listedRow (ctx : ServerContext) (row : UserRow) : UIUser where
  id := row.id
  username := storedName row.username
  status := row.status.take profileStatusLen
  isOnline := if userIsOnline ctx row.id then 1 else 0

/-- All users in the order of their names, with their statuses, and online where they have a
session. -/
def presentUsers (ctx : ServerContext) : List UIUser :=
  (orderBy (fun first second : UserRow => first.username.le second.username) ctx.db.users).map
    (listedRow ctx)

/-- Who is online are those with a session. -/
theorem userIsOnline_iff {ctx : ServerContext} {userId : Int} :
    userIsOnline ctx userId = true ↔ ∃ identity ∈ ctx.identities, 0 < identity.socketFd ∧
      identity.isAuthenticated = true ∧ identity.id = userId := by
  rw [userIsOnline_eq, List.any_eq_true]
  simp only [Bool.and_eq_true, decide_eq_true_eq, and_assoc]

/-- Who is online is decided by the sessions. -/
theorem userIsOnline_congr {before after : ServerContext} {userId : Int}
    (sessions : ∀ identity : Identity, identity.isAuthenticated = true → identity.id = userId →
      (identity ∈ after.identities ↔ identity ∈ before.identities)) :
    userIsOnline after userId = userIsOnline before userId := by
  rw [Bool.eq_iff_iff, userIsOnline_iff, userIsOnline_iff]
  constructor
  · rintro ⟨identity, member, opened, authenticated, own⟩
    exact ⟨identity, (sessions identity authenticated own).mp member, opened, authenticated, own⟩
  · rintro ⟨identity, member, opened, authenticated, own⟩
    exact ⟨identity, (sessions identity authenticated own).mpr member, opened, authenticated, own⟩

/-- The list depends on the sessions and the users only. -/
theorem presentUsers_congr {before after : ServerContext}
    (sessions : ∀ identity : Identity, identity.isAuthenticated = true →
      (identity ∈ after.identities ↔ identity ∈ before.identities))
    (users : after.db.users = before.db.users) : presentUsers after = presentUsers before := by
  rw [presentUsers, presentUsers, users]
  refine List.map_congr_left fun row _ => ?_
  rw [listedRow, listedRow, userIsOnline_congr fun identity authenticated _ =>
    sessions identity authenticated]

theorem presentUsers_ids_nodup (ctx : ServerContext) :
    ((presentUsers ctx).map UIUser.id).Nodup := by
  have perm : ((presentUsers ctx).map UIUser.id).Perm
      (ctx.db.users.map fun row => (row.id : Int)) := by
    rw [presentUsers, List.map_map]
    exact (List.perm_insertionSort _ _).map _
  exact perm.nodup_iff.mpr ctx.db.integrity.users_id

/-! ### A new status -/

/-- A user with a new status. -/
def UIUser.withStatus (userId : Int) (statusText : Text) (isOnline : Bool) (user : UIUser) :
    UIUser :=
  if user.id = userId then
    { user with
      status := statusText.take profileStatusLen
      isOnline := if isOnline then 1 else 0 }
  else user

theorem UIUser.withStatus_withStatus (userId : Int) (statusText : Text) (isOnline : Bool)
    (user : UIUser) : UIUser.withStatus userId statusText isOnline
      (UIUser.withStatus userId statusText isOnline user) =
        UIUser.withStatus userId statusText isOnline user := by
  by_cases own : user.id = userId
  · rw [UIUser.withStatus, if_pos (by rw [UIUser.withStatus, if_pos own]; exact own),
      UIUser.withStatus, if_pos own]
  · rw [UIUser.withStatus, UIUser.withStatus, if_neg own, if_neg own]

/-- The list after a status has changed. -/
theorem presentUsers_withStatus {before after : ServerContext} {userId : Int} {statusText : Text}
    (identities : after.identities = before.identities)
    (stored : after.db.toTables = before.db.toTables.withStatus userId statusText) :
    presentUsers after = (presentUsers before).map
      (UIUser.withStatus userId statusText (userIsOnline before userId)) := by
  have online : ∀ id, userIsOnline after id = userIsOnline before id := fun id => by
    rw [userIsOnline_eq, userIsOnline_eq, identities]
  have sorted : orderBy (fun first second : UserRow => first.username.le second.username)
      after.db.users = (orderBy (fun first second : UserRow => first.username.le second.username)
        before.db.users).map fun row =>
          if (row.id : Int) = userId then { row with status := statusText } else row := by
    rw [stored]
    refine (List.map_insertionSort _ _ _ _ fun first _ second _ => ?_).symm
    dsimp only
    split <;> split <;> rfl
  rw [presentUsers, presentUsers, sorted, List.map_map, List.map_map]
  refine List.map_congr_left fun row _ => ?_
  rw [Function.comp, Function.comp, UIUser.withStatus]
  by_cases own : (row.id : Int) = userId
  · rw [if_pos own, if_pos (show (listedRow before row).id = userId from own), listedRow,
      listedRow, online]
    dsimp only
    rw [own]
  · rw [if_neg own, if_neg (show ¬ (listedRow before row).id = userId from own), listedRow,
      listedRow, online]

/-! ### Reading the list -/

/-- A view of all users that is read from packets: a stream of all users fills it, the news of a
status changes it, and other packets leave it alone. -/
structure PresenceReader (View : Type) where
  read : View → TizcordPacket → View
  shows : List UIUser → View → Prop
  other : ∀ {packet : TizcordPacket}, (∀ topic, packet.topic = some topic →
      topic ≠ .users ∧ topic ≠ .session) → ∀ view, read view packet = view
  stream : ∀ {ctx : ServerContext} {rows : List UserRow} {copies : List TizcordPacket},
    IsStream (IsSocialFrame .listUsers .start) (IsSocialFrame .listUsers .end) (CarriesUser ctx)
        (rows.map fun row => ⟨row.id, row.username, row.status⟩) copies →
      ∀ view, shows (rows.map (listedRow ctx)) (copies.foldl read view)
  status : ∀ {users : List UIUser} {view : View} {userId : Int} {statusText : Text}
      {isOnline : Bool} {packet : TizcordPacket},
    CarriesStatus .ok userId statusText isOnline packet → (users.map UIUser.id).Nodup →
      shows users view →
      shows (users.map (UIUser.withStatus (signed 64 userId) statusText isOnline))
        (read view packet)
  refused : ∀ {code : ResponseCode} {userId : Int} {statusText : Text} {isOnline : Bool}
      {packet : TizcordPacket}, CarriesStatus code userId statusText isOnline packet →
    code ≠ .ok → ∀ view, read view packet = view

section Reader

variable {View : Type} {ctx before after : ServerContext} {packet : TizcordPacket}

theorem Text.take_take (text : Text) (count : Nat) :
    (text.take count).take count = text.take count := by
  refine Text.ext ?_
  simp [Text.take, List.take_take]

theorem dbListAllUsers_of_reliable {dbEnv : DbEnv} (reliable : dbEnv.Reliable)
    (database : Database) : (dbListAllUsers dbEnv database).1 =
      (orderBy (fun first second : UserRow => first.username.le second.username)
        database.users).map fun row => ⟨row.id, row.username, row.status⟩ := by
  unfold dbListAllUsers
  rw [reliable.prepare, if_neg Bool.false_ne_true]
  dsimp only
  rw [reliable.allRows]

namespace PresenceReader

variable (reader : PresenceReader View)

/-- The view shows the users as they are. -/
def ShowsUsers (ctx : ServerContext) (view : View) : Prop :=
  reader.shows (presentUsers ctx) view

/-- The list of all users, wherever it is sent, shows the users as they are. -/
theorem sendUserList_shows {env : Env} (reliable : env.Reliable) (fd listId : Int)
    (process : Process) :
    ∃ copies, SendsList fd copies process (sendUserList env fd listId process) ∧
      ∀ view, reader.ShowsUsers process.ctx (copies.foldl reader.read view) := by
  obtain ⟨copies, stream, sent⟩ := sendUserList_sends env fd listId process
  rw [dbListAllUsers_of_reliable (reliable _)] at stream
  exact ⟨copies, sent, reader.stream stream⟩

variable {reader}

/-- A view that showed the users as they were shows them as they are, once the new status has been
read. -/
theorem ShowsUsers.status {view : View} {userId : Int} {statusText : Text} {isOnline : Bool}
    (shows : reader.ShowsUsers before view)
    (carries : CarriesStatus .ok userId statusText isOnline packet)
    (known : signed 64 userId = userId)
    (next : presentUsers after =
      (presentUsers before).map (UIUser.withStatus userId statusText isOnline)) :
    reader.ShowsUsers after (reader.read view packet) := by
  have read := reader.status carries (presentUsers_ids_nodup before) shows
  rwa [known, ← next] at read

end PresenceReader

end Reader

/-! ### The list of a client -/

section Reading

variable {ctx : ServerContext} {packet : TizcordPacket} {users : SlotArray UIUser maxAllUsers}

theorem listedUser_of_carries {row : UserRow}
    (carries : CarriesUser ctx ⟨row.id, row.username, row.status⟩ packet) :
    listedUser packet = listedRow ctx row := by
  rw [listedUser, listedRow, carries.user, carries.name, carries.status, carries.online,
    storedName_take, Text.take_take, signed_rowId]

theorem readUsers_start (frame : IsSocialFrame .listUsers .start packet) :
    readUsers users packet = users.clear := by
  have marks : ListFrameType.start.marks packet = true := decide_eq_true frame.frame
  rw [readUsers, frame.request, readUsersOf, if_pos marks]

theorem readUsers_middle (frame : IsSocialFrame .listUsers .middle packet) :
    readUsers users packet = users.file fun _ => listedUser packet := by
  have marks : ListFrameType.middle.marks packet = true := decide_eq_true frame.frame
  rw [readUsers, frame.request, readUsersOf, if_neg (marks_unique marks (by decide)), if_pos marks]

theorem readUsers_end (frame : IsSocialFrame .listUsers .end packet) :
    readUsers users packet = sortUsers users := by
  have marks : ListFrameType.end.marks packet = true := decide_eq_true frame.frame
  rw [readUsers, frame.request, readUsersOf, if_neg (marks_unique marks (by decide)),
    if_neg (marks_unique marks (by decide)), if_pos marks]

/-- A packet about something else is not read into the list of users. -/
theorem readUsers_other (other : ∀ topic, packet.topic = some topic →
    topic ≠ .users ∧ topic ≠ .session) : readUsers users packet = users := by
  rw [readUsers]
  cases asked : packet.request with
  | none => rfl
  | some request =>
    rw [TizcordPacket.topic, asked, Option.bind_some] at other
    cases request with
    | auth action =>
      cases action with
      | logout => exact absurd rfl (other .session rfl).2
      | login | register => rfl
    | social action =>
      cases action with
      | listUsers | updateStatus => exact absurd rfl (other .users rfl).1
      | _ => rfl
    | _ => rfl

theorem foldl_readUsers_rows {rows : List UserRow} {items : List TizcordPacket}
    (each : List.Forall₂ (CarriesUser ctx)
      (rows.map fun row => UserListRow.mk row.id row.username row.status) items) :
    items.foldl readUsers users = (rows.map (listedRow ctx)).foldl
      (fun users user => users.file fun _ => user) users := by
  induction rows generalizing items users with
  | nil =>
    obtain rfl := List.forall₂_nil_left_iff.mp each
    rfl
  | cons row rest inductionHypothesis =>
    obtain ⟨item, later, carries, eachLater, rfl⟩ := List.forall₂_cons_left_iff.mp each
    rw [List.foldl_cons, List.map_cons, List.foldl_cons, readUsers_middle carries.toIsSocialFrame,
      listedUser_of_carries carries]
    exact inductionHypothesis eachLater

/-- Whatever a client had before it, after a stream of all users its list shows these. -/
theorem readUsers_stream {rows : List UserRow} {copies : List TizcordPacket}
    (stream : IsStream (IsSocialFrame .listUsers .start) (IsSocialFrame .listUsers .end)
      (CarriesUser ctx) (rows.map fun row => ⟨row.id, row.username, row.status⟩) copies) :
    (copies.foldl readUsers users).entries.Perm ((rows.map (listedRow ctx)).take maxAllUsers) := by
  obtain ⟨first, items, last, rfl, opens, each, closes⟩ := stream.split
  rw [List.foldl_cons, readUsers_start opens, List.foldl_append, List.foldl_cons, List.foldl_nil,
    readUsers_end closes, sortUsers, foldl_readUsers_rows each]
  refine (SlotArray.exchangeSort_perm _).trans (List.Perm.of_eq ?_)
  rw [SlotArray.entries_foldl_file, SlotArray.entries_clear, List.nil_append]

theorem readUsers_status {userId : Int} {statusText : Text} {isOnline : Bool}
    (carries : CarriesStatus .ok userId statusText isOnline packet)
    (distinct : (users.entries.map UIUser.id).Nodup) :
    (readUsers users packet).entries =
      users.entries.map (UIUser.withStatus (signed 64 userId) statusText isOnline) := by
  have online : (if packet.socialStatus = UserStatus.online.code then (1 : Int) else 0) =
      if isOnline then 1 else 0 := by
    rw [carries.online]
    cases isOnline <;> rfl
  have updated : updateListedUser packet users =
      (users.find? fun user => user.id = packet.socialTargetUserId).elim users fun index =>
        users.modify index fun user =>
          { user with
            status := (packet.socialTargetStatus []).take profileStatusLen
            isOnline := if packet.socialStatus = UserStatus.online.code then 1 else 0 } := by
    rw [updateListedUser]
    cases users.find? fun user => user.id = packet.socialTargetUserId <;> rfl
  rw [readUsers, carries.request, readUsersOf, if_pos carries.code, updated,
    SlotArray.entries_update UIUser.id distinct]
  refine List.map_congr_left fun user _ => ?_
  rw [UIUser.withStatus, carries.user, carries.status, online, Text.take_take]

theorem readUsers_refused {code : ResponseCode} {userId : Int} {statusText : Text}
    {isOnline : Bool} (carries : CarriesStatus code userId statusText isOnline packet)
    (refused : code ≠ .ok) : readUsers users packet = users := by
  have other : packet.socialStatusCode ≠ ResponseCode.ok.code := by
    rw [carries.code]
    cases code <;> first | exact absurd rfl refused | decide
  rw [readUsers, carries.request, readUsersOf, if_neg other]

theorem readUsers_status_perm {listed : List UIUser} {userId : Int} {statusText : Text}
    {isOnline : Bool} (carries : CarriesStatus .ok userId statusText isOnline packet)
    (distinct : (listed.map UIUser.id).Nodup)
    (shows : users.entries.Perm (listed.take maxAllUsers)) :
    (readUsers users packet).entries.Perm
      ((listed.map (UIUser.withStatus (signed 64 userId) statusText isOnline)).take
        maxAllUsers) := by
  have held : (users.entries.map UIUser.id).Nodup := by
    refine (shows.map UIUser.id).nodup_iff.mpr ?_
    rw [List.map_take]
    exact distinct.sublist (List.take_sublist _ _)
  rw [readUsers_status carries held, ← List.map_take]
  exact shows.map _

/-- A client holds the users for which it has room. -/
def clientReader : PresenceReader (SlotArray UIUser maxAllUsers) where
  read := readUsers
  shows listed users := users.entries.Perm (listed.take maxAllUsers)
  other other _ := readUsers_other other
  stream stream _ := readUsers_stream stream
  status carries distinct shows := readUsers_status_perm carries distinct shows
  refused carries refused _ := readUsers_refused carries refused

theorem clientReader_read : clientReader.read = readUsers := by
  rw [clientReader]

theorem clientReader_showsUsers : clientReader.ShowsUsers ctx users ↔
    users.entries.Perm ((presentUsers ctx).take maxAllUsers) := Iff.rfl

end Reading

end Tizcord
