/-
This file models server/db.c: each function is one or more SQL statements on the
database. Whether a prepare or a step fails, which id a new row gets, the time of
day, the order of rows that compare equal, and the order of the rows of a query that
asks for none are decided outside. A failing prepare or step has no effect.
-/

import Tizcord.Server.Database

namespace Tizcord

open CModel

/-! ### Statements -/

/-- What is decided outside db.c about one of its calls. `fails` is indexed by the statement in the
order of the code, and by 0 for its prepare and `k + 1` for its `k`-th step. -/
structure DbEnv where
  fails : Nat → Nat → Bool
  rowid : Option Int
  now : Int
  rank : Int → Nat
  order : (count : Nat) → Equiv.Perm (Fin count)

namespace DbEnv

def prepareFails (env : DbEnv) (statement : Nat) : Bool :=
  env.fails statement 0

def stepFails (env : DbEnv) (statement step : Nat) : Bool :=
  env.fails statement (step + 1)

/-- What is left for the statements after the first ones. -/
def after (env : DbEnv) (statements : Nat) : DbEnv :=
  { env with fails := fun statement => env.fails (statement + statements) }

/-- No prepare and no step fails. -/
def Reliable (env : DbEnv) : Prop :=
  ∀ statement step, env.fails statement step = false

theorem Reliable.after {env : DbEnv} (reliable : env.Reliable) (statements : Nat) :
    (env.after statements).Reliable :=
  fun statement step => reliable (statement + statements) step

/-- The row of a query that is stepped once. -/
def firstRow {Row : Type} (env : DbEnv) (statement : Nat) (rows : List Row) : Option Row :=
  if env.stepFails statement 0 then none else rows.head?

/-- The rows of a query that is stepped to its end, and whether it got there. -/
def allRows {Row : Type} (env : DbEnv) (statement : Nat) (rows : List Row) : List Row × Bool :=
  fetch (env.stepFails statement) 0 rows

theorem Reliable.prepare {env : DbEnv} (reliable : env.Reliable) (statement : Nat) :
    env.prepareFails statement = false :=
  reliable statement 0

theorem Reliable.firstRow {Row : Type} {env : DbEnv} (reliable : env.Reliable) (statement : Nat)
    (rows : List Row) : env.firstRow statement rows = rows.head? := by
  rw [DbEnv.firstRow, DbEnv.stepFails, reliable]
  rfl

theorem Reliable.allRows {Row : Type} {env : DbEnv} (reliable : env.Reliable) (statement : Nat)
    (rows : List Row) : env.allRows statement rows = (rows, true) :=
  fetch_of_never (fun step => reliable statement (step + 1)) 0 rows

end DbEnv

/-- The result of a statement that changes the tables: the status, 0 or -1, of its function. -/
def runStatement (env : DbEnv) (statement : Nat) (database : Database)
    (effect : Option Database) : Database × Int :=
  if env.prepareFails statement then (database, -1)
  else if env.stepFails statement 0 then (database, -1)
  else
    match effect with
    | none => (database, -1)
    | some database => (database, 0)

/-- The result of an insertion whose caller asks for the new row id. -/
def runInsert (env : DbEnv) (statement : Nat) (database : Database) (ids : List Int)
    (effect : RowId → Option Database) : Database × Option RowId :=
  if env.prepareFails statement then (database, none)
  else if env.stepFails statement 0 then (database, none)
  else
    match newRowid env.rowid ids with
    | none => (database, none)
    | some id =>
      match effect id with
      | none => (database, none)
      | some database => (database, some id)

theorem runStatement_cases {env : DbEnv} {statement : Nat} {database after : Database}
    {effect : Option Database} {status : Int}
    (ran : runStatement env statement database effect = (after, status)) :
    status = 0 ∧ effect = some after ∨ status = -1 ∧ after = database := by
  unfold runStatement at ran
  split at ran
  · cases ran
    exact Or.inr ⟨rfl, rfl⟩
  · split at ran
    · cases ran
      exact Or.inr ⟨rfl, rfl⟩
    · split at ran
      · cases ran
        exact Or.inr ⟨rfl, rfl⟩
      · cases ran
        exact Or.inl ⟨rfl, rfl⟩

/-- Without failures a statement has its effect, and fails where it would violate a constraint. -/
theorem runStatement_of_reliable {env : DbEnv} (reliable : env.Reliable) (statement : Nat)
    (database : Database) (effect : Option Database) :
    runStatement env statement database effect =
      match effect with
      | none => (database, -1)
      | some database => (database, 0) := by
  unfold runStatement DbEnv.prepareFails DbEnv.stepFails
  rw [reliable, reliable]
  rfl

theorem runInsert_some {env : DbEnv} {statement : Nat} {database after : Database}
    {ids : List Int} {effect : RowId → Option Database} {id : RowId}
    (ran : runInsert env statement database ids effect = (after, some id)) :
    effect id = some after ∧ (id : Int) ∉ ids := by
  unfold runInsert at ran
  split at ran
  · cases ran
  · split at ran
    · cases ran
    · split at ran
      · cases ran
      · rename_i assigned
        split at ran
        · cases ran
        · rename_i inserted
          cases ran
          exact ⟨inserted, newRowid_fresh assigned⟩

theorem runInsert_assigned {env : DbEnv} {statement : Nat} {database after : Database}
    {ids : List Int} {effect : RowId → Option Database} {id : RowId}
    (ran : runInsert env statement database ids effect = (after, some id)) :
    newRowid env.rowid ids = some id := by
  unfold runInsert at ran
  split at ran
  · cases ran
  · split at ran
    · cases ran
    · split at ran
      · cases ran
      · next assigned =>
        split at ran
        · cases ran
        · cases ran
          exact assigned

theorem runInsert_next {env : DbEnv} {statement : Nat} {database after : Database}
    {ids : List Int} {effect : RowId → Option Database} {id : RowId} (rule : env.rowid = none)
    (ran : runInsert env statement database ids effect = (after, some id)) :
    (id : Int) = maxRowid ids + 1 := by
  have assigned := runInsert_assigned ran
  rw [rule] at assigned
  exact newRowid_next assigned

theorem runInsert_none {env : DbEnv} {statement : Nat} {database after : Database}
    {ids : List Int} {effect : RowId → Option Database}
    (ran : runInsert env statement database ids effect = (after, none)) : after = database := by
  unfold runInsert at ran
  split at ran
  · cases ran
    rfl
  · split at ran
    · cases ran
      rfl
    · split at ran
      · cases ran
        rfl
      · split at ran
        · cases ran
          rfl
        · cases ran

/-- Without failures, and as long as there is an id left, an insertion has its effect with a
fresh id, and fails where it would violate a constraint. -/
theorem runInsert_of_reliable {env : DbEnv} (reliable : env.Reliable) (statement : Nat)
    (database : Database) {ids : List Int} (room : maxRowid ids + 1 < 2 ^ 63)
    (effect : RowId → Option Database) :
    ∃ id : RowId, (id : Int) ∉ ids ∧ runInsert env statement database ids effect =
      match effect id with
      | none => (database, none)
      | some database => (database, some id) := by
  obtain ⟨id, assigned⟩ := newRowid_of_room env.rowid room
  refine ⟨id, newRowid_fresh assigned, ?_⟩
  unfold runInsert DbEnv.prepareFails DbEnv.stepFails
  rw [reliable, reliable, assigned]
  rfl

/-- The status of a function that returns an id through a pointer. -/
def rowStatus {Row : Type} (row : Option Row) : Int :=
  if row.isSome then 0 else -1

/-! ### Users -/

def dbUserIsServerAdmin (env : DbEnv) (database : Database) (serverId userId : Int) :
    Option Bool :=
  if env.prepareFails 0 then none
  else
    let rows := database.serverMembers.filter fun row =>
      row.serverId = serverId && row.userId = userId
    (env.firstRow 0 rows).map ServerMemberRow.isAdmin

/-- The bytes of `@dummy.com`. -/
def dummyDomain : Text :=
  ⟨[64, 100, 117, 109, 109, 121, 46, 99, 111, 109], by decide⟩

/-- `snprintf` of the dummy address into 256 bytes. -/
def dummyEmail (username : Text) : Text :=
  (username.append dummyDomain).take 255

def dbCreateUser (env : DbEnv) (database : Database) (username passwordHash : Text) :
    Database × Option RowId :=
  runInsert env 0 database database.userIds fun id =>
    database.insertUser ⟨id, username, dummyEmail username, passwordHash, Text.empty⟩

/-- The stored hash and the id of the user. -/
def dbGetPasswordHash (env : DbEnv) (database : Database) (username : Text) :
    Option (Text × Int) :=
  if env.prepareFails 0 then none
  else
    let rows := database.users.filter fun row => row.username = username
    (env.firstRow 0 rows).map fun row => (row.passwordHash, row.id)

def dbGetUserIdByName (env : DbEnv) (database : Database) (username : Text) : Option Int :=
  if env.prepareFails 0 then none
  else
    let rows := database.users.filter fun row => row.username = username
    (env.firstRow 0 rows).map fun row => row.id

def dbUpdateUserStatus (env : DbEnv) (database : Database) (userId : Int) (status : Text) :
    Database × Int :=
  let result := runStatement env 0 database (database.updateUserStatus userId status)
  if result.2 = 0 then
    (result.1, if 0 < database.users.countP (fun row => (row.id : Int) = userId) then 0 else -1)
  else result

/-- A row of the list of all users. -/
structure UserListRow where
  userId : Int
  username : Text
  status : Text

def dbListAllUsers (env : DbEnv) (database : Database) : List UserListRow × Int :=
  if env.prepareFails 0 then ([], -1)
  else
    let sorted := orderBy (fun first second : UserRow => first.username.le second.username)
      database.users
    let result := env.allRows 0 (sorted.map fun row => ⟨row.id, row.username, row.status⟩)
    (result.1, if result.2 then 0 else -1)

/-! ### Messages -/

def dbSaveMessage (env : DbEnv) (database : Database) (channelId userId : Int) (content : Text) :
    Database × Int :=
  let result := runInsert env 0 database database.messageIds fun id =>
    database.insertMessage ⟨id, channelId, userId, content, env.now⟩
  (result.1, rowStatus result.2)

def dbSaveDirectMessage (env : DbEnv) (database : Database) (senderId receiverId : Int)
    (content : Text) : Database × Int :=
  let result := runInsert env 0 database database.directMessageIds fun id =>
    database.insertDirectMessage ⟨id, senderId, receiverId, content, env.now⟩
  (result.1, rowStatus result.2)

/-- A row of a direct-message history. -/
structure DirectMessageListRow where
  messageId : Int
  senderUsername : Text
  receiverUsername : Text
  content : Text
  timestamp : Int

def dbListDirectMessages (env : DbEnv) (database : Database) (senderId receiverId : Int) :
    List DirectMessageListRow × Int :=
  if env.prepareFails 0 then ([], -1)
  else
    let joined := database.directMessages.flatMap fun message =>
      (database.users.filter fun user => (user.id : Int) = message.senderId).flatMap fun sender =>
        (database.users.filter fun user => (user.id : Int) = message.receiverId).map
          fun receiver => (message, sender, receiver)
    let selected := joined.filter fun row =>
      (row.1.senderId = senderId && row.1.receiverId = receiverId) ||
        (row.1.senderId = receiverId && row.1.receiverId = senderId)
    let newest := (orderBy (fun first second => (second.1.id : Int) ≤ first.1.id) selected).take 50
    let rows := (orderBy (fun first second => (first.1.id : Int) ≤ second.1.id) newest).map
      fun row => ⟨row.1.id, row.2.1.username, row.2.2.username, row.1.content, row.1.createdAt⟩
    ((env.allRows 0 rows).1, 0)

/-- A row of a channel history. -/
structure MessageListRow where
  messageId : Int
  username : Text
  content : Text
  timestamp : Int

def dbListChannelMessages (env : DbEnv) (database : Database) (channelId : Int) :
    List MessageListRow × Int :=
  if env.prepareFails 0 then ([], -1)
  else
    let joined := (database.messages.filter fun row => row.channelId = channelId).flatMap
      fun message => (database.users.filter fun user => (user.id : Int) = message.userId).map
        fun user => (message, user)
    let sorted := orderBy
      (fun first second => first.1.createdAt < second.1.createdAt ||
        (first.1.createdAt = second.1.createdAt && env.rank first.1.id ≤ env.rank second.1.id))
      joined
    let rows := sorted.map fun row =>
      ⟨row.1.id, row.2.username, row.1.content, row.1.createdAt⟩
    ((env.allRows 0 rows).1, 0)

/-! ### Servers -/

def dbJoinServer (env : DbEnv) (database : Database) (serverId userId : Int) (isAdmin : Bool) :
    Database × Int :=
  runStatement env 0 database (database.insertServerMember ⟨serverId, userId, isAdmin⟩)

/-- The id of the row in servers is kept with the status, as the join can fail after it. -/
def dbCreateServer (env : DbEnv) (database : Database) (name : Text) (userId : Int) :
    Database × Option RowId × Int :=
  match runInsert env 0 database database.serverIds fun id => database.insertServer ⟨id, name⟩ with
  | (database, none) => (database, none, -1)
  | (database, some serverId) =>
    let joined := dbJoinServer (env.after 1) database serverId userId true
    (joined.1, some serverId, joined.2)

def dbLeaveServer (env : DbEnv) (database : Database) (serverId userId : Int) : Database × Int :=
  runStatement env 0 database (some (database.deleteServerMember (serverId, userId)))

def dbDeleteServer (env : DbEnv) (database : Database) (serverId userId : Int) : Database × Int :=
  match dbUserIsServerAdmin env database serverId userId with
  | none => (database, -1)
  | some _ => runStatement (env.after 1) 0 database (some (database.deleteServer serverId))

def dbKickServerMember (env : DbEnv) (database : Database) (serverId userId : Int) :
    Database × Int :=
  match dbUserIsServerAdmin env database serverId userId with
  | none => (database, -1)
  | some _ =>
    let changed := database.serverMembers.countP fun row => row.pair = (serverId, userId)
    let result := runStatement (env.after 1) 0 database
      (some (database.deleteServerMember (serverId, userId)))
    if result.2 = 0 then (result.1, if 0 < changed then 0 else -1) else result

/-- A row of a list of servers. -/
structure ServerListRow where
  serverId : Int
  name : Text
  memberCount : Int

def memberCount (database : Database) (serverId : Int) : Int :=
  database.serverMembers.countP fun row => row.serverId = serverId

def dbListServers (env : DbEnv) (database : Database) : List ServerListRow × Int :=
  if env.prepareFails 0 then ([], -1)
  else
    let sorted := orderBy (fun first second : ServerRow => first.name.le second.name)
      database.servers
    let rows := sorted.map fun row => ⟨row.id, row.name, memberCount database row.id⟩
    ((env.allRows 0 rows).1, 0)

def dbListJoinedServers (env : DbEnv) (database : Database) (userId : Int) :
    List ServerListRow × Int :=
  if env.prepareFails 0 then ([], -1)
  else
    let joined := (database.serverMembers.filter fun row => row.userId = userId).flatMap
      fun member => database.servers.filter fun row => (row.id : Int) = member.serverId
    let sorted := orderBy (fun first second : ServerRow => first.name.le second.name) joined
    let rows := sorted.map fun row => ⟨row.id, row.name, memberCount database row.id⟩
    let result := env.allRows 0 rows
    (result.1, if result.2 then 0 else -1)

/-- A row of a list of members. -/
structure MemberListRow where
  userId : Int
  username : Text
  isAdmin : Bool

def dbListServerMembers (env : DbEnv) (database : Database) (serverId : Int) :
    List MemberListRow × Int :=
  if env.prepareFails 0 then ([], -1)
  else
    let joined := (database.serverMembers.filter fun row => row.serverId = serverId).flatMap
      fun member => (database.users.filter fun user => (user.id : Int) = member.userId).map
        fun user => (user, member.isAdmin)
    let sorted := orderBy (fun first second => first.1.username.le second.1.username) joined
    let rows := sorted.map fun row => ⟨row.1.id, row.1.username, row.2⟩
    let result := env.allRows 0 rows
    (result.1, if result.2 then 0 else -1)

/-! ### Channels -/

def dbCreateChannel (env : DbEnv) (database : Database) (serverId : Int) (name : Text) :
    Database × Option RowId :=
  runInsert env 0 database database.channelIds fun id =>
    database.insertChannel ⟨id, serverId, name⟩

def dbDeleteChannel (env : DbEnv) (database : Database) (channelId : Int) : Database × Int :=
  runStatement env 0 database (some (database.deleteChannel channelId))

def dbGetChannelServerId (env : DbEnv) (database : Database) (channelId : Int) : Option Int :=
  if env.prepareFails 0 then none
  else
    let rows := database.channels.filter fun row => (row.id : Int) = channelId
    (env.firstRow 0 rows).map ChannelRow.serverId

/-- A row of a list of channels. -/
structure ChannelListRow where
  channelId : Int
  name : Text

def dbListServerChannels (env : DbEnv) (database : Database) (serverId : Int) :
    List ChannelListRow × Int :=
  if env.prepareFails 0 then ([], -1)
  else
    let selected := database.channels.filter fun row => row.serverId = serverId
    let sorted := orderBy (fun first second : ChannelRow => first.name.le second.name) selected
    let result := env.allRows 0 (sorted.map fun row => ⟨row.id, row.name⟩)
    (result.1, if result.2 then 0 else -1)

/-! ### Friends -/

def dbAcceptFriendRequest (env : DbEnv) (database : Database) (myUserId friendId : Int) :
    Database × Int :=
  let incoming := database.friends.filter fun row =>
    row.userId = friendId && row.friendId = myUserId
  let found := if env.prepareFails 0 then none else env.firstRow 0 incoming
  match found with
  | none => (database, -1)
  | some row =>
    if row.isAccepted then (database, -2)
    else
      let accepted := (runStatement env 1 database
        (some (database.acceptFriend (friendId, myUserId)))).1
      let cleaned := (runStatement env 2 accepted
        (some (accepted.deleteFriends fun row =>
          row.userId = myUserId && row.friendId = friendId && !row.isAccepted))).1
      (cleaned, 0)

/-- The `is_accepted` values found in the two directions of a pair of users. -/
structure FriendStatuses where
  sameDirection : Option Bool
  reciprocal : Option Bool

def collectFriendStatuses (userId friendId : Int) (rows : List FriendRow) : FriendStatuses :=
  rows.foldl
    (fun statuses row =>
      if row.userId = userId ∧ row.friendId = friendId then
        { statuses with sameDirection := some row.isAccepted }
      else if row.userId = friendId ∧ row.friendId = userId then
        { statuses with reciprocal := some row.isAccepted }
      else statuses)
    ⟨none, none⟩

def dbSendFriendRequest (env : DbEnv) (database : Database) (userId friendId : Int) :
    Database × Int :=
  let existing := database.friends.filter fun row =>
    (row.userId = userId && row.friendId = friendId) ||
      (row.userId = friendId && row.friendId = userId)
  let rows := if env.prepareFails 0 then [] else (env.allRows 0 (arrange env.order existing)).1
  let statuses := collectFriendStatuses userId friendId rows
  if statuses.sameDirection = some true ∨ statuses.reciprocal = some true then (database, -2)
  else if statuses.reciprocal = some false then
    let accepted := dbAcceptFriendRequest (env.after 1) database userId friendId
    (accepted.1, if accepted.2 = 0 then 1 else -1)
  else
    runStatement (env.after 1) 0 database (database.insertFriend ⟨userId, friendId, false⟩)

def dbRemoveFriendship (env : DbEnv) (database : Database) (userId friendId : Int) :
    Database × Int :=
  let between : FriendRow → Bool := fun row =>
    (row.userId = userId && row.friendId = friendId) ||
      (row.userId = friendId && row.friendId = userId)
  let friends := database.friends.filter fun row => row.isAccepted && between row
  let found := if env.prepareFails 0 then none else env.firstRow 0 friends
  match found with
  | none => (database, -1)
  | some _ => ((runStatement env 1 database (some (database.deleteFriends between))).1, 0)

def dbRejectFriendRequest (env : DbEnv) (database : Database) (myUserId senderId : Int) :
    Database × Int :=
  let pending : FriendRow → Bool := fun row =>
    row.userId = senderId && row.friendId = myUserId && !row.isAccepted
  let found :=
    if env.prepareFails 0 then none else env.firstRow 0 (database.friends.filter pending)
  match found with
  | none => (database, -1)
  | some _ => ((runStatement env 1 database (some (database.deleteFriends pending))).1, 0)

/-- A row of a friend list: `isIncoming` is 2 for a friend, 1 for an incoming request and 0 for an
outgoing one. -/
structure FriendListRow where
  targetUserId : Int
  username : Text
  isIncoming : Int
  deriving DecidableEq

def dbListFriendRequests (env : DbEnv) (database : Database) (userId : Int) :
    List FriendListRow × Int :=
  if env.prepareFails 0 then ([], -1)
  else
    let incoming := (database.friends.filter fun row => row.friendId = userId).flatMap fun row =>
      (database.users.filter fun user => (user.id : Int) = row.userId).map fun user =>
        FriendListRow.mk user.id user.username (if row.isAccepted then 2 else 1)
    let outgoing := (database.friends.filter fun row => row.userId = userId).flatMap fun row =>
      (database.users.filter fun user => (user.id : Int) = row.friendId).map fun user =>
        FriendListRow.mk user.id user.username (if row.isAccepted then 2 else 0)
    let result := env.allRows 0 (arrange env.order (incoming ++ outgoing))
    (result.1, if result.2 then 0 else -1)

end Tizcord
