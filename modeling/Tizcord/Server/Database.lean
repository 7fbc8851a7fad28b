/-
This file models db/schema.sql: the tables, and the constraints SQLite enforces
on them. A database carries the constraints, so a statement that would violate
one has no result. Columns no query reads (the row ids of friends and
server_members, most creation times) and the sessions table are left out.
-/

import Tizcord.Library.Memory
import Tizcord.Library.Table

namespace Tizcord

open CModel

/-! ### Rows -/

structure UserRow where
  id : RowId
  username : Text
  email : Text
  passwordHash : Text
  status : Text
  deriving DecidableEq

structure FriendRow where
  userId : Int
  friendId : Int
  isAccepted : Bool
  deriving DecidableEq

structure ServerRow where
  id : RowId
  name : Text
  deriving DecidableEq

structure ServerMemberRow where
  serverId : Int
  userId : Int
  isAdmin : Bool
  deriving DecidableEq

structure ChannelRow where
  id : RowId
  serverId : Int
  name : Text
  deriving DecidableEq

structure MessageRow where
  id : RowId
  channelId : Int
  userId : Int
  content : Text
  createdAt : Int
  deriving DecidableEq

structure DirectMessageRow where
  id : RowId
  senderId : Int
  receiverId : Int
  content : Text
  createdAt : Int
  deriving DecidableEq

def FriendRow.pair (row : FriendRow) : Int × Int := (row.userId, row.friendId)

def ServerMemberRow.pair (row : ServerMemberRow) : Int × Int := (row.serverId, row.userId)

def ChannelRow.place (row : ChannelRow) : Int × Text := (row.serverId, row.name)

/-! ### The schema -/

structure Tables where
  users : List UserRow
  friends : List FriendRow
  servers : List ServerRow
  serverMembers : List ServerMemberRow
  channels : List ChannelRow
  messages : List MessageRow
  directMessages : List DirectMessageRow

namespace Tables

variable (tables : Tables)

def userIds : List Int := tables.users.map fun row => row.id
def serverIds : List Int := tables.servers.map fun row => row.id
def channelIds : List Int := tables.channels.map fun row => row.id
def messageIds : List Int := tables.messages.map fun row => row.id
def directMessageIds : List Int := tables.directMessages.map fun row => row.id

end Tables

/-- SQL `length` of a text: its UTF-8 characters, each a byte with the continuation bytes that
follow a byte of at least `0xC0`. -/
def characterCount (text : Text) : Nat :=
  count false text.bytes
where
  count : Bool → List UInt8 → Nat
    | _, [] => 0
    | inside, byte :: rest =>
      if inside && (0x80 ≤ byte && byte < 0xC0) then count true rest
      else count (0xC0 ≤ byte) rest + 1

/-- The constraints of the schema, table by table. -/
structure Tables.Integrity (tables : Tables) : Prop where
  users_id : UniqueOn (fun row : UserRow => (row.id : Int)) tables.users
  users_username : UniqueOn UserRow.username tables.users
  users_email : UniqueOn UserRow.email tables.users
  users_status : ∀ row ∈ tables.users, characterCount row.status ≤ 64
  friends_user : References FriendRow.userId tables.friends tables.userIds
  friends_friend : References FriendRow.friendId tables.friends tables.userIds
  friends_pair : UniqueOn FriendRow.pair tables.friends
  servers_id : UniqueOn (fun row : ServerRow => (row.id : Int)) tables.servers
  servers_name : UniqueOn ServerRow.name tables.servers
  members_server : References ServerMemberRow.serverId tables.serverMembers tables.serverIds
  members_user : References ServerMemberRow.userId tables.serverMembers tables.userIds
  members_pair : UniqueOn ServerMemberRow.pair tables.serverMembers
  channels_id : UniqueOn (fun row : ChannelRow => (row.id : Int)) tables.channels
  channels_server : References ChannelRow.serverId tables.channels tables.serverIds
  channels_place : UniqueOn ChannelRow.place tables.channels
  messages_id : UniqueOn (fun row : MessageRow => (row.id : Int)) tables.messages
  messages_channel : References MessageRow.channelId tables.messages tables.channelIds
  messages_user : References MessageRow.userId tables.messages tables.userIds
  direct_id : UniqueOn (fun row : DirectMessageRow => (row.id : Int)) tables.directMessages
  direct_sender : References DirectMessageRow.senderId tables.directMessages tables.userIds
  direct_receiver : References DirectMessageRow.receiverId tables.directMessages tables.userIds

instance (tables : Tables) : Decidable tables.Integrity :=
  decidable_of_iff
    ((UniqueOn (fun row : UserRow => (row.id : Int)) tables.users ∧
      UniqueOn UserRow.username tables.users ∧ UniqueOn UserRow.email tables.users ∧
      (∀ row ∈ tables.users, characterCount row.status ≤ 64)) ∧
    (References FriendRow.userId tables.friends tables.userIds ∧
      References FriendRow.friendId tables.friends tables.userIds ∧
      UniqueOn FriendRow.pair tables.friends) ∧
    (UniqueOn (fun row : ServerRow => (row.id : Int)) tables.servers ∧
      UniqueOn ServerRow.name tables.servers) ∧
    (References ServerMemberRow.serverId tables.serverMembers tables.serverIds ∧
      References ServerMemberRow.userId tables.serverMembers tables.userIds ∧
      UniqueOn ServerMemberRow.pair tables.serverMembers) ∧
    (UniqueOn (fun row : ChannelRow => (row.id : Int)) tables.channels ∧
      References ChannelRow.serverId tables.channels tables.serverIds ∧
      UniqueOn ChannelRow.place tables.channels) ∧
    (UniqueOn (fun row : MessageRow => (row.id : Int)) tables.messages ∧
      References MessageRow.channelId tables.messages tables.channelIds ∧
      References MessageRow.userId tables.messages tables.userIds) ∧
    (UniqueOn (fun row : DirectMessageRow => (row.id : Int)) tables.directMessages ∧
      References DirectMessageRow.senderId tables.directMessages tables.userIds ∧
      References DirectMessageRow.receiverId tables.directMessages tables.userIds))
    ⟨fun ⟨⟨u1, u2, u3, u4⟩, ⟨f1, f2, f3⟩, ⟨s1, s2⟩, ⟨m1, m2, m3⟩, ⟨c1, c2, c3⟩, ⟨t1, t2, t3⟩,
        d1, d2, d3⟩ =>
      ⟨u1, u2, u3, u4, f1, f2, f3, s1, s2, m1, m2, m3, c1, c2, c3, t1, t2, t3, d1, d2, d3⟩,
    fun ⟨u1, u2, u3, u4, f1, f2, f3, s1, s2, m1, m2, m3, c1, c2, c3, t1, t2, t3, d1, d2, d3⟩ =>
      ⟨⟨u1, u2, u3, u4⟩, ⟨f1, f2, f3⟩, ⟨s1, s2⟩, ⟨m1, m2, m3⟩, ⟨c1, c2, c3⟩, ⟨t1, t2, t3⟩,
        d1, d2, d3⟩⟩

/-- Tables that satisfy the schema. -/
structure Database extends Tables where
  integrity : toTables.Integrity

namespace Database

theorem ext {first second : Database} (equal : first.toTables = second.toTables) :
    first = second := by
  cases first
  cases second
  cases equal
  rfl

/-- The tables right after the schema was created. -/
def empty : Database where
  users := []
  friends := []
  servers := []
  serverMembers := []
  channels := []
  messages := []
  directMessages := []
  integrity := by decide

/-- The result of a statement that leaves these tables: none, when they violate a constraint. -/
def commit (tables : Tables) : Option Database :=
  if integrity : tables.Integrity then some ⟨tables, integrity⟩ else none

theorem commit_eq_some {tables : Tables} {database : Database} :
    commit tables = some database ↔ database.toTables = tables := by
  unfold commit
  constructor
  · intro committed
    split at committed
    · cases committed
      rfl
    · cases committed
  · rintro rfl
    rw [dif_pos database.integrity]

theorem commit_of_integrity {tables : Tables} (integrity : tables.Integrity) :
    commit tables = some ⟨tables, integrity⟩ :=
  commit_eq_some.mpr rfl

/-! ### Insertions -/

variable (database : Database)

def insertUser (row : UserRow) : Option Database :=
  commit { database.toTables with users := database.users ++ [row] }

def insertFriend (row : FriendRow) : Option Database :=
  commit { database.toTables with friends := database.friends ++ [row] }

def insertServer (row : ServerRow) : Option Database :=
  commit { database.toTables with servers := database.servers ++ [row] }

def insertServerMember (row : ServerMemberRow) : Option Database :=
  commit { database.toTables with serverMembers := database.serverMembers ++ [row] }

def insertChannel (row : ChannelRow) : Option Database :=
  commit { database.toTables with channels := database.channels ++ [row] }

def insertMessage (row : MessageRow) : Option Database :=
  commit { database.toTables with messages := database.messages ++ [row] }

def insertDirectMessage (row : DirectMessageRow) : Option Database :=
  commit { database.toTables with directMessages := database.directMessages ++ [row] }

/-! ### Updates and deletions -/

def updateUserStatus (id : Int) (status : Text) : Option Database :=
  commit { database.toTables with
    users := database.users.map fun row => if row.id = id then { row with status } else row }

def acceptFriend (pair : Int × Int) : Database where
  toTables := { database.toTables with
    friends := database.friends.map fun row =>
      if row.pair = pair then { row with isAccepted := true } else row }
  integrity := { database.integrity with
    friends_user := database.integrity.friends_user.map fun row => by split <;> rfl
    friends_friend := database.integrity.friends_friend.map fun row => by split <;> rfl
    friends_pair := database.integrity.friends_pair.map fun row => by split <;> rfl }

def deleteFriends (where' : FriendRow → Bool) : Database where
  toTables := { database.toTables with
    friends := database.friends.filter fun row => !where' row }
  integrity := { database.integrity with
    friends_user := database.integrity.friends_user.filter _
    friends_friend := database.integrity.friends_friend.filter _
    friends_pair := database.integrity.friends_pair.filter _ }

def deleteServerMember (pair : Int × Int) : Database where
  toTables := { database.toTables with
    serverMembers := database.serverMembers.filter fun row => row.pair ≠ pair }
  integrity := { database.integrity with
    members_server := database.integrity.members_server.filter _
    members_user := database.integrity.members_user.filter _
    members_pair := database.integrity.members_pair.filter _ }

/-- The messages that stay when channels are deleted: `ON DELETE CASCADE` removes those of a
deleted channel. -/
def messagesWithout (deleted : List ChannelRow) : List MessageRow :=
  database.messages.filter fun row => row.channelId ∉ deleted.map fun channel => (channel.id : Int)

theorem messagesWithout_channel (goes : ChannelRow → Bool) :
    References MessageRow.channelId (database.messagesWithout (database.channels.filter goes))
      ((database.channels.filter fun row => !goes row).map fun row => (row.id : Int)) := by
  intro message member
  obtain ⟨present, kept⟩ := List.mem_filter.mp member
  have channel := database.integrity.messages_channel message present
  obtain ⟨row, rowPresent, same⟩ := List.mem_map.mp channel
  refine List.mem_map.mpr ⟨row, List.mem_filter.mpr ⟨rowPresent, ?_⟩, same⟩
  cases going : goes row with
  | false => rfl
  | true =>
    have deleted : message.channelId ∈
        (database.channels.filter goes).map fun channel => (channel.id : Int) :=
      List.mem_map.mpr ⟨row, List.mem_filter.mpr ⟨rowPresent, going⟩, same⟩
    exact absurd deleted (of_decide_eq_true kept)

def deleteChannel (id : Int) : Database where
  toTables := { database.toTables with
    channels := database.channels.filter fun row => !decide ((row.id : Int) = id)
    messages := database.messagesWithout (database.channels.filter fun row => (row.id : Int) = id) }
  integrity := { database.integrity with
    channels_id := database.integrity.channels_id.filter _
    channels_server := database.integrity.channels_server.filter _
    channels_place := database.integrity.channels_place.filter _
    messages_id := database.integrity.messages_id.filter _
    messages_channel := database.messagesWithout_channel _
    messages_user := database.integrity.messages_user.filter _ }

/-- A reference to a server other than the deleted one is still a reference to a server. -/
theorem references_serversWithout {Row : Type} {key : Row → Int} {rows : List Row} (id : Int)
    (references : References key rows database.serverIds) :
    References key (rows.filter fun row => !decide (key row = id))
      ((database.servers.filter fun row => !decide ((row.id : Int) = id)).map
        fun row => (row.id : Int)) := by
  intro row member
  obtain ⟨present, other⟩ := List.mem_filter.mp member
  obtain ⟨server, serverPresent, same⟩ := List.mem_map.mp (references row present)
  refine List.mem_map.mpr ⟨server, List.mem_filter.mpr ⟨serverPresent, ?_⟩, same⟩
  rw [same]
  exact other

/-- Delete a server; the deletion cascades to its members, its channels and their messages. -/
def deleteServer (id : Int) : Database where
  toTables := { database.toTables with
    servers := database.servers.filter fun row => !decide ((row.id : Int) = id)
    serverMembers := database.serverMembers.filter fun row => !decide (row.serverId = id)
    channels := database.channels.filter fun row => !decide (row.serverId = id)
    messages := database.messagesWithout (database.channels.filter fun row => row.serverId = id) }
  integrity := { database.integrity with
    servers_id := database.integrity.servers_id.filter _
    servers_name := database.integrity.servers_name.filter _
    members_server := database.references_serversWithout id database.integrity.members_server
    members_user := database.integrity.members_user.filter _
    members_pair := database.integrity.members_pair.filter _
    channels_id := database.integrity.channels_id.filter _
    channels_server := database.references_serversWithout id database.integrity.channels_server
    channels_place := database.integrity.channels_place.filter _
    messages_id := database.integrity.messages_id.filter _
    messages_channel := database.messagesWithout_channel _
    messages_user := database.integrity.messages_user.filter _ }

end Database

/-- The name of a user. -/
def Tables.nameOf (tables : Tables) (userId : Int) : Text :=
  ((tables.users.find? fun row => (row.id : Int) = userId).map UserRow.username).getD Text.empty

theorem Database.nameOf_eq (database : Database) {row : UserRow} (member : row ∈ database.users) :
    database.nameOf row.id = row.username := by
  rw [Tables.nameOf, (database.integrity.users_id.find?_eq_some_iff _ row).mpr ⟨member, rfl⟩]
  rfl

end Tizcord
