/-
This file proves that friend lists stay right on both sides. Whoever asks for something
about a friend has to ask for the list again, unless a friendship has begun; the other
is sent the list. So once a client has been sent the list since its own last request,
what it lists is what the table says, however long ago that was.
-/

import Tizcord.Client.FriendView
import Tizcord.Server.FriendUpdates
import Tizcord.System.OnlineUsers

namespace Tizcord

open CModel

/-! ### The list as it should be -/

/-- A row of a friend list, as a client lists it. -/
def FriendListRow.entry (row : FriendListRow) : FriendEntry :=
  ⟨row.targetUserId, storedName row.username, row.isIncoming⟩

/-- The entries are the friends of a user in some order, as many as a client has room for. -/
def PresentFriends (database : Database) (userId : Int) (entries : List FriendEntry) : Prop :=
  ∃ rows : List FriendListRow, rows.Perm (friendList database userId) ∧
    entries = (rows.map FriendListRow.entry).take maxFriends

theorem friendList_entries {database : Database} {userId : Int} {row : FriendListRow}
    (member : row ∈ friendList database userId) {packet : TizcordPacket}
    (carries : CarriesFriend row packet) : entryOf packet = row.entry := by
  have known : signed 64 row.targetUserId = row.targetUserId ∧
      signed 32 row.isIncoming = row.isIncoming := by
    simp only [friendList, List.mem_append, List.mem_flatMap, List.mem_filter,
      List.mem_map] at member
    rcases member with ⟨friend, -, user, -, rfl⟩ | ⟨friend, -, user, -, rfl⟩ <;>
      refine ⟨signed_rowId user.id, ?_⟩ <;> dsimp only <;> split <;> rfl
  rw [entryOf, FriendListRow.entry, carries.user, carries.name, carries.code, storedName_take,
    known.1, known.2]

/-! ### Reading a list -/

/-- A way to read the friends of a user out of packets. A list leaves a view that depends on its
rows only, and few packets besides make a difference. -/
structure FriendReader (View : Type) where
  read : View → TizcordPacket → View
  shows : List FriendListRow → View → Prop
  topics : List Topic
  lists : .friends ∈ topics
  few : ∀ topic ∈ topics, topic = .friends ∨ topic = .session
  other : ∀ {view : View} {packet : TizcordPacket},
    (∀ topic, packet.topic = some topic → topic ∉ topics) → read view packet = view
  stream : ∀ {database : Database} {userId : Int} {rows : List FriendListRow}
    {copies : List TizcordPacket} {view : View}, (∀ row ∈ rows, row ∈ friendList database userId) →
      IsFriendList rows copies → shows rows (copies.foldl read view)

/-- A view that shows the friends of a user, in some order. -/
def FriendReader.ShowsFriends {View : Type} (reader : FriendReader View) (database : Database)
    (userId : Int) (view : View) : Prop :=
  ∃ rows : List FriendListRow, rows.Perm (friendList database userId) ∧ reader.shows rows view

/-- The list of the friends of a user, wherever it is sent, shows them as they are. -/
theorem sendFriendList_shows {View : Type} (reader : FriendReader View) {env : Env}
    (reliable : env.Reliable) (fd userId : Int) (process : Process) :
    ∃ copies, SendsList fd copies process (sendFriendList env fd userId process) ∧
      (∃ packet ∈ copies, IsSocialFrame .listFriends .end packet) ∧
      ∀ view, reader.ShowsFriends process.ctx.db userId (copies.foldl reader.read view) := by
  obtain ⟨copies, stream, sent⟩ := sendFriendList_sends env fd userId process
  rw [dbListFriendRequests_of_reliable (reliable _)] at stream
  refine ⟨copies, sent, ?_, fun view => ?_⟩
  · obtain ⟨first, items, last, rfl, -, -, closes⟩ := stream.split
    exact ⟨last, List.mem_cons_of_mem _ (List.mem_append_right _ List.mem_cons_self),
      closes.toIsSocialFrame⟩
  · exact ⟨_, arrange_perm _ _, reader.stream (fun row => mem_arrange.mp) stream⟩

section Reading

variable {packet : TizcordPacket} {entries : List FriendEntry} {rows : List FriendListRow}
  {copies : List TizcordPacket}

theorem readFriends_start (frame : IsSocialFrame .listFriends .start packet) :
    readFriends entries packet = [] := by
  have marks : ListFrameType.start.marks packet = true := decide_eq_true frame.frame
  rw [readFriends, frame.request, readFriendsOf, if_pos marks]

theorem readFriends_middle (frame : IsSocialFrame .listFriends .middle packet) :
    readFriends entries packet = (entries ++ [entryOf packet]).take maxFriends := by
  have marks : ListFrameType.middle.marks packet = true := decide_eq_true frame.frame
  rw [readFriends, frame.request, readFriendsOf, if_neg (marks_unique marks (by decide)), marks,
    Bool.true_or, if_pos rfl]

theorem readFriends_end (frame : IsSocialFrame .listFriends .end packet) :
    readFriends entries packet = entries := by
  have marks : ListFrameType.end.marks packet = true := decide_eq_true frame.frame
  have other :
      (ListFrameType.middle.marks packet || ListFrameType.single.marks packet) = false := by
    rw [Bool.or_eq_false_iff]
    exact ⟨Bool.eq_false_of_not_eq_true (marks_unique marks (by decide)),
      Bool.eq_false_of_not_eq_true (marks_unique marks (by decide))⟩
  rw [readFriends, frame.request, readFriendsOf, if_neg (marks_unique marks (by decide)), other,
    if_neg Bool.false_ne_true]

theorem foldl_readFriends_rows (room : entries.length ≤ maxFriends) {items : List TizcordPacket}
    (entry : ∀ row ∈ rows, ∀ packet, CarriesFriend row packet → entryOf packet = row.entry)
    (each : List.Forall₂ CarriesFriend rows items) :
    items.foldl readFriends entries =
      (entries ++ rows.map FriendListRow.entry).take maxFriends := by
  induction rows generalizing items entries with
  | nil =>
    obtain rfl := List.forall₂_nil_left_iff.mp each
    rw [List.map_nil, List.append_nil, List.take_of_length_le room]
    rfl
  | cons row rest inductionHypothesis =>
    obtain ⟨item, later, carries, eachLater, rfl⟩ := List.forall₂_cons_left_iff.mp each
    obtain ⟨first, others⟩ := List.forall_mem_cons.mp entry
    rw [List.foldl_cons, readFriends_middle carries.toIsSocialFrame, first item carries,
      inductionHypothesis ((List.length_take_le ..)) others eachLater, List.map_cons]
    by_cases short : (entries ++ [row.entry]).length ≤ maxFriends
    · rw [List.take_of_length_le short, List.append_assoc, List.singleton_append]
    · have full : entries.length = maxFriends := by
        rw [List.length_append, List.length_singleton] at short
        omega
      rw [List.take_left' full, List.take_left' full, List.take_left' full]

/-- Whatever a client listed before it, after a stream of friends it lists these. -/
theorem readFriends_stream
    (entry : ∀ row ∈ rows, ∀ packet, CarriesFriend row packet → entryOf packet = row.entry)
    (stream : IsFriendList rows copies) :
    copies.foldl readFriends entries = (rows.map FriendListRow.entry).take maxFriends := by
  obtain ⟨first, items, last, rfl, opens, each, closes⟩ := stream.split
  rw [List.foldl_cons, readFriends_start opens, List.foldl_append, List.foldl_cons, List.foldl_nil,
    readFriends_end closes.toIsSocialFrame, foldl_readFriends_rows (Nat.zero_le _) entry each,
    List.nil_append]

/-- A packet about something else is not read into the friends. -/
theorem readFriends_other (other : ∀ topic, packet.topic = some topic →
    topic ∉ [Topic.friends, Topic.session]) : readFriends entries packet = entries := by
  refine readFriendsOf_other (fun asked => ?_) fun asked => ?_
  · exact other .friends (topic_of_request asked) List.mem_cons_self
  · exact other .session (topic_of_request asked) (List.mem_cons_of_mem _ List.mem_cons_self)

/-- A client lists as many friends as it has room for, and none after a session. -/
def entriesReader : FriendReader (List FriendEntry) where
  read := readFriends
  shows rows entries := entries = (rows.map FriendListRow.entry).take maxFriends
  topics := [.friends, .session]
  lists := List.mem_cons_self
  few := by decide
  other := readFriends_other
  stream known stream := readFriends_stream (fun row member _ => friendList_entries (known row member))
    stream

theorem entriesReader_read : entriesReader.read = readFriends := by
  rw [entriesReader]

theorem entriesReader_shows {database : Database} {userId : Int} :
    entriesReader.ShowsFriends database userId entries ↔ PresentFriends database userId entries :=
  Iff.rfl

end Reading

/-! ### What connections have been shown -/

/-- What is followed: how it is read, on the connections of which users and after which effects, and
from which of their packets on it is read anew. These are the requests about ties at least. -/
structure FriendWatch (View : Type) where
  reader : FriendReader View
  whom : Identity → Prop
  past : List Effect
  asks : TizcordPacket → Bool
  ties : ∀ {action : TieAction} {packet : TizcordPacket},
    packet.request = some (.social action.socialAction) → asks packet = true

/-- A friend list stands among the packets. -/
def ListsFriends (packets : List TizcordPacket) : Prop :=
  ∃ packet ∈ packets, IsSocialFrame .listFriends .end packet

/-- No friend list has been sent on the connection. -/
def Process.Unlisted {View : Type} (process : Process) (watch : FriendWatch View) (fd : Int) :
    Prop :=
  ∃ later, process.trace = watch.past ++ later ∧ ¬ ListsFriends (toldSince watch.asks fd later)

/-- If a friend list has been sent on the connection, the friends of the user are shown on it. -/
def Process.ShowsFriends {View : Type} (process : Process) (watch : FriendWatch View)
    (fd userId : Int) : Prop :=
  ∃ later, process.trace = watch.past ++ later ∧ (ListsFriends (toldSince watch.asks fd later) →
    ∀ view, watch.reader.ShowsFriends process.ctx.db userId
      ((toldSince watch.asks fd later).foldl watch.reader.read view))

/-- The connections of all users that are followed show the friends, up to some users. -/
structure Process.FriendsShown {View : Type} (process : Process) (watch : FriendWatch View)
    (but : Int → Prop) : Prop where
  since : watch.past <+: process.trace
  shown : ∀ identity ∈ process.ctx.identities, watch.whom identity →
    identity.isAuthenticated = true → 0 < identity.socketFd → ¬ but identity.id →
      process.ShowsFriends watch identity.socketFd identity.id

section Shown

variable {View : Type} {watch : FriendWatch View} {before after process : Process} {fd userId : Int}
  {topics : List Topic} {copies : List TizcordPacket} {but : Int → Prop}

theorem not_listsFriends_append {told packets : List TizcordPacket} (unlisted : ¬ ListsFriends told)
    (about : ∀ packet ∈ packets, ∀ topic, packet.topic = some topic → topic ∈ topics)
    (other : .friends ∉ topics) : ¬ ListsFriends (told ++ packets) := by
  rintro ⟨packet, member, ends⟩
  rcases List.mem_append.mp member with old | new
  · exact unlisted ⟨packet, old, ends⟩
  · exact absurd (about packet new .friends (topic_of_request ends.request)) other

theorem Process.Unlisted.shows (unlisted : process.Unlisted watch fd) :
    process.ShowsFriends watch fd userId := by
  obtain ⟨later, logged, nothing⟩ := unlisted
  exact ⟨later, logged, fun listed => absurd listed nothing⟩

theorem Process.Unlisted.of_adds (unlisted : before.Unlisted watch fd)
    (adds : Adds watch.asks fd topics before after) (other : .friends ∉ topics) :
    after.Unlisted watch fd := by
  obtain ⟨later, logged, nothing⟩ := unlisted
  obtain ⟨effects, grown, tells⟩ := adds
  obtain ⟨packets, told, about⟩ := tells later
  refine ⟨later ++ effects, by rw [grown, logged, List.append_assoc], ?_⟩
  rw [told]
  exact not_listsFriends_append nothing about other

/-- What tells a connection nothing that is read leaves it with the same friends. -/
theorem Process.ShowsFriends.of_adds (shows : before.ShowsFriends watch fd userId)
    (adds : Adds watch.asks fd topics before after)
    (other : ∀ topic ∈ watch.reader.topics, topic ∉ topics)
    (same : friendList after.ctx.db userId = friendList before.ctx.db userId) :
    after.ShowsFriends watch fd userId := by
  obtain ⟨later, logged, shown⟩ := shows
  obtain ⟨effects, grown, tells⟩ := adds
  obtain ⟨packets, told, about⟩ := tells later
  refine ⟨later ++ effects, by rw [grown, logged, List.append_assoc], fun listed view => ?_⟩
  rw [told] at listed ⊢
  have already : ListsFriends (toldSince watch.asks fd later) := by
    by_contra nothing
    exact not_listsFriends_append nothing about (other _ watch.reader.lists) listed
  rw [FriendReader.ShowsFriends, same, List.foldl_append, foldl_of_ignored]
  · exact shown already view
  · exact fun packet member _ => watch.reader.other fun topic is read =>
      other topic read (about packet member topic is)

/-- A connection that has just been sent the list shows it. -/
theorem showsFriends_of_sends (since : watch.past <+: before.trace)
    (sent : SendsList fd copies before after)
    (reads : ∀ view, watch.reader.ShowsFriends before.ctx.db userId
      (copies.foldl watch.reader.read view)) : after.ShowsFriends watch fd userId := by
  obtain ⟨later, logged⟩ := since
  obtain ⟨effects, grown, delivers⟩ := sent.gained
  refine ⟨later ++ effects, by rw [grown, ← logged, List.append_assoc], fun _ view => ?_⟩
  rw [toldSince_of_delivers delivers, if_pos rfl, List.foldl_append, sent.ctx]
  exact reads _

theorem FriendWatch.unread (watch : FriendWatch View) {topics : List Topic}
    (other : .friends ∉ topics ∧ .session ∉ topics) :
    ∀ topic ∈ watch.reader.topics, topic ∉ topics := by
  intro topic read
  rcases watch.reader.few topic read with rfl | rfl
  · exact other.1
  · exact other.2

theorem Process.FriendsShown.weaken {more : Int → Prop} (shown : process.FriendsShown watch but)
    (weaker : ∀ userId, but userId → more userId) : process.FriendsShown watch more :=
  ⟨shown.since, fun identity member meant authenticated positive spared =>
    shown.shown identity member meant authenticated positive fun is => spared (weaker _ is)⟩

/-- What sends no packet about friends and sessions, and changes the lists of some users at most. -/
theorem Process.FriendsShown.of_emits (shown : before.FriendsShown watch but)
    (emits : Emits topics before after) (other : .friends ∉ topics ∧ .session ∉ topics)
    (fewer : ∀ identity ∈ after.ctx.identities, identity.isAuthenticated = true →
      identity ∈ before.ctx.identities)
    (lists : ∀ userId, ¬ but userId →
      friendList after.ctx.db userId = friendList before.ctx.db userId) :
    after.FriendsShown watch but := by
  refine ⟨shown.since.trans emits.grown, fun identity member meant authenticated positive spared => ?_⟩
  have old := fewer identity member authenticated
  exact (shown.shown identity old meant authenticated positive spared).of_adds (emits.told _ _)
    (watch.unread other) (lists _ spared)

/-- What is sent on a connection without a user changes nothing for the others. -/
theorem Process.FriendsShown.stranger (shown : before.FriendsShown watch but)
    (sent : SendsList fd copies before after)
    (stranger : ∀ identity ∈ before.ctx.identities, identity.isAuthenticated = true →
      identity.socketFd ≠ fd) : after.FriendsShown watch but := by
  refine ⟨shown.since.trans sent.grown, fun identity member meant authenticated positive spared => ?_⟩
  rw [sent.ctx] at member
  have adds : Adds watch.asks identity.socketFd [] before after :=
    sent.adds _ (stranger identity member authenticated).symm
  exact (shown.shown identity member meant authenticated positive spared).of_adds adds
    (fun _ _ => List.not_mem_nil) (by rw [sent.ctx])

/-! ### Notices -/

/-- What holds of the identities of a reachable state. -/
structure SettledSessions (identities : List Identity) : Prop where
  distinct : (identities.map Identity.socketFd).Nodup
  strangers : ∀ identity ∈ identities, identity.isAuthenticated = false → identity.id = 0
  users : ∀ identity ∈ identities, identity.isAuthenticated = true → 0 < identity.id
  sole : SoleSessions identities

theorem SettledSessions.eq_of_fd {identities : List Identity} (settled : SettledSessions identities)
    {first second : Identity} (inFirst : first ∈ identities) (inSecond : second ∈ identities)
    (same : first.socketFd = second.socketFd) : first = second :=
  List.inj_on_of_nodup_map settled.distinct inFirst inSecond same

theorem sendFriendList_informs {env : Env} (reliable : env.Reliable)
    (settled : SettledSessions process.ctx.identities) (shown : process.FriendsShown watch but)
    {node : ClientNode} (member : node ∈ process.ctx.clients) (user : 0 < node.id) :
    (sendFriendList env node.socketFd node.id process).ctx = process.ctx ∧
      (sendFriendList env node.socketFd node.id process).FriendsShown watch
        fun userId => but userId ∧ userId ≠ node.id := by
  obtain ⟨copies, sent, -, reads⟩ :=
    sendFriendList_shows watch.reader reliable node.socketFd node.id process
  refine ⟨sent.ctx, shown.since.trans sent.grown,
    fun identity present meant authenticated positive spared => ?_⟩
  rw [sent.ctx] at present
  have own : node.identity ∈ process.ctx.identities := mem_identities.mpr ⟨node, member, rfl⟩
  have known : node.isAuthenticated = true := by
    refine Bool.eq_true_of_not_eq_false fun stranger => ?_
    have nobody : node.id = 0 := settled.strangers node.identity own stranger
    omega
  by_cases here : node.socketFd = identity.socketFd
  · rw [← settled.eq_of_fd own present here]
    exact showsFriends_of_sends shown.since sent reads
  · have other : identity.id ≠ node.id := fun same =>
      here (settled.sole.alone node.identity own identity present known authenticated same.symm)
    have adds : Adds watch.asks identity.socketFd [] process
        (sendFriendList env node.socketFd node.id process) := sent.adds _ here
    have told := shown.shown identity present meant authenticated positive fun is =>
      spared ⟨is, other⟩
    exact told.of_adds adds (fun _ _ => List.not_mem_nil) (by rw [sent.ctx])

/-- After a notice to a user, the connection of this user is shown the friends too. -/
theorem notifyFriendListUpdate_informs {env : Env} (reliable : env.Reliable)
    (settled : SettledSessions process.ctx.identities) (shown : process.FriendsShown watch but)
    (user : 0 < userId) :
    (notifyFriendListUpdate env userId process).ctx = process.ctx ∧
      (notifyFriendListUpdate env userId process).FriendsShown watch
        fun other => but other ∧ other ≠ userId := by
  rw [notifyFriendListUpdate]
  cases found : process.ctx.clients.find? fun node => 0 < node.socketFd && node.id = userId with
  | none =>
    refine ⟨rfl, shown.since, fun identity present meant authenticated positive spared => ?_⟩
    refine shown.shown identity present meant authenticated positive fun is =>
      spared ⟨is, fun same => ?_⟩
    obtain ⟨node, member, rfl⟩ := mem_identities.mp present
    have passed := List.find?_eq_none.mp found node member
    rw [Bool.and_eq_true, decide_eq_true_eq, decide_eq_true_eq] at passed
    exact passed ⟨positive, same⟩
  | some node =>
    have is := List.find?_some found
    rw [Bool.and_eq_true, decide_eq_true_eq, decide_eq_true_eq] at is
    obtain ⟨-, rfl⟩ := is
    exact sendFriendList_informs reliable settled shown (List.mem_of_find?_eq_some found) user

end Shown

/-! ### Requests about friends -/

section Requests

variable {View : Type} {watch : FriendWatch View} {env : Env} {before after process : Process}
  {client : ClientNode}

/-- A request about friends leaves everybody but the client with the right list, and the client
too if it has been sent one. -/
theorem FriendUpdate.informs (update : FriendUpdate env client before after)
    (reliable : env.Reliable) (settled : SettledSessions before.ctx.identities)
    (shown : before.FriendsShown watch fun _ => False) (member : client ∈ before.ctx.clients)
    (authenticated : client.isAuthenticated = true)
    (unlisted : before.Unlisted watch client.socketFd) :
    after.FriendsShown watch fun _ => False := by
  have own : client.identity ∈ before.ctx.identities := mem_identities.mpr ⟨client, member, rfl⟩
  have user : 0 < client.id := settled.users _ own authenticated
  cases update with
  | kept emits identities lists =>
    exact shown.of_emits emits ⟨List.not_mem_nil, List.not_mem_nil⟩
      (fun _ member _ => identities ▸ member) fun userId _ => lists userId
  | @moved friendId middle friend emits identities others told =>
    have friends : middle.FriendsShown watch fun userId => userId = friendId := by
      refine ⟨shown.since.trans emits.grown,
        fun identity present meant known positive spared => ?_⟩
      rw [identities] at present
      have adds := emits.told watch.asks identity.socketFd
      by_cases same : identity.id = client.id
      · have here := settled.sole.alone _ present _ own known authenticated same
        have nothing : before.Unlisted watch identity.socketFd := here.symm ▸ unlisted
        exact (nothing.of_adds adds List.not_mem_nil).shows
      · exact (shown.shown identity present meant known positive id).of_adds adds
          (fun _ _ => List.not_mem_nil) (others _ ⟨same, spared⟩)
    have settled' : SettledSessions middle.ctx.identities := identities ▸ settled
    have known : 0 < friendId := by
      obtain ⟨row, -, is⟩ := List.mem_map.mp friend
      rw [← is]
      exact row.id.2.1
    rcases told with rfl | rfl
    · exact (notifyFriendListUpdate_informs reliable settled' friends known).2.weaken
        fun userId both => both.2 both.1
    · obtain ⟨ctx, first⟩ := notifyFriendListUpdate_informs reliable settled' friends user
      have settled'' :
          SettledSessions (notifyFriendListUpdate env client.id middle).ctx.identities :=
        ctx.symm ▸ settled'
      exact (notifyFriendListUpdate_informs reliable settled'' first known).2.weaken
        fun userId both => both.2 both.1.1

end Requests

/-! ### Requests about sessions -/

section Sessions

variable {env : Env} {process : Process} {own target userId : Int} {username : Text}
  {test : TizcordPacket → Bool} {topics : List Topic}

/-- Ending the other sessions of a user tells nothing to a connection that is not one of them. -/
theorem revokeExistingLogin_adds (env : Env) (username : Text) (process : Process)
    (spared : ∀ node ∈ process.ctx.clients, node.socketFd = target →
      ¬ node.identity.Revoked own userId) :
    Adds test target topics process (revokeExistingLogin env own userId username process) := by
  have loop : (∀ node ∈ (revokeExistingLogin env own userId username process).ctx.clients,
        node.socketFd = target → ¬ node.identity.Revoked own userId) ∧
      Adds test target topics process (revokeExistingLogin env own userId username process) := by
    refine List.foldlRecOn _ _ (motive := fun other : Process =>
      (∀ node ∈ other.ctx.clients, node.socketFd = target →
        ¬ node.identity.Revoked own userId) ∧ Adds test target topics process other)
      ⟨spared, .refl ..⟩ ?_
    rintro other ⟨kept, adds⟩ index -
    dsimp only
    split
    · exact ⟨kept, adds⟩
    · next opened =>
      split
      · exact ⟨kept, adds⟩
      · next known =>
        rw [not_or, not_le] at opened
        rw [not_or, Bool.not_eq_false, not_not] at known
        have member : other.clientAt index ∈ other.ctx.clients := by
          refine ServerContext.clientAt_mem fun nobody => ?_
          rw [Process.clientAt, nobody] at known
          exact Bool.noConfusion known.1
        have elsewhere : (other.clientAt index).socketFd ≠ target := fun here =>
          kept _ member here ⟨⟨opened.1, opened.2⟩, known.1, known.2⟩
        refine ⟨fun node member here revoked => ?_, adds.trans
          ((sendsList_send env _ other _).adds test elsewhere)⟩
        rcases mem_modify member with old | ⟨old, present, rfl⟩
        · exact kept node old here revoked
        · exact Bool.noConfusion revoked.2.1
  exact loop.2

variable {beyond : List UInt8} {packet : TizcordPacket}

/-- A login tells nothing about sessions to another connection that is still that of a user. -/
theorem loginAccount_adds (distinct : process.ctx.fds.Nodup) (elsewhere : own ≠ target)
    (signedIn : ∃ identity ∈ (loginAccount env beyond own packet process).ctx.identities,
      identity.isAuthenticated = true ∧ identity.socketFd = target) :
    Adds test target [.users, .members] process (loginAccount env beyond own packet process) := by
  have answered : ∀ (statusCode : Int) (process : Process), Adds test target [.users, .members]
      process (process.send env own (authPacket .login statusCode)) := fun _ process =>
    (sendsList_send env own process _).adds test elsewhere
  unfold loginAccount at signedIn ⊢
  generalize packet.authUsername beyond = username at signedIn ⊢
  generalize packet.authPassword beyond = password at signedIn ⊢
  have looks : Emits [.users, .members] process
      (process.log (.called (.getPasswordHash username))).tick :=
    .single (rfl : _ = process.trace ++ [_]) trivial
  have quiet : Quiet process (process.log (.called (.getPasswordHash username))).tick :=
    (quiet_log (silent_called rfl) process).trans ⟨rfl, rfl, rfl⟩
  dsimp only [Process.read] at signedIn ⊢
  generalize (process.log (.called (.getPasswordHash username))).tick = looked
    at looks quiet signedIn ⊢
  cases found : dbGetPasswordHash (env.db process.clock) process.ctx.db username with
  | none => exact (looks.told test target).trans (answered _ _)
  | some result =>
    obtain ⟨dbHash, dbUserId⟩ := result
    rw [found] at signedIn
    have known := account_of_hash found
    have computes := looks.trans (hashPassword_emits env password dbHash looked)
    have quietly : Quiet process (hashPassword env password dbHash looked).1 :=
      quiet.trans (quiet_log (fun _ => rfl) _)
    have result : (hashPassword env password dbHash looked).2 = env.crypt password dbHash := rfl
    dsimp only at signedIn ⊢
    generalize hashPassword env password dbHash looked = computed
      at computes quietly result signedIn ⊢
    by_cases wrong : computed.2 ≠ some dbHash
    · rw [if_pos wrong]
      exact (Emits.told computes test target).trans (answered _ _)
    · rw [if_neg wrong] at signedIn ⊢
      have identities := (@logsInto_of_known env process own ⟨dbUserId, username, dbHash⟩ username
        password distinct known rfl (result ▸ not_not.mp wrong) _ quietly).identities
      obtain ⟨identity, member, authenticated, here⟩ := signedIn
      rw [identities] at member
      have old : identity ∈ process.ctx.identities ∧ ¬ identity.Revoked own dbUserId := by
        rcases mem_linked member with ⟨old, -⟩ | ⟨_, -, mine, rfl⟩
        · exact mem_revoked old authenticated
        · exact absurd (mine.symm.trans here) elsewhere
      have spared : ∀ node ∈ computed.1.ctx.clients, node.socketFd = target →
          ¬ node.identity.Revoked own dbUserId := by
        intro node present same
        have inside : node.identity ∈ process.ctx.identities := by
          rw [← quietly.identities]
          exact mem_identities.mpr ⟨node, present, rfl⟩
        rw [fds_eq_identities] at distinct
        rw [List.inj_on_of_nodup_map distinct inside old.1 (same.trans here.symm)]
        exact old.2
      have revoked := @revokeExistingLogin_adds own target dbUserId test [.users, .members] env
        username computed.1 spared
      refine (Emits.told computes test target).trans (revoked.trans
        (Adds.trans (Emits.told ?_ test target) (answered _ _)))
      exact (linkIdentity_emits own dbUserId username _).trans
        ((notifyServerMemberListsForUser_emits env dbUserId _ (by decide)).trans
          (notifyAllUserLists_emits env _ (by decide)))

/-- A logout tells nothing about sessions to another connection. -/
theorem logoutAccount_adds (elsewhere : own ≠ target) :
    Adds test target [.users, .members] process (logoutAccount env own process) := by
  have replied : ∀ (packet : TizcordPacket) (process : Process), Adds test target
      [.users, .members] process (process.send env own packet) := fun packet process =>
    (sendsList_send env own process packet).adds test elsewhere
  unfold logoutAccount
  split
  · exact .refl ..
  · dsimp only
    split
    · exact replied _ _
    · exact (Emits.told ((LogsOnly.modifyClient process _ _).trans
        ((notifyServerMemberListsForUser_emits env _ _ (by decide)).trans
          (notifyAllUserLists_emits env _ (by decide)))) test target).trans (replied _ _)

theorem handleAuthAction_adds (distinct : process.ctx.fds.Nodup) (elsewhere : own ≠ target)
    (action : AuthAction)
    (signedIn : ∃ identity ∈
        (handleAuthAction env beyond own packet process (some action)).ctx.identities,
      identity.isAuthenticated = true ∧ identity.socketFd = target) :
    Adds test target [.users, .members] process
      (handleAuthAction env beyond own packet process (some action)) := by
  cases action with
  | register =>
    exact (handleAuthAction_emits env beyond own packet process .register
      (fun other => absurd rfl other) (by decide) (by decide)).told test target
  | login => exact loginAccount_adds distinct elsewhere signedIn
  | logout => exact logoutAccount_adds elsewhere

end Sessions

/-! ### What a packet changes -/

section Handling

variable {View : Type} {watch : FriendWatch View} {env : Env} {fd : Int} {beyond : List UInt8}
  {packet : TizcordPacket} {index : Nat} {before after process : Process}

/-- Whoever is signed in on another connection after the handling of a packet was so before. -/
theorem SessionChange.others (change : SessionChange env fd beyond packet before after)
    {identity : Identity} (member : identity ∈ after.ctx.identities)
    (authenticated : identity.isAuthenticated = true) (elsewhere : identity.socketFd ≠ fd) :
    identity ∈ before.ctx.identities := by
  cases change with
  | other _ quiet | refused _ quiet | wrong _ quiet _ => exact quiet.identities ▸ member
  | registered _ registers =>
    rw [registers.identities] at member
    rcases mem_linked member with ⟨old, -⟩ | ⟨_, -, own, rfl⟩
    · exact old
    · exact absurd own elsewhere
  | loggedIn _ logsIn =>
    rw [logsIn.identities] at member
    rcases mem_linked member with ⟨old, -⟩ | ⟨_, -, own, rfl⟩
    · exact (mem_revoked old authenticated).1
    · exact absurd own elsewhere
  | loggedOut _ logsOut =>
    rw [logsOut.identities] at member
    exact mem_cleared member authenticated

/-- Accounts are only added, and under new ids. -/
theorem SessionChange.accounts_grow (change : SessionChange env fd beyond packet before after) :
    ∃ more, after.ctx.db.accounts = before.ctx.db.accounts ++ more ∧
      ∀ account ∈ more, account.userId ∉ before.ctx.db.userIds := by
  have kept : after.ctx.db.accounts = before.ctx.db.accounts →
      ∃ more, after.ctx.db.accounts = before.ctx.db.accounts ++ more ∧
        ∀ account ∈ more, account.userId ∉ before.ctx.db.userIds := fun same =>
    ⟨[], same.trans (List.append_nil _).symm, fun _ member => absurd member List.not_mem_nil⟩
  cases change with
  | other _ quiet | refused _ quiet | wrong _ quiet _ => exact kept quiet.accounts
  | registered _ registers =>
    exact ⟨_, registers.accounts, List.forall_mem_singleton.mpr registers.fresh⟩
  | loggedIn _ logsIn => exact kept logsIn.accounts
  | loggedOut _ logsOut => exact kept logsOut.accounts

/-- A packet that asks for no action on a friend leaves all friend lists as they are. -/
theorem processClientPacket_friendList (distinct : process.ctx.fds.Nodup)
    (valid : process.ctx.Valid)
    (other : ∀ action : TieAction, packet.request ≠ some (.social action.socialAction))
    (userId : Int) :
    friendList (processClientPacket env index packet process).ctx.db userId =
      friendList process.ctx.db userId := by
  have friends : (processClientPacket env index packet process).ctx.db.friends =
      process.ctx.db.friends := (processClientPacket_acts env index packet process).friends other
  obtain ⟨more, accounts, fresh⟩ :=
    (processClientPacket_changes env index packet distinct valid).accounts_grow
  exact friendList_congr (congrArg _ friends) accounts fresh

/-- Where the handling of a packet begins, what was sent before is forgotten if the packet asks. -/
theorem begun_told (process : Process) (index : Nat) (packet : TizcordPacket)
    (test : TizcordPacket → Bool) (fd : Int) :
    ∃ effects, (process.begun index packet).trace = process.trace ++ effects ∧ ∀ trace,
      toldSince test fd (trace ++ effects) =
        if (process.clientAt index).socketFd = fd ∧ test packet = true then []
        else toldSince test fd trace := by
  refine ⟨_, rfl, fun trace => ?_⟩
  rw [toldSince, List.foldl_append, List.foldl_cons, List.foldl_nil, Effect.tells]
  rfl

theorem not_listsFriends_nil : ¬ ListsFriends [] := by
  rintro ⟨packet, member, -⟩
  exact absurd member List.not_mem_nil

theorem Process.Unlisted.begun {fd : Int} (unlisted : process.Unlisted watch fd) (index : Nat)
    (packet : TizcordPacket) : (process.begun index packet).Unlisted watch fd := by
  obtain ⟨later, logged, nothing⟩ := unlisted
  obtain ⟨effects, grown, told⟩ := begun_told process index packet watch.asks fd
  refine ⟨later ++ effects, by rw [grown, logged, List.append_assoc], ?_⟩
  rw [told]
  split
  · exact not_listsFriends_nil
  · exact nothing

theorem unlisted_begun (since : watch.past <+: process.trace) (index : Nat)
    (asked : watch.asks packet = true) :
    (process.begun index packet).Unlisted watch (process.clientAt index).socketFd := by
  obtain ⟨later, logged⟩ := since
  obtain ⟨effects, grown, told⟩ := begun_told process index packet watch.asks
    (process.clientAt index).socketFd
  refine ⟨later ++ effects, by rw [grown, ← logged, List.append_assoc], ?_⟩
  rw [told, if_pos ⟨rfl, asked⟩]
  exact not_listsFriends_nil

theorem Process.FriendsShown.begun (shown : process.FriendsShown watch fun _ => False)
    (index : Nat) (packet : TizcordPacket) :
    (process.begun index packet).FriendsShown watch fun _ => False := by
  refine ⟨shown.since.trans ⟨_, rfl⟩, fun identity member meant authenticated positive spared => ?_⟩
  obtain ⟨later, logged, shows⟩ :=
    shown.shown identity member meant authenticated positive spared
  obtain ⟨effects, grown, told⟩ := begun_told process index packet watch.asks identity.socketFd
  refine ⟨later ++ effects, by rw [grown, logged, List.append_assoc], fun listed view => ?_⟩
  rw [told] at listed ⊢
  split at listed
  · exact absurd listed not_listsFriends_nil
  · next other =>
    rw [if_neg other]
    exact shows listed view

/-- A connection that is followed at last has been sent no friend list before, or is that of the
same user all the time. -/
def Process.Resumes (before after : Process) (watch : FriendWatch View) : Prop :=
  ∀ identity ∈ after.ctx.identities, watch.whom identity → identity.isAuthenticated = true →
    before.Unlisted watch identity.socketFd ∨ ∃ old ∈ before.ctx.identities, watch.whom old ∧
      old.isAuthenticated = true ∧ old.socketFd = identity.socketFd ∧ old.id = identity.id

/-- The handling of a packet about a session leaves the lists right: those of the others, and those
that are followed beyond such a packet. -/
theorem processClientPacket_session (shown : process.FriendsShown watch fun _ => False)
    (distinct : process.ctx.fds.Nodup) (valid : process.ctx.Valid) {action : AuthAction}
    (asked : packet.request = some (.auth action))
    (resumes : watch.asks packet = true ∨ .session ∉ watch.reader.topics ∧
      process.Resumes (processClientPacket env index packet process) watch) :
    (processClientPacket env index packet process).FriendsShown watch fun _ => False := by
  have change := processClientPacket_changes env index packet distinct valid
  have emits := processClientPacket_emits env index packet process
  rw [asked, ← Process.begun] at emits
  have lists : ∀ userId, friendList (processClientPacket env index packet process).ctx.db userId =
      friendList process.ctx.db userId := by
    refine processClientPacket_friendList distinct valid fun tie same => ?_
    rw [asked] at same
    cases same
  refine ⟨shown.since.trans (List.IsPrefix.trans ⟨_, rfl⟩ emits.grown),
    fun identity member meant authenticated positive spared => ?_⟩
  have adds := emits.told watch.asks identity.socketFd
  have untold : Topic.friends ∉ topicsOf (some (.auth action)) := by simp [topicsOf]
  by_cases own : (process.clientAt index).socketFd = identity.socketFd
  · rcases resumes with asks | ⟨heedless, resumed⟩
    · have unlisted := @unlisted_begun _ watch packet process shown.since index asks
      rw [own] at unlisted
      exact (unlisted.of_adds adds untold).shows
    · rcases resumed identity member meant authenticated with
        unlisted | ⟨old, present, meantToo, known, sameFd, sameId⟩
      · exact ((unlisted.begun index packet).of_adds adds untold).shows
      · have begins := (shown.begun index packet).shown old present meantToo known
          (sameFd ▸ positive) spared
        rw [sameFd, sameId] at begins
        refine begins.of_adds adds (fun topic read => ?_) (lists _)
        rcases watch.reader.few topic read with rfl | rfl
        · exact untold
        · exact absurd read heedless
  · have old := change.others member authenticated (Ne.symm own)
    have begins := (shown.begun index packet).shown identity old meant authenticated positive spared
    have handled : processClientPacket env index packet process =
        handleAuthAction env (env.beyond process.clock) (process.clientAt index).socketFd packet
          (process.begun index packet) (some action) := processClientPacket_auth asked
    have addsElse := @handleAuthAction_adds env (process.begun index packet)
      (process.clientAt index).socketFd identity.socketFd watch.asks
      (env.beyond process.clock) packet distinct own action
      (handled ▸ ⟨identity, member, authenticated, rfl⟩)
    rw [← handled] at addsElse
    exact begins.of_adds addsElse (watch.unread ⟨by decide, by decide⟩) (lists _)

/-- The handling of any packet leaves the users with the right lists. -/
theorem processClientPacket_shown (reliable : env.Reliable)
    (shown : process.FriendsShown watch fun _ => False)
    (settled : SettledSessions process.ctx.identities) (paired : Paired process.ctx.db.friends)
    (distinct : process.ctx.fds.Nodup) (valid : process.ctx.Valid)
    (inside : index < process.ctx.clients.length) (packet : TizcordPacket)
    (resumes : (∀ action, packet.request = some (.auth action) → watch.asks packet = true) ∨
      .session ∉ watch.reader.topics ∧
        process.Resumes (processClientPacket env index packet process) watch) :
    (processClientPacket env index packet process).FriendsShown watch fun _ => False := by
  have member := clientAt_mem_of_lt inside
  have begins := shown.begun index packet
  by_cases about : .friends ∈ topicsOf packet.request ∨ .session ∈ topicsOf packet.request
  · cases asked : packet.request with
    | none =>
      rw [asked] at about
      exact absurd about (by decide)
    | some request =>
      rw [asked] at about
      cases request with
      | auth action =>
        exact processClientPacket_session shown distinct valid asked
          (resumes.imp_left fun asks => asks action asked)
      | social action =>
        cases authenticated : (process.clientAt index).isAuthenticated with
        | false =>
          obtain ⟨copies, sent, stranger⟩ :=
            processClientPacket_refused env distinct inside asked authenticated
          exact begins.stranger sent stranger
        | true =>
          have user : (process.clientAt index).id ∈
              (process.begun index packet).ctx.db.userIds := (valid _ member).user authenticated
          have paired' : Paired (process.begun index packet).ctx.db.friends := paired
          have tie : ∀ action : TieAction, packet.request = some (.social action.socialAction) →
              (processClientPacket env index packet process).FriendsShown watch
                fun _ => False := by
            intro action asked
            rw [processClientPacket_tie action asked authenticated, ← Process.begun]
            exact (action.handle_updates reliable paired' user _).informs reliable settled begins
              member authenticated (unlisted_begun shown.since index (watch.ties asked))
          cases action with
          | friendRequest => exact tie .request asked
          | friendAccept => exact tie .accept asked
          | friendReject => exact tie .reject asked
          | friendRemove => exact tie .remove asked
          | listFriends =>
            rw [processClientPacket_social asked authenticated, ← Process.begun, handleSocialAction]
            have positive : 0 < (process.clientAt index).id :=
              settled.users _ (mem_identities.mpr ⟨_, member, rfl⟩) authenticated
            exact (@sendFriendList_informs _ watch (process.begun index packet) _ env reliable
              settled begins _ member positive).2.weaken fun _ => And.left
          | listUsers | updateStatus => exact absurd about (by decide)
      | dm | channel => exact absurd about (by simp [topicsOf])
      | server action => cases action <;> exact absurd about (by decide)
  · have other : ∀ action, packet.request ≠ some (.auth action) := fun action asked => about (by
      rw [asked]
      exact Or.inr List.mem_cons_self)
    have untied : ∀ action : TieAction, packet.request ≠ some (.social action.socialAction) := by
      intro action asked
      rw [asked] at about
      exact about (Or.inl (by cases action <;> decide))
    have emits := processClientPacket_emits env index packet process
    rw [not_or] at about
    have same := ((processClientPacket_acts env index packet process).quiet other).identities
    exact begins.of_emits emits about (fun _ member _ => same ▸ member) fun userId _ =>
      processClientPacket_friendList distinct valid untied userId

end Handling

/-! ### Runs -/

section Runs

variable {env : Env} {allowed : ServerContext → Int → TizcordPacket → Prop} {serverFd : Int}
  {machine : Machine}

theorem ReachableWhen.settled (reachable : ReachableWhen env allowed serverFd machine) :
    SettledSessions machine.loop.process.ctx.identities where
  distinct := by
    rw [← fds_eq_identities]
    exact reachable.consistent.distinct
  strangers identity member stranger := by
    obtain ⟨node, present, rfl⟩ := mem_identities.mp member
    exact ((reachable.consistent.valid node present).stranger stranger).1
  users identity member authenticated := by
    obtain ⟨node, present, rfl⟩ := mem_identities.mp member
    obtain ⟨row, -, is⟩ := List.mem_map.mp
      ((reachable.consistent.valid node present).user authenticated)
    have positive : 0 < (row.id : Int) := row.id.2.1
    exact is.subst positive
  sole := reachable.soleSessions

section Steps

variable {View : Type} {watch : FriendWatch View} {loop : Loop} {index : Nat}

theorem Loop.accepted_friendsShown {fd : Int} {socket : Socket}
    (fresh : fd ∉ loop.process.ctx.fds) (shown : loop.process.FriendsShown watch fun _ => False) :
    (loop.accepted fd socket).process.FriendsShown watch fun _ => False := by
  have identities : (loop.accepted fd socket).process.ctx.identities =
      loop.process.ctx.identities ++ [⟨fd, false, 0, Text.empty⟩] := List.map_append
  refine ⟨shown.since.trans ⟨_, rfl⟩, fun identity member meant authenticated positive spared => ?_⟩
  rw [identities] at member
  have old := mem_accepted member authenticated
  obtain ⟨later, logged, shows⟩ := shown.shown identity old meant authenticated positive spared
  refine ⟨later ++ [.accepted fd socket], ?_, ?_⟩
  · rw [← List.append_assoc, ← logged]
    rfl
  · rw [toldSince_accepted (ServerContext.fresh_ne fresh old)]
    exact shows

theorem FriendWatch.rejected {process : Process} (fd : Int)
    (shown : process.FriendsShown watch fun _ => False) :
    (process.log (.rejected fd)).FriendsShown watch fun _ => False :=
  shown.of_emits (rejected_emits process fd) ⟨List.not_mem_nil, List.not_mem_nil⟩
    (fun _ member _ => member) fun _ _ => rfl

theorem FriendWatch.received (shown : loop.process.FriendsShown watch fun _ => False) :
    (receiveClient index loop).1.process.FriendsShown watch fun _ => False :=
  shown.of_emits (receiveClient_emits index loop) ⟨List.not_mem_nil, List.not_mem_nil⟩
    (fun _ member _ => receiveClient_identities index loop ▸ member) fun _ _ => rfl

theorem notifyDisconnected_emits (env : Env) (client : ClientNode) (process : Process) :
    Emits [.users, .members] process (notifyDisconnected env client process) := by
  rw [notifyDisconnected]
  generalize (if client.isAuthenticated = true then client.id else 0) = disconnectedUserId
  split
  · exact (notifyServerMemberListsForUser_emits env _ process (by decide)).trans
      (notifyAllUserLists_emits env _ (by decide))
  · exact .refl process

/-- Nobody is told about friends when a connection closes. -/
theorem disconnectClient_emits (env : Env) (index : Nat) (loop : Loop) :
    Emits [.users, .members] loop.process (disconnectClient env index loop).process := by
  have closed : Emits [.users, .members] loop.process ((loop.process.log (.closed
      (loop.process.clientAt index).socketFd)).withClients
        (removeClient index loop.process.ctx.clients)) :=
    .single (rfl : _ = loop.process.trace ++ [_]) trivial
  exact closed.trans (notifyDisconnected_emits env _ _)

theorem FriendWatch.closed (env : Env) (inside : index < loop.process.ctx.clients.length)
    (shown : loop.process.FriendsShown watch fun _ => False) :
    (disconnectClient env index loop).process.FriendsShown watch fun _ => False := by
  have quiet := (disconnectClient_notifies env inside).quiet
  have shrunk : (loop.process.ctx.without index).identities =
      loop.process.ctx.identities.eraseIdx index := (List.eraseIdx_map ..).symm
  refine shown.of_emits (disconnectClient_emits env index loop) (by decide)
    (fun identity member _ => ?_) fun userId _ => ?_
  · rw [quiet.identities] at member
    exact List.mem_of_mem_eraseIdx (shrunk ▸ member)
  · exact congrArg (friendList · userId) (disconnectClient_notifies env inside).db

theorem FriendWatch.handled (reliable : env.Reliable) {readSet : Finset Int}
    {packet : TizcordPacket}
    (handled : Handled env allowed serverFd loop readSet index packet)
    (shown : (receiveClient index loop).1.process.FriendsShown watch fun _ => False)
    (resumes : (∀ action, packet.request = some (.auth action) → watch.asks packet = true) ∨
      .session ∉ watch.reader.topics ∧ (receiveClient index loop).1.process.Resumes
        (processClientPacket env index packet (receiveClient index loop).1.process) watch) :
    (processClientPacket env index packet (receiveClient index loop).1.process).FriendsShown
      watch fun _ => False := by
  have consistent : (receiveClient index loop).1.Consistent :=
    receiveClient_consistent handled.reachable.consistent
  have settled : SettledSessions (receiveClient index loop).1.process.ctx.identities := by
    rw [receiveClient_identities]
    exact handled.reachable.settled
  refine processClientPacket_shown reliable shown settled
    (handled.reachable.paired reliable) consistent.distinct consistent.valid ?_ packet resumes
  rw [receiveClient_length]
  exact handled.inside

end Steps

/-- The request is about a session, or about the tie to another user. -/
def Request.movesFriends : Request → Bool
  | .auth _ => true
  | .social .friendRequest | .social .friendAccept => true
  | .social .friendReject | .social .friendRemove => true
  | _ => false

def asksAboutFriends (packet : TizcordPacket) : Bool :=
  packet.request.any Request.movesFriends

/-- What was sent on a connection since its own last request of this kind. -/
def Process.told (process : Process) (fd : Int) : List TizcordPacket :=
  toldSince asksAboutFriends fd process.trace

/-- A friend list has been sent on the connection since then. -/
def Process.Listed (process : Process) (fd : Int) : Prop :=
  ∃ packet ∈ process.told fd, IsSocialFrame .listFriends .end packet

/-- What all clients list, as long as they ask for nothing about friends and sessions. -/
def entriesWatch : FriendWatch (List FriendEntry) where
  reader := entriesReader
  whom _ := True
  past := []
  asks := asksAboutFriends
  ties := fun {action packet} asked => by
    rw [asksAboutFriends, asked]
    cases action <;> rfl

theorem entriesWatch_asks : entriesWatch.asks = asksAboutFriends := by
  rw [entriesWatch]

theorem entriesWatch_reader : entriesWatch.reader = entriesReader := by
  rw [entriesWatch]

/-- In every reachable state the users are shown the right lists. -/
theorem ReachableWhen.friendsShown (reliable : env.Reliable)
    (reachable : ReachableWhen env allowed serverFd machine) :
    machine.loop.process.FriendsShown entriesWatch fun _ => False := by
  have invariant : RunInvariant env allowed serverFd
      fun process => process.FriendsShown entriesWatch fun _ => False :=
    { started := ⟨List.nil_prefix, fun _ member => absurd member List.not_mem_nil⟩
      restarted := fun _ _ _ =>
        ⟨List.nil_prefix, fun _ member => absurd member List.not_mem_nil⟩
      rejected := fun _ fd => FriendWatch.rejected fd
      accepted := fun _ _ _ _ _ fresh => Loop.accepted_friendsShown fresh
      received := fun _ _ _ => FriendWatch.received
      closed := fun _ _ _ inside _ => FriendWatch.closed env inside
      handled := fun loop readSet index packet handled shown => by
        refine FriendWatch.handled reliable handled shown (Or.inl fun action asked => ?_)
        rw [entriesWatch_asks, asksAboutFriends, asked]
        rfl }
  exact invariant.reachable reachable

/-- Whoever is signed in, has been sent the friend list since the last request about friends on the
connection, and has received what the server sent, sees the friends as they are, in some order. -/
theorem friend_lists_exact (env : Env) (serverFd : Int) (reliable : env.Reliable)
    (reachable : Reachable env serverFd machine) {fd userId : Int}
    (signedIn : SignedIn machine.loop.process.ctx fd userId)
    (listed : machine.loop.process.Listed fd) {before after : Ui} {events : List UiEvent}
    (steps : Steps UiStep before events after)
    (received : events.filterMap UiEvent.received = heardOn fd machine.loop.process.trace) :
    PresentFriends machine.loop.process.ctx.db userId after.friendEntries := by
  obtain ⟨node, member, rfl, authenticated, rfl⟩ := signedIn
  have present : node.identity ∈ machine.loop.process.ctx.identities :=
    mem_identities.mpr ⟨node, member, rfl⟩
  have positive := reachable.soleSessions.positive node.identity present authenticated
  obtain ⟨later, logged, shown⟩ := (reachable.friendsShown reliable).shown node.identity present
    trivial authenticated positive id
  obtain rfl : machine.loop.process.trace = later := logged
  rw [entriesWatch_asks] at shown
  -- what was sent before the last request does not matter
  obtain ⟨earlier, heard⟩ := toldSince_suffix asksAboutFriends node.socketFd
    machine.loop.process.trace
  rw [friendEntries_of_steps steps, received, ← heard, List.foldl_append]
  have shows := shown listed
  rw [entriesWatch_reader, entriesReader_read] at shows
  exact entriesReader_shows.mp (shows _)

end Runs

theorem listed_of_any {process : Process} {fd : Int} (found : (process.told fd).any (fun packet =>
    packet.request = some (.social .listFriends) && ListFrameType.end.marks packet) = true) :
    process.Listed fd := by
  obtain ⟨packet, member, is⟩ := List.any_eq_true.mp found
  rw [Bool.and_eq_true, ListFrameType.marks, decide_eq_true_eq, decide_eq_true_eq] at is
  exact ⟨packet, member, is.1, is.2⟩

/-- The client of a second user, who is asked by the first, lists the first. -/
theorem friend_lists_exact_asked : ∃ after, Steps UiStep Ui.start
      ((heardOn 5 (runServer Env.ideal 3 friendEvents).process.trace).map .packet) after ∧
    after.friendEntries = [⟨1, Text.letterA, 1⟩] := by
  have reachable := reachable_runServer Env.ideal 3 friendEvents
  have signedIn : SignedIn (runServer Env.ideal 3 friendEvents).process.ctx 5 2 :=
    signedIn_of_any (by decide +kernel)
  have listed : (runServer Env.ideal 3 friendEvents).process.Listed 5 :=
    listed_of_any (by decide +kernel)
  have friends : friendList (runServer Env.ideal 3 friendEvents).process.ctx.db 2 =
      [⟨1, Text.letterA, 1⟩] := by decide +kernel
  have runs : (replay (fun _ _ => true) ((heardOn 5
      (runServer Env.ideal 3 friendEvents).process.trace).map .packet) Ui.start).isSome = true := by
    decide +kernel
  generalize runServer Env.ideal 3 friendEvents = loop at reachable signedIn listed friends runs ⊢
  obtain ⟨after, replayed⟩ := Option.isSome_iff_exists.mp runs
  have steps : Steps UiStep Ui.start ((heardOn 5 loop.process.trace).map .packet) after :=
    (replay_steps replayed).lift Steps.none fun steps step => steps.more step.1
  have received : ((heardOn 5 loop.process.trace).map UiEvent.packet).filterMap
      UiEvent.received = heardOn 5 loop.process.trace := by
    rw [List.filterMap_map]
    exact List.filterMap_some
  obtain ⟨rows, perm, shown⟩ := friend_lists_exact Env.ideal 3 Env.ideal_reliable reachable
    signedIn listed steps received
  rw [friends, List.perm_singleton] at perm
  rw [perm] at shown
  exact ⟨after, steps, shown⟩

end Tizcord
