/-
This file is about what the server pushes to a session about the users. Read into a
list without bounds, the packets that were sent on a connection since it became
that of a user give all users as they are now.
-/

import Tizcord.System.OnlineUsers

namespace Tizcord

open CModel

/-! ### A list without bounds -/

/-- The users after a packet with a certain request: a start clears them, a row adds one, and the
news of a status changes one. -/
def pushedUsersOf (users : List UIUser) (packet : TizcordPacket) : Option Request → List UIUser
  | some (.social .listUsers) =>
    if ListFrameType.start.marks packet then []
    else if ListFrameType.middle.marks packet then users ++ [listedUser packet]
    else users
  | some (.social .updateStatus) =>
    if packet.socialStatusCode = ResponseCode.ok.code then
      users.map fun user =>
        if user.id = packet.socialTargetUserId then
          { user with
            status := packet.socialTargetStatus []
            isOnline := if packet.socialStatus = UserStatus.online.code then 1 else 0 }
        else user
    else users
  | _ => users

/-- The users after one more packet. -/
def pushedUsers (users : List UIUser) (packet : TizcordPacket) : List UIUser :=
  pushedUsersOf users packet packet.request

section Reading

variable {ctx : ServerContext} {packet : TizcordPacket} {users : List UIUser}

theorem pushedUsers_start (frame : IsSocialFrame .listUsers .start packet) :
    pushedUsers users packet = [] := by
  have marks : ListFrameType.start.marks packet = true := decide_eq_true frame.frame
  rw [pushedUsers, frame.request, pushedUsersOf, if_pos marks]

theorem pushedUsers_middle (frame : IsSocialFrame .listUsers .middle packet) :
    pushedUsers users packet = users ++ [listedUser packet] := by
  have marks : ListFrameType.middle.marks packet = true := decide_eq_true frame.frame
  rw [pushedUsers, frame.request, pushedUsersOf, if_neg (marks_unique marks (by decide)),
    if_pos marks]

theorem pushedUsers_end (frame : IsSocialFrame .listUsers .end packet) :
    pushedUsers users packet = users := by
  have marks : ListFrameType.end.marks packet = true := decide_eq_true frame.frame
  rw [pushedUsers, frame.request, pushedUsersOf, if_neg (marks_unique marks (by decide)),
    if_neg (marks_unique marks (by decide))]

/-- A packet about something else is not read into the users. -/
theorem pushedUsers_other (other : ∀ topic, packet.topic = some topic →
    topic ≠ .users ∧ topic ≠ .session) : pushedUsers users packet = users := by
  rw [pushedUsers]
  cases asked : packet.request with
  | none => rfl
  | some request =>
    rw [TizcordPacket.topic, asked, Option.bind_some] at other
    cases request with
    | social action =>
      cases action with
      | listUsers | updateStatus => exact absurd rfl (other .users rfl).1
      | _ => rfl
    | _ => rfl

theorem foldl_pushedUsers_rows {rows : List UserRow} {items : List TizcordPacket}
    (each : List.Forall₂ (CarriesUser ctx)
      (rows.map fun row => UserListRow.mk row.id row.username row.status) items) :
    items.foldl pushedUsers users = users ++ rows.map (listedRow ctx) := by
  induction rows generalizing items users with
  | nil =>
    obtain rfl := List.forall₂_nil_left_iff.mp each
    exact (List.append_nil _).symm
  | cons row rest inductionHypothesis =>
    obtain ⟨item, later, carries, eachLater, rfl⟩ := List.forall₂_cons_left_iff.mp each
    rw [List.foldl_cons, pushedUsers_middle carries.toIsSocialFrame,
      listedUser_of_carries carries, inductionHypothesis eachLater, List.append_assoc]
    rfl

/-- Whatever came before it, after a stream of all users there are these. -/
theorem pushedUsers_stream {rows : List UserRow} {copies : List TizcordPacket}
    (stream : IsStream (IsSocialFrame .listUsers .start) (IsSocialFrame .listUsers .end)
      (CarriesUser ctx) (rows.map fun row => ⟨row.id, row.username, row.status⟩) copies) :
    copies.foldl pushedUsers users = rows.map (listedRow ctx) := by
  obtain ⟨first, items, last, rfl, opens, each, closes⟩ := stream.split
  rw [List.foldl_cons, pushedUsers_start opens, List.foldl_append, List.foldl_cons,
    List.foldl_nil, pushedUsers_end closes, foldl_pushedUsers_rows each, List.nil_append]

theorem pushedUsers_status {userId : Int} {statusText : Text} {isOnline : Bool}
    (carries : CarriesStatus .ok userId statusText isOnline packet) :
    pushedUsers users packet =
      users.map (UIUser.withStatus (signed 64 userId) statusText isOnline) := by
  have online : (if packet.socialStatus = UserStatus.online.code then (1 : Int) else 0) =
      if isOnline then 1 else 0 := by
    rw [carries.online]
    cases isOnline <;> rfl
  rw [pushedUsers, carries.request, pushedUsersOf, if_pos carries.code]
  refine List.map_congr_left fun user _ => ?_
  rw [UIUser.withStatus, carries.user, carries.status, online]

theorem pushedUsers_refused {code : ResponseCode} {userId : Int} {statusText : Text}
    {isOnline : Bool} (carries : CarriesStatus code userId statusText isOnline packet)
    (refused : code ≠ .ok) : pushedUsers users packet = users := by
  have other : packet.socialStatusCode ≠ ResponseCode.ok.code := by
    rw [carries.code]
    cases code <;> first | exact absurd rfl refused | decide
  rw [pushedUsers, carries.request, pushedUsersOf, if_neg other]

theorem pushedUsers_status_perm {listed : List UIUser} {userId : Int} {statusText : Text}
    {isOnline : Bool} (carries : CarriesStatus .ok userId statusText isOnline packet)
    (shows : users.Perm listed) : (pushedUsers users packet).Perm
      (listed.map (UIUser.withStatus (signed 64 userId) statusText isOnline)) := by
  rw [pushedUsers_status carries]
  exact shows.map _

/-- A list holds all users. -/
def listReader : PresenceReader (List UIUser) where
  read := pushedUsers
  shows listed users := users.Perm listed
  other other _ := pushedUsers_other other
  stream stream _ := List.Perm.of_eq (pushedUsers_stream stream)
  status carries _ shows := pushedUsers_status_perm carries shows
  refused carries refused _ := pushedUsers_refused carries refused

theorem listReader_read : listReader.read = pushedUsers := by
  rw [listReader]

theorem listReader_showsUsers : listReader.ShowsUsers ctx users ↔
    users.Perm (presentUsers ctx) := Iff.rfl

end Reading

/-! ### Main theorem -/

/-- A user as they should be shown. -/
def presentEntry (ctx : ServerContext) (row : UserRow) : UIUser where
  id := row.id
  username := row.username
  status := row.status
  isOnline := if userIsOnline ctx row.id then 1 else 0

section Runs

variable {env : Env} {allowed : ServerContext → Int → TizcordPacket → Prop} {serverFd : Int}
  {machine : Machine}

/-- In a reachable state those users are online who are signed in on some connection. -/
theorem ReachableWhen.online_iff (reachable : ReachableWhen env allowed serverFd machine)
    (userId : Int) : userIsOnline machine.loop.process.ctx userId = true ↔
      ∃ fd, SignedIn machine.loop.process.ctx fd userId := by
  rw [userIsOnline_iff]
  constructor
  · rintro ⟨identity, member, -, authenticated, own⟩
    exact ⟨identity.socketFd, signedIn_iff.mpr ⟨identity, member, rfl, authenticated, own⟩⟩
  · rintro ⟨fd, signedIn⟩
    obtain ⟨identity, member, -, authenticated, own⟩ := signedIn_iff.mp signedIn
    exact ⟨identity, member, reachable.soleSessions.positive _ member authenticated,
      authenticated, own⟩

/-- Where the names fit, a list shows the rows of the table as they are: stored statuses fit. -/
theorem ReachableWhen.presentUsers_perm (reachable : ReachableWhen env allowed serverFd machine)
    (names : ∀ row ∈ machine.loop.process.ctx.db.users, row.username.bytes.length < maxNameLen) :
    (presentUsers machine.loop.process.ctx).Perm
      (machine.loop.process.ctx.db.users.map (presentEntry machine.loop.process.ctx)) := by
  have shown : ∀ row ∈ machine.loop.process.ctx.db.users,
      listedRow machine.loop.process.ctx row = presentEntry machine.loop.process.ctx row := by
    intro row member
    have status : row.status.bytes.length ≤ profileStatusLen := by
      rw [reachable.statuses.stored row member]
      exact reachable.recordedStatus_short _ List.prefix_rfl
    rw [listedRow, presentEntry, Text.take_of_length_le status, storedName,
      Text.take_of_length_le (Nat.le_sub_one_of_lt (names row member))]
  rw [← List.map_congr_left shown]
  exact (List.perm_insertionSort _ _).map _

end Runs

/-- Since a connection became that of a user, the packets that were sent on it have made the list
of all users as they are now: each one once, with the name and the status in the table, and online
exactly where somebody is signed in as this user. Nothing depends on what was known before, and the
names fit into a name field. -/
theorem presence_pushes_exact (env : Env) (serverFd : Int) (reliable : env.Reliable)
    {first last : Machine} (reachable : Reachable env serverFd first)
    (run : Relation.ReflTransGen (Machine.Step env) first last) {fd userId : Int}
    (before : ¬ SignedIn first.loop.process.ctx fd userId)
    (signedIn : SignedIn last.loop.process.ctx fd userId)
    (names : ∀ row ∈ last.loop.process.ctx.db.users, row.username.bytes.length < maxNameLen) :
    (∃ later, last.loop.process.trace = first.loop.process.trace ++ later ∧
      ∀ users, ((heardOn fd later).foldl pushedUsers users).Perm
        (last.loop.process.ctx.db.users.map (presentEntry last.loop.process.ctx))) ∧
      ∀ id, userIsOnline last.loop.process.ctx id = true ↔
        ∃ other, SignedIn last.loop.process.ctx other id := by
  -- Those are shown all users who were not signed in like this at first.
  have begun : first.loop.process.Informed listReader first.loop.process.trace fun identity =>
      identity ∉ first.loop.process.ctx.identities :=
    ⟨List.prefix_rfl, fun _ member fresh => absurd member fresh⟩
  obtain ⟨reached, informed⟩ := (informed_steps reliable listReader _ _ _).run reachable run begun
  obtain ⟨node, member, rfl, authenticated, own⟩ := signedIn
  have present : node.identity ∈ last.loop.process.ctx.identities :=
    mem_identities.mpr ⟨node, member, rfl⟩
  have fresh : node.identity ∉ first.loop.process.ctx.identities := by
    intro there
    obtain ⟨old, known, same⟩ := mem_identities.mp there
    exact before ⟨old, known, congrArg Identity.socketFd same,
      (congrArg Identity.isAuthenticated same).trans authenticated,
      (congrArg Identity.id same).trans own⟩
  obtain ⟨later, logged, shows⟩ := informed.shown node.identity present fresh authenticated
    (reached.soleSessions.positive _ present authenticated)
  refine ⟨⟨later, logged, fun users => ?_⟩, reached.online_iff⟩
  have shown := listReader_showsUsers.mp (shows users)
  rw [listReader_read] at shown
  exact shown.trans (reached.presentUsers_perm names)

/-- After two users have registered and the second one has signed out, the first one has been shown
both, and nothing is left of what was known before. -/
theorem presence_pushes_exact_pair :
    ((heardOn 4 signedOutLoop.process.trace).foldl pushedUsers
        [⟨7, Text.letterB, Text.letterB, 1⟩]).Perm
      [⟨1, Text.letterA, Text.empty, 1⟩, ⟨2, Text.letterB, Text.empty, 0⟩] := by
  have meets : runMeets Env.ideal (fun _ _ _ => true) (pairEvents [] [logoutPacket] [4, 5, 5])
      (startLoop 3 Database.empty 0 []) = true := by decide +kernel
  have reachable : Reachable Env.ideal 3 ⟨signedOutLoop, .selecting⟩ :=
    reachableWhen_runServer (fun _ _ _ _ => trivial) 3 _ meets
  have signedIn : SignedIn signedOutLoop.process.ctx 4 1 := signedIn_of_any (by decide +kernel)
  have names : ∀ row ∈ signedOutLoop.process.ctx.db.users,
      row.username.bytes.length < maxNameLen := by decide +kernel
  have present : signedOutLoop.process.ctx.db.users.map (presentEntry signedOutLoop.process.ctx) =
      [⟨1, Text.letterA, Text.empty, 1⟩, ⟨2, Text.letterB, Text.empty, 0⟩] := by decide +kernel
  generalize signedOutLoop = loop at reachable signedIn names present ⊢
  obtain ⟨⟨later, logged, shows⟩, -⟩ := presence_pushes_exact Env.ideal 3 Env.ideal_reliable .start
    reachable.run (fun ⟨_, member, _⟩ => absurd member List.not_mem_nil) signedIn names
  have heard : heardOn 4 loop.process.trace = heardOn 4 later := by
    rw [logged]
    rfl
  rw [heard, ← present]
  exact shows _

end Tizcord
