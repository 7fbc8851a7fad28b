/-
This file proves that whoever is signed in knows who is online. In every reachable
state of the server, the packets sent on a connection of a user, read by the client
in their order, leave it with the list of all users as they are.
-/

import Tizcord.Client.Views
import Tizcord.Server.ShownViews
import Tizcord.System.Presence

namespace Tizcord

open CModel

/-! ### What connections have been shown -/

/-- The connections of all users of some kind have been shown good views. -/
def Process.AllShown {View : Type} (process : Process) (reader : PresenceReader View)
    (past : List Effect) (whom : Identity → Prop) (good : View → Prop) : Prop :=
  ∀ identity ∈ process.ctx.identities, whom identity → identity.isAuthenticated = true →
    0 < identity.socketFd → process.Shown reader.read past good identity.socketFd

/-- After these effects, the connections of all users of some kind have been shown the users as they
are. -/
structure Process.Informed {View : Type} (process : Process) (reader : PresenceReader View)
    (past : List Effect) (whom : Identity → Prop) : Prop where
  since : past <+: process.trace
  shown : process.AllShown reader past whom (reader.ShowsUsers process.ctx)

section Shown

variable {View : Type} {reader : PresenceReader View} {past : List Effect}
  {whom : Identity → Prop} {good start : View → Prop} {topics : List Topic}

/-- A packet about other topics changes no view of the users. -/
theorem PresenceReader.unread (reader : PresenceReader View)
    (other : .users ∉ topics ∧ .session ∉ topics) {packet : TizcordPacket}
    (about : ∀ topic, packet.topic = some topic → topic ∈ topics) (view : View) :
    reader.read view packet = view := by
  refine reader.other (fun topic is => ?_) view
  exact ⟨fun same => other.1 (same ▸ about topic is), fun same => other.2 (same ▸ about topic is)⟩

/-- A loop that sends to the connections of all users lists that a client reads as good ones. -/
theorem forClients_allShown {body : Nat → ClientNode → Process → Process} (process : Process)
    (sends : ∀ index node (other : Process), other.ctx = process.ctx → 0 < node.socketFd →
      node.isAuthenticated = true →
        ∃ copies, SendsList node.socketFd copies other (body index node other) ∧
          ∀ view, start view → good (copies.foldl reader.read view))
    (skips : ∀ index node other, ¬ (0 < node.socketFd ∧ node.isAuthenticated = true) →
      body index node other = other)
    (weaker : ∀ view, good view → start view) (before : process.AllShown reader past whom start) :
    (process.forClients body).ctx = process.ctx ∧
      (process.forClients body).AllShown reader past whom good := by
  obtain ⟨ctx, told⟩ := @forClients_shown View reader.read past body (fun _ => good)
    (fun _ => start) (fun node => 0 < node.socketFd ∧ node.isAuthenticated = true) process
    (fun index other same chosen => sends index _ other same chosen.1 chosen.2)
    (fun index other skipped => skips index _ other skipped) fun _ => weaker
  refine ⟨ctx, fun identity member meant authenticated positive => ?_⟩
  rw [ctx] at member
  refine told _ (before identity member meant authenticated positive) (Or.inr ?_)
  obtain ⟨node, present, rfl⟩ := mem_identities.mp member
  exact ⟨node, present, rfl, positive, authenticated⟩

end Shown

/-! ### Keeping everybody informed -/

section Informed

variable {View : Type} {reader : PresenceReader View} {past : List Effect}
  {whom : Identity → Prop} {env : Env} {before after process : Process} {fd : Int}
  {beyond : List UInt8} {packet : TizcordPacket} {copies : List TizcordPacket}
  {topics : List Topic}

/-- Where the sessions and the users stay the same, and no packet about them is sent, everybody
stays informed. -/
theorem Process.Informed.of_sessions (informed : before.Informed reader past whom)
    (emits : Emits topics before after) (other : .users ∉ topics ∧ .session ∉ topics)
    (sessions : ∀ identity : Identity, identity.isAuthenticated = true →
      (identity ∈ after.ctx.identities ↔ identity ∈ before.ctx.identities))
    (users : after.ctx.db.users = before.ctx.db.users) : after.Informed reader past whom := by
  refine ⟨informed.since.trans emits.grown, fun identity member meant authenticated positive => ?_⟩
  have old := (sessions identity authenticated).mp member
  have shown := (informed.shown identity old meant authenticated positive).of_emits emits fun _ =>
    reader.unread other
  refine shown.weaken fun view shows => ?_
  rw [PresenceReader.ShowsUsers, presentUsers_congr sessions users]
  exact shows

theorem Process.Informed.of_emits (informed : before.Informed reader past whom)
    (emits : Emits topics before after) (other : .users ∉ topics ∧ .session ∉ topics)
    (sessions : after.ctx.identities = before.ctx.identities)
    (users : after.ctx.db.users = before.ctx.db.users) : after.Informed reader past whom :=
  informed.of_sessions emits other (fun _ _ => by rw [sessions]) users

/-- What is sent on a connection without a user changes nothing for the others. -/
theorem Process.Informed.stranger (informed : before.Informed reader past whom)
    (sent : SendsList fd copies before after)
    (stranger : ∀ identity ∈ before.ctx.identities, identity.isAuthenticated = true →
      identity.socketFd ≠ fd) : after.Informed reader past whom := by
  refine ⟨informed.since.trans sent.grown, fun identity member meant authenticated positive => ?_⟩
  rw [sent.ctx] at member ⊢
  exact (informed.shown identity member meant authenticated positive).elsewhere sent
    (stranger identity member authenticated).symm

/-- What is sent on one connection, and keeps a view that shows the users as they are. -/
theorem Process.Informed.sent (informed : before.Informed reader past whom)
    (sent : SendsList fd copies before after)
    (reads : ∀ view, reader.ShowsUsers before.ctx view →
      reader.ShowsUsers before.ctx (copies.foldl reader.read view)) :
    after.Informed reader past whom := by
  refine ⟨informed.since.trans sent.grown, fun identity member meant authenticated positive => ?_⟩
  rw [sent.ctx] at member ⊢
  have shown := informed.shown identity member meant authenticated positive
  by_cases own : fd = identity.socketFd
  · subst own
    exact shown.told sent reads
  · exact shown.elsewhere sent own

theorem Process.Informed.reply (informed : before.Informed reader past whom) (env : Env) (fd : Int)
    (quiet : packet.topic = none) : (before.send env fd packet).Informed reader past whom := by
  have emits : Emits [] before (before.send env fd packet) :=
    .send env fd before fun topic about => by
      rw [quiet] at about
      cases about
  exact informed.of_emits emits ⟨List.not_mem_nil, List.not_mem_nil⟩ rfl rfl

/-- Everybody is informed once all have been sent the list of all users. -/
theorem notifyAllUserLists_informed (reliable : env.Reliable) (since : past <+: process.trace) :
    (notifyAllUserLists env process).Informed reader past whom := by
  have any : process.AllShown reader past whom fun _ => True :=
    fun _ _ _ _ _ => Process.shown_any since
  have looped : (notifyAllUserLists env process).ctx = process.ctx ∧
      (notifyAllUserLists env process).AllShown reader past whom
        (reader.ShowsUsers process.ctx) := by
    rw [notifyAllUserLists]
    refine forClients_allShown process (fun _ node other same positive authenticated => ?_)
      (fun _ node other skipped => ?_) (fun _ _ => trivial) any
    · obtain ⟨copies, sent, shows⟩ := reader.sendUserList_shows reliable node.socketFd node.id other
      rw [same] at shows
      refine ⟨copies, ?_, fun view _ => shows view⟩
      have chosen : ¬ (node.socketFd ≤ 0 ∨ node.isAuthenticated = false) := by
        rw [authenticated]
        rintro (closed | no)
        · exact absurd positive (Int.not_lt.mpr closed)
        · cases no
      rw [if_neg chosen]
      exact sent
    · refine if_pos ?_
      by_cases positive : 0 < node.socketFd
      · exact Or.inr (Bool.eq_false_of_not_eq_true fun authenticated =>
          skipped ⟨positive, authenticated⟩)
      · exact Or.inl (Int.not_lt.mp positive)
  have logs : Emits [.users] process (notifyAllUserLists env process) :=
    notifyAllUserLists_emits env process List.mem_cons_self
  refine ⟨since.trans logs.grown, ?_⟩
  rw [looped.1]
  exact looped.2

/-! ### Sessions that begin and end -/

theorem authReply_topic {action : AuthAction} (other : action ≠ .logout) (statusCode : Int) :
    (authPacket action statusCode).topic = none := by
  rw [topic_of_request (authPacket_request action statusCode)]
  cases action <;> first | rfl | exact absurd rfl other

/-- A registration leaves everybody informed: where it creates a user, all are sent the list. -/
theorem registerAccount_informed (reliable : env.Reliable)
    (informed : process.Informed reader past whom) (fd : Int) (packet : TizcordPacket) :
    (registerAccount env beyond fd packet process).Informed reader past whom := by
  have failed : ∀ (process : Process) (status : Int), process.Informed reader past whom →
      (process.send env fd (authPacket .register status)).Informed reader past whom :=
    fun _ status informed => informed.reply env fd (authReply_topic (by decide) status)
  unfold registerAccount
  generalize packet.authUsername beyond = username
  generalize packet.authPassword beyond = password
  have ticked : process.tick.Informed reader past whom := ⟨informed.since, informed.shown⟩
  cases env.salt process.clock with
  | none => exact failed _ _ ticked
  | some setting =>
    have hashes : (process.tick.log (.hashed password setting)).Informed reader past whom :=
      ticked.of_emits (hashPassword_emits env password setting process.tick)
        ⟨List.not_mem_nil, List.not_mem_nil⟩ rfl rfl
    dsimp only [hashPassword]
    generalize process.tick.log (.hashed password setting) = hashed at hashes ⊢
    cases env.crypt password setting with
    | none => exact failed _ _ hashes
    | some hash =>
      dsimp only [Process.change]
      cases created : dbCreateUser (env.db hashed.clock) hashed.ctx.db username hash with
      | mk after created' =>
        cases created' with
        | none =>
          obtain ⟨-, rfl⟩ | ⟨id, is, -⟩ := dbCreateUser_spec created
          · have called : Emits [] hashed ((hashed.withDb hashed.ctx.db).log
                (.called (.createUser username hash none))).tick :=
              .single (rfl : _ = hashed.trace ++ [_]) trivial
            exact failed _ _ (hashes.of_emits called ⟨List.not_mem_nil, List.not_mem_nil⟩ rfl rfl)
          · cases is
        | some userId =>
          have stored : Emits [] hashed ((hashed.withDb after).log
              (.called (.createUser username hash (some userId)))).tick :=
            .single (rfl : _ = hashed.trace ++ [_]) trivial
          exact failed _ _ (notifyAllUserLists_informed reliable
            (hashes.since.trans (stored.trans (linkIdentity_emits fd _ _ _)).grown))

/-- A login leaves everybody informed. -/
theorem loginAccount_informed (reliable : env.Reliable)
    (informed : process.Informed reader past whom) (fd : Int) (packet : TizcordPacket) :
    (loginAccount env beyond fd packet process).Informed reader past whom := by
  have answered : ∀ (process : Process) (status : Int), process.Informed reader past whom →
      (process.send env fd (authPacket .login status)).Informed reader past whom :=
    fun _ status informed => informed.reply env fd (authReply_topic (by decide) status)
  unfold loginAccount
  generalize packet.authUsername beyond = username
  generalize packet.authPassword beyond = password
  have looks : Emits [] process (process.log (.called (.getPasswordHash username))).tick :=
    .single (rfl : _ = process.trace ++ [_]) trivial
  dsimp only [Process.read]
  cases dbGetPasswordHash (env.db process.clock) process.ctx.db username with
  | none =>
    exact answered _ _ (informed.of_emits looks ⟨List.not_mem_nil, List.not_mem_nil⟩ rfl rfl)
  | some result =>
    obtain ⟨dbHash, dbUserId⟩ := result
    have computes := looks.trans (hashPassword_emits env password dbHash _)
    dsimp only
    split
    · exact answered _ _ (informed.of_emits computes ⟨List.not_mem_nil, List.not_mem_nil⟩ rfl rfl)
    · have session : Topic.session ∈ [Topic.session, .members] := by decide
      have members : Topic.members ∈ [Topic.session, .members] := by decide
      refine answered _ _ (notifyAllUserLists_informed reliable ?_)
      exact (informed.since.trans computes.grown).trans
        ((revokeExistingLogin_emits env fd _ _ _ session).trans ((linkIdentity_emits fd _ _ _).trans
          (notifyServerMemberListsForUser_emits env _ _ members))).grown

/-- A logout leaves everybody informed who stays. -/
theorem logoutAccount_informed (reliable : env.Reliable)
    (informed : process.Informed reader past whom) (distinct : process.ctx.fds.Nodup)
    (valid : process.ctx.Valid) (fd : Int) :
    (logoutAccount env fd process).Informed reader past whom := by
  have leaves := (logoutAccount_changes env distinct valid fd).identities
  have stranger : ∀ identity ∈ (logoutAccount env fd process).ctx.identities,
      identity.isAuthenticated = true → identity.socketFd ≠ fd := by
    rw [leaves]
    intro identity member authenticated own
    obtain ⟨old, -, rfl⟩ := List.mem_map.mp member
    by_cases same : old.socketFd = fd
    · rw [if_pos same] at authenticated
      cases authenticated
    · rw [if_neg same] at own
      exact absurd own same
  have reply : ∀ (told : Process) (packet : TizcordPacket),
      logoutAccount env fd process = told.send env fd packet → told.Informed reader past whom →
      (told.send env fd packet).Informed reader past whom := by
    intro told packet is informed
    rw [is] at stranger
    exact informed.stranger (sendsList_send env fd told packet) stranger
  unfold logoutAccount at reply ⊢
  cases found : process.ctx.findClient fd with
  | none => exact informed
  | some index =>
    rw [found] at reply
    dsimp only at reply ⊢
    split
    · next strange =>
      rw [if_pos strange] at reply
      exact reply _ _ rfl informed
    · next known =>
      rw [if_neg known] at reply
      have members : Topic.members ∈ [Topic.members] := List.mem_cons_self
      refine reply _ _ rfl (notifyAllUserLists_informed reliable (informed.since.trans ?_))
      exact ((LogsOnly.modifyClient process index clearClientSession).trans
        (notifyServerMemberListsForUser_emits env _ _ members)).grown

/-! ### Requests -/

/-- The users change only with a registration or a new status. -/
theorem Acts.users_same (acts : Acts env fd beyond packet before after)
    (other : .users ∉ topicsOf packet.request) :
    after.ctx.db.users = before.ctx.db.users := by
  have kept : ∀ {first effects last}, HandlerStep env fd beyond packet first effects last →
      first.db.users = before.ctx.db.users → last.db.users = before.ctx.db.users := by
    intro first effects last step same
    rcases step.database_cases with ⟨time, call, permitted, runs, -⟩ | ⟨unchanged, -⟩
    · have frame := runs.frame
      cases call with
      | createUser =>
        rw [permitted.1] at other
        exact absurd (by decide) other
      | updateUserStatus =>
        rw [permitted.2.2] at other
        exact absurd (by decide) other
      | _ => exact (congrArg Tables.users frame).trans same
    · rw [unchanged]
      exact same
  exact acts.invariant (fun ctx => ctx.db.users = before.ctx.db.users) kept rfl

/-- A status that is stored is told to everybody. -/
theorem updateStatus_informed (informed : process.Informed reader past whom) {client : ClientNode}
    (known : signed 64 client.id = client.id) (beyond : List UInt8) (packet : TizcordPacket) :
    (updateStatus env beyond client packet process).Informed reader past whom := by
  have refused : ∀ (process : Process) (code : ResponseCode), code ≠ .ok →
      process.Informed reader past whom →
      (sendStatusUpdatePacket env client.socketFd code client.id client.username.text none true
        process).Informed reader past whom := by
    intro process code failed informed
    obtain ⟨copy, carries, sent⟩ := sendStatusUpdatePacket_carries env client.socketFd code
      client.id client.username.text none true process
    rw [sent]
    refine informed.sent (sendsList_send env _ process copy) fun view shows => ?_
    rw [List.foldl_cons, List.foldl_nil, reader.refused carries failed]
    exact shows
  unfold updateStatus
  split
  · exact refused process _ (by decide) informed
  · dsimp only [Process.change]
    generalize packet.socialTargetStatus beyond = statusText
    cases ran : dbUpdateUserStatus (env.db process.clock) process.ctx.db client.id statusText with
    | mk after status =>
      have called : Emits [] process ((process.withDb after).log
          (.called (.updateUserStatus client.id statusText status))).tick :=
        .single (rfl : _ = process.trace ++ [_]) trivial
      dsimp only
      rcases dbUpdateUserStatus_cases ran with ⟨rfl, -, stored⟩ | ⟨rfl, rfl⟩
      · rw [if_neg (not_not.mpr rfl)]
        generalize changed : ((process.withDb after).log
          (.called (.updateUserStatus client.id statusText 0))).tick = told at called
        have tables : told.ctx = { process.ctx with db := after } := changed ▸ rfl
        have identities : told.ctx.identities = process.ctx.identities := by
          rw [tables]
          rfl
        have next : presentUsers told.ctx = (presentUsers process.ctx).map
            (UIUser.withStatus client.id statusText (userIsOnline told.ctx client.id)) := by
          have online : userIsOnline told.ctx client.id = userIsOnline process.ctx client.id := by
            rw [userIsOnline_eq, userIsOnline_eq, identities]
          rw [online]
          refine presentUsers_withStatus identities ?_
          rw [tables]
          exact stored
        have again : presentUsers told.ctx = (presentUsers told.ctx).map
            (UIUser.withStatus client.id statusText (userIsOnline told.ctx client.id)) := by
          rw [next, List.map_map]
          exact List.map_congr_left fun user _ =>
            (UIUser.withStatus_withStatus client.id statusText _ user).symm
        have earlier : told.AllShown reader past whom fun view =>
            reader.ShowsUsers process.ctx view ∨ reader.ShowsUsers told.ctx view := by
          intro identity member meant authenticated positive
          rw [identities] at member
          have shown := informed.shown identity member meant authenticated positive
          exact (shown.of_emits called fun _ => reader.unread
            ⟨List.not_mem_nil, List.not_mem_nil⟩).weaken fun _ => Or.inl
        have looped : (notifyUserStatusUpdate env client.id client.username.text statusText
              told).ctx = told.ctx ∧
            (notifyUserStatusUpdate env client.id client.username.text statusText told).AllShown
              reader past whom (reader.ShowsUsers told.ctx) := by
          rw [notifyUserStatusUpdate]
          refine forClients_allShown told (fun _ node other _ positive authenticated => ?_)
            (fun _ node other skipped => if_neg skipped) (fun _ => Or.inr) earlier
          obtain ⟨copy, carries, sent⟩ := sendStatusUpdatePacket_carries env node.socketFd .ok
            client.id client.username.text (some statusText) (userIsOnline told.ctx client.id) other
          rw [if_pos ⟨positive, authenticated⟩, sent]
          refine ⟨[copy], sendsList_send env _ other copy, ?_⟩
          intro view
          rw [List.foldl_cons, List.foldl_nil]
          rintro (shows | shows)
          · exact shows.status carries known next
          · exact shows.status carries known again
        have logs : Emits [.users] told
            (notifyUserStatusUpdate env client.id client.username.text statusText told) :=
          notifyUserStatusUpdate_emits env _ _ _ told List.mem_cons_self
        refine ⟨(informed.since.trans called.grown).trans logs.grown, ?_⟩
        rw [looped.1]
        exact looped.2
      · rw [if_pos (by decide)]
        exact refused _ _ (by decide) (informed.of_emits called
          ⟨List.not_mem_nil, List.not_mem_nil⟩ rfl rfl)

/-- A social request of nobody's connection is answered on that connection, and that is all. -/
theorem processClientPacket_refused (env : Env) (distinct : process.ctx.fds.Nodup) {index : Nat}
    (inside : index < process.ctx.clients.length) {action : SocialAction}
    (asked : packet.request = some (.social action))
    (stranger : (process.clientAt index).isAuthenticated = false) :
    ∃ copies, SendsList (process.clientAt index).socketFd copies (process.begun index packet)
        (processClientPacket env index packet process) ∧
      ∀ identity ∈ process.ctx.identities, identity.isAuthenticated = true →
        identity.socketFd ≠ (process.clientAt index).socketFd := by
  obtain ⟨type, -⟩ := TizcordPacket.request_social asked
  have checked :
      (!((process.begun index packet).clientAt index).isAuthenticated) = true := by
    rw [show (process.begun index packet).clientAt index = process.clientAt index from rfl,
      stranger]
    rfl
  rw [processClientPacket, type, handlePacket, handleSocialPacket, ← Process.begun,
    if_pos checked]
  obtain ⟨copies, sent⟩ := sendActionResponse_sends env (process.clientAt index).socketFd
    .social packet.socialAction .errUnauthorized (process.begun index packet)
  refine ⟨copies, sent, fun identity present signedIn own => ?_⟩
  obtain ⟨node, here, rfl⟩ := mem_identities.mp present
  have same : node = process.clientAt index := clientAt_unique distinct inside here own
  rw [same, ClientNode.identity, stranger] at signedIn
  cases signedIn

/-- The handling of any packet leaves everybody informed. -/
theorem processClientPacket_informed (reliable : env.Reliable)
    (informed : process.Informed reader past whom) (distinct : process.ctx.fds.Nodup)
    (valid : process.ctx.Valid) {index : Nat} (inside : index < process.ctx.clients.length)
    (packet : TizcordPacket) :
    (processClientPacket env index packet process).Informed reader past whom := by
  have begins : (process.begun index packet).Informed reader past whom :=
    ⟨informed.since.trans ⟨_, rfl⟩, fun identity present meant authenticated positive =>
      (informed.shown identity present meant authenticated positive).begun index packet⟩
  have member := clientAt_mem_of_lt inside
  by_cases about : .users ∈ topicsOf packet.request
  · cases asked : packet.request with
    | none =>
      rw [asked] at about
      exact absurd about List.not_mem_nil
    | some request =>
      rw [asked] at about
      cases request with
      | auth action =>
        rw [processClientPacket_auth asked, ← Process.begun]
        cases action with
        | register => exact registerAccount_informed reliable begins _ packet
        | login => exact loginAccount_informed reliable begins _ packet
        | logout => exact logoutAccount_informed reliable begins distinct valid _
      | social action =>
        cases authenticated : (process.clientAt index).isAuthenticated with
        | false =>
          obtain ⟨copies, sent, stranger⟩ :=
            processClientPacket_refused env distinct inside asked authenticated
          exact begins.stranger sent stranger
        | true =>
          rw [processClientPacket_social asked authenticated, ← Process.begun]
          cases action with
          | listUsers =>
            obtain ⟨copies, sent, shows⟩ := reader.sendUserList_shows reliable
              (process.clientAt index).socketFd (process.clientAt index).id
              (process.begun index packet)
            rw [handleSocialAction]
            exact begins.sent sent fun view _ => shows view
          | updateStatus =>
            rw [handleSocialAction]
            exact updateStatus_informed begins (signed_userId ((valid _ member).user authenticated))
              _ packet
          | _ => exact absurd about (by decide)
      | dm => exact absurd about List.not_mem_nil
      | channel => exact absurd about List.not_mem_nil
      | server action => cases action <;> exact absurd about (by decide)
  · have acts := processClientPacket_acts env index packet process
    have other : ∀ action, packet.request ≠ some (.auth action) := fun action asked => about (by
      rw [asked]
      exact List.mem_cons_of_mem _ List.mem_cons_self)
    have apart : .session ∉ topicsOf packet.request := fun session =>
      (auth_of_session session).elim other
    exact begins.of_emits (processClientPacket_emits env index packet process) ⟨about, apart⟩
      (acts.quiet other).identities (acts.users_same about)

end Informed

/-! ### Runs -/

section Runs

variable {View : Type} {reader : PresenceReader View} {past : List Effect}
  {whom : Identity → Prop} {env : Env} {serverFd : Int}

/-- A new connection takes nothing from what the others have been told. -/
theorem Loop.accepted_informed {loop : Loop} (informed : loop.process.Informed reader past whom)
    {fd : Int} {socket : Socket} (fresh : fd ∉ loop.process.ctx.fds) :
    (loop.accepted fd socket).process.Informed reader past whom := by
  have identities : (loop.accepted fd socket).process.ctx.identities =
      loop.process.ctx.identities ++ [⟨fd, false, 0, Text.empty⟩] := List.map_append
  have sessions : ∀ identity : Identity, identity.isAuthenticated = true →
      (identity ∈ (loop.accepted fd socket).process.ctx.identities ↔
        identity ∈ loop.process.ctx.identities) := fun identity authenticated => by
    rw [identities]
    exact ⟨fun member => mem_accepted member authenticated, List.mem_append_left _⟩
  have same : presentUsers (loop.accepted fd socket).process.ctx = presentUsers loop.process.ctx :=
    presentUsers_congr sessions rfl
  refine ⟨informed.since.trans ⟨_, rfl⟩, fun identity member meant authenticated positive => ?_⟩
  have old := (sessions identity authenticated).mp member
  have shown := Loop.shown_accepted (informed.shown identity old meant authenticated positive)
    socket (ServerContext.fresh_ne fresh old)
  refine shown.weaken fun view shows => ?_
  rw [PresenceReader.ShowsUsers, same]
  exact shows

theorem notifyDisconnected_of_stranger {client : ClientNode} (process : Process)
    (stranger : client.isAuthenticated = false) :
    notifyDisconnected env client process = process := by
  rw [notifyDisconnected, stranger]
  exact if_neg fun notified => Bool.noConfusion notified.1

theorem notifyDisconnected_of_user {client : ClientNode} (process : Process)
    (authenticated : client.isAuthenticated = true) (positive : 0 < client.id) :
    notifyDisconnected env client process =
      notifyAllUserLists env (notifyServerMemberListsForUser env client.id process) := by
  rw [notifyDisconnected, authenticated]
  exact if_pos ⟨rfl, positive⟩

/-- When a connection of a user closes, the others are sent the list without that session. -/
theorem disconnectClient_informed (reliable : env.Reliable) {loop : Loop}
    (consistent : loop.Consistent) (informed : loop.process.Informed reader past whom) {index : Nat}
    (inside : index < loop.process.ctx.clients.length) :
    (disconnectClient env index loop).process.Informed reader past whom := by
  have member := clientAt_mem_of_lt inside
  have closed : Emits [] loop.process ((loop.process.log (.closed
      (loop.process.clientAt index).socketFd)).withClients
        (removeClient index loop.process.ctx.clients)) :=
    .single (rfl : _ = loop.process.trace ++ [_]) trivial
  rw [disconnectClient]
  dsimp only
  cases known : (loop.process.clientAt index).isAuthenticated with
  | true =>
    obtain ⟨row, -, is⟩ := List.mem_map.mp ((consistent.valid _ member).user known)
    have positive : 0 < (loop.process.clientAt index).id := by
      rw [Process.clientAt, ← is]
      exact row.id.2.1
    rw [notifyDisconnected_of_user _ known positive]
    have members : Topic.members ∈ [Topic.members] := List.mem_cons_self
    refine notifyAllUserLists_informed reliable ((informed.since.trans closed.grown).trans ?_)
    exact (notifyServerMemberListsForUser_emits env _ _ members).grown
  | false =>
    rw [notifyDisconnected_of_stranger _ known]
    refine informed.of_sessions closed ⟨List.not_mem_nil, List.not_mem_nil⟩
      (fun identity authenticated => ?_) rfl
    have removed : (removeClient index loop.process.ctx.clients).map ClientNode.identity =
        loop.process.ctx.identities.eraseIdx index := by
      rw [removeClient_eq_eraseIdx inside]
      exact (List.eraseIdx_map ..).symm
    have place : loop.process.ctx.identities[index]? =
        some (loop.process.clientAt index).identity := by
      rw [ServerContext.identities, List.getElem?_map, List.getElem?_eq_getElem inside,
        Process.clientAt, clientAt_eq_getElem inside]
      rfl
    rw [ServerContext.identities]
    dsimp only [Process.withClients, Process.log]
    rw [removed]
    refine ⟨List.mem_of_mem_eraseIdx, fun present => List.mem_eraseIdx_iff_getElem?.mpr ?_⟩
    obtain ⟨other, at'⟩ := List.mem_iff_getElem?.mp present
    refine ⟨other, fun same => ?_, at'⟩
    rw [same, place] at at'
    rw [← Option.some.inj at', ClientNode.identity, known] at authenticated
    cases authenticated

/-- Every step of the loop leaves everybody informed. -/
theorem informed_steps (reliable : env.Reliable) (reader : PresenceReader View)
    (past : List Effect) (whom : Identity → Prop)
    (allowed : ServerContext → Int → TizcordPacket → Prop) :
    StepInvariant env allowed serverFd fun process => process.Informed reader past whom where
  restarted _ _ informed :=
    ⟨informed.since.trans ⟨_, rfl⟩, fun _ member => absurd member List.not_mem_nil⟩
  rejected process fd informed := by
    have emits := rejected_emits process fd
    exact informed.of_emits emits ⟨List.not_mem_nil, List.not_mem_nil⟩ rfl rfl
  accepted _ _ _ _ _ fresh informed := Loop.accepted_informed informed fresh
  received loop index _ informed := by
    have emits := receiveClient_emits index loop
    exact informed.of_emits emits ⟨List.not_mem_nil, List.not_mem_nil⟩
      (receiveClient_identities index loop) rfl
  closed _ _ consistent inside _ informed :=
    disconnectClient_informed reliable consistent informed inside
  handled loop readSet index packet handled informed := by
    have consistent : (receiveClient index loop).1.Consistent :=
      receiveClient_consistent handled.reachable.consistent
    refine processClientPacket_informed reliable informed consistent.distinct
      consistent.valid ?_ packet
    rw [receiveClient_length]
    exact handled.inside

/-- In every reachable state everybody is informed. -/
theorem ReachableWhen.informed (reliable : env.Reliable) (reader : PresenceReader View)
    {allowed : ServerContext → Int → TizcordPacket → Prop} {machine : Machine}
    (reachable : ReachableWhen env allowed serverFd machine) :
    machine.loop.process.Informed reader [] fun _ => True := by
  have invariant : RunInvariant env allowed serverFd fun process =>
      process.Informed reader [] fun _ => True :=
    { informed_steps reliable reader [] (fun _ => True) allowed with
      started := ⟨List.nil_prefix, fun _ member => absurd member List.not_mem_nil⟩ }
  exact invariant.reachable reachable

/-- Whoever is signed in and has received what the server sent on the connection sees all users,
as many as the client has room for, with their statuses and with who is online. -/
theorem presence_exact (env : Env) (serverFd : Int) (reliable : env.Reliable) {machine : Machine}
    (reachable : Reachable env serverFd machine) {fd userId : Int}
    (signedIn : SignedIn machine.loop.process.ctx fd userId) {before after : Ui}
    {events : List UiEvent} (steps : Steps UiStep before events after)
    (received : events.filterMap UiEvent.received = heardOn fd machine.loop.process.trace) :
    after.allUsers.entries.Perm ((presentUsers machine.loop.process.ctx).take maxAllUsers) := by
  obtain ⟨node, member, rfl, authenticated, -⟩ := signedIn
  have present : node.identity ∈ machine.loop.process.ctx.identities :=
    mem_identities.mpr ⟨node, member, rfl⟩
  have positive := reachable.soleSessions.positive node.identity present authenticated
  obtain ⟨later, logged, shows⟩ := (reachable.informed reliable clientReader).shown node.identity
    present trivial authenticated positive
  rw [List.nil_append] at logged
  have shown := clientReader_showsUsers.mp (shows before.allUsers)
  rw [clientReader_read, ← logged] at shown
  rw [allUsers_of_steps steps, received]
  exact shown

end Runs

/-- The request to sign out. -/
def logoutPacket : TizcordPacket :=
  (TizcordPacket.setType Image.zero .auth).setAuthAction AuthAction.logout.code

/-- The loop of the server after two users have registered, and the second one has signed out. -/
def signedOutLoop : Loop :=
  runServer Env.ideal 3 (pairEvents [] [logoutPacket] [4, 5, 5])

/-- The client of the first user shows that user online, and the second one offline. -/
theorem presence_exact_pair : ∃ after, Steps UiStep Ui.start
      ((heardOn 4 signedOutLoop.process.trace).map .packet) after ∧
    after.allUsers.entries.Perm
      [⟨1, Text.letterA, Text.empty, 1⟩, ⟨2, Text.letterB, Text.empty, 0⟩] := by
  have meets : runMeets Env.ideal (fun _ _ _ => true) (pairEvents [] [logoutPacket] [4, 5, 5])
      (startLoop 3 Database.empty 0 []) = true := by decide +kernel
  have reachable : Reachable Env.ideal 3 ⟨signedOutLoop, .selecting⟩ :=
    reachableWhen_runServer (fun _ _ _ _ => trivial) 3 _ meets
  have signedIn : SignedIn signedOutLoop.process.ctx 4 1 := signedIn_of_any (by decide +kernel)
  have users : (presentUsers signedOutLoop.process.ctx).take maxAllUsers =
      [⟨1, Text.letterA, Text.empty, 1⟩, ⟨2, Text.letterB, Text.empty, 0⟩] := by decide +kernel
  have runs : (replay (fun _ _ => true) ((heardOn 4 signedOutLoop.process.trace).map .packet)
      Ui.start).isSome = true := by decide +kernel
  generalize signedOutLoop = loop at reachable signedIn users runs ⊢
  obtain ⟨after, replayed⟩ := Option.isSome_iff_exists.mp runs
  have steps : Steps UiStep Ui.start ((heardOn 4 loop.process.trace).map .packet) after :=
    (replay_steps replayed).lift Steps.none fun steps step => steps.more step.1
  have received : ((heardOn 4 loop.process.trace).map UiEvent.packet).filterMap
      UiEvent.received = heardOn 4 loop.process.trace := by
    rw [List.filterMap_map]
    exact List.filterMap_some
  have shown := presence_exact Env.ideal 3 Env.ideal_reliable reachable signedIn steps received
  rw [users] at shown
  exact ⟨after, steps, shown⟩

end Tizcord
