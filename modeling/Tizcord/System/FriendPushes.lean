/-
This file is about the friend lists the server pushes to a session. Whoever asks for
something about a friend asks for the list afterwards, and everybody else is sent the
list by those who ask. So the last list that was sent in a session, when all packets of
the session are handled, is the list of the relations of its user.
-/

import Tizcord.Server.FriendViews
import Tizcord.Server.LiveMessages
import Tizcord.System.FriendLists

namespace Tizcord

open CModel

/-! ### The last list -/

/-- The packets of the last friend list, after one more packet. -/
def friendFrames (frames : List TizcordPacket) (packet : TizcordPacket) : List TizcordPacket :=
  if packet.request = some (.social .listFriends) then
    if ListFrameType.start.marks packet then [packet] else frames ++ [packet]
  else frames

/-- The packets of the last friend list among some packets. -/
def lastFriendList (packets : List TizcordPacket) : List TizcordPacket :=
  packets.foldl friendFrames []

section Reading

variable {packet : TizcordPacket} {frames packets copies : List TizcordPacket}
  {rows : List FriendListRow}

theorem friendFrames_start (frame : IsSocialFrame .listFriends .start packet) :
    friendFrames frames packet = [packet] := by
  have marks : ListFrameType.start.marks packet = true := decide_eq_true frame.frame
  rw [friendFrames, if_pos frame.request, if_pos marks]

theorem friendFrames_later {type : ListFrameType} (frame : IsSocialFrame .listFriends type packet)
    (later : type ≠ .start) : friendFrames frames packet = frames ++ [packet] := by
  have marks : type.marks packet = true := decide_eq_true frame.frame
  rw [friendFrames, if_pos frame.request, if_neg (marks_unique marks later)]

theorem foldl_friendFrames_rows (each : List.Forall₂ CarriesFriend rows packets) :
    packets.foldl friendFrames frames = frames ++ packets := by
  induction each generalizing frames with
  | nil => exact (List.append_nil _).symm
  | cons carries _ inductionHypothesis =>
    rw [List.foldl_cons, friendFrames_later carries.toIsSocialFrame (by decide),
      inductionHypothesis, List.append_assoc]
    rfl

/-- Whatever came before it, the last friend list is this one. -/
theorem friendFrames_stream (stream : IsFriendList rows copies) :
    copies.foldl friendFrames frames = copies := by
  obtain ⟨first, items, last, rfl, opens, each, closes⟩ := stream.split
  rw [List.foldl_cons, friendFrames_start opens, List.foldl_append, foldl_friendFrames_rows each,
    List.foldl_cons, friendFrames_later closes.toIsSocialFrame (by decide)]
  rfl

theorem friendFrames_other (other : ∀ topic, packet.topic = some topic →
    topic ∉ [Topic.friends]) : friendFrames frames packet = frames := by
  rw [friendFrames, if_neg]
  exact fun asked => other .friends (topic_of_request asked) List.mem_cons_self

/-- The last list tells of its rows. -/
def framesReader : FriendReader (List TizcordPacket) where
  read := friendFrames
  shows := IsFriendList
  topics := [.friends]
  lists := List.mem_cons_self
  few _ member := Or.inl (List.mem_singleton.mp member)
  other := friendFrames_other
  stream _ stream := by
    rw [friendFrames_stream stream]
    exact stream

end Reading

/-! ### Requests and the request for the list -/

/-- What an effect says was handled of a connection. -/
def Effect.handled? (fd : Int) : Effect → Option TizcordPacket
  | .handling target packet _ => if target = fd then some packet else none
  | _ => none

/-- The packets of a connection that were handled. -/
def handledOn (fd : Int) (trace : List Effect) : List TizcordPacket :=
  trace.filterMap (Effect.handled? fd)

/-- The packet is a friend request, or answers one, or ends a friendship. -/
def asksAboutTie (packet : TizcordPacket) : Bool :=
  packet.request = some (.social .friendRequest) || packet.request = some (.social .friendAccept) ||
    packet.request = some (.social .friendReject) || packet.request = some (.social .friendRemove)

/-- After every such packet the list is asked for. -/
def FollowsUp : List TizcordPacket → Prop
  | [] => True
  | packet :: later => (asksAboutTie packet = true →
      ∃ next ∈ later, next.request = some (.social .listFriends)) ∧ FollowsUp later

instance FollowsUp.decidable : DecidablePred FollowsUp
  | [] => .isTrue trivial
  | _ :: later => @instDecidableAnd _ _ inferInstance (FollowsUp.decidable later)

theorem FollowsUp.asked {earlier later : List TizcordPacket} {packet : TizcordPacket}
    (follows : FollowsUp (earlier ++ packet :: later)) (tied : asksAboutTie packet = true) :
    ∃ next ∈ later, next.request = some (.social .listFriends) := by
  induction earlier with
  | nil => exact follows.1 tied
  | cons first rest inductionHypothesis => exact inductionHypothesis follows.2

theorem asksAboutTie_of_tie {action : TieAction} {packet : TizcordPacket}
    (asked : packet.request = some (.social action.socialAction)) : asksAboutTie packet = true := by
  rw [asksAboutTie, asked]
  cases action <;> rfl

/-- The last lists on one connection, after some effects and as long as it is that of a user. -/
def pushWatch (past : List Effect) (fd userId : Int) : FriendWatch (List TizcordPacket) where
  reader := framesReader
  whom identity := identity.socketFd = fd ∧ identity.id = userId
  past := past
  asks := asksAboutTie
  ties := asksAboutTie_of_tie

theorem pushWatch_asks (past : List Effect) (fd userId : Int) :
    (pushWatch past fd userId).asks = asksAboutTie := by
  rw [pushWatch]

theorem pushWatch_reader (past : List Effect) (fd userId : Int) :
    (pushWatch past fd userId).reader = framesReader := by
  rw [pushWatch]

theorem framesReader_read : framesReader.read = friendFrames := by
  rw [framesReader]

section Packets

variable {test : TizcordPacket → Bool} {fd : Int} {trace effects : List Effect}
  {packets : List TizcordPacket}

theorem handledOn_append : handledOn fd (trace ++ effects) =
    handledOn fd trace ++ handledOn fd effects :=
  List.filterMap_append

/-- Where no packet that was handled passes the test, nothing that was told is left out. -/
theorem toldSince_of_untested
    (untested : ∀ packet ∈ handledOn fd trace, test packet = false) :
    toldSince test fd trace = heardOn fd trace := by
  rw [heardOn, toldSince, toldSince]
  generalize ([] : List TizcordPacket) = told
  induction trace generalizing told with
  | nil => rfl
  | cons effect rest inductionHypothesis =>
    have later : ∀ packet ∈ handledOn fd rest, test packet = false := by
      intro packet member
      refine untested packet ?_
      rw [handledOn, List.filterMap_cons]
      split
      · exact member
      · exact List.mem_cons_of_mem _ member
    have same : effect.tells test fd told = effect.tells (fun _ => false) fd told := by
      cases effect with
      | handling target packet user =>
        rw [Effect.tells, Effect.tells]
        by_cases own : target = fd
        · have first : test packet = false := by
            refine untested packet ?_
            rw [handledOn, List.filterMap_cons, Effect.handled?, if_pos own]
            exact List.mem_cons_self
          rw [first]
        · rw [if_neg fun both => own both.1, if_neg fun both => own both.1]
      | _ => rfl
    rw [List.foldl_cons, List.foldl_cons, same]
    exact inductionHypothesis later _

/-- Among some packets there is a last one that passes a test, or there is none. -/
theorem last_tested (test : TizcordPacket → Bool) (packets : List TizcordPacket) :
    (∀ packet ∈ packets, test packet = false) ∨ ∃ earlier packet later,
      packets = earlier ++ packet :: later ∧ test packet = true ∧
        ∀ other ∈ later, test other = false := by
  induction packets with
  | nil => exact Or.inl fun _ member => absurd member List.not_mem_nil
  | cons first rest inductionHypothesis =>
    rcases inductionHypothesis with none | ⟨earlier, packet, later, rfl, passes, untested⟩
    · cases passes : test first with
      | false => exact Or.inl (List.forall_mem_cons.mpr ⟨passes, none⟩)
      | true => exact Or.inr ⟨[], first, rest, rfl, passes, none⟩
    · exact Or.inr ⟨first :: earlier, packet, later, rfl, passes, untested⟩

end Packets

/-! ### What a step keeps -/

/-- If the list was asked for on the connection, and nothing about a tie since, it was sent. -/
def Process.Answered (process : Process) (past : List Effect) (fd : Int) : Prop :=
  ∃ later, process.trace = past ++ later ∧ ∀ earlier packet rest,
    handledOn fd later = earlier ++ packet :: rest → packet.request = some (.social .listFriends) →
      (∀ other ∈ rest, asksAboutTie other = false) → ListsFriends (toldSince asksAboutTie fd later)

/-- The connection is that of the user, or nothing has happened on it yet; the lists it was sent are
right, and those it has asked for were sent. -/
structure Process.Pushed (process : Process) (past : List Effect) (fd userId : Int) : Prop where
  session : SignedIn process.ctx fd userId ∨ process.Unlisted (pushWatch past fd userId) fd
  shown : process.FriendsShown (pushWatch past fd userId) fun _ => False
  answered : process.Answered past fd

section Answers

variable {env : Env} {past : List Effect} {fd userId : Int} {before after process : Process}
  {topics : List Topic} {index : Nat} {packet : TizcordPacket}

theorem ListsFriends.append {told packets : List TizcordPacket} (listed : ListsFriends told) :
    ListsFriends (told ++ packets) := by
  obtain ⟨packet, member, ends⟩ := listed
  exact ⟨packet, List.mem_append_left _ member, ends⟩

/-- What handles no packet and accepts no connection keeps the answers. -/
theorem Process.Answered.of_emits (answered : before.Answered past fd)
    (emits : Emits topics before after) : after.Answered past fd := by
  obtain ⟨later, logged, listed⟩ := answered
  obtain ⟨effects, grown, about⟩ := emits.gained
  obtain ⟨gained, grownToo, told⟩ := emits.told asksAboutTie fd
  obtain rfl : effects = gained := List.append_cancel_left (grown.symm.trans grownToo)
  have unhandled : handledOn fd effects = [] := by
    refine List.filterMap_eq_nil_iff.mpr fun effect member => ?_
    have allowed := about effect member
    cases effect with
    | handling => exact absurd allowed id
    | _ => rfl
  obtain ⟨packets, tells, -⟩ := told later
  refine ⟨later ++ effects, by rw [grown, logged, List.append_assoc],
    fun earlier packet rest handled asked untied => ?_⟩
  rw [handledOn_append, unhandled, List.append_nil] at handled
  rw [tells]
  exact (listed earlier packet rest handled asked untied).append

/-- The handling of a packet that does not ask for the list begins with the same answers. -/
theorem Process.Answered.begun (answered : process.Answered past fd)
    (other : (process.clientAt index).socketFd = fd →
      packet.request ≠ some (.social .listFriends)) :
    (process.begun index packet).Answered past fd := by
  obtain ⟨later, logged, listed⟩ := answered
  have begins : (process.begun index packet).trace = process.trace ++ [.handling
      (process.clientAt index).socketFd packet
      (process.ctx.userOf (process.clientAt index).socketFd)] := rfl
  refine ⟨_, by rw [begins, logged, List.append_assoc],
    fun earlier asks rest handled asked untied => ?_⟩
  have tells : toldSince asksAboutTie fd (later ++ [.handling (process.clientAt index).socketFd
      packet (process.ctx.userOf (process.clientAt index).socketFd)]) =
      if (process.clientAt index).socketFd = fd ∧ asksAboutTie packet = true then []
      else toldSince asksAboutTie fd later := by
    rw [toldSince, List.foldl_append, List.foldl_cons, List.foldl_nil, Effect.tells]
    rfl
  rw [handledOn_append, handledOn, handledOn, List.filterMap_cons, List.filterMap_nil,
    Effect.handled?] at handled
  rw [tells]
  by_cases own : (process.clientAt index).socketFd = fd
  · rw [if_pos own] at handled
    -- the packet is the last one that was handled
    cases rest using List.reverseRecOn with
    | nil =>
      obtain ⟨-, same⟩ := List.append_inj' handled rfl
      exact absurd (List.singleton_inj.mp same ▸ asked) (other own)
    | append_singleton rest last =>
      rw [← List.cons_append, ← List.append_assoc] at handled
      obtain ⟨same, lasts⟩ := List.append_inj' handled rfl
      have unasked : asksAboutTie packet = false := by
        rw [List.singleton_inj.mp lasts]
        exact untied last (List.mem_append_right _ List.mem_cons_self)
      rw [unasked, if_neg fun both => Bool.noConfusion both.2]
      exact listed earlier asks rest same asked fun other member =>
        untied other (List.mem_append_left _ member)
  · rw [if_neg own, List.append_nil] at handled
    rw [if_neg fun both => own both.1]
    exact listed earlier asks rest handled asked untied

/-- A connection that has just been sent the list has been answered. -/
theorem answered_of_sends {copies : List TizcordPacket} (since : past <+: before.trace)
    (sent : SendsList fd copies before after)
    (ends : ∃ packet ∈ copies, IsSocialFrame .listFriends .end packet) :
    after.Answered past fd := by
  obtain ⟨later, logged⟩ := since
  obtain ⟨effects, grown, delivers⟩ := sent.gained
  refine ⟨later ++ effects, by rw [grown, ← logged, List.append_assoc], fun _ _ _ _ _ _ => ?_⟩
  obtain ⟨packet, member, is⟩ := ends
  rw [toldSince_of_delivers delivers, if_pos rfl]
  exact ⟨packet, List.mem_append_right _ member, is⟩

/-- The handling of a packet keeps the answers, or adds one. -/
theorem processClientPacket_answered (reliable : env.Reliable)
    (answered : process.Answered past fd) (distinct : process.ctx.fds.Nodup)
    (inside : index < process.ctx.clients.length)
    (signedIn : SignedIn (processClientPacket env index packet process).ctx fd userId) :
    (processClientPacket env index packet process).Answered past fd := by
  by_cases asks : (process.clientAt index).socketFd = fd ∧
      packet.request = some (.social .listFriends)
  · obtain ⟨rfl, asked⟩ := asks
    have quiet := (processClientPacket_acts env index packet process).quiet fun action is => by
      rw [asked] at is
      cases is
    obtain ⟨node, member, same, authenticated, -⟩ := (signedIn_congr quiet.identities).mp signedIn
    rw [clientAt_unique distinct inside member same] at authenticated
    rw [processClientPacket_social asked authenticated, ← Process.begun, handleSocialAction]
    obtain ⟨copies, sent, ends, -⟩ := sendFriendList_shows framesReader reliable
      (process.clientAt index).socketFd (process.clientAt index).id (process.begun index packet)
    obtain ⟨later, logged, -⟩ := answered
    exact answered_of_sends (List.IsPrefix.trans ⟨later, logged.symm⟩ ⟨_, rfl⟩) sent ends
  · have emits := processClientPacket_emits env index packet process
    rw [← Process.begun] at emits
    exact (answered.begun fun own asked => asks ⟨own, asked⟩).of_emits emits

theorem Process.Answered.accepted {loop : Loop} {target : Int} {socket : Socket}
    (answered : loop.process.Answered past fd) (other : target ≠ fd) :
    (loop.accepted target socket).process.Answered past fd := by
  obtain ⟨later, logged, listed⟩ := answered
  refine ⟨later ++ [.accepted target socket], ?_, ?_⟩
  · rw [← List.append_assoc, ← logged]
    rfl
  · have handled : handledOn fd (later ++ [.accepted target socket]) = handledOn fd later :=
      handledOn_append.trans (List.append_nil _)
    rw [toldSince_accepted other, handled]
    exact listed

end Answers

section Steps

variable {env : Env} {past : List Effect} {serverFd fd userId : Int}

theorem SignedIn.of_accepted {loop : Loop} {target : Int} {socket : Socket}
    (signedIn : SignedIn (loop.accepted target socket).process.ctx fd userId) :
    SignedIn loop.process.ctx fd userId := by
  have identities : (loop.accepted target socket).process.ctx.identities =
      loop.process.ctx.identities ++ [⟨target, false, 0, Text.empty⟩] := List.map_append
  obtain ⟨identity, member, own, authenticated, same⟩ := signedIn_iff.mp signedIn
  rw [identities] at member
  exact signedIn_iff.mpr ⟨identity, mem_accepted member authenticated, own, authenticated, same⟩

/-- A step after which the connection is that of the user leaves it with the right lists. -/
theorem pushed_ensures (reliable : env.Reliable) (past : List Effect) (fd userId : Int) :
    StepEnsures env (fun _ _ _ => True) serverFd (fun process => process.Pushed past fd userId)
      fun process => SignedIn process.ctx fd userId → process.Pushed past fd userId where
  weaken process pushed _ := pushed
  restarted process newFd _ := fun ⟨_, member, _⟩ => absurd member List.not_mem_nil
  rejected process target pushed signedIn := by
    have emits := rejected_emits process target
    exact ⟨Or.inl signedIn, FriendWatch.rejected target pushed.shown, pushed.answered.of_emits emits⟩
  accepted loop target socket _ _ fresh pushed signedIn := by
    obtain ⟨identity, member, own, -⟩ := signedIn_iff.mp signedIn.of_accepted
    have other : target ≠ fd := own ▸ ServerContext.fresh_ne fresh member
    exact ⟨Or.inl signedIn, Loop.accepted_friendsShown fresh pushed.shown,
      pushed.answered.accepted other⟩
  received loop index _ pushed := by
    have emits := receiveClient_emits index loop
    refine ⟨?_, FriendWatch.received pushed.shown, pushed.answered.of_emits emits⟩
    exact pushed.session.imp SignedIn.received fun unlisted =>
      unlisted.of_adds (emits.told _ _) List.not_mem_nil
  closed loop index _ inside _ pushed signedIn :=
    ⟨Or.inl signedIn, FriendWatch.closed env inside pushed.shown,
      pushed.answered.of_emits (disconnectClient_emits env index loop)⟩
  handled loop readSet index packet handled pushed signedIn := by
    have consistent : (receiveClient index loop).1.Consistent :=
      receiveClient_consistent handled.reachable.consistent
    have inside : index < (receiveClient index loop).1.process.ctx.clients.length := by
      rw [receiveClient_length]
      exact handled.inside
    refine ⟨Or.inl signedIn, FriendWatch.handled reliable handled pushed.shown (Or.inr ⟨?_, ?_⟩),
      processClientPacket_answered reliable pushed.answered consistent.distinct inside signedIn⟩
    · exact fun heeds => absurd (List.mem_singleton.mp heeds) (by decide)
    · rintro identity - ⟨rfl, rfl⟩ -
      rcases pushed.session with still | unlisted
      · obtain ⟨old, member, own, authenticated, same⟩ := signedIn_iff.mp still
        exact Or.inr ⟨old, member, ⟨own, same⟩, authenticated, own, same⟩
      · exact Or.inl unlisted

variable {first last : Machine}

theorem StaysSignedIn.pushed (reliable : env.Reliable) (reachable : Reachable env serverFd first)
    (before : ¬ SignedIn first.loop.process.ctx fd userId)
    (stays : StaysSignedIn env fd userId first last) :
    Reachable env serverFd last ∧
      last.loop.process.Pushed first.loop.process.trace fd userId := by
  induction stays with
  | refl =>
    have nothing : first.loop.process.trace = first.loop.process.trace ++ [] :=
      (List.append_nil _).symm
    refine ⟨reachable, Or.inr ⟨[], nothing, not_listsFriends_nil⟩, ⟨List.prefix_rfl, ?_⟩,
      ⟨[], nothing, ?_⟩⟩
    · rintro identity member ⟨own, same⟩ authenticated - -
      exact absurd (signedIn_iff.mpr ⟨identity, member, own, authenticated, same⟩) before
    · intro earlier packet rest handled
      exact absurd handled.symm (List.append_ne_nil_of_right_ne_nil _ (List.cons_ne_nil _ _))
  | tail _ step inductionHypothesis =>
    obtain ⟨reached, pushed⟩ := inductionHypothesis
    exact ⟨step.1.reachable reached,
      (pushed_ensures reliable _ fd userId).step reached step.1 pushed step.2⟩

end Steps

/-! ### Main theorem -/

/-- The rows are the relations of a user: each other user once, under the number of the relation. -/
structure ListsTies (database : Database) (userId : Int) (rows : List FriendListRow) : Prop where
  once : (rows.map FriendListRow.targetUserId).Nodup
  each : ∀ row, row ∈ rows ↔ ∃ user ∈ database.users,
    row.targetUserId = user.id ∧ row.username = user.username ∧
      (tieOf database.friends userId user.id).code = some row.isIncoming
  every : ∀ friendId, tieOf database.friends userId friendId ≠ .none →
    friendId ∈ rows.map FriendListRow.targetUserId

theorem userIds_of_tie {database : Database} {userId friendId : Int}
    (tied : tieOf database.friends userId friendId ≠ .none) : friendId ∈ database.userIds := by
  rcases shape : rowsBetween database.friends userId friendId with _ | ⟨row, rest⟩
  · rw [tieOf, shape] at tied
    exact absurd rfl tied
  · obtain ⟨member, pair⟩ := mem_rowsBetween.mp (shape ▸ List.mem_cons_self : row ∈ _)
    rcases pair with same | same
    · have own : row.friendId = friendId := congrArg Prod.snd same
      exact own ▸ database.integrity.friends_friend row member
    · have own : row.userId = friendId := congrArg Prod.fst same
      exact own ▸ database.integrity.friends_user row member

theorem Tie.exists_code {tie : Tie} (tied : tie ≠ .none) : ∃ code, tie.code = some code := by
  cases tie with
  | none => exact absurd rfl tied
  | _ => exact ⟨_, rfl⟩

theorem listsTies_of_perm {database : Database} (paired : Paired database.friends) {userId : Int}
    {rows : List FriendListRow} (perm : rows.Perm (friendList database userId)) :
    ListsTies database userId rows where
  once := (perm.map _).nodup_iff.mpr (friendList_nodup paired userId)
  each row := perm.mem_iff.trans (mem_friendList paired row)
  every friendId tied := by
    obtain ⟨user, member, rfl⟩ := List.mem_map.mp (userIds_of_tie tied)
    obtain ⟨code, is⟩ := Tie.exists_code tied
    have listed : ⟨user.id, user.username, code⟩ ∈ rows :=
      perm.mem_iff.mpr ((mem_friendList paired _).mpr ⟨user, member, rfl, rfl, is⟩)
    exact List.mem_map_of_mem listed

/-- Where a connection has become that of a user and has been sent a friend list since, and the user
has asked for the list after every request about a tie, the last list that was sent is the list of
the relations of the user: it has a packet for each of them and closes with their number. -/
theorem friend_pushes_exact (env : Env) (serverFd : Int) (reliable : env.Reliable)
    {first last : Machine} (reachable : Reachable env serverFd first) {fd userId : Int}
    (before : ¬ SignedIn first.loop.process.ctx fd userId)
    (stays : StaysSignedIn env fd userId first last) :
    ∃ since, last.loop.process.trace = first.loop.process.trace ++ since ∧
      (FollowsUp (handledOn fd since) → ListsFriends (heardOn fd since) →
        ∃ rows, IsFriendList rows (lastFriendList (heardOn fd since)) ∧
          ListsTies last.loop.process.ctx.db userId rows) := by
  obtain ⟨reached, pushed⟩ := stays.pushed reliable reachable before
  obtain ⟨since, logged, answered⟩ := pushed.answered
  refine ⟨since, logged, fun follows listed => ?_⟩
  -- after the last request about a tie, the list that was asked for was sent
  have told : ListsFriends (toldSince asksAboutTie fd since) := by
    rcases last_tested asksAboutTie (handledOn fd since) with
      untied | ⟨earlier, packet, later, handled, tied, untied⟩
    · rw [toldSince_of_untested untied]
      exact listed
    · rw [handled] at follows
      obtain ⟨next, member, asked⟩ := follows.asked tied
      obtain ⟨start, rest, rfl⟩ := List.append_of_mem member
      refine answered (earlier ++ packet :: start) next rest ?_ asked fun other inRest =>
        untied other (List.mem_append_right _ (List.mem_cons_of_mem _ inRest))
      rw [handled, List.append_assoc, List.cons_append]
  rcases pushed.session with signedIn | ⟨later, same, unlisted⟩
  · obtain ⟨identity, member, own, authenticated, is⟩ := signedIn_iff.mp signedIn
    have positive := reached.soleSessions.positive identity member authenticated
    obtain ⟨later, same, shows⟩ := pushed.shown.shown identity member ⟨own, is⟩ authenticated
      positive id
    obtain rfl : since = later := List.append_cancel_left (logged.symm.trans same)
    rw [own, is, pushWatch_asks, pushWatch_reader, framesReader_read] at shows
    obtain ⟨earlier, heard⟩ := toldSince_suffix asksAboutTie fd since
    obtain ⟨rows, perm, stream⟩ := shows told (earlier.foldl friendFrames [])
    refine ⟨rows, ?_, listsTies_of_perm (reached.paired reliable) perm⟩
    rw [lastFriendList, ← heard, List.foldl_append]
    exact stream
  · obtain rfl : since = later := List.append_cancel_left (logged.symm.trans same)
    rw [pushWatch_asks] at unlisted
    exact absurd told unlisted

/-! ### Runs -/

/-- The machine makes its next step, with a round of `select` where it needs one. -/
def Machine.next (env : Env) (machine : Machine) (round : Round) : Machine :=
  match machine.phase with
  | .selecting =>
    ⟨acceptRound (selectReady machine.loop round.ready) round.accepts machine.loop,
      .servicing (selectReady machine.loop round.ready) 0⟩
  | .servicing readSet index =>
    if index < machine.loop.process.ctx.clients.length then
      ⟨(serviceClient env readSet index machine.loop).1,
        .servicing readSet (serviceClient env readSet index machine.loop).2⟩
    else ⟨machine.loop, .selecting⟩

theorem Machine.step_next (env : Env) (machine : Machine) (round : Round) :
    machine.Step env (machine.next env round) := by
  obtain ⟨loop, _ | ⟨readSet, index⟩⟩ := machine
  · exact .select loop round
  · rw [next]
    dsimp only
    split
    · next inside => exact .service inside
    · next outside => exact .finish (Nat.le_of_not_lt outside)

/-- The connection is that of the user after every step. -/
def staysThrough (env : Env) (fd userId : Int) : List Round → Machine → Bool
  | [], _ => true
  | round :: rest, machine =>
    ((machine.next env round).loop.process.ctx.clients.any fun node =>
      node.socketFd = fd && (node.isAuthenticated = true && node.id = userId)) &&
      staysThrough env fd userId rest (machine.next env round)

theorem staysSignedIn_of_through {env : Env} {fd userId : Int} {rounds : List Round}
    {first : Machine} (through : staysThrough env fd userId rounds first = true) :
    StaysSignedIn env fd userId first (rounds.foldl (Machine.next env) first) := by
  induction rounds generalizing first with
  | nil => exact .refl
  | cons round rest inductionHypothesis =>
    rw [staysThrough, Bool.and_eq_true] at through
    exact .head ⟨first.step_next env round, signedIn_of_any through.1⟩
      (inductionHypothesis through.2)

theorem listsFriends_of_any {packets : List TizcordPacket} (found : packets.any (fun packet =>
    packet.request = some (.social .listFriends) && ListFrameType.end.marks packet) = true) :
    ListsFriends packets := by
  obtain ⟨packet, member, is⟩ := List.any_eq_true.mp found
  rw [Bool.and_eq_true, ListFrameType.marks, decide_eq_true_eq, decide_eq_true_eq] at is
  exact ⟨packet, member, is.1, is.2⟩

/-- The request for the own friend list. -/
def listFriendsPacket : TizcordPacket :=
  (TizcordPacket.setType Image.zero .social).setSocialAction SocialAction.listFriends.code

/-- The state before a second user registers on the first connection. -/
def unregistered : Machine :=
  Machine.next Env.ideal ⟨runServer Env.ideal 3
    [.round ⟨{3}, [.connected 4 ⟨clientBytes registerSecondPacket ++
        (clientBytes (tiePacket .request Text.letterA) ++ clientBytes listFriendsPacket),
        [.count 1000, .count 1000, .count 1000]⟩]⟩,
      .round ⟨{3}, [.connected 5 ⟨clientBytes registerPacket ++
        clientBytes (tiePacket .accept Text.letterB), [.count 1000, .count 1000]⟩]⟩,
      .round ⟨{5}, []⟩], .selecting⟩ ⟨{4}, []⟩

theorem unregistered_reachable : Reachable Env.ideal 3 unregistered := by
  rw [unregistered]
  exact (Machine.step_next ..).reachable (reachable_runServer ..)

/-- The second user registers, asks the first and then for the list, and the first accepts. -/
def befriended : Machine :=
  (List.replicate 5 (Round.mk {4} []) ++ List.replicate 5 (Round.mk {4, 5} [])).foldl
    (Machine.next Env.ideal) unregistered

theorem befriended_stays : StaysSignedIn Env.ideal 4 2 unregistered befriended := by
  rw [befriended]
  exact staysSignedIn_of_through (by decide +kernel)

/-- The last list the second user was sent is the one after the first has accepted. -/
theorem friend_pushes_exact_befriended :
    ∃ rows, IsFriendList rows (lastFriendList (heardOn 4
        (befriended.loop.process.trace.drop unregistered.loop.process.trace.length))) ∧
      ListsTies befriended.loop.process.ctx.db 2 rows := by
  have reachable := unregistered_reachable
  have nobody : unregistered.loop.process.ctx.clients.any (fun node =>
      node.socketFd = 4 && (node.isAuthenticated = true && node.id = 2)) = false := by
    decide +kernel
  have stays := befriended_stays
  have meets : FollowsUp (handledOn 4
        (befriended.loop.process.trace.drop unregistered.loop.process.trace.length)) ∧
      ListsFriends (heardOn 4
        (befriended.loop.process.trace.drop unregistered.loop.process.trace.length)) :=
    ⟨by decide +kernel, listsFriends_of_any (by decide +kernel)⟩
  generalize unregistered = first at reachable nobody stays meets ⊢
  generalize befriended = last at stays meets ⊢
  have before : ¬ SignedIn first.loop.process.ctx 4 2 := by
    rintro ⟨node, member, own, authenticated, same⟩
    refine List.any_eq_false.mp nobody node member ?_
    rw [own, authenticated, same]
    rfl
  obtain ⟨since, logged, pushes⟩ :=
    friend_pushes_exact Env.ideal 3 Env.ideal_reliable reachable before stays
  rw [logged, List.drop_left] at meets ⊢
  exact pushes meets.1 meets.2

end Tizcord
