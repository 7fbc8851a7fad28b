/-
This file is about the friend with whom the user exchanges direct messages. The
client keeps the index of the friend while it empties and refills the list below
it, so the index may come to mean nobody; then TAB does not end, or ends the
program.
-/

import Tizcord.Client.Navigation
import Tizcord.Client.Views

namespace Tizcord

open CModel

/-! ### A friend who is present -/

/-- The list of friends has an accepted friend at an index. -/
structure Ui.HasFriend (ui : Ui) (index : Fin maxFriends) : Prop where
  below : index.val < ui.friends.count
  accepted : (ui.friends.slot index).type = acceptedType

/-- What TAB and ENTER do among the direct messages, where a friend is selected: the friend is in
the list, TAB ends at an accepted friend, and ENTER sends to an accepted friend only. -/
structure Ui.ActsOnFriend (ui : Ui) (index : Fin maxFriends) : Prop where
  present : ui.HasFriend index
  tab : ∀ now, ∃ after next, handleKey now .tab ui = .ok after ∧
    after.activeDmFriend = some next ∧ after.HasFriend next
  enter : ∀ now after, handleKey now .enter ui = .ok after → after.requests = ui.requests ∨
    ∃ friend ∈ ui.friends.entries, friend.type = acceptedType ∧
      after.requests = (Client.sendDmMessage now friend.id ui.dmInput.text ui).requests

/-- While the direct messages are shown, they act on a friend who is present. -/
def Ui.DmsAct (ui : Ui) : Prop :=
  ui.currentScreen = .dms → ∀ index, ui.activeDmFriend = some index → ui.ActsOnFriend index

section Present

variable {ui after : Ui} {index : Fin maxFriends}

/-- The loop of TAB ends when it comes to an accepted friend. -/
theorem nextFriend_ends {friends : SlotArray UIFriend maxFriends} {positive : 0 < friends.count}
    {rounds ahead : Nat} {index : Fin maxFriends} (reached : ahead < rounds)
    {wanted : Fin maxFriends} (is : wanted.val = (index.val + ahead + 1) % friends.count)
    (accepted : (friends.slot wanted).type = acceptedType) :
    ∃ next, nextFriend friends positive rounds index = .ok next := by
  induction rounds generalizing ahead index with
  | zero => exact absurd reached (Nat.not_lt_zero _)
  | succ rounds inductionHypothesis =>
    unfold nextFriend
    dsimp only
    split
    · exact ⟨_, rfl⟩
    · next refused =>
      cases ahead with
      | zero =>
        have same : wanted = ⟨(index.val + 1) % friends.count,
            (Nat.mod_lt _ positive).trans_le friends.fits⟩ := Fin.ext is
        exact absurd (same ▸ accepted) refused
      | succ ahead =>
        refine inductionHypothesis (Nat.lt_of_succ_lt_succ reached) ?_
        dsimp only
        rw [is, Nat.add_assoc ((index.val + 1) % friends.count), Nat.mod_add_mod]
        congr 1
        omega

/-- From a friend who is present TAB finds an accepted friend, at last the same one. -/
theorem nextFriend_present (present : ui.HasFriend index) (positive : 0 < ui.friends.count) :
    ∃ next, nextFriend ui.friends positive ui.friends.count index = .ok next := by
  have below := present.below
  refine nextFriend_ends (Nat.sub_lt positive Nat.one_pos) ?_ present.accepted
  have around : index.val + (ui.friends.count - 1) + 1 = index.val + ui.friends.count := by omega
  rw [around, Nat.add_mod_right, Nat.mod_eq_of_lt below]

theorem Ui.HasFriend.mem (present : ui.HasFriend index) :
    ui.friends.slot index ∈ ui.friends.entries :=
  SlotArray.mem_entries.mpr ⟨index, present.below, rfl⟩

/-- The requests of ENTER are those of a message to the selected friend. -/
theorem submitDm_requests {now : Int} (handled : submitDm now index ui = .ok after) :
    after.requests = ui.requests ∨
      after.requests =
        (Client.sendDmMessage now (ui.friends.slot index).id ui.dmInput.text ui).requests := by
  unfold submitDm at handled
  split at handled
  · obtain ⟨middle, filed, handled⟩ := bind_eq_ok handled
    obtain rfl := Except.ok.inj handled
    refine Or.inr ?_
    unfold fileOwnMessage at filed
    split at filed
    · obtain ⟨user, -, filed⟩ := bind_eq_ok filed
      obtain rfl := Except.ok.inj filed
      rfl
    · obtain rfl := Except.ok.inj filed
      rfl
  · obtain rfl := Except.ok.inj handled
    exact Or.inl rfl

theorem handleKey_dms {now : Int} {key : Key} (shown : ui.currentScreen = .dms) :
    handleKey now key ui = handleDmsInput now key ui := by
  rw [handleKey, shown]

/-- Where the selected friend is present, the direct messages act on a friend who is present. -/
theorem Ui.HasFriend.acts (present : ui.HasFriend index) (shown : ui.currentScreen = .dms)
    (active : ui.activeDmFriend = some index) : ui.ActsOnFriend index where
  present := present
  tab now := by
    have positive : 0 < ui.friends.count := (Nat.zero_le _).trans_lt present.below
    obtain ⟨next, found⟩ := nextFriend_present present positive
    obtain ⟨below, accepted⟩ := nextFriend_accepted found
    have handled : handleKey now .tab ui = cycleFriend now index ui := by
      rw [handleKey_dms shown]
      simp only [handleDmsInput, active]
    rw [handled, cycleFriend, dif_pos positive, found]
    refine ⟨_, next, rfl, ?_, ?_, ?_⟩
    · exact congrArg Place.friend (safeSendPacket_place _ _)
    · simpa using below
    · simpa using accepted
  enter now after handled := by
    have submitted : handleKey now .enter ui = submitDm now index ui := by
      rw [handleKey_dms shown]
      simp only [handleDmsInput, active]
    rw [submitted] at handled
    rcases submitDm_requests handled with same | sent
    · exact Or.inl same
    · exact Or.inr ⟨_, present.mem, present.accepted, sent⟩

/-- The direct messages act on a friend who is present exactly when a selected one is present. -/
theorem dmsAct_iff : ui.DmsAct ↔ (ui.currentScreen = .dms →
    ∀ index, ui.activeDmFriend = some index → ui.HasFriend index) :=
  ⟨fun acts shown index active => (acts shown index active).present,
    fun present shown index active => (present shown index active).acts shown active⟩

end Present

/-! ### What selects a friend, and what takes friends away -/

/-- A START frame of the friend list is not taken in while a selected friend is shown, and F4 shows
the direct messages only where a selected friend is present. -/
structure Ui.AllowsDms (ui : Ui) (events : List UiEvent) : Prop where
  refresh : ∀ packet, .packet packet ∈ events → packet.request = some (.social .listFriends) →
    ListFrameType.start.marks packet = true → ui.currentScreen = .dms → ui.activeDmFriend = none
  opens : .key .f4 ∈ events → ui.currentScreen = .servers →
    ∀ index, ui.activeDmFriend = some index → ui.HasFriend index

section Steps

variable {now : Int} {packet : TizcordPacket} {ui after : Ui} {events : List UiEvent}
  {index : Fin maxFriends}

/-- A friend is present as long as the list keeps its place and type. -/
theorem Ui.HasFriend.of_friends (present : ui.HasFriend index)
    (count : ui.friends.count ≤ after.friends.count)
    (type : (after.friends.slot index).type = (ui.friends.slot index).type) :
    after.HasFriend index :=
  ⟨present.below.trans_le count, type.trans present.accepted⟩

theorem Ui.HasFriend.of_same (present : ui.HasFriend index)
    (same : after.friends = ui.friends) : after.HasFriend index :=
  present.of_friends (by rw [same]) (by rw [same])

/-- A message leaves all friends present. -/
theorem Ui.HasFriend.of_modify (present : ui.HasFriend index) {other : Fin maxFriends}
    {write : UIFriend → Messages}
    (filed : after.friends = ui.friends.modify other fun friend =>
      { friend with messages := write friend }) : after.HasFriend index := by
  refine present.of_friends (by rw [filed]; rfl) ?_
  rw [filed]
  by_cases same : index = other
  · rw [same, SlotArray.slot_modify_same]
  · rw [SlotArray.slot_modify_ne _ _ same]

/-- A packet that is no friend list leaves all friends present, as long as nobody signs out. -/
theorem Ui.HasFriend.of_packet (present : ui.HasFriend index)
    (processed : processNetworkPacket now packet ui = .ok after)
    (unlisted : packet.request ≠ some (.social .listFriends))
    (staysIn : packet.request ≠ some (.auth .logout)) : after.HasFriend index := by
  rcases (processNetworkPacket_changes processed).friends with same | changed
  · exact present.of_same same
  · generalize is : after.friends = friends at changed
    cases changed with
    | signedOut asked => exact absurd asked staysIn
    | opened asked => exact absurd asked unlisted
    | listed asked => exact absurd asked unlisted
    | message other found asked =>
      rw [uiReceiveDmMessage, found] at is
      dsimp only [Ui.modifyFriend] at is
      generalize dmMessageOf packet ui = message at is
      exact present.of_modify is

/-- A key leaves all friends present. -/
theorem Ui.HasFriend.of_key {key : Key} (present : ui.HasFriend index)
    (handled : handleKey now key ui = .ok after) : after.HasFriend index := by
  rcases handleKey_cases handled with same | submits
  · exact present.of_same same.friends
  · obtain ⟨active, user, time, -, -, filed⟩ := submits.filed
    exact present.of_modify filed

/-- The friend who is found first is present. -/
theorem hasFriend_of_firstFriend (found : ui.firstFriend = some index) : ui.HasFriend index := by
  obtain ⟨below, accepted⟩ := SlotArray.find?_eq_some found
  exact ⟨below, of_decide_eq_true accepted⟩

theorem processNetworkPacket_friendList (asked : packet.request = some (.social .listFriends)) :
    processNetworkPacket now packet ui = .ok (friendListed now packet ui) := by
  rw [processNetworkPacket_eq, asked, processRequest, updateSocialState]

theorem processNetworkPacket_logout (asked : packet.request = some (.auth .logout)) :
    processNetworkPacket now packet ui = .ok (signOut packet ui) := by
  rw [processNetworkPacket_eq, asked, processRequest, handleAuthResponse]

/-- The end of a friend list selects a friend who is present, if there is one. -/
theorem Ui.DmsAct.friendListEnded (acts : ui.DmsAct) : (friendListEnded now ui).DmsAct := by
  unfold Tizcord.friendListEnded
  split
  · split
    · exact acts
    · next first found =>
      rw [dmsAct_iff]
      intro _ index active
      have selected := congrArg Place.friend (safeSendPacket_place
        ((Client.dmRequest now .historyRequest).setDmRecipientId (ui.friends.slot first).id)
        { ui with activeDmFriend := some first })
      obtain rfl : first = index := Option.some.inj (selected.symm.trans active)
      exact (hasFriend_of_firstFriend found).of_same (safeSendPacket_friends _ _)
  · exact acts

/-- A packet of the friend list leaves a friend selected who is present. -/
theorem Ui.DmsAct.friendListed (acts : ui.DmsAct)
    (refresh : ListFrameType.start.marks packet = true → ui.currentScreen = .dms →
      ui.activeDmFriend = none) : (friendListed now packet ui).DmsAct := by
  unfold Tizcord.friendListed
  split
  · next starts =>
    intro shown index active
    exact nomatch (refresh starts shown).symm.trans active
  · split
    · rw [dmsAct_iff] at acts ⊢
      intro shown index active
      have present := acts shown index active
      refine present.of_friends ?_ ?_
      · exact SlotArray.count_le_file
      · exact congrArg UIFriend.type (SlotArray.slot_file_of_used present.below)
    · split
      · exact acts.friendListEnded
      · exact acts

/-- Where the direct messages are shown after a step, they were shown before, with the same friend,
or the step has a friend of its own. -/
theorem Ui.DmsAct.of_place (acts : ui.DmsAct) (screen : after.currentScreen = .dms →
      ui.currentScreen = .dms)
    (friend : ∀ index, after.activeDmFriend = some index →
      ui.activeDmFriend = some index ∨ ui.HasFriend index)
    (kept : ∀ index, ui.HasFriend index → after.HasFriend index) : after.DmsAct := by
  rw [dmsAct_iff] at acts ⊢
  intro shown index active
  refine kept index ?_
  rcases friend index active with same | present
  · exact acts (screen shown) index same
  · exact present

/-- The good end of a command does not show the direct messages. -/
theorem closeCommand_screen {place : Place} (previous : place.previous ≠ .dms)
    (shown : place.closeCommand.screen = .dms) : place.screen = .dms := by
  unfold Place.closeCommand at shown
  split at shown
  · exact absurd shown previous
  · exact shown

theorem Ui.DmsAct.of_packet (acts : ui.DmsAct) (previous : ui.previousScreen ≠ .dms)
    (processed : processNetworkPacket now packet ui = .ok after)
    (allowed : ui.AllowsDms [.packet packet]) : after.DmsAct := by
  by_cases listed : packet.request = some (.social .listFriends)
  · obtain rfl := Except.ok.inj ((processNetworkPacket_friendList listed).symm.trans processed)
    exact acts.friendListed (allowed.refresh packet List.mem_cons_self listed)
  by_cases signsOut : packet.request = some (.auth .logout)
  · obtain rfl := Except.ok.inj ((processNetworkPacket_logout signsOut).symm.trans processed)
    exact fun shown => nomatch shown
  have kept : ∀ index, ui.HasFriend index → after.HasFriend index := fun index present =>
    present.of_packet processed listed signsOut
  have screen : after.currentScreen = after.place.screen := rfl
  have friend : after.activeDmFriend = after.place.friend := rfl
  cases processNetworkPacket_moves processed with
  | stays place =>
    rw [place] at screen friend
    exact acts.of_place screen.symm.trans (fun index is => Or.inl (friend.symm.trans is)) kept
  | signsIn _ _ place | leaves _ place | deletes _ _ place =>
    rw [place] at screen
    exact fun shown => nomatch screen.symm.trans shown
  | signsOut asked => exact absurd asked signsOut
  | closes place | resets _ _ place =>
    rw [place] at screen friend
    refine acts.of_place (fun shown => closeCommand_screen previous (screen.symm.trans shown))
      (fun index is => Or.inl ?_) kept
    exact ((congrArg Place.friend ui.place.closeCommand_eq).symm.trans friend.symm).trans is
  | selects asked => exact absurd asked listed

theorem Ui.DmsAct.of_key {key : Key} (acts : ui.DmsAct) (previous : ui.previousScreen ≠ .dms)
    (handled : handleKey now key ui = .ok after) (allowed : ui.AllowsDms [.key key]) :
    after.DmsAct := by
  have kept : ∀ index, ui.HasFriend index → after.HasFriend index := fun index present =>
    present.of_key handled
  have screen : after.currentScreen = after.place.screen := rfl
  have friend : after.activeDmFriend = after.place.friend := rfl
  cases handleKey_moves handled with
  | stays place | changesChannel _ _ _ place | erases _ place | types _ place =>
    rw [place] at screen friend
    exact acts.of_place screen.symm.trans (fun index is => Or.inl (friend.symm.trans is)) kept
  | switchesForm _ form place =>
    rw [place] at screen
    intro shown
    rcases form with form | form <;> exact nomatch form.symm.trans (screen.symm.trans shown)
  | turns _ list place =>
    rw [place] at screen
    intro shown
    rcases list with list | list | list <;> exact nomatch list.symm.trans (screen.symm.trans shown)
  | leavesChat _ _ place | entersServer _ _ _ place | opensCommand _ place =>
    rw [place] at screen
    exact fun shown => nomatch screen.symm.trans shown
  | opensDms shown place =>
    rw [place] at friend
    rw [dmsAct_iff]
    intro _ index active
    exact kept index (allowed.opens List.mem_cons_self shown index (friend.symm.trans active))
  | cancels _ place | submits _ place =>
    rw [place] at screen
    exact fun shown => absurd (screen.symm.trans shown) previous
  | changesFriend shown below accepted place =>
    rw [place] at friend
    refine acts.of_place (fun _ => shown) (fun index is => Or.inr ?_) kept
    obtain rfl := Option.some.inj (friend.symm.trans is)
    exact ⟨below, accepted⟩

/-- An allowed step leaves a friend selected who is present. -/
theorem UiStep.dmsAct (step : UiStep ui events after) (previous : ui.previousScreen ≠ .dms)
    (acts : ui.DmsAct) (allowed : ui.AllowsDms events) : after.DmsAct := by
  cases step with
  | packet now packet processed => exact acts.of_packet previous processed allowed
  | key now key handled => exact acts.of_key previous handled allowed
  | draw =>
    have kept : ∀ index, ui.HasFriend index → (redraw ui).HasFriend index := fun index present =>
      present.of_same (redraw_same ui).friends
    rcases redraw_place ui with place | ⟨shown, -, place⟩
    · exact acts.of_place (congrArg Place.screen place).symm.trans
        (fun index is => Or.inl ((congrArg Place.friend place).symm.trans is)) kept
    · refine acts.of_place (fun _ => shown) (fun index is => Or.inr ?_) kept
      exact hasFriend_of_firstFriend ((congrArg Place.friend place).symm.trans is)
  | disconnect =>
    exact acts.of_place id (fun _ => Or.inl) fun _ present => present.of_same rfl

theorem handleKey_f4 (shown : ui.currentScreen = .servers) :
    handleKey now .f4 ui = .ok (Client.requestFriendList now { ui with currentScreen := .dms }) := by
  rw [handleKey, shown]
  rfl

/-- A step after which a friend is selected who is present was allowed. -/
theorem UiStep.allowsDms (step : UiStep ui events after) (acts : after.DmsAct) :
    ui.AllowsDms events where
  refresh packet taken asked starts shown := by
    cases step with
    | packet now other processed =>
      cases List.mem_singleton.mp taken
      obtain rfl := Except.ok.inj ((processNetworkPacket_friendList asked).symm.trans processed)
      rw [Tizcord.friendListed, if_pos starts, dmsAct_iff] at acts
      cases active : ui.activeDmFriend with
      | none => rfl
      | some index => exact absurd (acts shown index active).below (Nat.not_lt_zero _)
    | key => exact nomatch List.mem_singleton.mp taken
    | draw | disconnect => exact nomatch taken
  opens pressed shown index active := by
    cases step with
    | packet => exact nomatch List.mem_singleton.mp pressed
    | key now pressedKey handled =>
      cases List.mem_singleton.mp pressed
      obtain rfl := Except.ok.inj ((handleKey_f4 shown).symm.trans handled)
      rw [dmsAct_iff] at acts
      have place := safeSendPacket_place (Client.socialRequest now .listFriends)
        { ui with currentScreen := .dms }
      have friends := safeSendPacket_friends (Client.socialRequest now .listFriends)
        { ui with currentScreen := .dms }
      have present := acts (congrArg Place.screen place) index
        ((congrArg Place.friend place).trans active)
      exact present.of_same friends.symm
    | draw | disconnect => exact nomatch pressed

end Steps

/-! ### Runs -/

/-- In a run of the client the direct messages act on a friend who is present, in every state,
exactly when no friend list starts while a selected friend is shown, and the direct messages are
never opened with a selected friend who is not present. -/
theorem dms_act_iff {visits : List (Visit Ui UiEvent)} {last : Ui}
    (steps : Steps (Recorded UiStep) Ui.start visits last) :
    (∀ visit ∈ visits, visit.after.DmsAct) ↔
      ∀ visit ∈ visits, visit.before.AllowsDms visit.events := by
  have start : Ui.start.DmsAct := fun shown => nomatch shown
  refine steps.good_iff_allowed (fun ui => ui.previousScreen.IsBehind) ?_ ?_ (Or.inl rfl) start
  · intro first events last step behind acts
    exact ⟨step.allowsDms, step.dmsAct behind.ne_dms acts⟩
  · intro first events last step behind _ _
    exact step.behind behind

instance (ui : Ui) (index : Fin maxFriends) : Decidable (ui.HasFriend index) :=
  decidable_of_iff (index.val < ui.friends.count ∧ (ui.friends.slot index).type = acceptedType)
    ⟨fun has => ⟨has.1, has.2⟩, fun has => ⟨has.below, has.accepted⟩⟩

/-- What is asked of a single event. -/
def Ui.allowsEvent (ui : Ui) (event : UiEvent) : Bool :=
  match event with
  | .packet packet => packet.request ≠ some (.social .listFriends) ∨
      ListFrameType.start.marks packet = false ∨ ui.currentScreen ≠ .dms ∨
        ui.activeDmFriend = none
  | .key .f4 => ui.currentScreen ≠ .servers ∨
      ∀ index, ui.activeDmFriend = some index → ui.HasFriend index
  | .key _ => true

theorem Ui.allowsDms_of_events {ui : Ui} {events : List UiEvent}
    (allowed : ∀ event ∈ events, ui.allowsEvent event = true) : ui.AllowsDms events where
  refresh packet taken asked starts shown := by
    have is := allowed _ taken
    rw [Ui.allowsEvent, decide_eq_true_eq, starts] at is
    exact ((is.resolve_left (not_not_intro asked)).resolve_left nofun).resolve_left
      (not_not_intro shown)
  opens pressed shown := by
    have is := allowed _ pressed
    rw [Ui.allowsEvent, decide_eq_true_eq] at is
    exact is.resolve_left (not_not_intro shown)

theorem allowedSteps_of_replay {events : List UiEvent} {ui after : Ui}
    (replayed : replay Ui.allowsEvent events ui = some after) :
    AllowedSteps UiStep Ui.AllowsDms ui after :=
  .of_steps (fun step => ⟨step.1, Ui.allowsDms_of_events step.2⟩) (replay_steps replayed)

/-- A packet of a friend list, with an accepted friend. -/
def friendPacket (frame : ListFrameType) (id : Int) : TizcordPacket :=
  let packet := TizcordPacket.setType Image.zero .social
  let packet := packet.setSocialAction SocialAction.listFriends.code
  let packet := packet.setListFrame frame
  let packet := packet.setSocialTargetUserId id
  packet.setSocialStatusCode acceptedType

/-- The user signs in and opens the direct messages, a list of two friends comes in, which selects
the first, and TAB goes on to the second. -/
def dmEvents : List UiEvent :=
  [.packet (authAnswer .login .ok), .key .f4, .packet (friendPacket .start 0),
    .packet (friendPacket .middle 2), .packet (friendPacket .middle 3),
    .packet (friendPacket .end 0), .key .tab]

theorem dms_act_next : ∃ visits last, Steps (Recorded UiStep) Ui.start visits last ∧
    last.currentScreen = .dms ∧ last.activeDmFriend = some 1 ∧ last.friends.count = 2 ∧
    ∀ visit ∈ visits, visit.after.DmsAct := by
  have runs : (replay Ui.allowsEvent dmEvents Ui.start).any (fun ui =>
      ui.currentScreen = .dms ∧ ui.activeDmFriend = some 1 ∧ ui.friends.count = 2) = true := by
    decide +kernel
  obtain ⟨ui, replayed, is⟩ := (Option.any_eq_true _ _).mp runs
  obtain ⟨shown, second, two⟩ := of_decide_eq_true is
  obtain ⟨visits, steps, allowed⟩ := allowedSteps_of_replay replayed
  exact ⟨visits, ui, steps, shown, second, two, (dms_act_iff steps).mpr allowed⟩

/-- The user signs in and looks at the friends, then at the direct messages, and the list that this
asks for starts to come in. -/
def friendRounds : List UiRound :=
  [.of (authAnswer .login .ok), .press [.f2], .of (friendPacket .start 2),
    .of (friendPacket .middle 2), .of (friendPacket .end 2), .press [.f2, .f4],
    .of (friendPacket .start 2)]

/-- In this run TAB divides by zero. -/
theorem dms_act_on_nobody : ∃ visits last, Steps (Recorded UiStep) Ui.start visits last ∧
    ∃ visit ∈ visits, ¬ visit.after.DmsAct ∧
      handleKey 0 .tab visit.after = .error .divisionByZero := by
  obtain ⟨ui, ran, shown, active, empty⟩ : ∃ ui, runUi friendRounds Ui.start = .ok ui ∧
      ui.currentScreen = .dms ∧ ui.activeDmFriend = some 0 ∧ ui.friends.count = 0 :=
    reached_of_any (by decide +kernel)
  obtain ⟨events, steps⟩ := runUi_steps ran
  obtain ⟨visits, recorded⟩ := steps.record
  refine ⟨visits, ui, recorded, ?_⟩
  rcases recorded.last_visited with same | ⟨visit, visited, rfl⟩
  · rw [same] at shown
    cases shown
  · refine ⟨visit, visited, fun acts => ?_, ?_⟩
    · have below := (acts shown 0 active).present.below
      rw [empty] at below
      exact absurd below (Nat.not_lt_zero _)
    · rw [handleKey_dms shown]
      simp only [handleDmsInput, active]
      rw [cycleFriend, dif_neg (by rw [empty]; exact Nat.not_lt_zero _)]

end Tizcord
