/-
This file reads the authentication events off the record of the server, and says
what they make of the sessions: a connection is that of a user since the
registration or the login that made it so, until something ends it.
-/

import Tizcord.Library.Since
import Tizcord.Server.DbEffects

namespace Tizcord

open CModel

/-! ### Authentication events -/

/-- What may change who a connection is. A login is an event whether its password is right or
not. -/
inductive SessionEvent where
  | registered (fd userId : Int) (username password : Text)
  | login (fd : Int) (username password : Text)
  | logout (fd : Int)
  | closed (fd : Int)
  | started

/-- An account with this name and password is registered. -/
def Registered (past : List SessionEvent) (userId : Int) (username password : Text) : Prop :=
  ∃ fd, .registered fd userId username password ∈ past

/-- The event is a login on a connection with the password a user was registered with. -/
def LogsIn (fd userId : Int) (past : List SessionEvent) (event : SessionEvent) : Prop :=
  ∃ username password, event = .login fd username password ∧
    Registered past userId username password

/-- The event makes a connection that of a user. -/
def SignsIn (fd userId : Int) (past : List SessionEvent) (event : SessionEvent) : Prop :=
  (∃ username password, event = .registered fd userId username password) ∨
    LogsIn fd userId past event

/-- The event ends the session of a user on a connection. -/
def SignsOff (fd userId : Int) (past : List SessionEvent) (event : SessionEvent) : Prop :=
  (event = .logout fd ∨ event = .closed fd ∨ event = .started) ∨
    (∃ other, SignsIn fd other past event) ∨
    ∃ otherFd, otherFd ≠ fd ∧ LogsIn otherFd userId past event

/-- By these events, a connection is that of a user. -/
def HasSession (events : List SessionEvent) (fd userId : Int) : Prop :=
  Since (SignsIn fd userId) (SignsOff fd userId) events

section Events

variable {events past : List SessionEvent} {fd userId own created : Int}
  {username password : Text} {event : SessionEvent}

@[simp] theorem signsIn_registered :
    SignsIn fd userId past (.registered own created username password) ↔
      fd = own ∧ userId = created := by
  simp [SignsIn, LogsIn, eq_comm]

@[simp] theorem logsIn_login :
    LogsIn fd userId past (.login own username password) ↔
      fd = own ∧ Registered past userId username password := by
  constructor
  · rintro ⟨_, _, is, registered⟩
    cases is
    exact ⟨rfl, registered⟩
  · rintro ⟨rfl, registered⟩
    exact ⟨_, _, rfl, registered⟩

@[simp] theorem signsIn_login :
    SignsIn fd userId past (.login own username password) ↔
      fd = own ∧ Registered past userId username password := by
  simp [SignsIn]

/-- After a registration, its connection has the session of the user it created. -/
theorem hasSession_registered :
    HasSession (events ++ [.registered own created username password]) fd userId ↔
      fd = own ∧ userId = created ∨ fd ≠ own ∧ HasSession events fd userId := by
  have ends : SignsOff fd userId events (.registered own created username password) ↔ fd = own := by
    simp [SignsOff, LogsIn]
  rw [HasSession, since_append_singleton, signsIn_registered, ends, and_comm (b := ¬ _)]
  rfl

/-- After a login with the password of a user, its connection has the session of this user, and no
other connection has. -/
theorem hasSession_login
    (same : ∀ other, Registered events other username password ↔ other = created) :
    HasSession (events ++ [.login own username password]) fd userId ↔
      fd = own ∧ userId = created ∨ (fd ≠ own ∧ userId ≠ created) ∧ HasSession events fd userId := by
  have ends : SignsOff fd userId events (.login own username password) ↔
      fd = own ∨ userId = created := by
    simp only [SignsOff, signsIn_login, logsIn_login, same]
    constructor
    · rintro ((is | is | is) | ⟨_, is, -⟩ | ⟨_, -, -, is⟩)
      · cases is
      · cases is
      · cases is
      · exact Or.inl is
      · exact Or.inr is
    · rintro (is | is)
      · exact Or.inr (Or.inl ⟨created, is, rfl⟩)
      · by_cases here : own = fd
        · exact Or.inr (Or.inl ⟨created, here.symm, rfl⟩)
        · exact Or.inr (Or.inr ⟨own, here, rfl, is⟩)
  rw [HasSession, since_append_singleton, signsIn_login, same, ends, not_or,
    and_comm (b := ¬ _ ∧ ¬ _)]
  rfl

/-- A login with a wrong name or password changes nothing. -/
theorem hasSession_login_wrong (wrong : ∀ other, ¬ Registered events other username password) :
    HasSession (events ++ [.login own username password]) fd userId ↔
      HasSession events fd userId := by
  refine since_append_of_neither (fun starts => wrong _ (signsIn_login.mp starts).2) ?_
  rintro ((is | is | is) | ⟨_, starts⟩ | ⟨_, -, logsIn⟩)
  · cases is
  · cases is
  · cases is
  · exact wrong _ (signsIn_login.mp starts).2
  · exact wrong _ (logsIn_login.mp logsIn).2

/-- An event that signs nobody in only ends sessions. -/
theorem hasSession_of_ends (registered : ∀ own created username password,
      event ≠ .registered own created username password)
    (login : ∀ own username password, event ≠ .login own username password) :
    HasSession (events ++ [event]) fd userId ↔
      ¬ (event = .logout fd ∨ event = .closed fd ∨ event = .started) ∧
        HasSession events fd userId := by
  have logsIn : ∀ own user, ¬ LogsIn own user events event := by
    rintro own user ⟨_, _, is, -⟩
    exact login _ _ _ is
  have starts : ∀ user, ¬ SignsIn fd user events event := by
    rintro user (⟨_, _, is⟩ | is)
    · exact registered _ _ _ _ is
    · exact logsIn _ _ is
  have ends : SignsOff fd userId events event ↔
      event = .logout fd ∨ event = .closed fd ∨ event = .started := by
    rw [SignsOff, or_iff_left]
    rintro (⟨other, is⟩ | ⟨other, -, is⟩)
    · exact starts other is
    · exact logsIn other userId is
  rw [HasSession, since_append_singleton, ends, or_iff_right (starts userId), and_comm]
  rfl

theorem hasSession_logout : HasSession (events ++ [.logout own]) fd userId ↔
    fd ≠ own ∧ HasSession events fd userId := by
  rw [hasSession_of_ends (fun _ _ _ _ => SessionEvent.noConfusion)
    fun _ _ _ => SessionEvent.noConfusion]
  simp [eq_comm]

theorem hasSession_closed : HasSession (events ++ [.closed own]) fd userId ↔
    fd ≠ own ∧ HasSession events fd userId := by
  rw [hasSession_of_ends (fun _ _ _ _ => SessionEvent.noConfusion)
    fun _ _ _ => SessionEvent.noConfusion]
  simp [eq_comm]

theorem not_hasSession_started : ¬ HasSession (events ++ [.started]) fd userId := by
  rw [hasSession_of_ends (fun _ _ _ _ => SessionEvent.noConfusion)
    fun _ _ _ => SessionEvent.noConfusion]
  simp

end Events

/-! ### The log on record -/

/-- The packet that is handled, with its connection, and the authentication events so far. -/
structure SessionLog where
  handled : Option (Int × TizcordPacket)
  events : List SessionEvent

/-- The events of a packet that is handled. -/
def requestEvents (fd : Int) (packet : TizcordPacket) : Option Request → List SessionEvent
  | some (.auth .login) => [.login fd (packet.authUsername []) (packet.authPassword [])]
  | some (.auth .logout) => [.logout fd]
  | _ => []

/-- The events of a call that creates an account, for the packet that is handled. -/
def accountEvents (handled : Option (Int × TizcordPacket)) (account : Option Account) :
    List SessionEvent :=
  handled.toList.flatMap fun sender => account.toList.map fun account =>
    .registered sender.1 account.userId (sender.2.authUsername []) (sender.2.authPassword [])

/-- The log after one more effect. -/
def SessionLog.next (log : SessionLog) : Effect → SessionLog
  | .handling fd packet _ =>
    ⟨some (fd, packet), log.events ++ requestEvents fd packet packet.request⟩
  | .called call => ⟨log.handled, log.events ++ accountEvents log.handled call.account⟩
  | .closed fd => ⟨log.handled, log.events ++ [.closed fd]⟩
  | .started => ⟨log.handled, log.events ++ [.started]⟩
  | .accepted _ _ | .rejected _ | .received _ _ | .sent _ _ _ _ | .hashed _ _ => log

def sessionLog (trace : List Effect) : SessionLog :=
  trace.foldl SessionLog.next ⟨none, []⟩

/-- The effect says nothing about sessions. -/
def Effect.Silent (effect : Effect) : Prop :=
  ∀ log : SessionLog, log.next effect = log

section Logs

variable {trace effects : List Effect} {effect : Effect} {call : DbCall}

theorem sessionLog_append_singleton (trace : List Effect) (effect : Effect) :
    sessionLog (trace ++ [effect]) = (sessionLog trace).next effect := by
  rw [sessionLog, List.foldl_append]
  rfl

theorem sessionLog_append_silent (silent : ∀ effect ∈ effects, effect.Silent) :
    sessionLog (trace ++ effects) = sessionLog trace := by
  induction effects using List.reverseRecOn with
  | nil => rw [List.append_nil]
  | append_singleton effects effect inductionHypothesis =>
    rw [← List.append_assoc, sessionLog_append_singleton,
      silent effect (List.mem_append_right _ List.mem_cons_self)]
    exact inductionHypothesis fun other member => silent other (List.mem_append_left _ member)

theorem accountEvents_none (handled : Option (Int × TizcordPacket)) :
    accountEvents handled none = [] := by
  cases handled <;> rfl

theorem silent_called (none' : call.account = none) : (Effect.called call).Silent := by
  intro log
  rw [SessionLog.next, none', accountEvents_none, List.append_nil]

theorem account_of_permitted {ctx : ServerContext} {fd : Int} {beyond : List UInt8}
    {packet : TizcordPacket} (permitted : call.Permitted ctx fd beyond packet)
    (other : packet.request ≠ some (.auth .register)) : call.account = none := by
  cases call with
  | createUser => exact absurd permitted.1 other
  | _ => rfl

end Logs

end Tizcord
