/-
This file is about the ids of channels and servers. A new row gets one more than
the largest id in its table, so an id comes back when the row that had it was the
last one and is deleted, be it by itself or with the server it belongs to.
-/

import Tizcord.Library.Ledger
import Tizcord.Server.Histories

namespace Tizcord

open CModel

/-! ### Rows that are made -/

/-- The channel that a call makes. -/
def DbCall.madeChannels : DbCall → List ChannelRow
  | .createChannel serverId name (some id) => [⟨id, serverId, name⟩]
  | _ => []

/-- The server that a call makes. Its creator may fail to join it. -/
def DbCall.madeServers : DbCall → List ServerRow
  | .createServer name _ (some id) _ => [⟨id, name⟩]
  | _ => []

section Calls

variable {env : DbEnv} {call : DbCall} {before after : Database}

/-- What a call does to the channels. -/
theorem DbCall.Runs.channelStep (runs : call.Runs env before after) (rule : env.rowid = none)
    (made : List ChannelRow) :
    LedgerStep (fun row : ChannelRow => (row.id : Int)) ⟨before.channels, made⟩ call.madeChannels
      ⟨after.channels, made ++ call.madeChannels⟩ := by
  have kept : after.channels.Sublist before.channels → call.madeChannels = [] →
      LedgerStep (fun row : ChannelRow => (row.id : Int)) ⟨before.channels, made⟩
        call.madeChannels ⟨after.channels, made ++ call.madeChannels⟩ := by
    intro sublist none
    rw [none]
    exact .keeps sublist (List.append_nil _)
  have same : after.channels = before.channels → call.madeChannels = [] →
      LedgerStep (fun row : ChannelRow => (row.id : Int)) ⟨before.channels, made⟩
        call.madeChannels ⟨after.channels, made ++ call.madeChannels⟩ :=
    fun equal => kept (equal ▸ List.Sublist.refl _)
  cases call with
  | createChannel serverId name created =>
    cases created with
    | none =>
      obtain rfl := runInsert_none runs
      exact same rfl rfl
    | some id =>
      have tables := Database.commit_eq_some.mp (runInsert_some runs).1
      exact .makes (runInsert_next rule runs) (by rw [tables]) rfl
  | deleteChannel channelId status =>
    rcases dbDeleteChannel_spec runs with ⟨-, rfl⟩ | ⟨-, rfl⟩
    · exact kept List.filter_sublist rfl
    · exact same rfl rfl
  | deleteServer serverId userId status =>
    rcases dbDeleteServer_spec runs with ⟨-, rfl⟩ | ⟨-, rfl⟩
    · exact kept List.filter_sublist rfl
    · exact same rfl rfl
  | _ => exact same (congrArg Tables.channels runs.frame :) rfl

theorem dbCreateServer_next {name : Text} {userId status : Int} {id : RowId}
    (rule : env.rowid = none)
    (ran : dbCreateServer env before name userId = (after, some id, status)) :
    (id : Int) = maxRowid before.serverIds + 1 := by
  have assigned := dbCreateServer_assigned ran
  rw [rule] at assigned
  exact newRowid_next assigned

/-- What a call does to the servers. -/
theorem DbCall.Runs.serverStep (runs : call.Runs env before after) (rule : env.rowid = none)
    (made : List ServerRow) :
    LedgerStep (fun row : ServerRow => (row.id : Int)) ⟨before.servers, made⟩ call.madeServers
      ⟨after.servers, made ++ call.madeServers⟩ := by
  have kept : after.servers.Sublist before.servers → call.madeServers = [] →
      LedgerStep (fun row : ServerRow => (row.id : Int)) ⟨before.servers, made⟩
        call.madeServers ⟨after.servers, made ++ call.madeServers⟩ := by
    intro sublist none
    rw [none]
    exact .keeps sublist (List.append_nil _)
  have same : after.servers = before.servers → call.madeServers = [] →
      LedgerStep (fun row : ServerRow => (row.id : Int)) ⟨before.servers, made⟩
        call.madeServers ⟨after.servers, made ++ call.madeServers⟩ :=
    fun equal => kept (equal ▸ List.Sublist.refl _)
  cases call with
  | createServer name userId created status =>
    rcases dbCreateServer_spec runs with ⟨rfl, rfl⟩ | ⟨id, rfl, -, middle, tables, joined⟩
    · exact same rfl rfl
    · refine .makes (dbCreateServer_next rule runs) ?_ rfl
      rcases dbJoinServer_spec joined with ⟨-, inserted⟩ | ⟨-, rfl⟩
      · dsimp only
        rw [Database.commit_eq_some.mp inserted, tables]
      · dsimp only
        rw [tables]
  | deleteServer serverId userId status =>
    rcases dbDeleteServer_spec runs with ⟨-, rfl⟩ | ⟨-, rfl⟩
    · exact kept List.filter_sublist rfl
    · exact same rfl rfl
  | _ => exact same (congrArg Tables.servers runs.frame :) rfl

end Calls

/-! ### Books -/

def channelKey (row : ChannelRow) : Int := row.id

def serverKey (row : ServerRow) : Int := row.id

/-- The database, and all channels and servers that were ever made in it. -/
structure Books where
  database : Database
  channels : List ChannelRow
  servers : List ServerRow

namespace Books

variable (books : Books)

def empty : Books := ⟨Database.empty, [], []⟩

def channelLedger : Ledger ChannelRow := ⟨books.database.channels, books.channels⟩

def serverLedger : Ledger ServerRow := ⟨books.database.servers, books.servers⟩

/-- No id means two things: no two channels and no two servers were given the same one, and where
there is a channel or a server with an id that was given, it is the one it was given to. -/
structure Faithful : Prop where
  channels : books.channelLedger.Faithful channelKey
  servers : books.serverLedger.Faithful serverKey

/-- Where a call makes a channel, the channel with the largest id ever given is still there, and
likewise for servers. -/
structure Allows (calls : List TimedCall) : Prop where
  channels : ∀ timed ∈ calls, timed.call.madeChannels ≠ [] →
    books.channelLedger.KeepsNewest channelKey
  servers : ∀ timed ∈ calls, timed.call.madeServers ≠ [] →
    books.serverLedger.KeepsNewest serverKey

/-- What holds after any calls. -/
structure Dense : Prop where
  channels : books.channelLedger.Dense channelKey
  servers : books.serverLedger.Dense serverKey

end Books

/-- One call, where a new row gets one more than the largest id in its table. -/
structure BooksStep (before : Books) (calls : List TimedCall) (after : Books) : Prop where
  made : ∃ timed : TimedCall, calls = [timed] ∧ timed.env.rowid = none ∧
    timed.call.Runs timed.env before.database after.database ∧
    after.channels = before.channels ++ timed.call.madeChannels ∧
    after.servers = before.servers ++ timed.call.madeServers

section Steps

variable {before after : Books} {calls : List TimedCall}

theorem BooksStep.ledgers (step : BooksStep before calls after) :
    ∃ timed : TimedCall, calls = [timed] ∧
      LedgerStep channelKey before.channelLedger timed.call.madeChannels after.channelLedger ∧
      LedgerStep serverKey before.serverLedger timed.call.madeServers after.serverLedger := by
  obtain ⟨timed, is, rule, runs, channels, servers⟩ := step.made
  refine ⟨timed, is, ?_, ?_⟩
  · rw [Books.channelLedger, Books.channelLedger, channels]
    exact runs.channelStep rule before.channels
  · rw [Books.serverLedger, Books.serverLedger, servers]
    exact runs.serverStep rule before.servers

theorem BooksStep.dense (step : BooksStep before calls after) (dense : before.Dense) :
    after.Dense := by
  obtain ⟨timed, -, channels, servers⟩ := step.ledgers
  exact ⟨channels.dense dense.channels, servers.dense dense.servers⟩

theorem BooksStep.faithful_iff (step : BooksStep before calls after) (dense : before.Dense)
    (faithful : before.Faithful) : after.Faithful ↔ before.Allows calls := by
  obtain ⟨timed, rfl, channels, servers⟩ := step.ledgers
  have channelsIff := channels.faithful_iff dense.channels faithful.channels
  have serversIff := servers.faithful_iff dense.servers faithful.servers
  constructor
  · intro kept
    refine ⟨fun other member => ?_, fun other member => ?_⟩ <;>
      rw [List.mem_singleton.mp member]
    · exact channelsIff.mp kept.channels
    · exact serversIff.mp kept.servers
  · intro allows
    exact ⟨channelsIff.mpr (allows.channels timed List.mem_cons_self),
      serversIff.mpr (allows.servers timed List.mem_cons_self)⟩

end Steps

/-- In a run from the empty database, whatever calls of all users follow one another, every id
means one channel and one server all the time exactly when, whenever one is made, the one with the
largest id that was ever given is still there. -/
theorem ids_mean_one_iff {visits : List (Visit Books TimedCall)} {last : Books}
    (run : Steps (Recorded BooksStep) Books.empty visits last) :
    (∀ visit ∈ visits, visit.after.Faithful) ↔
      ∀ visit ∈ visits, visit.before.Allows visit.events :=
  Steps.good_iff_allowed Books.Dense (fun step dense faithful => step.faithful_iff dense faithful)
    (fun step dense _ _ => step.dense dense) run
    ⟨Ledger.dense_empty channelKey, Ledger.dense_empty serverKey⟩
    ⟨Ledger.faithful_empty channelKey, Ledger.faithful_empty serverKey⟩

/-! ### A channel that is made again -/

/-- An outside in which nothing fails and a new row gets the next id. -/
def nextRowid : DbEnv := ⟨fun _ _ => false, none, 0, fun _ => 0, fun _ => .refl _⟩

/-- What remains of the books after a call that makes the next rows. -/
theorem BooksStep.take {before after : Database} {channels : List ChannelRow}
    {servers : List ServerRow} {call : DbCall} (runs : call.Runs nextRowid before after) :
    BooksStep ⟨before, channels, servers⟩ [⟨nextRowid, call⟩]
      ⟨after, channels ++ call.madeChannels, servers ++ call.madeServers⟩ :=
  ⟨⟨nextRowid, call⟩, rfl, rfl, runs, rfl, rfl⟩

/-- A user, a server of theirs, and a channel in it. -/
def withUser : Database := (dbCreateUser nextRowid Database.empty firstWord secondWord).1
def withServer : Database := (dbCreateServer nextRowid withUser firstWord 1).1
def withChannel : Database := (dbCreateChannel nextRowid withServer 1 firstWord).1

/-- The channel goes, and another one comes. -/
def withoutChannel : Database := (dbDeleteChannel nextRowid withChannel 1).1
def withOther : Database := (dbCreateChannel nextRowid withoutChannel 1 secondWord).1

theorem withUser_runs : DbCall.Runs nextRowid Database.empty withUser
    (.createUser firstWord secondWord (some RowId.first)) :=
  Prod.ext rfl (by decide +kernel)

theorem withServer_runs : DbCall.Runs nextRowid withUser withServer
    (.createServer firstWord 1 (some RowId.first) 0) :=
  Prod.ext rfl (by decide +kernel)

theorem withChannel_runs : DbCall.Runs nextRowid withServer withChannel
    (.createChannel 1 firstWord (some RowId.first)) :=
  Prod.ext rfl (by decide +kernel)

theorem withoutChannel_runs : DbCall.Runs nextRowid withChannel withoutChannel
    (.deleteChannel 1 0) :=
  Prod.ext rfl (by decide +kernel)

theorem withOther_runs : DbCall.Runs nextRowid withoutChannel withOther
    (.createChannel 1 secondWord (some RowId.first)) :=
  Prod.ext rfl (by decide +kernel)

/-- Where the row with the largest id is still there, whatever is called next is allowed. -/
theorem Books.Allows.of_newest {books : Books} {calls : List TimedCall}
    (channels : books.channelLedger.KeepsNewest channelKey)
    (servers : books.serverLedger.KeepsNewest serverKey) : books.Allows calls :=
  ⟨fun _ _ _ => channels, fun _ _ _ => servers⟩

theorem withServer_allowed : AllowedSteps BooksStep Books.Allows Books.empty
    ⟨withServer, [], [⟨RowId.first, firstWord⟩]⟩ :=
  ((AllowedSteps.none _).more (.take withUser_runs) (.of_newest (Or.inl rfl) (Or.inl rfl))).more
    (.take withServer_runs) (.of_newest (Or.inl rfl) (Or.inl rfl))

theorem withChannel_allowed : AllowedSteps BooksStep Books.Allows Books.empty
    ⟨withChannel, [⟨RowId.first, 1, firstWord⟩], [⟨RowId.first, firstWord⟩]⟩ :=
  withServer_allowed.more (.take withChannel_runs)
    (.of_newest (Or.inl rfl) (Or.inr (by decide +kernel)))

/-- A second channel comes, the first one goes, and a third one comes. -/
def withTwo : Database := (dbCreateChannel nextRowid withChannel 1 secondWord).1
def withSecond : Database := (dbDeleteChannel nextRowid withTwo 1).1
def withThird : Database := (dbCreateChannel nextRowid withSecond 1 firstWord).1

def secondId : RowId := ⟨2, by decide⟩
def thirdId : RowId := ⟨3, by decide⟩

/-- The older of two channels is deleted, and the next one gets an id of its own. -/
theorem ids_mean_one_iff_older : ∃ visits last, Steps (Recorded BooksStep) Books.empty visits last ∧
    last.channels =
      [⟨RowId.first, 1, firstWord⟩, ⟨secondId, 1, secondWord⟩, ⟨thirdId, 1, firstWord⟩] ∧
    last.database.channels = [⟨secondId, 1, secondWord⟩, ⟨thirdId, 1, firstWord⟩] ∧
    ∀ visit ∈ visits, visit.after.Faithful := by
  have createsSecond : DbCall.Runs nextRowid withChannel withTwo
      (.createChannel 1 secondWord (some secondId)) := Prod.ext rfl (by decide +kernel)
  have deletesFirst : DbCall.Runs nextRowid withTwo withSecond (.deleteChannel 1 0) :=
    Prod.ext rfl (by decide +kernel)
  have createsThird : DbCall.Runs nextRowid withSecond withThird
      (.createChannel 1 firstWord (some thirdId)) := Prod.ext rfl (by decide +kernel)
  have two := withChannel_allowed.more (.take createsSecond)
    (.of_newest (Or.inr (by decide +kernel)) (Or.inr (by decide +kernel)))
  have second := two.more (.take deletesFirst)
    (.of_newest (Or.inr (by decide +kernel)) (Or.inr (by decide +kernel)))
  obtain ⟨visits, steps, allows⟩ := second.more (.take createsThird)
    (.of_newest (Or.inr (by decide +kernel)) (Or.inr (by decide +kernel)))
  exact ⟨visits, _, steps, rfl, by decide +kernel, (ids_mean_one_iff steps).mpr allows⟩

/-- The channel that is made after the deletion gets the id of the deleted one, and a message with
this id goes into it. -/
theorem channel_id_means_two : ∃ visits last, Steps (Recorded BooksStep) Books.empty visits last ∧
    last.channels = [⟨RowId.first, 1, firstWord⟩, ⟨RowId.first, 1, secondWord⟩] ∧
    last.database.channels = [⟨RowId.first, 1, secondWord⟩] ∧
    (dbSaveMessage nextRowid last.database RowId.first 1 firstWord).2 = 0 := by
  obtain ⟨visits, channel, -⟩ := withChannel_allowed
  have deleted := channel.more (.take (.take withoutChannel_runs))
  have other := deleted.more (.take (.take withOther_runs))
  exact ⟨_, _, other, rfl, by decide +kernel, by decide +kernel⟩

end Tizcord
