/-
This file proves that incremental framing is one-shot framing. The bytes a
connection holds at any moment are the filled part of its buffer followed by the
unread stream. A call of the partial receiver either leaves these bytes as they
are, or takes exactly one wire image from their front; so the packets of any
sequence of calls are those of the consecutive blocks of the stream, wherever
the stream was cut and whenever a call had to be repeated.
-/

import Tizcord.Shared.Wire

namespace Tizcord

open CModel

/-! ### The frames of a stream -/

theorem packetSize_pos : 0 < packetSize := by decide

/-- How the packets of a stream end: at a block boundary, inside a block, or with a refused block. -/
inductive StreamEnd where
  | boundary | inside | refused
  deriving DecidableEq, Repr

/-- The packets of the first `blocks` whole blocks of a stream, up to the first refused one, and
the way the stream ends. -/
def frameBlocks : Nat → List UInt8 → List TizcordPacket × StreamEnd
  | 0, rest => ([], if rest = [] then .boundary else .inside)
  | blocks + 1, stream =>
    match decodePacket (Image.ofBytes (stream.take packetSize)) with
    | none => ([], .refused)
    | some packet =>
      let later := frameBlocks blocks (stream.drop packetSize)
      (packet :: later.1, later.2)

/-- The packets of a stream, decoded block by block up to the first refused block, and the way
the stream ends. -/
def frameStream (stream : List UInt8) : List TizcordPacket × StreamEnd :=
  frameBlocks (stream.length / packetSize) stream

theorem frameStream_short {stream : List UInt8} (short : stream.length < packetSize) :
    frameStream stream = ([], if stream = [] then .boundary else .inside) := by
  rw [frameStream, Nat.div_eq_of_lt short]
  rfl

theorem frameStream_image (wire : TizcordPacket) (rest : List UInt8) :
    frameStream (wire.toBytes ++ rest) =
      match decodePacket wire with
      | none => ([], .refused)
      | some packet => (packet :: (frameStream rest).1, (frameStream rest).2) := by
  have length : wire.toBytes.length = packetSize := wire.length_toBytes
  have blocks : (wire.toBytes ++ rest).length / packetSize = rest.length / packetSize + 1 := by
    rw [List.length_append, length, Nat.add_div_left _ packetSize_pos]
  rw [frameStream, frameStream, blocks, frameBlocks, List.take_left' length,
    List.drop_left' length, Image.ofBytes_toBytes]

/-! ### One call -/

/-- The bytes a connection holds: those in its buffer, then those not read yet. -/
def heldBytes (socket : Socket) (buffer : ReceiveBuffer) : List UInt8 :=
  buffer.bytes.slice 0 buffer.offset ++ socket.stream

/-- What one call of the partial receiver does with the bytes held before it. -/
inductive PartialStep (held : List UInt8) : PartialResult → Socket → ReceiveBuffer → Prop where
  | again {socket : Socket} {buffer : ReceiveBuffer} (partly : buffer.offset < packetSize)
      (same : heldBytes socket buffer = held) : PartialStep held .again socket buffer
  | received {packet : TizcordPacket} {socket : Socket} {buffer : ReceiveBuffer}
      (wire : TizcordPacket) (taken : held = wire.toBytes ++ socket.stream)
      (accepted : decodePacket wire = some packet) (empty : buffer.offset = 0) :
      PartialStep held (.received packet) socket buffer
  | refused {socket : Socket} {buffer : ReceiveBuffer} (wire : TizcordPacket)
      (rest : List UInt8) (taken : held = wire.toBytes ++ rest)
      (rejected : decodePacket wire = none) : PartialStep held (.failed .protocol) socket buffer
  | boundary {socket : Socket} {buffer : ReceiveBuffer} (nothing : held = []) :
      PartialStep held (.failed .clear) socket buffer
  | inside {socket : Socket} {buffer : ReceiveBuffer} (something : held ≠ [])
      (short : held.length < packetSize) :
      PartialStep held (.failed .connectionReset) socket buffer

theorem partialComplete_step (socket : Socket) (buffer : ReceiveBuffer)
    (full : buffer.offset = packetSize) :
    PartialStep (heldBytes socket buffer) (partialComplete socket buffer).1
      (partialComplete socket buffer).2.1 (partialComplete socket buffer).2.2 := by
  have held : heldBytes socket buffer = buffer.bytes.toBytes ++ socket.stream := by
    rw [heldBytes, full]
    rfl
  unfold partialComplete
  cases decision : decodePacket buffer.bytes with
  | none => exact .refused buffer.bytes socket.stream held decision
  | some packet => exact .received buffer.bytes held decision rfl

/-- Each call of the partial receiver, on an orderly connection, is a `PartialStep`. -/
theorem packetReceivePartialLoop_step (script : List RecvResult) (stream : List UInt8)
    (buffer : ReceiveBuffer) (orderly : ∀ result ∈ script, result.Orderly)
    (bound : buffer.offset ≤ packetSize) :
    PartialStep (buffer.bytes.slice 0 buffer.offset ++ stream)
      (packetReceivePartialLoop script stream buffer).1
      (packetReceivePartialLoop script stream buffer).2.1
      (packetReceivePartialLoop script stream buffer).2.2 := by
  induction script generalizing stream buffer with
  | nil =>
    unfold packetReceivePartialLoop
    by_cases more : buffer.offset < packetSize
    · rw [if_pos more]
      exact .again more rfl
    · rw [if_neg more]
      exact partialComplete_step ⟨stream, []⟩ buffer (by omega)
  | cons result script inductionHypothesis =>
    have restOrderly : ∀ result ∈ script, result.Orderly :=
      fun other member => orderly other (List.mem_cons_of_mem _ member)
    unfold packetReceivePartialLoop
    by_cases more : buffer.offset < packetSize
    · rw [if_pos more]
      have head := orderly result List.mem_cons_self
      cases result with
      | interrupted => exact inductionHypothesis _ _ restOrderly bound
      | again => exact .again more rfl
      | failed errno => exact absurd head (by simp [RecvResult.Orderly])
      | count extra =>
        by_cases ended : stream = []
        · simp only [recv, ended, if_true, List.append_nil]
          by_cases nothing : buffer.offset = 0
          · rw [if_pos nothing]
            exact .boundary (by simp [nothing, Image.slice])
          · rw [if_neg nothing]
            refine .inside (fun empty => nothing ?_) (by simpa using more)
            simpa using congrArg List.length empty
        · rw [recv_count _ _ ended]
          have fits : buffer.offset +
              (stream.take (min (extra + 1) (packetSize - buffer.offset))).length ≤
                packetSize := by
            rw [List.length_take]
            omega
          rw [← slice_store_take_append buffer.bytes buffer.offset _ stream fits]
          exact inductionHypothesis (stream.drop _) ⟨buffer.bytes.store buffer.offset _, _⟩
            restOrderly fits
    · rw [if_neg more]
      exact partialComplete_step ⟨stream, result :: script⟩ buffer (by omega)

/-- Whoever holds the bytes of a packet, receives this packet. -/
theorem PartialStep.packet_eq {held rest : List UInt8} {received packet : TizcordPacket}
    {type : PacketType} {socket : Socket} {buffer : ReceiveBuffer}
    (step : PartialStep held (.received received) socket buffer)
    (valid : PacketType.ofCode packet.type = some type)
    (sent : held = (swapPacket packet packet.type).toBytes ++ rest) : received = packet := by
  cases step with
  | received wire taken accepted empty =>
    have lengths : wire.toBytes.length = (swapPacket packet packet.type).toBytes.length := by
      rw [Image.length_toBytes, Image.length_toBytes]
    have images := List.append_inj_left (taken.symm.trans sent) lengths
    rw [Image.toBytes_injective images, decodePacket_swapPacket packet valid] at accepted
    exact (Option.some.inj accepted).symm

/-- A call uses up entries of the script from its front. -/
theorem packetReceivePartialLoop_script (script : List RecvResult) (stream : List UInt8)
    (buffer : ReceiveBuffer) :
    (packetReceivePartialLoop script stream buffer).2.1.script <:+ script := by
  induction script generalizing stream buffer with
  | nil =>
    unfold packetReceivePartialLoop partialComplete
    split
    · exact List.suffix_refl _
    · split <;> exact List.suffix_refl _
  | cons result script inductionHypothesis =>
    unfold packetReceivePartialLoop
    split
    · split
      · exact (inductionHypothesis _ _).trans (List.suffix_cons _ _)
      · exact List.suffix_cons _ _
      · exact List.suffix_cons _ _
      · exact List.suffix_cons _ _
      · exact (inductionHypothesis _ _).trans (List.suffix_cons _ _)
    · unfold partialComplete
      split <;> exact List.suffix_refl _

/-! ### Repeated calls -/

namespace PartialResult

def errno? : PartialResult → Option Errno
  | .failed errno => some errno
  | _ => none

end PartialResult

/-- The results of up to `calls` successive calls on one connection, the last of them being the
first that returns -1, with the socket and the buffer they leave. -/
def receivePartialCalls :
    Nat → Socket → ReceiveBuffer → List PartialResult × Socket × ReceiveBuffer
  | 0, socket, buffer => ([], socket, buffer)
  | calls + 1, socket, buffer =>
    match packetReceivePartial socket buffer with
    | (.failed errno, socket, buffer) => ([.failed errno], socket, buffer)
    | (result, socket, buffer) =>
      let later := receivePartialCalls calls socket buffer
      (result :: later.1, later.2)

/-- The packets returned by a sequence of calls, in order. -/
def receivedPackets (results : List PartialResult) : List TizcordPacket :=
  results.filterMap PartialResult.packet?

/-- The `errno` of the call that ended a sequence of calls, if one did. -/
def failureOf (results : List PartialResult) : Option Errno :=
  results.findSome? PartialResult.errno?

/-- The `errno` with which the partial receiver reports the end of a stream. -/
def StreamEnd.errno : StreamEnd → Errno
  | .boundary => .clear
  | .inside => .connectionReset
  | .refused => .protocol

/-- A sequence of calls has returned a part of the frames of the bytes held before it, and either
the frames of the bytes held now are the others, or the last call reported how the stream ends. -/
theorem receivePartialCalls_frames (calls : Nat) (socket : Socket) (buffer : ReceiveBuffer)
    (orderly : ∀ result ∈ socket.script, result.Orderly) (partly : buffer.offset < packetSize)
    {results : List PartialResult} {socket' : Socket} {buffer' : ReceiveBuffer}
    (called : receivePartialCalls calls socket buffer = (results, socket', buffer')) :
    match failureOf results with
    | none =>
      buffer'.offset < packetSize ∧
      (∃ taken, taken.length = packetSize * (receivedPackets results).length ∧
        heldBytes socket buffer = taken ++ heldBytes socket' buffer') ∧
      frameStream (heldBytes socket buffer) =
        (receivedPackets results ++ (frameStream (heldBytes socket' buffer')).1,
          (frameStream (heldBytes socket' buffer')).2)
    | some errno =>
      (frameStream (heldBytes socket buffer)).1 = receivedPackets results ∧
      (frameStream (heldBytes socket buffer)).2.errno = errno := by
  induction calls generalizing socket buffer results with
  | zero =>
    simp only [receivePartialCalls, Prod.mk.injEq] at called
    obtain ⟨rfl, rfl, rfl⟩ := called
    exact ⟨partly, ⟨[], rfl, rfl⟩, rfl⟩
  | succ calls inductionHypothesis =>
    have step := packetReceivePartialLoop_step socket.script socket.stream buffer orderly
      (Nat.le_of_lt partly)
    have scripts := packetReceivePartialLoop_script socket.script socket.stream buffer
    have later_of_called : ∀ {result : PartialResult} {middle : Socket}
        {middleBuffer : ReceiveBuffer},
        (result :: (receivePartialCalls calls middle middleBuffer).1,
          (receivePartialCalls calls middle middleBuffer).2) = (results, socket', buffer') →
        ∃ rest, receivePartialCalls calls middle middleBuffer = (rest, socket', buffer') ∧
          results = result :: rest := by
      intro result middle middleBuffer called
      obtain ⟨first, second⟩ := Prod.mk.inj called
      exact ⟨_, Prod.ext rfl second, first.symm⟩
    change PartialStep (heldBytes socket buffer) _ _ _ at step
    rw [receivePartialCalls, packetReceivePartial] at called
    rcases outcome : packetReceivePartialLoop socket.script socket.stream buffer with
      ⟨result, middle, middleBuffer⟩
    rw [outcome] at step scripts called
    dsimp only at step scripts called
    have restOrderly : ∀ result ∈ middle.script, result.Orderly :=
      fun other member => orderly other (scripts.subset member)
    cases step with
    | again partly' same =>
      obtain ⟨rest, later, rfl⟩ := later_of_called called
      have others := inductionHypothesis middle middleBuffer restOrderly partly' later
      rw [same] at others
      exact others
    | @received packet _ _ wire taken accepted empty =>
      obtain ⟨rest, later, rfl⟩ := later_of_called called
      have partly' : middleBuffer.offset < packetSize := by
        rw [empty]
        decide
      have held : heldBytes middle middleBuffer = middle.stream := by
        simp [heldBytes, empty, Image.slice]
      have frames : frameStream (heldBytes socket buffer) =
          (packet :: (frameStream (heldBytes middle middleBuffer)).1,
            (frameStream (heldBytes middle middleBuffer)).2) := by
        rw [taken, frameStream_image, accepted, held]
      have others := inductionHypothesis middle middleBuffer restOrderly partly' later
      rw [show failureOf (.received packet :: rest) = failureOf rest from rfl]
      rw [show receivedPackets (.received packet :: rest) = packet :: receivedPackets rest from rfl]
      cases failed : failureOf rest with
      | none =>
        rw [failed] at others
        obtain ⟨bound, ⟨consumed, length, split⟩, tail⟩ := others
        refine ⟨bound, ⟨wire.toBytes ++ consumed, ?_, ?_⟩, ?_⟩
        · rw [List.length_append, Image.length_toBytes, length, List.length_cons]
          ring
        · rw [taken, ← held, split, List.append_assoc]
        · rw [frames, tail, List.cons_append]
      | some errno =>
        rw [failed] at others
        rw [frames, others.1]
        exact ⟨rfl, others.2⟩
    | refused wire rest taken rejected =>
      obtain ⟨rfl, -, -⟩ := called
      rw [taken, frameStream_image, rejected]
      exact ⟨rfl, rfl⟩
    | boundary nothing =>
      obtain ⟨rfl, -, -⟩ := called
      rw [nothing, frameStream_short (by decide)]
      exact ⟨rfl, rfl⟩
    | inside something short =>
      obtain ⟨rfl, -, -⟩ := called
      rw [frameStream_short short, if_neg something]
      exact ⟨rfl, rfl⟩

/-! ### Enough calls read the stream to its end -/

/-- Of the entries a call uses up, each that lets bytes through takes one off the stream. -/
theorem packetReceivePartialLoop_progress (script : List RecvResult) (stream : List UInt8)
    (buffer : ReceiveBuffer) {result : PartialResult} {socket : Socket} {buffer' : ReceiveBuffer}
    (returned : packetReceivePartialLoop script stream buffer = (result, socket, buffer'))
    (working : result.errno? = none) :
    socket.stream.length ≤ stream.length ∧
    script.countP RecvResult.isCount + socket.stream.length ≤
      socket.script.countP RecvResult.isCount + stream.length := by
  induction script generalizing stream buffer with
  | nil =>
    unfold packetReceivePartialLoop partialComplete at returned
    split at returned
    · cases returned
      exact ⟨Nat.le_refl _, Nat.le_refl _⟩
    · split at returned <;> cases returned <;> exact ⟨Nat.le_refl _, Nat.le_refl _⟩
  | cons head script inductionHypothesis =>
    unfold packetReceivePartialLoop at returned
    split at returned
    · cases head with
      | interrupted =>
        have rest := inductionHypothesis _ _ returned
        simpa [RecvResult.isCount] using rest
      | again =>
        cases returned
        simp [RecvResult.isCount]
      | failed errno =>
        cases returned
        cases working
      | count extra =>
        by_cases ended : stream = []
        · simp only [recv, ended, if_true] at returned
          cases returned
          cases working
        · rw [recv_count _ _ ended] at returned
          have nonempty : 0 < stream.length := List.length_pos_iff.mpr ended
          obtain ⟨shorter, counted⟩ := inductionHypothesis _ _ returned
          simp only [List.length_drop, List.length_take, List.countP_cons, RecvResult.isCount,
            if_true] at shorter counted ⊢
          omega
    · unfold partialComplete at returned
      split at returned <;> cases returned <;> exact ⟨Nat.le_refl _, Nat.le_refl _⟩

/-- A call whose buffer has room uses up an entry of its script, if there is one. -/
theorem packetReceivePartialLoop_shorter (head : RecvResult) (script : List RecvResult)
    (stream : List UInt8) (buffer : ReceiveBuffer) (partly : buffer.offset < packetSize) :
    (packetReceivePartialLoop (head :: script) stream buffer).2.1.script.length ≤
      script.length := by
  unfold packetReceivePartialLoop
  rw [if_pos partly]
  split
  · exact (packetReceivePartialLoop_script _ _ _).length_le
  · exact Nat.le_refl _
  · exact Nat.le_refl _
  · exact Nat.le_refl _
  · exact (packetReceivePartialLoop_script _ _ _).length_le

/-- When the connection lets more pieces through than the stream has bytes, its end is reported
at the latest when the script is used up. -/
theorem receivePartialCalls_ends (calls : Nat) (socket : Socket) (buffer : ReceiveBuffer)
    (orderly : ∀ result ∈ socket.script, result.Orderly) (partly : buffer.offset < packetSize)
    (enough : socket.stream.length < socket.script.countP RecvResult.isCount)
    (often : socket.script.length ≤ calls) :
    (failureOf (receivePartialCalls calls socket buffer).1).isSome := by
  induction calls generalizing socket buffer with
  | zero =>
    rw [List.eq_nil_of_length_eq_zero (Nat.le_zero.mp often)] at enough
    exact absurd enough (Nat.not_lt_zero _)
  | succ calls inductionHypothesis =>
    have step := packetReceivePartialLoop_step socket.script socket.stream buffer orderly
      (Nat.le_of_lt partly)
    have scripts := packetReceivePartialLoop_script socket.script socket.stream buffer
    have shorter : (packetReceivePartialLoop socket.script socket.stream
        buffer).2.1.script.length ≤ calls := by
      cases scriptCase : socket.script with
      | nil =>
        rw [scriptCase] at enough
        exact absurd enough (Nat.not_lt_zero _)
      | cons head script =>
        rw [scriptCase, List.length_cons] at often
        exact (packetReceivePartialLoop_shorter head script _ _ partly).trans
          (Nat.le_of_succ_le_succ often)
    rw [receivePartialCalls, packetReceivePartial]
    rcases outcome : packetReceivePartialLoop socket.script socket.stream buffer with
      ⟨result, middle, middleBuffer⟩
    rw [outcome] at step scripts shorter
    dsimp only at step scripts shorter
    have restOrderly : ∀ result ∈ middle.script, result.Orderly :=
      fun other member => orderly other (scripts.subset member)
    have restEnough : result.errno? = none →
        middle.stream.length < middle.script.countP RecvResult.isCount := by
      intro working
      have progress := packetReceivePartialLoop_progress _ _ _ outcome working
      omega
    cases step with
    | again partly' same =>
      exact inductionHypothesis middle middleBuffer restOrderly partly' (restEnough rfl) shorter
    | received wire taken accepted empty =>
      have partly' : middleBuffer.offset < packetSize := by
        rw [empty]
        decide
      exact inductionHypothesis middle middleBuffer restOrderly partly' (restEnough rfl) shorter
    | refused wire rest taken rejected => rfl
    | boundary nothing => rfl
    | inside something short => rfl

/-! ### The receiver that waits -/

/-- The results of up to `calls` successive calls of the blocking receiver, the last of them the
first that returns no packet. Each call writes into an object with arbitrary contents. -/
def receiveCalls (memory : Nat → TizcordPacket) : Nat → Socket → List ReceiveResult
  | 0, _ => []
  | calls + 1, socket =>
    match packetReceive socket (memory calls) with
    | none => []
    | some (.received packet, socket) => .received packet :: receiveCalls memory calls socket
    | some (result, _) => [result]

/-- What the blocking receiver returns at the end of a stream. -/
def StreamEnd.result : StreamEnd → ReceiveResult
  | .boundary => .closed
  | .inside => .failed .connectionReset
  | .refused => .failed .protocol

/-- The results of a reader that has read the whole stream. -/
def frameResults (stream : List UInt8) : List ReceiveResult :=
  (frameStream stream).1.map .received ++ [(frameStream stream).2.result]

theorem packetReceiveLoop_script (script : List RecvResult) (stream : List UInt8)
    (packet : TizcordPacket) (offset : Nat) {result : ReceiveResult} {socket : Socket}
    (returned : packetReceiveLoop script stream packet offset = some (result, socket)) :
    socket.script <:+ script := by
  induction script generalizing stream packet offset with
  | nil =>
    unfold packetReceiveLoop at returned
    split at returned
    · exact absurd returned (Option.some_ne_none _).symm
    · obtain ⟨-, rfl⟩ := Prod.mk.inj (Option.some.inj returned)
      exact List.suffix_refl _
  | cons head script inductionHypothesis =>
    unfold packetReceiveLoop at returned
    split at returned
    · split at returned
      · exact (inductionHypothesis _ _ _ returned).trans (List.suffix_cons _ _)
      · rw [← (Prod.mk.inj (Option.some.inj returned)).2]
        exact List.suffix_cons _ _
      · rw [← (Prod.mk.inj (Option.some.inj returned)).2]
        exact List.suffix_cons _ _
      · split at returned <;> rw [← (Prod.mk.inj (Option.some.inj returned)).2]
        · exact List.suffix_cons _ _
        · exact List.suffix_cons _ _
      · exact (inductionHypothesis _ _ _ returned).trans (List.suffix_cons _ _)
    · obtain ⟨-, rfl⟩ := Prod.mk.inj (Option.some.inj returned)
      exact List.suffix_refl _

/-- A blocking call that returns a packet lets at most as many pieces through as the stream
loses bytes. -/
theorem packetReceiveLoop_progress (script : List RecvResult) (stream : List UInt8)
    (packet : TizcordPacket) (offset : Nat) {received : TizcordPacket} {socket : Socket}
    (returned : packetReceiveLoop script stream packet offset =
      some (.received received, socket)) :
    script.countP RecvResult.isCount + socket.stream.length ≤
      socket.script.countP RecvResult.isCount + stream.length := by
  induction script generalizing stream packet offset with
  | nil =>
    unfold packetReceiveLoop at returned
    split at returned
    · exact absurd returned (Option.some_ne_none _).symm
    · rw [← (Prod.mk.inj (Option.some.inj returned)).2]
  | cons head script inductionHypothesis =>
    unfold packetReceiveLoop at returned
    split at returned
    · cases head with
      | interrupted =>
        have rest := inductionHypothesis _ _ _ returned
        simpa [RecvResult.isCount] using rest
      | again => simp [recv] at returned
      | failed errno => simp [recv] at returned
      | count extra =>
        by_cases ended : stream = []
        · simp only [recv, ended, if_true] at returned
          split at returned <;> simp at returned
        · rw [recv_count _ _ ended] at returned
          have nonempty : 0 < stream.length := List.length_pos_iff.mpr ended
          have counted := inductionHypothesis _ _ _ returned
          simp only [List.length_drop, List.length_take, List.countP_cons, RecvResult.isCount,
            if_true] at counted ⊢
          omega
    · rw [← (Prod.mk.inj (Option.some.inj returned)).2]

/-- Repeated calls of the blocking receiver return the frames of the stream in order, and then
the way it ends; they stop before that only where the connection leaves a call waiting. -/
theorem receiveCalls_frames (memory : Nat → TizcordPacket) (calls : Nat) (socket : Socket)
    (blocking : ∀ result ∈ socket.script, result.Blocking) :
    receiveCalls memory calls socket <+: frameResults socket.stream ∧
    ((frameStream socket.stream).1.length < calls →
      socket.stream.length < socket.script.countP RecvResult.isCount →
      receiveCalls memory calls socket = frameResults socket.stream) := by
  induction calls generalizing socket with
  | zero => exact ⟨List.nil_prefix, fun often => absurd often (Nat.not_lt_zero _)⟩
  | succ calls inductionHypothesis =>
    have returns := packetReceiveLoop_returns socket.script socket.stream (memory calls) 0 blocking
    rw [receiveCalls, packetReceive]
    cases outcome : packetReceiveLoop socket.script socket.stream (memory calls) 0 with
    | none =>
      refine ⟨List.nil_prefix, fun often enough => ?_⟩
      have returned := returns (Or.inr enough)
      rw [outcome] at returned
      cases returned
    | some returned =>
      obtain ⟨result, middle⟩ := returned
      have step := packetReceiveLoop_step _ _ _ _ blocking (Nat.zero_le _) outcome
      have empty : (memory calls).slice 0 0 = [] := by simp [Image.slice]
      rw [empty, List.nil_append] at step
      cases step with
      | @received packet _ wire taken accepted =>
        have scripts := packetReceiveLoop_script _ _ _ _ outcome
        have progress := packetReceiveLoop_progress _ _ _ _ outcome
        have frames : frameStream socket.stream =
            (packet :: (frameStream middle.stream).1, (frameStream middle.stream).2) := by
          rw [taken, frameStream_image, accepted]
        have results : frameResults socket.stream =
            .received packet :: frameResults middle.stream := by
          rw [frameResults, frames]
          rfl
        obtain ⟨isPrefix, complete⟩ := inductionHypothesis middle
          (fun other member => blocking other (scripts.subset member))
        rw [results]
        refine ⟨(List.prefix_cons_inj _).mpr isPrefix, fun often enough => ?_⟩
        rw [frames] at often
        show _ :: receiveCalls memory calls middle = _
        rw [complete (Nat.lt_of_succ_lt_succ often) (by omega)]
      | refused wire taken rejected =>
        have results : frameResults socket.stream = [.failed .protocol] := by
          rw [frameResults, taken, frameStream_image, rejected]
          rfl
        rw [results]
        exact ⟨List.prefix_refl _, fun _ _ => rfl⟩
      | boundary nothing =>
        have results : frameResults socket.stream = [.closed] := by
          rw [frameResults, nothing, frameStream_short (by decide)]
          rfl
        rw [results]
        exact ⟨List.prefix_refl _, fun _ _ => rfl⟩
      | inside something short =>
        have results : frameResults socket.stream = [.failed .connectionReset] := by
          rw [frameResults, frameStream_short short, if_neg something]
          rfl
        rw [results]
        exact ⟨List.prefix_refl _, fun _ _ => rfl⟩

/-! ### Incremental framing is one-shot framing -/

/-- What calls of the partial receiver that start with an empty buffer have made of a stream. -/
structure FramesSoFar (stream : List UInt8) (results : List PartialResult) (socket : Socket)
    (buffer : ReceiveBuffer) : Prop where
  inOrder : receivedPackets results <+: (frameStream stream).1
  pending : failureOf results = none → buffer.offset < packetSize ∧
    stream = stream.take (packetSize * (receivedPackets results).length) ++
      buffer.bytes.slice 0 buffer.offset ++ socket.stream
  ending : ∀ errno, failureOf results = some errno →
    receivedPackets results = (frameStream stream).1 ∧ errno = (frameStream stream).2.errno

theorem receivePartialCalls_soFar (stream : List UInt8) (script : List RecvResult)
    (memory : TizcordPacket) (calls : Nat) (orderly : ∀ result ∈ script, result.Orderly)
    {results : List PartialResult} {socket : Socket} {buffer : ReceiveBuffer}
    (called : receivePartialCalls calls ⟨stream, script⟩ ⟨memory, 0⟩ =
      (results, socket, buffer)) :
    FramesSoFar stream results socket buffer := by
  have frames := receivePartialCalls_frames calls ⟨stream, script⟩ ⟨memory, 0⟩ orderly
    packetSize_pos called
  have held : heldBytes ⟨stream, script⟩ ⟨memory, 0⟩ = stream := by simp [heldBytes, Image.slice]
  rw [held] at frames
  cases failed : failureOf results with
  | none =>
    rw [failed] at frames
    obtain ⟨partly, ⟨taken, length, split⟩, later⟩ := frames
    refine ⟨?_, fun _ => ⟨partly, ?_⟩, fun errno failed' => ?_⟩
    · rw [later]
      exact List.prefix_append _ _
    · rw [List.append_assoc]
      show stream = _ ++ heldBytes socket buffer
      have start : stream.take (packetSize * (receivedPackets results).length) = taken := by
        rw [split, ← length, List.take_left]
      rw [start]
      exact split
    · rw [failed] at failed'
      cases failed'
  | some errno =>
    rw [failed] at frames
    refine ⟨?_, fun working => ?_, fun errno' failed' => ?_⟩
    · exact frames.1 ▸ List.prefix_refl _
    · rw [failed] at working
      cases working
    · rw [failed] at failed'
      cases failed'
      exact ⟨frames.1.symm, frames.2.symm⟩

/-- However a stream is cut and however often calls are interrupted or find nothing to read, the
partial receiver returns the frames of the stream in order, holds exactly the bytes received and
not returned, and reports how the stream ends, and it gets there when the connection lets all
bytes through. The blocking receiver, on any cutting of the same stream, returns the same packets
and the same ending. -/
theorem framing_of_stream (stream : List UInt8) (memory : TizcordPacket) (calls : Nat)
    (partialScript : List RecvResult) (orderly : ∀ result ∈ partialScript, result.Orderly)
    (blockingMemory : Nat → TizcordPacket) (blockingCalls : Nat)
    (blockingScript : List RecvResult) (blocking : ∀ result ∈ blockingScript, result.Blocking) :
    (∀ results socket buffer,
      receivePartialCalls calls ⟨stream, partialScript⟩ ⟨memory, 0⟩ =
        (results, socket, buffer) →
      FramesSoFar stream results socket buffer ∧
      (stream.length < partialScript.countP RecvResult.isCount → partialScript.length ≤ calls →
        (failureOf results).isSome)) ∧
    receiveCalls blockingMemory blockingCalls ⟨stream, blockingScript⟩ <+:
      frameResults stream ∧
    (stream.length < blockingScript.countP RecvResult.isCount →
      (frameStream stream).1.length < blockingCalls →
      receiveCalls blockingMemory blockingCalls ⟨stream, blockingScript⟩ =
        frameResults stream) := by
  refine ⟨fun results socket buffer called => ⟨?_, fun enough often => ?_⟩, ?_,
    fun enough often => ?_⟩
  · exact receivePartialCalls_soFar stream partialScript memory calls orderly called
  · have ends := receivePartialCalls_ends calls ⟨stream, partialScript⟩ ⟨memory, 0⟩ orderly
      packetSize_pos enough often
    rwa [called] at ends
  · exact (receiveCalls_frames blockingMemory blockingCalls ⟨stream, blockingScript⟩ blocking).1
  · exact (receiveCalls_frames blockingMemory blockingCalls ⟨stream, blockingScript⟩ blocking).2
      often enough

/-- Two packets, of the first and the second type, and a block of no type. -/
def threeBlocks : List UInt8 :=
  List.replicate 624 0 ++ ([0, 0, 0, 1] ++ List.replicate 620 0) ++
    ([0, 0, 0, 9] ++ List.replicate 620 0)

/-- The connection hands out part of the first packet, then nothing, then the rest of it and what
comes behind, with more results than the stream has bytes. -/
def cutInside : List RecvResult :=
  .count 99 :: .again :: .interrupted :: .count 523 :: .count 9 :: .again ::
    List.replicate 1872 (.count 700)

/-- The two packets come out, cut wherever they are, and the receivers fail at the third block. -/
theorem framing_of_stream_threeBlocks :
    (let called := receivePartialCalls 1878 ⟨threeBlocks, cutInside⟩ ⟨Image.zero, 0⟩
    FramesSoFar threeBlocks called.1 called.2.1 called.2.2 ∧
      (failureOf called.1).isSome ∧ (receivedPackets called.1).length = 2) ∧
    receiveCalls (fun _ => Image.zero) 3 ⟨threeBlocks, List.replicate 1873 (.count 99)⟩ =
      frameResults threeBlocks := by
  have orderly : ∀ result ∈ cutInside, result.Orderly := by decide +kernel
  have blocking : ∀ result ∈ List.replicate 1873 (.count 99), RecvResult.Blocking result := by
    decide +kernel
  have framing := framing_of_stream threeBlocks Image.zero 1878 cutInside orderly
    (fun _ => Image.zero) 3 (List.replicate 1873 (.count 99)) blocking
  have received : (receivedPackets (receivePartialCalls 1878 ⟨threeBlocks, cutInside⟩
      ⟨Image.zero, 0⟩).1).length = 2 := by decide +kernel
  generalize receivePartialCalls 1878 ⟨threeBlocks, cutInside⟩ ⟨Image.zero, 0⟩ = called
    at framing received ⊢
  obtain ⟨results, socket, buffer⟩ := called
  obtain ⟨frames, ends⟩ := framing.1 results socket buffer rfl
  exact ⟨⟨frames, ends (by decide +kernel) (by decide +kernel), received⟩,
    framing.2.2 (by decide +kernel) (by decide +kernel)⟩

end Tizcord
