/-
This file proves that the wire format loses nothing. The conversion of a packet
reverses the bytes of a list of pairwise disjoint fields, and it leaves the
announced type readable on the other side, so both ends choose the same list:
converting twice gives the packet back. The transfer loops move the bytes of the
image without losing or repeating one, whatever the short counts.
-/

import Tizcord.Shared.PacketHelper

namespace Tizcord

open CModel

/-! ### The conversion reverses disjoint fields -/

theorem network64_bytesToNat (low high : List UInt8) (lowLength : low.length = 4)
    (highLength : high.length = 4) :
    network64 (bytesToNat (low ++ high)) = byteSwap 8 (bytesToNat (low ++ high)) := by
  have lowSmall : bytesToNat low < 2 ^ 32 := by
    have bound := bytesToNat_lt low
    rwa [lowLength] at bound
  have highSmall : bytesToNat high < 2 ^ 32 := by
    have bound := bytesToNat_lt high
    rwa [highLength] at bound
  have swapped := byteSwap_append low high
  rw [lowLength, highLength] at swapped
  have value : bytesToNat (low ++ high) = bytesToNat low + 2 ^ 32 * bytesToNat high := by
    rw [bytesToNat_append, lowLength]
    norm_num
  have lowHalf : bytesToNat (low ++ high) % 2 ^ 32 = bytesToNat low := by omega
  have highHalf : bytesToNat (low ++ high) >>> 32 % 2 ^ 32 = bytesToNat high := by
    rw [Nat.shiftRight_eq_div_pow]
    omega
  have highSwapped : htonl (bytesToNat high) < 2 ^ 32 := byteSwap_lt 4 _
  rw [network64, lowHalf, highHalf, ← Nat.shiftLeft_add_eq_or_of_lt highSwapped,
    Nat.shiftLeft_eq, swapped, htonl, htonl]
  omega

theorem swap32_eq (packet : TizcordPacket) (offset : Nat) :
    swap32 packet offset = packet.reverseField offset 4 :=
  packet.putWord_byteSwap offset 4

theorem swap64_eq (packet : TizcordPacket) (offset : Nat) :
    swap64 packet offset = packet.reverseField offset 8 := by
  have split : packet.slice offset 8 = packet.slice offset 4 ++ packet.slice (offset + 4) 4 :=
    packet.slice_append offset 4 4
  rw [swap64, Image.word, split, network64_bytesToNat _ _ (by simp) (by simp), ← split]
  exact packet.putWord_byteSwap offset 8

/-- The fields `swapPacket` converts, in its order. -/
def swappedFields : Option PacketType → List (Nat × Nat)
  | some .auth => commonFields ++ [(32, 4), (36, 4)]
  | some .dm => commonFields ++ [(32, 4), (36, 4), (40, 4), (48, 8)]
  | some .server => commonFields ++ [(32, 4), (40, 8), (48, 8), (56, 4), (60, 4)]
  | some .channel => commonFields ++ [(32, 4), (40, 8), (48, 4), (56, 8), (96, 8)]
  | some .social => commonFields ++ [(32, 4), (36, 4), (40, 4), (48, 8)]
  | none => commonFields ++ [(32, 4), (36, 4)]
where
  commonFields : List (Nat × Nat) :=
    [(0, 4), (8, 8), (16, 4), (20, 4), (24, 4), (28, 4), (616, 8)]

theorem swappedFields_apart (type : Option PacketType) :
    (swappedFields type).Pairwise Image.Apart := by
  rcases type with _ | type
  · decide
  · cases type <;> decide

theorem swappedFields_fit (type : Option PacketType) :
    ∀ field ∈ swappedFields type, field.1 + field.2 ≤ packetSize := by
  rcases type with _ | type
  · decide
  · cases type <;> decide

theorem swapPacket_eq (packet : TizcordPacket) (type : Int) :
    swapPacket packet type = packet.reverseFields (swappedFields (PacketType.ofCode type)) := by
  unfold swapPacket
  rcases PacketType.ofCode type with _ | type
  · simp only [swap32_eq, swap64_eq]
    rfl
  · cases type <;> simp only [swap32_eq, swap64_eq] <;> rfl

/-- Converting a packet twice for the same type gives it back. -/
theorem swapPacket_swapPacket (packet : TizcordPacket) (type : Int) :
    swapPacket (swapPacket packet type) type = packet := by
  rw [swapPacket_eq, swapPacket_eq]
  exact Image.reverseFields_reverseFields _ _ (swappedFields_apart _) (swappedFields_fit _)

/-! ### Both sides read the same type -/

theorem swappedFields_head (type : Option PacketType) :
    ∃ rest, swappedFields type = (0, 4) :: rest ∧ ∀ field ∈ rest, Image.Apart (0, 4) field := by
  have apart := swappedFields_apart type
  rcases type with _ | type
  · exact ⟨_, rfl, (List.pairwise_cons.mp apart).1⟩
  · cases type <;> exact ⟨_, rfl, (List.pairwise_cons.mp apart).1⟩

/-- The type field of a converted packet, read in network order, is the type before. -/
theorem htonl_word_swapPacket (packet : TizcordPacket) (type : Int) :
    htonl ((swapPacket packet type).word 0 4) = packet.word 0 4 := by
  obtain ⟨rest, fields, apart⟩ := swappedFields_head (PacketType.ofCode type)
  have converted : (swapPacket packet type).slice 0 4 = (packet.slice 0 4).reverse := by
    rw [swapPacket_eq, fields]
    show (Image.reverseFields rest (packet.reverseField 0 4)).slice 0 4 = _
    rw [Image.slice_reverseFields rest _ 0 4 apart, Image.reverseField]
    have same := packet.slice_store_same 0 (packet.slice 0 4).reverse (by
      rw [List.length_reverse, Image.length_slice]
      decide)
    simpa only [List.length_reverse, Image.length_slice] using same
  have length : (packet.slice 0 4).reverse.length = 4 := by simp
  have swapped := byteSwap_bytesToNat (packet.slice 0 4).reverse
  rw [length, List.reverse_reverse] at swapped
  rw [htonl, Image.word, converted, swapped, Image.word]

theorem PacketType.ofCode_signed {value : Nat} (small : value < 2 ^ 32) :
    PacketType.ofCode (signed 32 value) = PacketType.ofCode value := by
  by_cases low : value < 2 ^ 31
  · rw [signed_of_bounds (by omega) (by omega)]
  · have negative : signed 32 (value : Int) = (value : Int) - 2 ^ 32 := by
      have shifted : signed 32 ((value : Int) - 2 ^ 32) = (value : Int) - 2 ^ 32 :=
        signed_of_bounds (by omega) (by omega)
      rw [← shifted]
      unfold signed
      exact_mod_cast (Int.sub_bmod_right (value : Int) (2 ^ 32)).symm
    have outside : ∀ code : Int, (code < 0 ∨ 4 < code) → PacketType.ofCode code = none := by
      intro code range
      unfold PacketType.ofCode
      split <;> first | rfl | omega
    rw [negative, outside _ (Or.inl (by omega)), outside _ (Or.inr (by omega))]

theorem type_eq_signed (packet : TizcordPacket) :
    packet.type = signed 32 (packet.word 0 4 : Nat) := rfl

theorem PacketType.ofCode_type (packet : TizcordPacket) :
    PacketType.ofCode packet.type = PacketType.ofCode (packet.word 0 4 : Nat) := by
  rw [type_eq_signed, PacketType.ofCode_signed (packet.word_four_lt 0)]

theorem wireType_swapPacket (packet : TizcordPacket) (type : Int) :
    wireType (swapPacket packet type) = PacketType.ofCode packet.type := by
  have announced : wireType (swapPacket packet type) =
      PacketType.ofCode (packet.word 0 4 : Nat) := by
    rw [wireType, htonl_word_swapPacket]
  exact announced.trans (PacketType.ofCode_type packet).symm

/-- Decoding what was encoded gives the packet back, for every packet of a valid type. -/
theorem decodePacket_swapPacket (packet : TizcordPacket) {type : PacketType}
    (valid : PacketType.ofCode packet.type = some type) :
    decodePacket (swapPacket packet packet.type) = some packet := by
  have same : type.code = packet.type := PacketType.code_ofCode valid
  rw [decodePacket, wireType_swapPacket, valid]
  show some (swapPacket (swapPacket packet packet.type) type.code) = some packet
  rw [same, swapPacket_swapPacket]

/-- Encoding what was decoded gives the wire image back. -/
theorem swapPacket_decodePacket {wire packet : TizcordPacket}
    (decoded : decodePacket wire = some packet) : swapPacket packet packet.type = wire := by
  unfold decodePacket at decoded
  split at decoded
  · exact absurd decoded (Option.some_ne_none packet).symm
  · rename_i type announced
    rw [← Option.some.inj decoded]
    have announced' := wireType_swapPacket (swapPacket wire type.code) type.code
    rw [swapPacket_swapPacket, announced] at announced'
    rw [← PacketType.code_ofCode announced'.symm, swapPacket_swapPacket]

/-! ### The transfer loops -/

/-- A send that reports success has written everything from its offset on, once. -/
theorem packetSendLoop_complete (wire : List UInt8) (script : List SendResult) (offset : Nat)
    (succeeded : (packetSendLoop wire script offset).1 = 0) :
    (packetSendLoop wire script offset).2 = wire.drop offset := by
  induction script generalizing offset with
  | nil => rfl
  | cons result script inductionHypothesis =>
    unfold packetSendLoop at succeeded ⊢
    by_cases more : offset < wire.length
    · rw [if_pos more] at succeeded ⊢
      cases result with
      | interrupted => exact inductionHypothesis offset succeeded
      | failed => simp at succeeded
      | zero => simp at succeeded
      | count extra =>
        simp only at succeeded ⊢
        rw [inductionHypothesis _ succeeded, ← List.drop_drop]
        exact List.take_append_drop _ _
    · rw [if_neg more, List.drop_eq_nil_of_le (Nat.not_lt.mp more)]

/-- A send that meets only interruptions and short counts succeeds. -/
theorem packetSendLoop_positive (wire : List UInt8) (script : List SendResult) (offset : Nat)
    (positive : ∀ result ∈ script, result.Positive) :
    (packetSendLoop wire script offset).1 = 0 := by
  induction script generalizing offset with
  | nil => rfl
  | cons result script inductionHypothesis =>
    have rest := fun offset => inductionHypothesis offset fun other member =>
      positive other (List.mem_cons_of_mem _ member)
    unfold packetSendLoop
    by_cases more : offset < wire.length
    · rw [if_pos more]
      have head := positive result List.mem_cons_self
      cases result with
      | interrupted => exact rest offset
      | failed => exact absurd head (by simp [SendResult.Positive])
      | zero => exact absurd head (by simp [SendResult.Positive])
      | count extra => exact rest _
    · rw [if_neg more]

theorem packetSend_complete {script : List SendResult} {packet : TizcordPacket}
    (succeeded : (packetSend script packet).1 = 0) :
    (packetSend script packet).2 = (swapPacket packet packet.type).toBytes := by
  have complete := packetSendLoop_complete _ _ _ succeeded
  rwa [List.drop_zero] at complete

/-- Bytes received behind the filled part of an object extend the filled part. -/
theorem slice_store_append (packet : TizcordPacket) (offset : Nat) (bytes : List UInt8)
    (fits : offset + bytes.length ≤ packetSize) :
    (packet.store offset bytes).slice 0 (offset + bytes.length) =
      packet.slice 0 offset ++ bytes := by
  rw [Image.slice_append, Image.slice_store_disjoint _ _ _ _ _ (Or.inl (by omega)), Nat.zero_add,
    Image.slice_store_same _ _ _ fits]

/-- What one `recv` of a waiting reader yields from a stream that has not ended. -/
theorem recv_count (more : Nat) {stream : List UInt8} (requested : Nat) (open' : stream ≠ []) :
    recv (.count more) stream requested = .data (stream.take (min (more + 1) requested)) := by
  simp [recv, open']

/-- The bytes in the filled part of an object and those still to come do not change when some of
them are received. -/
theorem slice_store_take_append (packet : TizcordPacket) (offset count : Nat)
    (stream : List UInt8) (fits : offset + (stream.take count).length ≤ packetSize) :
    (packet.store offset (stream.take count)).slice 0 (offset + (stream.take count).length) ++
        stream.drop (stream.take count).length =
      packet.slice 0 offset ++ stream := by
  rw [slice_store_append _ _ _ fits, List.append_assoc]
  congr 1
  by_cases short : count ≤ stream.length
  · rw [List.length_take, Nat.min_eq_left short, List.take_append_drop]
  · rw [List.take_of_length_le (by omega), List.drop_length, List.append_nil]

/-- What one call of the blocking receiver does with the bytes held before it. -/
inductive ReceiveStep (held : List UInt8) : ReceiveResult → Socket → Prop where
  | received {packet : TizcordPacket} {socket : Socket} (wire : TizcordPacket)
      (taken : held = wire.toBytes ++ socket.stream) (accepted : decodePacket wire = some packet) :
      ReceiveStep held (.received packet) socket
  | refused {socket : Socket} (wire : TizcordPacket) (taken : held = wire.toBytes ++ socket.stream)
      (rejected : decodePacket wire = none) : ReceiveStep held (.failed .protocol) socket
  | boundary {socket : Socket} (nothing : held = []) : ReceiveStep held .closed socket
  | inside {socket : Socket} (something : held ≠ []) (short : held.length < packetSize) :
      ReceiveStep held (.failed .connectionReset) socket

theorem receiveStep_ofWire (wire : TizcordPacket) (socket : Socket) :
    ReceiveStep (wire.toBytes ++ socket.stream) (.ofWire wire) socket := by
  unfold ReceiveResult.ofWire
  cases decision : decodePacket wire with
  | none => exact .refused wire rfl decision
  | some packet => exact .received wire rfl decision

/-- Each call of the blocking receiver that returns is a `ReceiveStep`. -/
theorem packetReceiveLoop_step (script : List RecvResult) (stream : List UInt8)
    (packet : TizcordPacket) (offset : Nat) (blocking : ∀ result ∈ script, result.Blocking)
    (bound : offset ≤ packetSize) {result : ReceiveResult} {socket : Socket}
    (returned : packetReceiveLoop script stream packet offset = some (result, socket)) :
    ReceiveStep (packet.slice 0 offset ++ stream) result socket := by
  induction script generalizing stream packet offset with
  | nil =>
    unfold packetReceiveLoop at returned
    by_cases more : offset < packetSize
    · simp [more] at returned
    · have full : offset = packetSize := by omega
      rw [if_neg more] at returned
      obtain ⟨rfl, rfl⟩ := Prod.mk.inj (Option.some.inj returned)
      rw [full]
      exact receiveStep_ofWire packet ⟨stream, []⟩
  | cons head script inductionHypothesis =>
    have restBlocking : ∀ result ∈ script, result.Blocking :=
      fun other member => blocking other (List.mem_cons_of_mem _ member)
    unfold packetReceiveLoop at returned
    by_cases more : offset < packetSize
    · rw [if_pos more] at returned
      have headBlocking := blocking head List.mem_cons_self
      cases head with
      | interrupted => exact inductionHypothesis _ _ _ restBlocking bound returned
      | again => exact absurd headBlocking (by simp [RecvResult.Blocking])
      | failed errno => exact absurd headBlocking (by simp [RecvResult.Blocking])
      | count extra =>
        by_cases ended : stream = []
        · simp only [recv, ended, if_true] at returned
          rw [ended, List.append_nil]
          by_cases nothing : offset = 0
          · rw [if_pos nothing] at returned
            cases returned
            exact .boundary (by simp [nothing, Image.slice])
          · rw [if_neg nothing] at returned
            cases returned
            refine .inside (fun empty => nothing ?_) (by simpa using more)
            simpa using congrArg List.length empty
        · rw [recv_count _ _ ended] at returned
          have fits : offset + (stream.take (min (extra + 1) (packetSize - offset))).length ≤
              packetSize := by
            rw [List.length_take]
            omega
          rw [← slice_store_take_append packet offset _ stream fits]
          exact inductionHypothesis _ _ _ restBlocking fits returned
    · have full : offset = packetSize := by omega
      rw [if_neg more] at returned
      obtain ⟨rfl, rfl⟩ := Prod.mk.inj (Option.some.inj returned)
      rw [full]
      exact receiveStep_ofWire packet ⟨stream, head :: script⟩

/-- On bytes that start with a wire image, the receiver can only return the decision about it. -/
theorem ReceiveStep.image {wire : TizcordPacket} {rest : List UInt8} {result : ReceiveResult}
    {socket : Socket} (step : ReceiveStep (wire.toBytes ++ rest) result socket) :
    result = .ofWire wire ∧ socket.stream = rest := by
  have same : ∀ other : TizcordPacket, wire.toBytes ++ rest = other.toBytes ++ socket.stream →
      other = wire ∧ socket.stream = rest := by
    intro other equal
    obtain ⟨images, streams⟩ := List.append_inj equal.symm (by simp)
    exact ⟨Image.toBytes_injective images, streams⟩
  cases step with
  | received other taken accepted =>
    obtain ⟨rfl, streams⟩ := same other taken
    exact ⟨by rw [ReceiveResult.ofWire, accepted], streams⟩
  | refused other taken rejected =>
    obtain ⟨rfl, streams⟩ := same other taken
    exact ⟨by rw [ReceiveResult.ofWire, rejected], streams⟩
  | boundary nothing =>
    have lengths := congrArg List.length nothing
    rw [List.length_append, Image.length_toBytes, List.length_nil] at lengths
    exact absurd (Nat.eq_zero_of_add_eq_zero_right lengths) (by decide)
  | inside something short =>
    rw [List.length_append, Image.length_toBytes] at short
    omega

/-- A reader does return when the script lets through as many pieces as bytes are missing, or
more pieces than the stream has bytes. -/
theorem packetReceiveLoop_returns (script : List RecvResult) (stream : List UInt8)
    (packet : TizcordPacket) (offset : Nat) (blocking : ∀ result ∈ script, result.Blocking)
    (enough : packetSize ≤ offset + script.countP RecvResult.isCount ∨
      stream.length < script.countP RecvResult.isCount) :
    (packetReceiveLoop script stream packet offset).isSome := by
  induction script generalizing stream packet offset with
  | nil =>
    have full : ¬ offset < packetSize := by simpa using enough
    simp [packetReceiveLoop, full]
  | cons result script inductionHypothesis =>
    have restBlocking : ∀ result ∈ script, result.Blocking :=
      fun other member => blocking other (List.mem_cons_of_mem _ member)
    unfold packetReceiveLoop
    by_cases more : offset < packetSize
    · rw [if_pos more]
      have head := blocking result List.mem_cons_self
      cases result with
      | interrupted =>
        refine inductionHypothesis _ _ _ restBlocking ?_
        simpa [RecvResult.isCount] using enough
      | again => exact absurd head (by simp [RecvResult.Blocking])
      | failed errno => exact absurd head (by simp [RecvResult.Blocking])
      | count extra =>
        by_cases ended : stream = []
        · simp only [recv, ended, if_true]
          split <;> rfl
        · rw [recv_count _ _ ended]
          refine inductionHypothesis _ _ _ restBlocking ?_
          have progress : 0 < stream.length := List.length_pos_iff.mpr ended
          simp only [List.countP_cons, RecvResult.isCount, if_true] at enough
          simp only [List.length_take, List.length_drop]
          omega
    · rw [if_neg more]
      rfl

/-! ### The round trip -/

/-- The blocking receiver, reading the given bytes with anything behind them, returns nothing
but `outcome`, leaves the bytes behind them unread, and does return when the script lets enough
of them through. -/
def ReceivesAs (bytes rest : List UInt8) (receives : List RecvResult) (memory : TizcordPacket)
    (outcome : ReceiveResult) : Prop :=
  (∀ result socket, packetReceive ⟨bytes ++ rest, receives⟩ memory = some (result, socket) →
    result = outcome ∧ socket.stream = rest) ∧
  (packetSize ≤ receives.countP RecvResult.isCount →
    (packetReceive ⟨bytes ++ rest, receives⟩ memory).isSome)

theorem receivesAs_toBytes (wire : TizcordPacket) (rest : List UInt8)
    (receives : List RecvResult) (memory : TizcordPacket)
    (blocking : ∀ result ∈ receives, result.Blocking) :
    ReceivesAs wire.toBytes rest receives memory (.ofWire wire) := by
  refine ⟨fun result socket returned => ?_, fun enough => ?_⟩
  · have step := packetReceiveLoop_step receives (wire.toBytes ++ rest) memory 0 blocking
      (Nat.zero_le _) returned
    have empty : memory.slice 0 0 = [] := by simp [Image.slice]
    rw [empty, List.nil_append] at step
    exact step.image
  · exact packetReceiveLoop_returns receives _ memory 0 blocking (Or.inl (by rwa [Nat.zero_add]))

theorem PacketType.ofCode_isSome_iff (code : Int) :
    (PacketType.ofCode code).isSome ↔ 0 ≤ code ∧ code ≤ 4 := by
  constructor
  · intro valid
    obtain ⟨type, decoded⟩ := Option.isSome_iff_exists.mp valid
    rw [← PacketType.code_ofCode decoded]
    cases type <;> decide
  · rintro ⟨lower, upper⟩
    have cases : code = 0 ∨ code = 1 ∨ code = 2 ∨ code = 3 ∨ code = 4 := by omega
    rcases cases with rfl | rfl | rfl | rfl | rfl <;> rfl

/-- The first four bytes of a wire image, read big-endian. -/
def announcedCode (wire : TizcordPacket) : Nat :=
  bytesToNat (wire.slice 0 4).reverse

theorem wireType_eq (wire : TizcordPacket) :
    wireType wire = PacketType.ofCode (announcedCode wire) := by
  have swapped := byteSwap_bytesToNat (wire.slice 0 4)
  rw [Image.length_slice] at swapped
  rw [wireType, htonl, Image.word, swapped, announcedCode]

/-- What is sent is what is received, and what is received would be sent again as it came: every
packet of a valid type survives sending and receiving byte for byte, every image that announces
a valid type survives decoding and sending, and every other image is refused. -/
theorem wire_round_trip (sends : List SendResult) (receives : List RecvResult)
    (blocking : ∀ result ∈ receives, result.Blocking) (memory : TizcordPacket)
    (rest : List UInt8) :
    (∀ packet : TizcordPacket, 0 ≤ packet.type ∧ packet.type ≤ 4 →
      (packetSend sends packet).1 = 0 →
      ReceivesAs (packetSend sends packet).2 rest receives memory (.received packet)) ∧
    (∀ wire : TizcordPacket,
      (announcedCode wire ≤ 4 → ∃ packet,
        ReceivesAs wire.toBytes rest receives memory (.received packet) ∧
        ((packetSend sends packet).1 = 0 → (packetSend sends packet).2 = wire.toBytes)) ∧
      (¬ announcedCode wire ≤ 4 →
        ReceivesAs wire.toBytes rest receives memory (.failed .protocol))) := by
  refine ⟨fun packet valid sent => ?_, fun wire => ⟨fun valid => ?_, fun invalid => ?_⟩⟩
  · obtain ⟨type, decoded⟩ :=
      Option.isSome_iff_exists.mp ((PacketType.ofCode_isSome_iff packet.type).mpr valid)
    have received := receivesAs_toBytes (swapPacket packet packet.type) rest receives memory
      blocking
    rw [packetSend_complete sent]
    rwa [ReceiveResult.ofWire, decodePacket_swapPacket packet decoded] at received
  · have announced : (PacketType.ofCode (announcedCode wire)).isSome :=
      (PacketType.ofCode_isSome_iff _).mpr ⟨by omega, by exact_mod_cast valid⟩
    obtain ⟨type, decoded⟩ := Option.isSome_iff_exists.mp announced
    rw [← wireType_eq] at decoded
    have accepted : decodePacket wire = some (swapPacket wire type.code) := by
      rw [decodePacket, decoded]
    have received := receivesAs_toBytes wire rest receives memory blocking
    rw [ReceiveResult.ofWire, accepted] at received
    refine ⟨swapPacket wire type.code, received, fun sent => ?_⟩
    rw [packetSend_complete sent, swapPacket_decodePacket accepted]
  · have refused : decodePacket wire = none := by
      have unannounced : PacketType.ofCode (announcedCode wire) = none := by
        rw [← Option.not_isSome_iff_eq_none, PacketType.ofCode_isSome_iff]
        omega
      rw [decodePacket, wireType_eq, unannounced]
    have received := receivesAs_toBytes wire rest receives memory blocking
    rwa [ReceiveResult.ofWire, refused] at received

/-- A channel packet sent in three pieces around an interruption, and read in two. -/
theorem wire_round_trip_channel :
    ReceivesAs (packetSend [.count 4, .interrupted, .count 1] (createBasePacket .channel 7)).2 []
      [.interrupted, .count 399, .interrupted, .count 399] Image.zero
      (.received (createBasePacket .channel 7)) :=
  (wire_round_trip [.count 4, .interrupted, .count 1]
    [.interrupted, .count 399, .interrupted, .count 399] (by decide) Image.zero []).1
    (createBasePacket .channel 7) (by decide) (packetSendLoop_positive _ _ _ (by decide))

end Tizcord
