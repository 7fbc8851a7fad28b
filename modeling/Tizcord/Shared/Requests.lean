/-
This file says what a packet asks for: its type, and the action of this type.
-/

import Tizcord.Shared.Protocol

namespace Tizcord

open CModel

/-- The type and action of a packet. -/
inductive Request where
  | auth (action : AuthAction)
  | dm (action : DMAction)
  | server (action : ServerAction)
  | channel (action : ChannelAction)
  | social (action : SocialAction)
  deriving DecidableEq

/-- What a packet asks for, given its type: nothing, where the handler of the type does not know
the action. -/
def TizcordPacket.requestOfType (packet : TizcordPacket) : PacketType → Option Request
  | .auth => (AuthAction.ofCode packet.authAction).map .auth
  | .dm => (DMAction.ofCode packet.dmAction).map .dm
  | .server => (ServerAction.ofCode packet.serverAction).map .server
  | .channel => (ChannelAction.ofCode packet.channelAction).map .channel
  | .social => (SocialAction.ofCode packet.socialAction).map .social

def TizcordPacket.request (packet : TizcordPacket) : Option Request :=
  (PacketType.ofCode packet.type).bind packet.requestOfType

theorem TizcordPacket.request_of_type {packet : TizcordPacket} {type : PacketType}
    (announced : PacketType.ofCode packet.type = some type) :
    packet.request = packet.requestOfType type := by
  rw [request, announced, Option.bind_some]

def Request.type : Request → PacketType
  | .auth _ => .auth
  | .dm _ => .dm
  | .server _ => .server
  | .channel _ => .channel
  | .social _ => .social

/-- Whoever asks for something sends a packet of its type. -/
theorem TizcordPacket.request_parts {packet : TizcordPacket} {request : Request}
    (asked : packet.request = some request) :
    PacketType.ofCode packet.type = some request.type ∧
      packet.requestOfType request.type = some request := by
  obtain ⟨type, announced, requested⟩ := Option.bind_eq_some_iff.mp asked
  have same : request.type = type := by
    cases type <;>
    · rw [requestOfType] at requested
      obtain ⟨action, -, is⟩ := Option.map_eq_some_iff.mp requested
      rw [← is]
      rfl
  rw [same]
  exact ⟨announced, requested⟩

theorem TizcordPacket.request_auth {packet : TizcordPacket} {action : AuthAction}
    (asked : packet.request = some (.auth action)) :
    PacketType.ofCode packet.type = some .auth ∧
      AuthAction.ofCode packet.authAction = some action := by
  obtain ⟨type, requested⟩ := request_parts asked
  rw [Request.type, requestOfType] at requested
  obtain ⟨found, acted, same⟩ := Option.map_eq_some_iff.mp requested
  exact ⟨type, acted.trans (congrArg some (Request.auth.inj same))⟩

theorem TizcordPacket.request_server {packet : TizcordPacket} {action : ServerAction}
    (asked : packet.request = some (.server action)) :
    PacketType.ofCode packet.type = some .server ∧
      ServerAction.ofCode packet.serverAction = some action := by
  obtain ⟨type, requested⟩ := request_parts asked
  rw [Request.type, requestOfType] at requested
  obtain ⟨found, acted, same⟩ := Option.map_eq_some_iff.mp requested
  exact ⟨type, acted.trans (congrArg some (Request.server.inj same))⟩

theorem TizcordPacket.request_social {packet : TizcordPacket} {action : SocialAction}
    (asked : packet.request = some (.social action)) :
    PacketType.ofCode packet.type = some .social ∧
      SocialAction.ofCode packet.socialAction = some action := by
  obtain ⟨type, requested⟩ := request_parts asked
  rw [Request.type, requestOfType] at requested
  obtain ⟨found, acted, same⟩ := Option.map_eq_some_iff.mp requested
  exact ⟨type, acted.trans (congrArg some (Request.social.inj same))⟩

theorem DMAction.ofCode_eq {packet : TizcordPacket} {action : DMAction}
    (type : PacketType.ofCode packet.type = some .dm)
    (acted : DMAction.ofCode packet.dmAction = some action) :
    packet.request = some (.dm action) := by
  rw [TizcordPacket.request_of_type type, TizcordPacket.requestOfType, acted, Option.map_some]

theorem ServerAction.ofCode_eq {packet : TizcordPacket} {action : ServerAction}
    (type : PacketType.ofCode packet.type = some .server)
    (acted : ServerAction.ofCode packet.serverAction = some action) :
    packet.request = some (.server action) := by
  rw [TizcordPacket.request_of_type type, TizcordPacket.requestOfType, acted, Option.map_some]

theorem ChannelAction.ofCode_eq {packet : TizcordPacket} {action : ChannelAction}
    (type : PacketType.ofCode packet.type = some .channel)
    (acted : ChannelAction.ofCode packet.channelAction = some action) :
    packet.request = some (.channel action) := by
  rw [TizcordPacket.request_of_type type, TizcordPacket.requestOfType, acted, Option.map_some]

theorem SocialAction.ofCode_eq {packet : TizcordPacket} {action : SocialAction}
    (type : PacketType.ofCode packet.type = some .social)
    (acted : SocialAction.ofCode packet.socialAction = some action) :
    packet.request = some (.social action) := by
  rw [TizcordPacket.request_of_type type, TizcordPacket.requestOfType, acted, Option.map_some]

/-- A packet of the kind that shows a message to its receiver. -/
def IsMessage (packet : TizcordPacket) : Prop :=
  packet.request = some (.channel .message) ∨ packet.request = some (.dm .message)

instance (packet : TizcordPacket) : Decidable (IsMessage packet) :=
  inferInstanceAs (Decidable (_ ∨ _))

/-! ### Codes as the fields hold them -/

theorem signed_code (type : PacketType) : signed 32 type.code = type.code := by
  cases type <;> rfl

theorem signed_frame (frame : ListFrameType) : signed 32 frame.code = frame.code := by
  cases frame <;> rfl

theorem ListFrameType.code_injective : Function.Injective ListFrameType.code := by
  intro first second equal
  cases first <;> cases second <;> first | rfl | cases equal

theorem SocialAction.ofCode_signed_code (action : SocialAction) :
    SocialAction.ofCode (signed 32 action.code) = some action := by
  cases action <;> rfl

theorem ServerAction.ofCode_signed_code (action : ServerAction) :
    ServerAction.ofCode (signed 32 action.code) = some action := by
  cases action <;> rfl

theorem TizcordPacket.request_of_serverAction {packet : TizcordPacket} {action : ServerAction}
    (type : packet.type = PacketType.server.code)
    (acted : packet.serverAction = signed 32 action.code) :
    packet.request = some (.server action) := by
  have announced : PacketType.ofCode packet.type = some .server := by
    rw [type]
    rfl
  rw [request_of_type announced, requestOfType, acted, action.ofCode_signed_code]
  rfl

end Tizcord
