/-
This file is about the packets of a framed list: which fields they carry, and
which packets a list of a certain length consists of.
-/

import Tizcord.Server.ClientHelper
import Tizcord.Shared.Requests

namespace Tizcord

open CModel

/-- What the packet of an item of a list of the server type carries. -/
structure CarriesItem (packet : TizcordPacket) (action : Int) (total index : Nat)
    (item : ListItem) : Prop where
  type : packet.type = PacketType.server.code
  action : packet.serverAction = signed 32 action
  listTotal : packet.listTotal = signed 32 total
  listFrame : packet.listFrame = (itemFrame index total).code
  id : packet.serverServerId = signed 64 (item.id.getD 0)
  count : packet.serverMemberCount = signed 32 (item.count.getD 0)

theorem listItemPacket_carries {action listId : Int} {total index : Nat} {item : ListItem}
    {packet : TizcordPacket}
    (made : listItemPacket .server action listId total index item = some packet) :
    CarriesItem packet action total index item := by
  obtain rfl := Option.some.inj made
  obtain ⟨name, id, count⟩ := item
  cases id <;> cases count <;> constructor <;>
    simp (disch := decide) [listPacket, TizcordPacket.type, TizcordPacket.serverAction,
      TizcordPacket.listTotal, TizcordPacket.listFrame, TizcordPacket.serverServerId,
      TizcordPacket.serverMemberCount, TizcordPacket.setType, TizcordPacket.setListId,
      TizcordPacket.setListIndex, TizcordPacket.setListTotal, TizcordPacket.setListFrame,
      TizcordPacket.setServerAction, TizcordPacket.setServerStatusCode,
      TizcordPacket.setServerServerId, TizcordPacket.setServerMemberCount,
      TizcordPacket.strncpyServerServerName, signed_frame, signed_code]

/-- What the packet of an item shows: what it carries, a good status, and the name as far as it
fits. -/
structure ShowsItem (packet : TizcordPacket) (action : Int) (total index : Nat)
    (item : ListItem) : Prop extends CarriesItem packet action total index item where
  status : packet.serverStatusCode = ResponseCode.ok.code
  name : ∀ beyond, packet.serverServerName beyond = item.name.take (maxNameLen - 1)

theorem listItemPacket_shows {action listId : Int} {total index : Nat} {item : ListItem}
    {packet : TizcordPacket}
    (made : listItemPacket .server action listId total index item = some packet) :
    ShowsItem packet action total index item := by
  refine ⟨listItemPacket_carries made, ?_, fun beyond => ?_⟩
  · obtain rfl := Option.some.inj made
    obtain ⟨name, id, count⟩ := item
    cases id <;> cases count <;>
      simp (disch := decide) [listPacket, TizcordPacket.serverStatusCode,
        TizcordPacket.setServerStatusCode, TizcordPacket.setServerServerId,
        TizcordPacket.setServerMemberCount, TizcordPacket.strncpyServerServerName] <;>
      rfl
  · obtain rfl := Option.some.inj made
    obtain ⟨name, id, count⟩ := item
    refine Image.text_of_slice _ beyond (by decide)
      (Image.slice_strncpy_same _ _ _ _ (by decide) ?_)
    cases id <;> cases count <;>
      simp (disch := decide) [listPacket, TizcordPacket.setType, TizcordPacket.setListId,
        TizcordPacket.setListIndex, TizcordPacket.setListTotal, TizcordPacket.setListFrame,
        TizcordPacket.setServerAction, TizcordPacket.setServerStatusCode,
        TizcordPacket.setServerServerId, TizcordPacket.setServerMemberCount]

/-- The packet that stands for an empty list of the server type. -/
structure CarriesNothing (packet : TizcordPacket) (action : Int) : Prop where
  type : packet.type = PacketType.server.code
  action : packet.serverAction = signed 32 action
  listTotal : packet.listTotal = 0
  listFrame : packet.listFrame = ListFrameType.single.code
  status : packet.serverStatusCode = ResponseCode.done.code

theorem emptyListPacket_carries {action listId : Int} {packet : TizcordPacket}
    (made : emptyListPacket .server action listId = some packet) :
    CarriesNothing packet action := by
  obtain rfl := Option.some.inj made
  constructor <;>
    simp (disch := decide) [listPacket, TizcordPacket.type, TizcordPacket.serverAction,
      TizcordPacket.listTotal, TizcordPacket.listFrame, TizcordPacket.setType,
      TizcordPacket.setListId, TizcordPacket.setListIndex, TizcordPacket.setListTotal,
      TizcordPacket.setListFrame, TizcordPacket.setServerAction, TizcordPacket.serverStatusCode,
      TizcordPacket.setServerStatusCode, signed_frame, signed_code]
  rfl

/-! ### The packets of a list -/

/-- The packets that a list of the server type consists of. -/
def listStream (action : ServerAction) (listId : Int) (items : List ListItem) :
    List TizcordPacket :=
  if items = [] then (emptyListPacket .server action.code listId).toList
  else items.zipIdx.filterMap fun item =>
    listItemPacket .server action.code listId items.length item.2 item.1

end Tizcord
