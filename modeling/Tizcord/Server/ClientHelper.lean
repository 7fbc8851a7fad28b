/-
This file models server/client_helper.c: replies, and the framing of lists.
-/

import Tizcord.Server.Context

namespace Tizcord

open CModel

/-- The id of the next list. The counter is a 32-bit integer. -/
def allocateListId (process : Process) : Process × Int :=
  let listId := if process.nextListId ≤ 0 then 1 else process.nextListId
  ({ process with nextListId := signed 32 (listId + 1) }, listId)

def sendPacketToClient (env : Env) (fd : Int) (packet : TizcordPacket) (process : Process) :
    Process × Int :=
  if fd < 0 then (process, -1)
  else
    let result := process.packetSend env fd packet
    (result.1, if result.2 ≠ 0 then -1 else 0)

/-- The reply to an action. The explanation some callers give is for system packets only, which
no caller sends. -/
def actionResponse (type : PacketType) (action statusCode : Int) : TizcordPacket :=
  let response := TizcordPacket.setType Image.zero type
  match type with
  | .auth => (response.setAuthAction action).setAuthStatusCode statusCode
  | .dm => (response.setDmAction action).setDmStatusCode statusCode
  | .server => (response.setServerAction action).setServerStatusCode statusCode
  | .channel => (response.setChannelAction action).setChannelStatusCode statusCode
  | .social => (response.setSocialAction action).setSocialStatusCode statusCode

def sendActionResponse (env : Env) (fd : Int) (type : PacketType) (action : Int)
    (status : ResponseCode) (process : Process) : Process :=
  (sendPacketToClient env fd (actionResponse type action status.code) process).1

/-! ### Lists -/

/-- An item of a list, with its entries in the id and count arrays where these are given. -/
structure ListItem where
  name : Text
  id : Option Int
  count : Option Int

/-- The header of a packet of a list. -/
def listPacket (type : PacketType) (listId index total : Int) (frame : ListFrameType) :
    TizcordPacket :=
  let packet := TizcordPacket.setType Image.zero type
  let packet := packet.setListId listId
  let packet := packet.setListIndex index
  let packet := packet.setListTotal total
  packet.setListFrame frame

/-- The packet that stands for an empty list; only three types of packet have lists. -/
def emptyListPacket (type : PacketType) (action listId : Int) : Option TizcordPacket :=
  let packet := listPacket type listId (-1) 0 .single
  match type with
  | .server => some ((packet.setServerAction action).setServerStatusCode ResponseCode.done.code)
  | .channel => some ((packet.setChannelAction action).setChannelStatusCode ResponseCode.done.code)
  | .social => some ((packet.setSocialAction action).setSocialStatusCode ResponseCode.done.code)
  | _ => none

def itemFrame (index total : Nat) : ListFrameType :=
  if total = 1 then .single
  else if index = 0 then .start
  else if index + 1 = total then .end
  else .middle

def listItemPacket (type : PacketType) (action listId : Int) (total index : Nat)
    (item : ListItem) : Option TizcordPacket :=
  let packet := listPacket type listId index total (itemFrame index total)
  match type with
  | .server =>
    let packet := packet.setServerAction action
    let packet := packet.setServerStatusCode ResponseCode.ok.code
    let packet := item.id.elim packet packet.setServerServerId
    let packet := item.count.elim packet packet.setServerMemberCount
    some (packet.strncpyServerServerName item.name)
  | .channel =>
    let packet := packet.setChannelAction action
    let packet := packet.setChannelStatusCode ResponseCode.ok.code
    let packet := item.id.elim packet packet.setChannelChannelId
    some (packet.strncpyChannelChannelName item.name)
  | .social =>
    let packet := packet.setSocialAction action
    let packet := packet.setSocialStatusCode ResponseCode.ok.code
    let packet := item.id.elim packet packet.setSocialTargetUserId
    some (packet.strncpySocialTargetUsername item.name)
  | _ => none

/-- The loop over the items, from `index` on. -/
def sendListItems (env : Env) (fd : Int) (type : PacketType) (action listId : Int) (total : Nat) :
    Nat → List ListItem → Process → Process × Int
  | _, [], process => (process, 0)
  | index, item :: rest, process =>
    match listItemPacket type action listId total index item with
    | none => (process, -1)
    | some packet =>
      let result := sendPacketToClient env fd packet process
      if result.2 ≠ 0 then (result.1, -1)
      else sendListItems env fd type action listId total (index + 1) rest result.1

def sendListResponse (env : Env) (fd : Int) (type : PacketType) (action : Int)
    (items : List ListItem) (process : Process) : Process × Int :=
  if 2 ^ 31 - 1 < items.length then (process, -1)
  else
    let allocated := allocateListId process
    let listId := allocated.2
    let process := allocated.1
    if items = [] then
      match emptyListPacket type action listId with
      | none => (process, -1)
      | some packet => sendPacketToClient env fd packet process
    else sendListItems env fd type action listId items.length 0 items process

end Tizcord
