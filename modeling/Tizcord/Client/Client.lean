/-
This file models client/client.c: the packets by which the client asks the server
for something. Nothing is sent without a connection, and the client does not look
at how the sending ends.
-/

import Tizcord.Client.Ui
import Tizcord.Shared.PacketHelper

namespace Tizcord.Client

open CModel

def safeSendPacket (packet : TizcordPacket) (ui : Ui) : Ui :=
  if ui.connected then { ui with requests := ui.requests ++ [packet] } else ui

section Requests

variable (now : Int)

/-! ### Authentication -/

def authRequest (action : AuthAction) : TizcordPacket :=
  (createBasePacket .auth now).setAuthAction action.code

def sendRegister (username password : Text) : Ui → Ui :=
  safeSendPacket
    (((authRequest now .register).strncpyAuthUsername username).strncpyAuthPassword password)

def sendLogin (username password : Text) : Ui → Ui :=
  safeSendPacket
    (((authRequest now .login).strncpyAuthUsername username).strncpyAuthPassword password)

def sendLogout : Ui → Ui :=
  safeSendPacket (authRequest now .logout)

/-! ### Servers -/

def serverRequest (action : ServerAction) : TizcordPacket :=
  (createBasePacket .server now).setServerAction action.code

def createServer (serverName : Text) : Ui → Ui :=
  safeSendPacket ((serverRequest now .create).strncpyServerServerName serverName)

/-- The request about a server with a certain id. -/
def serverIdRequest (action : ServerAction) (serverId : Int) : Ui → Ui :=
  safeSendPacket ((serverRequest now action).setServerServerId serverId)

def leaveServer : Int → Ui → Ui := serverIdRequest now .leave

def deleteServer : Int → Ui → Ui := serverIdRequest now .delete

def joinServer : Int → Ui → Ui := serverIdRequest now .join

def requestServerChannels : Int → Ui → Ui := serverIdRequest now .listChannels

def requestServerMembers : Int → Ui → Ui := serverIdRequest now .listMembers

def kickServerMember (serverId targetUserId : Int) : Ui → Ui :=
  safeSendPacket
    (((serverRequest now .kickMember).setServerServerId serverId).setServerTargetUserId targetUserId)

def listAllServersRequest : Ui → Ui :=
  safeSendPacket (serverRequest now .list)

/-! ### Channels -/

def channelRequest (action : ChannelAction) : TizcordPacket :=
  (createBasePacket .channel now).setChannelAction action.code

def createChannel (serverId : Int) (channelName : Text) : Ui → Ui :=
  safeSendPacket
    (((channelRequest now .create).setChannelServerId serverId).strncpyChannelChannelName channelName)

def deleteChannel (channelId : Int) : Ui → Ui :=
  safeSendPacket ((channelRequest now .delete).setChannelChannelId channelId)

def requestChannelHistory (channelId : Int) : Ui → Ui :=
  safeSendPacket ((channelRequest now .historyRequest).setChannelChannelId channelId)

def sendChannelMessage (channelId : Int) (message : Text) : Ui → Ui :=
  safeSendPacket
    (((channelRequest now .message).setChannelChannelId channelId).strncpyChannelMessage message)

/-! ### Friends and users -/

def socialRequest (action : SocialAction) : TizcordPacket :=
  (createBasePacket .social now).setSocialAction action.code

/-- The request about a user with a certain name. -/
def socialNameRequest (action : SocialAction) (targetUsername : Text) : Ui → Ui :=
  safeSendPacket ((socialRequest now action).strncpySocialTargetUsername targetUsername)

def sendFriendRequest : Text → Ui → Ui := socialNameRequest now .friendRequest

def acceptFriendRequest : Text → Ui → Ui := socialNameRequest now .friendAccept

def unfriend : Text → Ui → Ui := socialNameRequest now .friendRemove

def rejectFriendRequest : Text → Ui → Ui := socialNameRequest now .friendReject

def sendStatusUpdate (statusText : Text) : Ui → Ui :=
  safeSendPacket ((socialRequest now .updateStatus).strncpySocialTargetStatus statusText)

def requestFriendList : Ui → Ui :=
  safeSendPacket (socialRequest now .listFriends)

def requestUserList : Ui → Ui :=
  safeSendPacket (socialRequest now .listUsers)

/-! ### Direct messages -/

def dmRequest (action : DMAction) : TizcordPacket :=
  (createBasePacket .dm now).setDmAction action.code

def sendDmMessage (recipientId : Int) (message : Text) : Ui → Ui :=
  safeSendPacket
    (((dmRequest now .message).setDmRecipientId recipientId).strncpyDmMessage message)

def requestDmHistory (friendId : Int) : Ui → Ui :=
  safeSendPacket ((dmRequest now .historyRequest).setDmRecipientId friendId)

end Requests

end Tizcord.Client
