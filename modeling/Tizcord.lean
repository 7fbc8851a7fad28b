import Tizcord.Client.ArrayBounds
import Tizcord.Client.ChatScreen
import Tizcord.Client.Client
import Tizcord.Client.CommandLine
import Tizcord.Client.CommandNames
import Tizcord.Client.Commands
import Tizcord.Client.Conversations
import Tizcord.Client.DirectMessages
import Tizcord.Client.FriendView
import Tizcord.Client.Input
import Tizcord.Client.Loop
import Tizcord.Client.Navigation
import Tizcord.Client.Network
import Tizcord.Client.NewestMessages
import Tizcord.Client.Steps
import Tizcord.Client.Ui
import Tizcord.Client.UserList
import Tizcord.Client.Views
import Tizcord.Library.ByteOrder
import Tizcord.Library.ExchangeSort
import Tizcord.Library.Ledger
import Tizcord.Library.Memory
import Tizcord.Library.Since
import Tizcord.Library.SlotArray
import Tizcord.Library.Socket
import Tizcord.Library.Steps
import Tizcord.Library.Table
import Tizcord.Server.Administration
import Tizcord.Server.Answers
import Tizcord.Server.Auth
import Tizcord.Server.AuthChanges
import Tizcord.Server.Broadcasts
import Tizcord.Server.ClientHelper
import Tizcord.Server.Context
import Tizcord.Server.Copies
import Tizcord.Server.Correspondence
import Tizcord.Server.Database
import Tizcord.Server.Db
import Tizcord.Server.DbEffects
import Tizcord.Server.DirectHistories
import Tizcord.Server.Failures
import Tizcord.Server.FieldTexts
import Tizcord.Server.FriendUpdates
import Tizcord.Server.FriendViews
import Tizcord.Server.Friendships
import Tizcord.Server.HandlerInvariants
import Tizcord.Server.HandlerSteps
import Tizcord.Server.Handlers
import Tizcord.Server.Histories
import Tizcord.Server.Ids
import Tizcord.Server.ListPackets
import Tizcord.Server.ListReplies
import Tizcord.Server.LiveMessages
import Tizcord.Server.Messages
import Tizcord.Server.Multiplexing
import Tizcord.Server.Origins
import Tizcord.Server.Privacy
import Tizcord.Server.Reachable
import Tizcord.Server.SentPackets
import Tizcord.Server.Server
import Tizcord.Server.SessionLog
import Tizcord.Server.SessionTable
import Tizcord.Server.Sessions
import Tizcord.Server.ShownViews
import Tizcord.Server.SocialPackets
import Tizcord.Server.Statuses
import Tizcord.Server.Strangers
import Tizcord.Server.Streams
import Tizcord.Server.TizcordChat
import Tizcord.Server.TizcordServer
import Tizcord.Server.TizcordSocial
import Tizcord.Shared.Framing
import Tizcord.Shared.PacketHelper
import Tizcord.Shared.Protocol
import Tizcord.Shared.Requests
import Tizcord.Shared.Wire
import Tizcord.System.ChannelViews
import Tizcord.System.ForwardedMessages
import Tizcord.System.FriendLists
import Tizcord.System.FriendPushes
import Tizcord.System.ListReassembly
import Tizcord.System.MemberLists
import Tizcord.System.MemberPushes
import Tizcord.System.MemberRequests
import Tizcord.System.MemberSessions
import Tizcord.System.OnlineUsers
import Tizcord.System.Presence
import Tizcord.System.PresencePushes
import Tizcord.System.ServerDeletion
import Tizcord.System.ServerList
import Tizcord.System.Speakers
import Tizcord.System.StatusCommand
import Tizcord.System.StatusUpdates
