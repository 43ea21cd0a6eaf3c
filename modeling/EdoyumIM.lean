import EdoyumIM.MachineWords
import EdoyumIM.FieldCodec
import EdoyumIM.StreamFraming
import EdoyumIM.SessionFraming
import EdoyumIM.OrderedStore
import EdoyumIM.PairedLists
import EdoyumIM.Effects
import EdoyumIM.JsonValue
import EdoyumIM.UserStore
import EdoyumIM.ChatWorld
import EdoyumIM.ChatServer
import EdoyumIM.RejectedFrames
import EdoyumIM.HandlerSteps
import EdoyumIM.StoreForward
import EdoyumIM.Delivery
import EdoyumIM.ChatMessages
import EdoyumIM.GroupFanout
import EdoyumIM.OfflineReplay
import EdoyumIM.FrameTargets
import EdoyumIM.SenderIdentity
import EdoyumIM.SessionLookup
import EdoyumIM.GroupAccounts
import EdoyumIM.IdClasses
import EdoyumIM.UserLockstep
import EdoyumIM.Friendships
import EdoyumIM.LoginRestart
import EdoyumIM.ByteFiles
import EdoyumIM.FileServer
import EdoyumIM.FileSteps
import EdoyumIM.FileTransfer
import EdoyumIM.FileIsolation
import EdoyumIM.FrameBounds
import EdoyumIM.ReaderBounds
import EdoyumIM.DatabaseHandle
import EdoyumIM.TableSchema
import EdoyumIM.SchemaSetup
import EdoyumIM.SqlStatements
import EdoyumIM.RelationshipUpdates
import EdoyumIM.FriendshipSides
import EdoyumIM.FriendConsent
import EdoyumIM.StatusFanout
import EdoyumIM.SessionRegistry
import EdoyumIM.FileOffers
import EdoyumIM.GroupCreation
import EdoyumIM.QuotedText
import EdoyumIM.SqlTexts
import EdoyumIM.UsableAccounts
import EdoyumIM.PayloadSafety
import EdoyumIM.ColumnRepairs
import EdoyumIM.QueryIteration
import EdoyumIM.DownloadRange
import EdoyumIM.FileHandles
import EdoyumIM.CachePaths
import EdoyumIM.WriterOperations
import EdoyumIM.NetBuffer
import EdoyumIM.ReceiveLoop
import EdoyumIM.TcpConnections
import EdoyumIM.ConnectionPhases
import EdoyumIM.ConnectionLifecycle
import EdoyumIM.Transport
import EdoyumIM.JsonReader
import EdoyumIM.JsonWriter
import EdoyumIM.JsonStrings
import EdoyumIM.JsonNumbers
import EdoyumIM.JsonRoundTrip
import EdoyumIM.JsonAccepted
import EdoyumIM.AccountGuard
import EdoyumIM.ReplyTexts
import EdoyumIM.BlockHashing
import EdoyumIM.Md5
import EdoyumIM.Md5Streaming
import EdoyumIM.PasswordTwins
import EdoyumIM.PasswordSecrecy
