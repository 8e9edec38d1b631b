import Ancfl.Lib.Call
import Ancfl.Lib.Bytes
import Ancfl.Lib.Codec
import Ancfl.Lib.Run
import Ancfl.Lib.Pod
import Ancfl.ByteArray.Chunks
import Ancfl.ByteArray.Flat
import Ancfl.ByteArray.Typed
import Ancfl.ByteArray.RoundTrip
import Ancfl.ByteArray.Positional
import Ancfl.ByteArray.File
import Ancfl.Ds.Bitmap
import Ancfl.Ds.Bitmap.Plain
import Ancfl.Ds.Bitmap.Runs
import Ancfl.Ds.Bitmap.Apply
import Ancfl.Ds.Bitmap.Uncompress
import Ancfl.Ds.Bitmap.Mixed
import Ancfl.Lib.Visit
import Ancfl.Ds.Bitmap.Foreach
import Ancfl.Ds.Bitmap.Iterator
import Ancfl.Ds.Bitmap.Measure
import Ancfl.Ds.Bitmap.Packed
import Ancfl.Ds.Bitmap.Resize
import Ancfl.Ds.Bitmap.Equal
import Ancfl.Ds.Bitmap.Wire
import Ancfl.Ds.Array
import Ancfl.Ds.Table
import Ancfl.Ds.Table.Stored
import Ancfl.Ds.HashMap
import Ancfl.Ds.HashMap.Stored
import Ancfl.Ds.Dict
import Ancfl.Ds.HashMultimap
import Ancfl.Ds.HashMultimap.Stored
import Ancfl.Ds.Stored
import Ancfl.Lib.OrderedSet
import Ancfl.Timer.Manager
import Ancfl.Timer.Expiry
import Ancfl.Timer.Wakeup
import Ancfl.Fiber.Exclusion
import Ancfl.Fiber.Accounting
import Ancfl.Stream.FixSize
import Ancfl.Stream.Buffers
import Ancfl.Stream.ZeroCopy
import Ancfl.Rock.Protocol
import Ancfl.Rock.RoundTrip
import Ancfl.Ws.Session
import Ancfl.Ws.Frames
import Ancfl.Ws.Bounds
import Ancfl.Ws.Messages
import Ancfl.Ws.Reuse
import Ancfl.Ds.LruCache
import Ancfl.Ds.TimedLruCache
import Ancfl.Ws.Control
import Ancfl.Http.Http11Table
import Ancfl.Http.HttpClientTable
import Ancfl.Http.Message
import Ancfl.Http.RequestParser
import Ancfl.Game.Connections
import Ancfl.Game.Message
import Ancfl.Game.Responses
import Ancfl.Http.Session
import Ancfl.Http.Params
import Ancfl.Lib.Framing
import Ancfl.Lib.JsonString
import Ancfl.Util.Base64
import Ancfl.Util.Url
import Ancfl.Util.Json
import Ancfl.Game.Login
import Ancfl.Game.Socket
import Ancfl.Game.TcpClient
import Ancfl.Game.Recv
import Ancfl.Ds.TimedCache
import Ancfl.Io.Manager
import Ancfl.Io.Bookkeeping
import Ancfl.Io.Growth
import Ancfl.Http.Elements
import Ancfl.Http.Pieces
import Ancfl.Http.Segmentation
import Ancfl.Http.Pipeline
import Ancfl.Http.Connection
import Ancfl.Http.ResponseElements
import Ancfl.Http.ResponsePieces
import Ancfl.Http.SizeLines
import Ancfl.Http.Chunked
import Ancfl.Http.ConnectionPool
import Ancfl.Game.CenterClient
import Ancfl.Lib.First
import Ancfl.Game.Database
import Ancfl.Game.AccountCache
import Ancfl.Game.Registration
import Ancfl.Game.NameLookup
import Ancfl.Game.Match
import Ancfl.Game.LoginCode
import Ancfl.Game.LogQueue
import Ancfl.Game.LogWire
import Ancfl.Game.SharedMemory
import Ancfl.Game.Segments
import Ancfl.Game.Config
import Ancfl.Game.DBConnection
import Ancfl.Db.Transaction
import Ancfl.Stream.Manager
import Ancfl.Ns.Protocol
import Ancfl.Ns.NameServer
import Ancfl.Ns.Domain
import Ancfl.Ns.Client
import Ancfl.Stream.Discovery
import Ancfl.Lib.PrefixSum
import Ancfl.Stream.LoadBalance
import Ancfl.Game.Verdict
import Ancfl.Io.DoIo
import Ancfl.Io.Sleep
import Ancfl.Lib.Pool
import Ancfl.Stream.Requests
import Ancfl.Stream.Outcome
import Ancfl.Fiber.Semaphore
import Ancfl.Fiber.Worker
import Ancfl.Email.Smtp
import Ancfl.Stream.Writer
import Ancfl.Stream.Start
import Ancfl.Config.Var
import Ancfl.Log.Initer
import Ancfl.Log.Formatter
import Ancfl.Game.Mail
import Ancfl.Lib.Roster
import Ancfl.Game.Guild
import Ancfl.Game.Guild.Members
import Ancfl.Game.Scene
import Ancfl.Game.Shop
import Ancfl.Game.Shop.Limit
import Ancfl.Game.Shop.Price
import Ancfl.Game.Friend
import Ancfl.Game.Friend.Mutual
import Ancfl.Game.Skill
import Ancfl.Game.Skill.Cooldown
import Ancfl.Game.Task
import Ancfl.Game.Task.Events
import Ancfl.Game.Task.Rewards
import Ancfl.Game.Task.Chain
import Ancfl.Game.Bag
import Ancfl.Game.Bag.Items
import Ancfl.Game.Bag.Use
import Ancfl.Game.Buff
import Ancfl.Game.Buff.Entries
import Ancfl.Game.Role
import Ancfl.Game.Deadlock
import Ancfl.Lib.Automaton
import Ancfl.Http.Decimal
import Ancfl.Uri.Table
import Ancfl.Uri.Grammar
import Ancfl.Uri.Create
import Ancfl.Uri.Pieces
import Ancfl.Uri.Authority
import Ancfl.Uri.RoundTrip
import Ancfl.Io.FdContext
import Ancfl.Io.FdManager
import Ancfl.Io.Idle
import Ancfl.Db.Pool
import Ancfl.Db.Bind
import Ancfl.Address
import Ancfl.Lib.Settle
import Ancfl.Lib.Frame
import Ancfl.Db.FoxThread
import Ancfl.Db.FoxThreadPool
import Ancfl.Db.FoxRedis
import Ancfl.Http.Servlet
import Ancfl.Http.Server
import Ancfl.Ws.Server
import Ancfl.Lib.Family
import Ancfl.Ds.HashLruCache
import Ancfl.Lib.Lease
import Ancfl.Game.Center
import Ancfl.Lib.Passage
import Ancfl.Http.RequestText
import Ancfl.Http.Exchange
import Ancfl.Http.ResponseText
import Ancfl.Http.Responses
