import GameServers.Address
import GameServers.Duration
import GameServers.SessionId
import GameServers.Text.Utf8

namespace GameServers

inductive Fault
  | networkUnreachable
  | connectionRefused
  | connectionReset
  | brokenPipe
  | invalidArgument
  | addressFamily
  | messageTooLong
  | addressInUse
  | addressNotAvailable
  | channelClosed
  | earlyEnd
  | unknownHost
  | unspecified
  deriving DecidableEq, Repr

def systemFault (code : Nat) (kind message : String) : String :=
  Text.record "Os"
    [("code", Nat.repr code), ("kind", kind), ("message", Text.quoted message)]

def customFault (kind message : String) : String :=
  Text.record "Custom" [("kind", kind), ("error", Text.quoted message)]

def Fault.describe : Fault → String
  | networkUnreachable => systemFault 101 "NetworkUnreachable" "Network is unreachable"
  | connectionRefused => systemFault 111 "ConnectionRefused" "Connection refused"
  | connectionReset => systemFault 104 "ConnectionReset" "Connection reset by peer"
  | brokenPipe => systemFault 32 "BrokenPipe" "Broken pipe"
  | invalidArgument => systemFault 22 "InvalidInput" "Invalid argument"
  | addressFamily => systemFault 97 "Uncategorized" "Address family not supported by protocol"
  | messageTooLong => systemFault 90 "Uncategorized" "Message too long"
  | addressInUse => systemFault 98 "AddrInUse" "Address already in use"
  | addressNotAvailable => systemFault 99 "AddrNotAvailable" "Cannot assign requested address"
  | channelClosed => customFault "NotConnected" "channel is closed"
  | earlyEnd => customFault "UnexpectedEof" "early eof"
  | unknownHost =>
    customFault "Uncategorized" "failed to lookup address information: Name or service not known"
  | unspecified => "Kind(Other)"

inductive Defect
  | short (needed left : Nat)
  | header (value : Int32)
  | unterminated
  | belowMinimum (length minimum : Nat)
  | aboveLimit (size limit : Int32)
  | sizeMismatch (size : Int32) (following : Nat)
  | terminators
  | directoryHeader
  | trailing (bytes : Nat)
  | frameSize (size : Int32)
  | unexpectedReply (shown : String)
  | reported (reason : String)
  deriving DecidableEq, Repr

def intText (n : Int32) : String := toString n.toInt

def hexText (n : Int32) : String := "0x" ++ String.ofList (Text.hexDigits n.toUInt32.toNat)

def Defect.message : Defect → String
  | short needed left =>
    "needed " ++ Nat.repr needed ++ " more bytes, only " ++ Nat.repr left ++ " left"
  | header value => "unexpected packet header " ++ hexText value
  | unterminated => "unterminated string"
  | belowMinimum length minimum =>
    "frame of " ++ Nat.repr length ++ " bytes is shorter than the " ++ Nat.repr minimum ++
      " byte minimum"
  | aboveLimit size limit =>
    "packet of " ++ intText size ++ " bytes exceeds the " ++ intText limit ++ " byte limit"
  | sizeMismatch size following =>
    "size field says " ++ intText size ++ " but " ++ Nat.repr following ++ " bytes follow it"
  | terminators => "missing null terminators"
  | directoryHeader => "missing master server reply header"
  | trailing bytes => Nat.repr bytes ++ " trailing bytes after the last address"
  | frameSize size => "invalid frame size " ++ intText size
  | unexpectedReply shown => "unexpected reply " ++ shown
  | reported reason => reason

inductive Failure
  | queueFull (capacity : Nat)
  /-- The courier was closed, or the request was dropped before it settled. -/
  | closed
  | noRuntime
  | unreachableHost (fault : Fault)
  | sendError (fault : Fault)
  | receiveError (fault : Fault)
  | readTimeout (id : SessionId) (elapsed : Duration)
  /-- A failure that the other side reported for one request. -/
  | response (reason : String)
  | unresolvedAddress (shown : String)
  | unmappedRequest (kind : String)
  | unknownPacketType (value : Int32)
  | malformedPacket (defect : Defect)
  | malformedBody (fault : Text.Utf8Fault)
  | splitPacket
  | wrongPassword
  | notAuthenticated (address : SocketAddress)
  deriving DecidableEq, Repr

namespace Failure

def message : Failure → String
  | queueFull capacity => "request queue is full (capacity: " ++ Nat.repr capacity ++ ")"
  | closed => "messenger is closed"
  | noRuntime => "no tokio runtime available to drive requests"
  | unreachableHost _ => "host cannot be reached"
  | sendError _ => "cannot send message to host"
  | receiveError _ => "cannot receive response from host"
  | readTimeout id elapsed =>
    "timeout for '" ++ id.text ++ "' (" ++ elapsed.secondsText ++ "s elapsed)"
  | response reason => "server rejected the request: " ++ reason
  | unresolvedAddress shown => "unable to resolve address for message: " ++ shown
  | unmappedRequest kind => "no response mapping registered for request kind '" ++ kind ++ "'"
  | unknownPacketType value => "unknown packet type: " ++ intText value
  | malformedPacket defect => "packet malformed: " ++ defect.message
  | malformedBody _ => "packet body malformed (not valid ascii or utf-8)"
  | splitPacket => "split packets are not supported"
  | wrongPassword => "bad password"
  | notAuthenticated address => "not authenticated with " ++ address.text

def name : Failure → String
  | queueFull _ => "QueueFull"
  | closed => "Closed"
  | noRuntime => "NoRuntime"
  | unreachableHost _ => "UnreachableHost"
  | sendError _ => "SendError"
  | receiveError _ => "ReceiveError"
  | readTimeout .. => "ReadTimeout"
  | response _ => "Response"
  | unresolvedAddress _ => "UnresolvedAddress"
  | unmappedRequest _ => "UnmappedRequest"
  | unknownPacketType _ => "UnknownPacketType"
  | malformedPacket _ => "MalformedPacket"
  | malformedBody _ => "MalformedPacketBody"
  | splitPacket => "SplitPacket"
  | wrongPassword => "AuthenticationError"
  | notAuthenticated _ => "NotAuthenticated"

def describe (e : Failure) : String :=
  match e with
  | closed | noRuntime | splitPacket | wrongPassword => e.name
  | readTimeout id elapsed =>
    Text.record e.name [("id", id.describe), ("elapsed", elapsed.describe)]
  | queueFull capacity => Text.tuple e.name [Nat.repr capacity]
  | unreachableHost fault | sendError fault | receiveError fault =>
    Text.tuple e.name [fault.describe]
  | response reason => Text.tuple e.name [Text.quoted reason]
  | unresolvedAddress shown => Text.tuple e.name [Text.quoted shown]
  | unmappedRequest kind => Text.tuple e.name [Text.quoted kind]
  | unknownPacketType value => Text.tuple e.name [intText value]
  | malformedPacket defect => Text.tuple e.name [Text.quoted defect.message]
  | malformedBody fault => Text.tuple e.name [fault.describe]
  | notAuthenticated address => Text.tuple e.name [address.text]

def hasCause : Failure → Bool
  | unreachableHost _ | sendError _ | receiveError _ | malformedBody _ => true
  | _ => false

end Failure

/-- A failure together with the request that it is about, where that is known. -/
structure Rejection (α : Type) where
  request : Option α
  failure : Failure

namespace Rejection

variable {α : Type}

def message (r : Rejection α) : String := r.failure.message

def describe (text : α → String) (r : Rejection α) : String :=
  Text.record "ResponseError"
    [("request", Text.option (r.request.map text)), ("error", r.failure.describe)]

end Rejection

end GameServers
