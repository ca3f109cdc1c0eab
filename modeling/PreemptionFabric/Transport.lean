import PreemptionFabric.Framing

/-! The transport (`protocol/connection.hpp`, `protocol/connection.cpp`): messages as frames over a socket. A socket
    takes and yields bytes in pieces of its own choosing, so its answers are inputs here: how many bytes each `::send`
    takes, and which bytes each `::recv` yields. Opening sockets is left out. -/

namespace PreemptionFabric

structure TcpConnection where
  isOpen : Bool := true
  decoder : FrameDecoder := {}
deriving DecidableEq, Repr

namespace TcpConnection

def protocolFailed (conn : TcpConnection) : Bool := conn.decoder.fatal

/-! ### Sending -/

/-- The most that is offered to the socket at once. -/
def chunkLimit : Nat := 1048576

/-- `write_all`: what it returns, which is nothing as long as the socket has not answered, and the bytes that the socket
    has taken. A `::send` that fails answers 0; one that raises SIGPIPE, which ends the process, does not answer. -/
def writeAll (bytes : List UInt8) : List Nat → Option Bool × List UInt8
  | [] => if bytes.isEmpty then (some true, []) else (none, [])
  | r :: answers =>
    if bytes.isEmpty then
      (some true, [])
    else if r = 0 then
      (some false, [])
    else
      let sent := min r (min bytes.length chunkLimit)
      ((writeAll (bytes.drop sent) answers).1, bytes.take sent ++ (writeAll (bytes.drop sent) answers).2)

def send (conn : TcpConnection) (message : Message) (answers : List Nat) :
    Except LengthError (Option Bool × List UInt8) :=
  if !conn.isOpen then
    return (some false, [])
  else do
    let frame ← encodeFrame message
    return writeAll frame answers

/-! ### Receiving -/

/-- What a `::recv` puts into the buffer of 4096 bytes: nothing if the peer has closed the connection, or on an
    error. -/
structure Read where
  bytes : List UInt8
  fits : bytes.length ≤ 4096

/-- What a call of `receive` comes to. It waits as long as the socket has not answered. -/
inductive Received
  | message (m : Message) | failed | waiting
deriving DecidableEq, Repr

/-- The message, if `receive` returned true. A call that failed has none, and neither has one that still waits. -/
def Received.message? : Received → Option Message
  | .message m => some m
  | _ => none

/-- The loop of `receive`, with the reads that are left. A malformed frame is noticed by the pop, but it fails the call
    only after one more read. -/
def receiveLoop (conn : TcpConnection) (reads : List Read) : Received × TcpConnection × List Read :=
  if conn.decoder.fatal then
    (.failed, conn, reads)
  else
    match conn.decoder.pop.1, reads with
    | some m, reads => (.message m, { conn with decoder := conn.decoder.pop.2 }, reads)
    | none, [] => (.waiting, { conn with decoder := conn.decoder.pop.2 }, [])
    | none, read :: reads =>
      if read.bytes.isEmpty then
        (.failed, { conn with decoder := conn.decoder.pop.2 }, reads)
      else
        receiveLoop { conn with decoder := conn.decoder.pop.2.feed read.bytes } reads

def receive (conn : TcpConnection) (reads : List Read) : Received × TcpConnection × List Read :=
  if !conn.isOpen then (.failed, conn, reads) else conn.receiveLoop reads

end TcpConnection

end PreemptionFabric
