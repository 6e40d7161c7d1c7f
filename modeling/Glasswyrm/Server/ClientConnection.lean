import Glasswyrm.Library.Run
import Glasswyrm.X11.Setup

namespace Glasswyrm.Server

open X11

/-! One client's connection: its input is cut into requests that go to the
dispatcher, its output is queued until the socket takes it. -/

def maximumRequestsPerClientTurn : Nat := 64
def maximumRequestBytesPerClientTurn : Nat := 262144
def maximumQueuedOutput : Nat := 1048576

structure RequestWorkBudget where
  requests : Nat := 0
  bytes : Nat := 0
deriving DecidableEq, Repr

def RequestWorkBudget.available (budget : RequestWorkBudget) : Bool :=
  budget.requests < maximumRequestsPerClientTurn &&
    budget.bytes < maximumRequestBytesPerClientTurn

def RequestWorkBudget.record (budget : RequestWorkBudget) (bytes : Nat) :
    RequestWorkBudget where
  requests := budget.requests + 1
  bytes := budget.bytes + bytes

inductive ConnectionState
  | awaitingSetup
  | established
  | rejecting
  | closing
deriving DecidableEq, Repr

structure OutputPacket where
  bytes : List UInt8
  offset : Nat := 0
  closeAfter : Bool := false
deriving DecidableEq, Repr

/-- What the dispatcher is given: a request and its sequence number. -/
structure DispatchedRequest where
  sequence : Nat
  request : FramedRequest
deriving DecidableEq, Repr

structure FramingError where
  sequence : Nat
  status : RequestFrameStatus
deriving DecidableEq, Repr

/-- What has happened on the connection so far.  No function below reads it. -/
structure ConnectionTrace where
  received : List UInt8 := []
  requests : List DispatchedRequest := []
  framingErrors : List FramingError := []
  /-- The peer's end of stream or hang-up was met. -/
  ended : Bool := false
  /-- It was met before a request that had been received was looked at. -/
  cutOff : Bool := false
  /-- The answer to a setup request or to a malformed one found no room. -/
  crowded : Bool := false
  /-- Another state was assigned to a closing connection. -/
  reopened : Bool := false
deriving DecidableEq, Repr

def ConnectionTrace.dispatch (trace : ConnectionTrace)
    (dispatched : DispatchedRequest) : ConnectionTrace :=
  { trace with requests := trace.requests ++ [dispatched] }

def ConnectionTrace.reject (trace : ConnectionTrace) (error : FramingError) :
    ConnectionTrace :=
  { trace with framingErrors := trace.framingErrors ++ [error] }

/-- What a connection is constructed with. -/
structure ConnectionConfig where
  resourceIdBase : Nat := 0x00400000
  gameCompat : Bool := false
  /-- The extension registry offers BIG-REQUESTS. -/
  bigRequests : Bool := false
deriving DecidableEq, Repr

structure ClientConnection where
  config : ConnectionConfig
  screen : ScreenModel
  state : ConnectionState := .awaitingSetup
  setupParser : SetupParser := {}
  requestFramer : Option RequestFramer := none
  byteOrder : ByteOrder := .littleEndian
  requestSequence : Nat := 0
  outputQueue : List OutputPacket := []
  queuedOutputBytes : Nat := 0
  pendingInput : List UInt8 := []
  dispatchBlockToken : Option Nat := none
  trace : ConnectionTrace := {}
deriving DecidableEq, Repr

/-- The major opcode of BIG-REQUESTS in the extension registry. -/
def bigRequestsOpcode : UInt8 := 128

/-- The dispatcher answers such a request with `enable_big_requests`. -/
def ConnectionConfig.enablesBigRequests (config : ConnectionConfig)
    (request : FramedRequest) : Bool :=
  config.bigRequests && request.opcode == bigRequestsOpcode &&
    request.data == 0 && request.coreSize == 4

/-- What others may ask of the connection, also while it dispatches. -/
inductive ConnectionCall
  | enqueueServerPacket (bytes : List UInt8)
  | setDispatchBlocked (token : Nat)
  | clearDispatchBlocked (token : Nat)
  | markTransportClosed
deriving DecidableEq, Repr

/-- What a dispatched request comes to: its output, what the handlers of its
effects ask of the connection, and whether the connection goes on. -/
structure DispatchAnswer where
  output : List UInt8 := []
  calls : List ConnectionCall := []
  handoffFailed : Bool := false
  closeClient : Bool := false
deriving DecidableEq, Repr

/-- What `recv` comes to. -/
inductive Receive
  | data (first : UInt8) (rest : List UInt8)
  | endOfStream
  | interrupted
  | again
  | failed
deriving DecidableEq, Repr

/-- What `send` comes to. -/
inductive Send
  | sent (count : Nat)
  | interrupted
  | again
  | failed
deriving DecidableEq, Repr

structure PollEvents where
  error : Bool := false
  hangup : Bool := false
  input : Bool := false
  output : Bool := false
deriving DecidableEq, Repr

namespace ClientConnection

def dispatchBlocked (connection : ClientConnection) : Bool :=
  connection.dispatchBlockToken.isSome

def needsService (connection : ClientConnection) : Bool :=
  connection.state == .established && !connection.dispatchBlocked &&
    !connection.pendingInput.isEmpty

/-- The connection still takes input. -/
def live (connection : ClientConnection) : Bool :=
  connection.state == .awaitingSetup || connection.state == .established

/-! ## Output -/

def closeWithLog (connection : ClientConnection) : ClientConnection :=
  { connection with
    state := .closing
    outputQueue := []
    queuedOutputBytes := 0
    pendingInput := [] }

def closeAfterOutput (connection : ClientConnection) : ClientConnection :=
  match connection.outputQueue.getLast? with
  | none => { connection with pendingInput := [], state := .closing }
  | some last =>
      { connection with
        pendingInput := []
        outputQueue := connection.outputQueue.dropLast ++
          [{ last with closeAfter := true }]
        state := .rejecting }

/-- The queue has room for a packet. -/
def hasRoom (connection : ClientConnection) (bytes : List UInt8) : Bool :=
  bytes.length ≤ maximumQueuedOutput - connection.queuedOutputBytes

def enqueue (connection : ClientConnection) (bytes : List UInt8)
    (closeAfter : Bool) : ClientConnection :=
  if !connection.hasRoom bytes then connection.closeWithLog
  else
    { connection with
      queuedOutputBytes := connection.queuedOutputBytes + bytes.length
      outputQueue := connection.outputQueue ++ [{ bytes, closeAfter }] }

def enqueueServerPacket (connection : ClientConnection)
    (bytes : List UInt8) : ClientConnection :=
  if connection.state = .closing then connection
  else connection.enqueue bytes false

def setDispatchBlocked (connection : ClientConnection) (token : Nat) :
    ClientConnection :=
  { connection with dispatchBlockToken := some token }

def clearDispatchBlocked (connection : ClientConnection) (token : Nat) :
    ClientConnection :=
  if connection.dispatchBlockToken = some token then
    { connection with dispatchBlockToken := none }
  else connection

def markTransportClosed (connection : ClientConnection) : ClientConnection :=
  { connection with
    state := .closing
    outputQueue := []
    queuedOutputBytes := 0
    pendingInput := []
    dispatchBlockToken := none }

def call (connection : ClientConnection) : ConnectionCall → ClientConnection
  | .enqueueServerPacket bytes => connection.enqueueServerPacket bytes
  | .setDispatchBlocked token => connection.setDispatchBlocked token
  | .clearDispatchBlocked token => connection.clearDispatchBlocked token
  | .markTransportClosed => connection.markTransportClosed

/-- A packet of the connection's own, and the state assigned after it, whether
or not the packet found room. -/
def enqueueThenAssign (connection : ClientConnection) (bytes : List UInt8)
    (closeAfter : Bool) (state : ConnectionState) : ClientConnection :=
  let answered := connection.enqueue bytes closeAfter
  { answered with
    state
    trace := { answered.trace with
      crowded := answered.trace.crowded || !connection.hasRoom bytes
      reopened := answered.trace.reopened || answered.state == .closing } }

/-! ## Input -/

def prepareSetupReply (connection : ClientConnection) : ClientConnection :=
  let request := connection.setupParser.request
  let connection := { connection with byteOrder := request.byteOrder }
  match evaluateSetupRequest request with
  | .accepted =>
      let answered := connection.enqueueThenAssign
        (encodeSetupSuccess request.byteOrder
          { resourceIdBase := connection.config.resourceIdBase
            resourceIdMask := connection.screen.resourceIdMask
            screen := connection.screen
            gameCompat := connection.config.gameCompat }) false .established
      { answered with
        requestFramer := some
          { order := request.byteOrder
            maximumLengthUnits := connection.screen.maximumRequestLength } }
  | .unsupportedVersion =>
      connection.enqueueThenAssign
        (encodeSetupFailure request.byteOrder
          (textBytes "X11 protocol 11.0 required")) true .rejecting
  | .unsupportedAuthorization =>
      connection.enqueueThenAssign
        (encodeSetupFailure request.byteOrder
          (textBytes "authorization is not supported in Milestone 2")) true
        .rejecting

def rejectFraming (connection : ClientConnection) (code : CoreErrorCode)
    (status : RequestFrameStatus) : ClientConnection :=
  let sequence := connection.requestSequence + 1
  let connection := { connection with
    requestSequence := sequence
    trace := connection.trace.reject { sequence, status } }
  let majorOpcode := match connection.requestFramer with
    | some framer => framer.request.opcode
    | none => 0
  let answered := connection.enqueueThenAssign
    (encodeCoreError connection.byteOrder
      { code, sequence, badValue := 0, majorOpcode, minorOpcode := 0 }) true
    .rejecting
  { answered with pendingInput := [] }

/-- A connection in the middle of a turn, and what the dispatcher will answer
to the requests that come. -/
structure Turn where
  connection : ClientConnection
  budget : RequestWorkBudget := {}
  answers : List DispatchAnswer := []
deriving DecidableEq, Repr

/-- The request gets its sequence number. -/
def numberRequest (connection : ClientConnection) (framer : RequestFramer) :
    ClientConnection :=
  let sequence := connection.requestSequence + 1
  { connection with
    requestSequence := sequence
    requestFramer := some framer
    trace := connection.trace.dispatch
      { sequence, request := framer.request } }

/-- The framer after a request that may enable BIG-REQUESTS. -/
def framerAfter (connection : ClientConnection) (framer : RequestFramer) :
    RequestFramer :=
  if connection.config.enablesBigRequests framer.request then
    framer.enableBigRequests
  else framer

def queueAnswer (connection : ClientConnection) (output : List UInt8) :
    ClientConnection :=
  if output ≠ [] then connection.enqueue output false else connection

/-- The answer is queued, then the handlers of its effects run. -/
def answerRequest (connection : ClientConnection) (framer : RequestFramer)
    (answer : DispatchAnswer) : ClientConnection :=
  answer.calls.foldl call
    { connection.queueAnswer answer.output with
      requestFramer := some (connection.framerAfter framer) }

/-- A complete request goes to the dispatcher.  The flag says whether the turn
goes on. -/
def dispatchRequest (turn : Turn) (framer : RequestFramer) : Turn × Bool :=
  let connection := turn.connection.numberRequest framer
  let budget := turn.budget.record framer.request.bytes.length
  let answer := turn.answers.headD {}
  let answers := turn.answers.tail
  if answer.output ≠ [] ∧ !connection.hasRoom answer.output then
    ({ connection := connection.closeWithLog, budget, answers }, false)
  else
    let answered := connection.answerRequest framer answer
    if answer.handoffFailed ∨ answer.closeClient then
      ({ connection := answered.closeWithLog, budget, answers }, false)
    else
      ({ connection := { answered with
           requestFramer := some (connection.framerAfter framer).reset },
         budget, answers }, true)

/-- The input waits for a later turn. -/
def keepPending (connection : ClientConnection) (input : List UInt8) :
    ClientConnection :=
  { connection with pendingInput := connection.pendingInput ++ input }

/-- A round of the input loop before the setup is complete: the connection
after it, and the input it leaves if the loop goes on. -/
def setupRound (connection : ClientConnection) (input : List UInt8) :
    ClientConnection × Option (List UInt8) :=
  let consumed := connection.setupParser.consume input
  let parsed := { connection with setupParser := consumed.1 }
  match consumed.1.status with
  | .needMore => (parsed, some consumed.2)
  | .complete => (parsed.prepareSetupReply, some consumed.2)
  | _ => (parsed.closeWithLog, none)

/-- A round of the input loop that looks for a request. -/
def requestRound (turn : Turn) (framer : RequestFramer) (input : List UInt8) :
    Turn × Option (List UInt8) :=
  let consumed := framer.consume input
  let framed :=
    { turn.connection with requestFramer := some consumed.1 }
  match consumed.1.status with
  | .needMore => ({ turn with connection := framed }, some consumed.2)
  | .complete =>
      let dispatched :=
        dispatchRequest { turn with connection := framed } consumed.1
      (dispatched.1, if dispatched.2 then some consumed.2 else none)
  | .zeroLength =>
      ({ turn with connection :=
          framed.rejectFraming .badLength .zeroLength }, none)
  | .tooLarge =>
      ({ turn with connection :=
          framed.rejectFraming .badLength .tooLarge }, none)
  | .truncatedInput => ({ turn with connection := framed.closeWithLog }, none)

/-- A round of the input loop. -/
def processRound (turn : Turn) (input : List UInt8) :
    Turn × Option (List UInt8) :=
  let connection := turn.connection
  if input = [] ∨ !connection.live ∨ connection.dispatchBlocked then
    (if connection.dispatchBlocked then
      { turn with connection := connection.keepPending input }
    else turn, none)
  else if connection.state = .awaitingSetup then
    let parsed := connection.setupRound input
    ({ turn with connection := parsed.1 }, parsed.2)
  else if !turn.budget.available then
    ({ turn with connection := connection.keepPending input }, none)
  else
    match connection.requestFramer with
    | none => (turn, none)
    | some framer => requestRound turn framer input

/-- Every round takes a byte, so one round more than there are bytes is
enough. -/
def processLoop : Nat → Turn → List UInt8 → Turn
  | 0, turn, _ => turn
  | fuel + 1, turn, input =>
      match processRound turn input with
      | (next, none) => next
      | (next, some rest) => processLoop fuel next rest

def processInput (turn : Turn) (input : List UInt8) : Turn :=
  processLoop (input.length + 1) turn input

def processPending (turn : Turn) : Turn :=
  if turn.connection.pendingInput = [] then turn
  else
    processInput
      { turn with connection := { turn.connection with pendingInput := [] } }
      turn.connection.pendingInput

/-- A complete or malformed request has been received and not looked at. -/
def holdsRequest (connection : ClientConnection) : Bool :=
  match connection.state, connection.requestFramer with
  | .awaitingSetup, _ =>
      !(nextSetup (connection.setupParser.bytes ++
        connection.pendingInput)).isIncomplete
  | .established, some framer =>
      !(framer.rules.nextRequest (framer.request.bytes ++
        connection.pendingInput)).isIncomplete
  | _, _ => false

/-- The peer's end of stream or hang-up is met. -/
def meetEnd (connection : ClientConnection) : ClientConnection :=
  { connection with
    trace := { connection.trace with
      ended := connection.trace.ended || connection.live
      cutOff := connection.trace.cutOff || connection.holdsRequest } }

def endOfStream (connection : ClientConnection) : ClientConnection :=
  if connection.state = .awaitingSetup then connection.closeWithLog
  else
    match connection.state, connection.requestFramer with
    | .established, some framer =>
        if framer.eof = .truncatedInput then connection.closeWithLog
        else connection.closeAfterOutput
    | _, _ => connection.closeAfterOutput

/-- Bytes arrive. -/
def receive (connection : ClientConnection) (bytes : List UInt8) :
    ClientConnection :=
  { connection with
    trace := { connection.trace with
      received := connection.trace.received ++ bytes } }

def readLoop : List Receive → Turn → Turn
  | [], turn => turn
  | .data first rest :: more, turn =>
      let turn := processInput
        { turn with connection := turn.connection.receive (first :: rest) }
        (first :: rest)
      if !turn.connection.live ∨ turn.connection.needsService ∨
          !turn.budget.available then
        turn
      else readLoop more turn
  | .endOfStream :: _, turn =>
      { turn with connection := turn.connection.meetEnd.endOfStream }
  | .interrupted :: more, turn => readLoop more turn
  | .again :: _, turn => turn
  | .failed :: _, turn =>
      { turn with connection := turn.connection.closeWithLog }

def readInput (connection : ClientConnection) (receives : List Receive)
    (answers : List DispatchAnswer) : ClientConnection :=
  let turn := processPending { connection, answers }
  if turn.connection.needsService ∨ !turn.connection.live then turn.connection
  else (readLoop receives turn).connection

/-! ## Service -/

/-- Packets that are sent whole leave the queue. -/
def popFinished (connection : ClientConnection) :
    List OutputPacket → ClientConnection
  | [] => { connection with outputQueue := [] }
  | packet :: rest =>
      if packet.offset < packet.bytes.length then
        { connection with outputQueue := packet :: rest }
      else if packet.closeAfter then connection.closeWithLog
      else connection.popFinished rest

/-- The socket took some bytes of the first packet. -/
def advance (connection : ClientConnection) (count : Nat) : ClientConnection :=
  match connection.outputQueue with
  | [] => connection
  | packet :: rest =>
      { connection with
        queuedOutputBytes := connection.queuedOutputBytes - count
        outputQueue := { packet with offset := packet.offset + count } :: rest }

/-- The bytes of the first packet that are not sent yet. -/
def unsentOfFirst (connection : ClientConnection) : Nat :=
  match connection.outputQueue with
  | [] => 0
  | packet :: _ => packet.bytes.length - packet.offset

def writeLoop : List Send → ClientConnection → ClientConnection
  | [], connection => connection.popFinished connection.outputQueue
  | send :: more, connection =>
      let connection := connection.popFinished connection.outputQueue
      if connection.outputQueue = [] then connection
      else
        match send with
        | .sent count =>
            let taken := min count connection.unsentOfFirst
            if taken = 0 then connection.closeWithLog
            else writeLoop more (connection.advance taken)
        | .interrupted => writeLoop more connection
        | .again => connection
        | .failed => connection.closeWithLog

/-- Input is read when there is some and the connection takes it. -/
def serve (connection : ClientConnection) (events : PollEvents)
    (receives : List Receive) (answers : List DispatchAnswer) :
    ClientConnection :=
  if connection.needsService ||
      ((events.input || events.hangup) &&
        (connection.state == .awaitingSetup ||
          (connection.state == .established &&
            !connection.dispatchBlocked))) then
    connection.readInput receives answers
  else connection

def handleEvents (connection : ClientConnection) (events : PollEvents)
    (receives : List Receive) (answers : List DispatchAnswer)
    (sends : List Send) : ClientConnection :=
  if events.error then connection.closeWithLog
  else if connection.dispatchBlocked && events.hangup then
    connection.meetEnd.markTransportClosed
  else
    let served := connection.serve events receives answers
    if events.output && served.state != .closing then writeLoop sends served
    else served

end ClientConnection

/-- What happens to a connection between two looks at it. -/
inductive ConnectionEvent
  | call (call : ConnectionCall)
  | poll (events : PollEvents) (receives : List Receive)
      (answers : List DispatchAnswer) (sends : List Send)
  | resizeScreen (width height widthMillimeters heightMillimeters : Nat)
deriving DecidableEq, Repr

def ClientConnection.step (connection : ClientConnection) :
    ConnectionEvent → ClientConnection
  | .call call => connection.call call
  | .poll events receives answers sends =>
      connection.handleEvents events receives answers sends
  | .resizeScreen width height widthMillimeters heightMillimeters =>
      { connection with screen := { connection.screen with
        widthPixels := width
        heightPixels := height
        widthMillimeters := widthMillimeters
        heightMillimeters := heightMillimeters } }

end Glasswyrm.Server
