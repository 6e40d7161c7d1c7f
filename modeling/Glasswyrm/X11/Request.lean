import Glasswyrm.Library.Framing
import Glasswyrm.X11.ByteOrder

namespace Glasswyrm.X11

open Library

/-! Requests cut out of the bytes that a client sends.  The framer keeps the
bytes of one unfinished request and is given more of them at a time. -/

def coreRequestHeaderSize : Nat := 4
def bigRequestHeaderSize : Nat := 8
def maximumCoreRequestLengthUnits : Nat := 65535
def maximumBigRequestLengthUnits : Nat := 4194304

structure FramedRequest where
  opcode : UInt8 := 0
  data : UInt8 := 0
  lengthUnits : Nat := 0
  headerSize : Nat := coreRequestHeaderSize
  bytes : List UInt8 := []
deriving DecidableEq, Repr

/-- The size the request would have with an ordinary header. -/
def FramedRequest.coreSize (request : FramedRequest) : Nat :=
  request.bytes.length - request.headerSize + coreRequestHeaderSize

inductive RequestFrameStatus
  | needMore
  | complete
  | zeroLength
  | tooLarge
  | truncatedInput
deriving DecidableEq, Repr

structure RequestFramer where
  order : ByteOrder
  maximumLengthUnits : Nat := maximumCoreRequestLengthUnits
  maximumBigLengthUnits : Nat := maximumBigRequestLengthUnits
  bigRequestsEnabled : Bool := false
  expectedSize : Nat := coreRequestHeaderSize
  status : RequestFrameStatus := .needMore
  request : FramedRequest := {}
deriving DecidableEq, Repr

namespace RequestFramer

def inspectHeader (framer : RequestFramer) : RequestFramer :=
  let request := { framer.request with
    opcode := framer.request.bytes.getD 0 0
    data := framer.request.bytes.getD 1 0 }
  match framer.order.read 2 (framer.request.bytes.drop 2) with
  | none => { framer with request, status := .truncatedInput }
  | some units =>
      let request := { request with lengthUnits := units }
      if units = 0 then
        if !framer.bigRequestsEnabled then
          { framer with request, status := .zeroLength }
        else
          { framer with
            request := { request with headerSize := bigRequestHeaderSize }
            expectedSize := bigRequestHeaderSize }
      else if units > framer.maximumLengthUnits then
        { framer with request, status := .tooLarge }
      else { framer with request, expectedSize := units * 4 }

def inspectExtendedHeader (framer : RequestFramer) : RequestFramer :=
  match framer.order.read 4 (framer.request.bytes.drop 4) with
  | none => { framer with status := .truncatedInput }
  | some units =>
      let request := { framer.request with lengthUnits := units }
      if units < 2 ∨ units > framer.maximumBigLengthUnits then
        { framer with request, status := .tooLarge }
      else { framer with request, expectedSize := units * 4 }

/-- The same framer holding other bytes. -/
def withBytes (framer : RequestFramer) (bytes : List UInt8) : RequestFramer :=
  { framer with request := { framer.request with bytes := bytes } }

def checkHeader (framer : RequestFramer) : RequestFramer :=
  if framer.request.bytes.length = coreRequestHeaderSize ∧
      framer.expectedSize = coreRequestHeaderSize then
    framer.inspectHeader
  else framer

def checkExtendedHeader (framer : RequestFramer) : RequestFramer :=
  if framer.status = .needMore ∧
      framer.request.headerSize = bigRequestHeaderSize ∧
      framer.request.bytes.length = bigRequestHeaderSize ∧
      framer.expectedSize = bigRequestHeaderSize then
    framer.inspectExtendedHeader
  else framer

def checkComplete (framer : RequestFramer) : RequestFramer :=
  if framer.status = .needMore ∧
      framer.request.bytes.length = framer.expectedSize then
    { framer with status := .complete }
  else framer

/-- One turn of the loop of `consume`. -/
def fill (framer : RequestFramer) (input : List UInt8) :
    RequestFramer × List UInt8 :=
  let needed := framer.expectedSize - framer.request.bytes.length
  let filled := framer.withBytes (framer.request.bytes ++ input.take needed)
  (filled.checkHeader.checkExtendedHeader.checkComplete, input.drop needed)

def consumeLoop : Nat → RequestFramer → List UInt8 → RequestFramer × List UInt8
  | 0, framer, input => (framer, input)
  | fuel + 1, framer, input =>
      if input = [] ∨ framer.status ≠ .needMore then (framer, input)
      else consumeLoop fuel (framer.fill input).1 (framer.fill input).2

/-- The framer after some input, and what of the input is left over.  Every
turn takes a byte, so there are no more turns than bytes. -/
def consume (framer : RequestFramer) (input : List UInt8) :
    RequestFramer × List UInt8 :=
  consumeLoop input.length framer input

def eof (framer : RequestFramer) : RequestFrameStatus :=
  if framer.status = .needMore ∧ framer.request.bytes ≠ [] then
    .truncatedInput
  else framer.status

def reset (framer : RequestFramer) : RequestFramer :=
  { framer with
    expectedSize := coreRequestHeaderSize
    status := .needMore
    request := {} }

def enableBigRequests (framer : RequestFramer) : RequestFramer :=
  { framer with
    bigRequestsEnabled := true
    maximumBigLengthUnits := maximumBigRequestLengthUnits }

end RequestFramer

/-! ## The requests of a stream -/

/-- What decides how a request is cut. -/
structure RequestRules where
  order : ByteOrder
  maximumLengthUnits : Nat
  bigRequests : Bool
deriving DecidableEq, Repr

namespace RequestRules

variable (rules : RequestRules)

def coreUnits (stream : List UInt8) : Nat :=
  (rules.order.read 2 (stream.drop 2)).getD 0

def bigUnits (stream : List UInt8) : Nat :=
  (rules.order.read 4 (stream.drop 4)).getD 0

/-- The request with an ordinary header that these bytes are. -/
def coreRequest (bytes : List UInt8) : FramedRequest where
  opcode := bytes.getD 0 0
  data := bytes.getD 1 0
  lengthUnits := rules.coreUnits bytes
  bytes := bytes

/-- The request with an extended header that these bytes are. -/
def bigRequest (bytes : List UInt8) : FramedRequest where
  opcode := bytes.getD 0 0
  data := bytes.getD 1 0
  lengthUnits := rules.bigUnits bytes
  headerSize := bigRequestHeaderSize
  bytes := bytes

/-- The request at the head of a stream. -/
def nextRequest (stream : List UInt8) :
    Next UInt8 FramedRequest RequestFrameStatus :=
  if stream.length < coreRequestHeaderSize then .incomplete
  else if rules.coreUnits stream = 0 then
    if !rules.bigRequests then .malformed .zeroLength
    else if stream.length < bigRequestHeaderSize then .incomplete
    else if rules.bigUnits stream < 2 ∨
        rules.bigUnits stream > maximumBigRequestLengthUnits then
      .malformed .tooLarge
    else if stream.length < rules.bigUnits stream * 4 then .incomplete
    else .frame (rules.bigRequest (stream.take (rules.bigUnits stream * 4)))
      (stream.drop (rules.bigUnits stream * 4))
  else if rules.coreUnits stream > rules.maximumLengthUnits then
    .malformed .tooLarge
  else if stream.length < rules.coreUnits stream * 4 then .incomplete
  else .frame (rules.coreRequest (stream.take (rules.coreUnits stream * 4)))
    (stream.drop (rules.coreUnits stream * 4))

variable {rules} {bytes stream : List UInt8}

theorem coreUnits_append (long : coreRequestHeaderSize ≤ bytes.length)
    (more : List UInt8) :
    rules.coreUnits (bytes ++ more) = rules.coreUnits bytes := by
  have enough : 4 ≤ bytes.length := long
  rw [coreUnits, coreUnits, List.drop_append_of_le_length (by omega),
    ByteOrder.read_append (by rw [List.length_drop]; omega)]

theorem bigUnits_append (long : bigRequestHeaderSize ≤ bytes.length)
    (more : List UInt8) :
    rules.bigUnits (bytes ++ more) = rules.bigUnits bytes := by
  have enough : 8 ≤ bytes.length := long
  rw [bigUnits, bigUnits, List.drop_append_of_le_length (by omega),
    ByteOrder.read_append (by rw [List.length_drop]; omega)]

theorem getD_append {index : Nat} (here : index < bytes.length)
    (more : List UInt8) :
    (bytes ++ more).getD index 0 = bytes.getD index 0 := by
  rw [List.getD_eq_getElem?_getD, List.getD_eq_getElem?_getD,
    List.getElem?_append_left here]

theorem coreRequest_append (long : coreRequestHeaderSize ≤ bytes.length)
    (more : List UInt8) :
    rules.coreRequest (bytes ++ more) =
      { rules.coreRequest bytes with bytes := bytes ++ more } := by
  have enough : 4 ≤ bytes.length := long
  simp only [coreRequest, coreUnits_append long,
    getD_append (by omega : 0 < bytes.length),
    getD_append (by omega : 1 < bytes.length)]

theorem bigRequest_append (long : bigRequestHeaderSize ≤ bytes.length)
    (more : List UInt8) :
    rules.bigRequest (bytes ++ more) =
      { rules.bigRequest bytes with bytes := bytes ++ more } := by
  have enough : 8 ≤ bytes.length := long
  simp only [bigRequest, bigUnits_append long,
    getD_append (by omega : 0 < bytes.length),
    getD_append (by omega : 1 < bytes.length)]

variable (rules) in
/-- The framer that cuts by these rules. -/
def framer (expectedSize : Nat) (request : FramedRequest) : RequestFramer where
  order := rules.order
  maximumLengthUnits := rules.maximumLengthUnits
  bigRequestsEnabled := rules.bigRequests
  expectedSize := expectedSize
  request := request

end RequestRules

/-- The rules that a framer cuts by. -/
def RequestFramer.rules (framer : RequestFramer) : RequestRules where
  order := framer.order
  maximumLengthUnits := framer.maximumLengthUnits
  bigRequests := framer.bigRequestsEnabled

end Glasswyrm.X11
