import Glasswyrm.X11.Request

namespace Glasswyrm.X11

open Library

/-! The request that opens a connection, and the replies to it. -/

def protocolMajor : Nat := 11
def protocolMinor : Nat := 0
def setupRequestHeaderSize : Nat := 12
def defaultMaximumSetupSize : Nat := 4096

structure SetupRequest where
  byteOrder : ByteOrder := .littleEndian
  protocolMajor : Nat := 0
  protocolMinor : Nat := 0
  authorizationName : List UInt8 := []
  authorizationData : List UInt8 := []
deriving DecidableEq, Repr

inductive ParseStatus
  | needMore
  | complete
  | invalidByteOrder
  | messageTooLarge
  | truncatedInput
deriving DecidableEq, Repr

structure SetupParser where
  maximumSize : Nat := defaultMaximumSetupSize
  expectedSize : Nat := setupRequestHeaderSize
  authorizationNameSize : Nat := 0
  authorizationNamePaddedSize : Nat := 0
  authorizationDataSize : Nat := 0
  status : ParseStatus := .needMore
  request : SetupRequest := {}
  bytes : List UInt8 := []
deriving DecidableEq, Repr

/-- The size filled up to a multiple of four. -/
def alignUp (size : Nat) : Nat := (size + 3) / 4 * 4

structure SetupHeader where
  major : Nat
  minor : Nat
  nameSize : Nat
  dataSize : Nat
deriving DecidableEq, Repr

/-- The size of the setup request with this header. -/
def SetupHeader.totalSize (header : SetupHeader) : Nat :=
  setupRequestHeaderSize + alignUp header.nameSize + alignUp header.dataSize

def readSetupHeader (order : ByteOrder) (bytes : List UInt8) :
    Option SetupHeader := do
  let major ← order.read 2 (bytes.drop 2)
  let minor ← order.read 2 (bytes.drop 4)
  let nameSize ← order.read 2 (bytes.drop 6)
  let dataSize ← order.read 2 (bytes.drop 8)
  if bytes.length < setupRequestHeaderSize then none
  else some { major, minor, nameSize, dataSize }

namespace SetupParser

def inspectHeader (parser : SetupParser) : SetupParser :=
  match readSetupHeader parser.request.byteOrder parser.bytes with
  | none => { parser with status := .truncatedInput }
  | some header =>
      let parser := { parser with
        request := { parser.request with
          protocolMajor := header.major
          protocolMinor := header.minor }
        authorizationNameSize := header.nameSize
        authorizationDataSize := header.dataSize
        authorizationNamePaddedSize := alignUp header.nameSize }
      if header.totalSize > parser.maximumSize then
        { parser with status := .messageTooLarge }
      else { parser with expectedSize := header.totalSize }

def finishRequest (parser : SetupParser) : SetupParser :=
  let nameOffset := setupRequestHeaderSize
  let dataOffset := nameOffset + parser.authorizationNamePaddedSize
  { parser with request := { parser.request with
    authorizationName :=
      (parser.bytes.drop nameOffset).take parser.authorizationNameSize
    authorizationData :=
      (parser.bytes.drop dataOffset).take parser.authorizationDataSize } }

/-- The first byte is the byte-order marker. -/
def takeMarker (parser : SetupParser) (input : List UInt8) :
    SetupParser × List UInt8 :=
  match parser.bytes, input with
  | [], marker :: rest =>
      let parser := { parser with bytes := [marker] }
      match ByteOrder.fromMarker marker with
      | none => ({ parser with status := .invalidByteOrder }, rest)
      | some order =>
          ({ parser with request := { parser.request with
            byteOrder := order } }, rest)
  | _, _ => (parser, input)

def checkHeader (parser : SetupParser) : SetupParser :=
  if parser.bytes.length = setupRequestHeaderSize ∧
      parser.expectedSize = setupRequestHeaderSize then
    parser.inspectHeader
  else parser

def checkComplete (parser : SetupParser) : SetupParser :=
  if parser.status = .needMore ∧
      parser.bytes.length = parser.expectedSize then
    { parser.finishRequest with status := .complete }
  else parser

/-- The bytes up to the expected size. -/
def fillBytes (parser : SetupParser) (input : List UInt8) :
    SetupParser × List UInt8 :=
  let needed := parser.expectedSize - parser.bytes.length
  let filled := { parser with bytes := parser.bytes ++ input.take needed }
  (filled.checkHeader.checkComplete, input.drop needed)

/-- One turn of the loop of `consume`. -/
def fill (parser : SetupParser) (input : List UInt8) :
    SetupParser × List UInt8 :=
  let marked := parser.takeMarker input
  if marked.1.status ≠ .needMore then marked else marked.1.fillBytes marked.2

def consumeLoop : Nat → SetupParser → List UInt8 → SetupParser × List UInt8
  | 0, parser, input => (parser, input)
  | fuel + 1, parser, input =>
      if input = [] ∨ parser.status ≠ .needMore then (parser, input)
      else consumeLoop fuel (parser.fill input).1 (parser.fill input).2

/-- The parser after some input, and what of the input is left over. -/
def consume (parser : SetupParser) (input : List UInt8) :
    SetupParser × List UInt8 :=
  consumeLoop input.length parser input

end SetupParser

inductive SetupDecision
  | accepted
  | unsupportedVersion
  | unsupportedAuthorization
deriving DecidableEq, Repr

def evaluateSetupRequest (request : SetupRequest) : SetupDecision :=
  if request.protocolMajor ≠ protocolMajor ∨
      request.protocolMinor ≠ protocolMinor then
    .unsupportedVersion
  else if request.authorizationName ≠ [] ∨ request.authorizationData ≠ [] then
    .unsupportedAuthorization
  else .accepted

/-! ## The replies -/

structure ScreenModel where
  rootWindow : Nat := 1
  defaultColormap : Nat := 2
  rootVisual : Nat := 3
  rootDepth : Nat := 24
  widthPixels : Nat := 1024
  heightPixels : Nat := 768
  widthMillimeters : Nat := 270
  heightMillimeters : Nat := 203
  redMask : Nat := 0x00ff0000
  greenMask : Nat := 0x0000ff00
  blueMask : Nat := 0x000000ff
  maximumRequestLength : Nat := 65535
  resourceIdMask : Nat := 0x001fffff
deriving DecidableEq, Repr

structure SetupReplyConfig where
  resourceIdBase : Nat := 0x00400000
  resourceIdMask : Nat := 0x001fffff
  screen : ScreenModel := {}
  gameCompat : Bool := false
deriving DecidableEq, Repr

/-- The fields of a packet, each a width and a value, in a byte order. -/
def ByteOrder.writeFields (order : ByteOrder) (fields : List (Nat × Nat)) :
    List UInt8 :=
  fields.flatMap fun (width, value) => order.write width value

/-- A text of one-byte characters. -/
def textBytes (text : String) : List UInt8 :=
  text.toList.map fun character => UInt8.ofNat character.toNat

def vendor : List UInt8 := textBytes "Glasswyrm Milestone 1"

def paddingFor (size : Nat) : Nat := (4 - size % 4) % 4

/-- A pixmap format of the setup reply: depth, bits per pixel, scanline pad. -/
def pixmapFormat (depth bitsPerPixel : Nat) : List (Nat × Nat) :=
  [(1, depth), (1, bitsPerPixel), (1, 32)] ++ List.replicate 5 (1, 0)

/-- A depth of the screen without visuals. -/
def emptyDepth (depth : Nat) : List (Nat × Nat) :=
  [(1, depth), (1, 0), (2, 0)] ++ List.replicate 4 (1, 0)

def encodeSetupSuccess (order : ByteOrder) (config : SetupReplyConfig) :
    List UInt8 :=
  let screen := config.screen
  let body :=
    order.writeFields
        ([(4, 1), (4, config.resourceIdBase), (4, config.resourceIdMask),
          (4, 0), (2, vendor.length), (2, screen.maximumRequestLength), (1, 1),
          (1, if config.gameCompat then 4 else 2), (1, 0), (1, 0), (1, 32),
          (1, 32), (1, 8), (1, 255)] ++ List.replicate 4 (1, 0)) ++
      vendor ++ List.replicate (paddingFor vendor.length) 0 ++
      order.writeFields
        (pixmapFormat 1 1 ++
          (if config.gameCompat then pixmapFormat 8 8 else []) ++
          pixmapFormat 24 32 ++
          (if config.gameCompat then pixmapFormat 32 32 else []) ++
          [(4, screen.rootWindow), (4, screen.defaultColormap),
            (4, 0x00ffffff), (4, 0), (4, 0), (2, screen.widthPixels),
            (2, screen.heightPixels), (2, screen.widthMillimeters),
            (2, screen.heightMillimeters), (2, 1), (2, 1),
            (4, screen.rootVisual), (1, 0), (1, 0), (1, screen.rootDepth),
            (1, if config.gameCompat then 4 else 2),
            (1, screen.rootDepth), (1, 0), (2, 1)] ++
          List.replicate 4 (1, 0) ++
          [(4, screen.rootVisual), (1, 4), (1, 8), (2, 256),
            (4, screen.redMask), (4, screen.greenMask),
            (4, screen.blueMask)] ++ List.replicate 4 (1, 0) ++
          emptyDepth 1 ++
          (if config.gameCompat then emptyDepth 8 ++ emptyDepth 32 else []))
  order.writeFields [(1, 1), (1, 0), (2, protocolMajor), (2, protocolMinor),
    (2, body.length / 4)] ++ body

def encodeSetupFailure (order : ByteOrder) (reason : List UInt8) : List UInt8 :=
  let padding := paddingFor reason.length
  order.writeFields [(1, 0), (1, reason.length), (2, protocolMajor),
      (2, protocolMinor), (2, (reason.length + padding) / 4)] ++
    reason ++ List.replicate padding 0

inductive CoreErrorCode
  | badLength
deriving DecidableEq, Repr

def CoreErrorCode.value : CoreErrorCode → Nat
  | .badLength => 16

structure CoreError where
  code : CoreErrorCode
  sequence : Nat
  badValue : Nat
  majorOpcode : UInt8
  minorOpcode : Nat

def encodeCoreError (order : ByteOrder) (error : CoreError) : List UInt8 :=
  order.writeFields ([(1, 0), (1, error.code.value), (2, error.sequence),
    (4, error.badValue), (2, error.minorOpcode),
    (1, error.majorOpcode.toNat)] ++ List.replicate 21 (1, 0))

/-! ## The setup request of a stream -/

/-- The setup request that these bytes are. -/
def SetupHeader.request (header : SetupHeader) (order : ByteOrder)
    (bytes : List UInt8) : SetupRequest where
  byteOrder := order
  protocolMajor := header.major
  protocolMinor := header.minor
  authorizationName := (bytes.drop setupRequestHeaderSize).take header.nameSize
  authorizationData :=
    (bytes.drop (setupRequestHeaderSize + alignUp header.nameSize)).take
      header.dataSize

/-- The setup request at the head of a stream, its byte order known. -/
def nextSetupIn (order : ByteOrder) (stream : List UInt8) :
    Next UInt8 SetupRequest ParseStatus :=
  match readSetupHeader order stream with
  | none => .incomplete
  | some header =>
      if header.totalSize > defaultMaximumSetupSize then
        .malformed .messageTooLarge
      else if stream.length < header.totalSize then .incomplete
      else
        .frame (header.request order (stream.take header.totalSize))
          (stream.drop header.totalSize)

/-- The setup request at the head of a stream. -/
def nextSetup (stream : List UInt8) : Next UInt8 SetupRequest ParseStatus :=
  match stream with
  | [] => .incomplete
  | marker :: _ =>
      match ByteOrder.fromMarker marker with
      | none => .malformed .invalidByteOrder
      | some order => nextSetupIn order stream

end Glasswyrm.X11
