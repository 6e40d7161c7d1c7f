import Glasswyrm.Server.ClientConnection
import Glasswyrm.X11.RequestFraming
import Glasswyrm.X11.SetupFraming

namespace Glasswyrm.Server

open Library X11

/-! What a client's byte stream says by itself, before any connection has read
it: the setup request, then requests, the rules of which may change with the
request that enables BIG-REQUESTS. -/

inductive StreamPhase
  | setup
  | requests (rules : RequestRules)
  | refused
deriving DecidableEq, Repr

inductive StreamItem
  | setup (request : SetupRequest)
  | request (request : FramedRequest)
deriving DecidableEq, Repr

inductive StreamError
  | setup (status : ParseStatus)
  | request (status : RequestFrameStatus)
deriving DecidableEq, Repr

def nextItem : StreamPhase → List UInt8 → Next UInt8 StreamItem StreamError
  | .setup, stream => (nextSetup stream).map .setup .setup
  | .requests rules, stream =>
      (rules.nextRequest stream).map .request .request
  | .refused, _ => .incomplete

/-- The rules after a request. -/
def ConnectionConfig.rulesAfter (config : ConnectionConfig)
    (rules : RequestRules) (request : FramedRequest) : RequestRules :=
  { rules with
    bigRequests := rules.bigRequests || config.enablesBigRequests request }

/-- The phase after a setup request, whose requests have at most `limit`
units. -/
def phaseAfterSetup (limit : Nat) (request : SetupRequest) : StreamPhase :=
  match evaluateSetupRequest request with
  | .accepted =>
      .requests
        { order := request.byteOrder
          maximumLengthUnits := limit
          bigRequests := false }
  | _ => .refused

def advanceItem (config : ConnectionConfig) (limit : Nat) :
    StreamPhase → StreamItem → StreamPhase
  | .setup, .setup request => phaseAfterSetup limit request
  | .requests rules, .request request =>
      .requests (config.rulesAfter rules request)
  | phase, _ => phase

variable {phase : StreamPhase} {stream rest : List UInt8} {item : StreamItem}
  {error : StreamError}

theorem nextItem_shorter (found : nextItem phase stream = .frame item rest) :
    rest.length < stream.length := by
  cases phase with
  | setup =>
      obtain ⟨request, setup, _⟩ := Next.map_eq_frame.mp found
      exact nextSetup_shorter setup
  | requests rules =>
      obtain ⟨request, framed, _⟩ := Next.map_eq_frame.mp found
      exact RequestRules.nextRequest_shorter framed
  | refused => cases found

theorem nextItem_frame_append
    (found : nextItem phase stream = .frame item rest) (more : List UInt8) :
    nextItem phase (stream ++ more) = .frame item (rest ++ more) := by
  cases phase with
  | setup =>
      obtain ⟨request, setup, same⟩ := Next.map_eq_frame.mp found
      exact Next.map_eq_frame.mpr
        ⟨request, nextSetup_frame_append setup more, same⟩
  | requests rules =>
      obtain ⟨request, framed, same⟩ := Next.map_eq_frame.mp found
      exact Next.map_eq_frame.mpr
        ⟨request, RequestRules.nextRequest_frame_append framed more, same⟩
  | refused => cases found

theorem nextItem_malformed_append
    (found : nextItem phase stream = .malformed error) (more : List UInt8) :
    nextItem phase (stream ++ more) = .malformed error := by
  cases phase with
  | setup =>
      obtain ⟨status, setup, same⟩ := Next.map_eq_malformed.mp found
      exact Next.map_eq_malformed.mpr
        ⟨status, nextSetup_malformed_append setup more, same⟩
  | requests rules =>
      obtain ⟨status, framed, same⟩ := Next.map_eq_malformed.mp found
      exact Next.map_eq_malformed.mpr
        ⟨status, RequestRules.nextRequest_malformed_append framed more, same⟩
  | refused => cases found

/-- The framing of a client's stream. -/
def clientFraming (config : ConnectionConfig) (limit : Nat) :
    Framing StreamPhase UInt8 StreamItem StreamError where
  next := nextItem
  advance := advanceItem config limit
  shorter := nextItem_shorter
  frame_append := nextItem_frame_append
  malformed_append := nextItem_malformed_append

def StreamItem.request? : StreamItem → Option FramedRequest
  | .setup _ => none
  | .request framed => some framed

/-- Requests with their sequence numbers, the first of which is one. -/
def numbered (items : List StreamItem) : List DispatchedRequest :=
  (items.filterMap StreamItem.request?).mapIdx fun index request =>
    { sequence := index + 1, request }

theorem numbered_setup (items : List StreamItem) (request : SetupRequest) :
    numbered (items ++ [.setup request]) = numbered items := by
  have none_more : [StreamItem.setup request].filterMap StreamItem.request? =
      [] := rfl
  rw [numbered, List.filterMap_append, none_more, List.append_nil]
  rfl

theorem numbered_request (items : List StreamItem) (request : FramedRequest) :
    numbered (items ++ [.request request]) =
      numbered items ++
        [{ sequence := (numbered items).length + 1, request }] := by
  simp [numbered, StreamItem.request?, List.mapIdx_append]

theorem numbered_begins (first second : List StreamItem) :
    numbered first <+: numbered (first ++ second) := by
  rw [numbered, numbered, List.filterMap_append, List.mapIdx_append]
  exact List.prefix_append _ _

/-- The requests of a stream. -/
def requestsOf (config : ConnectionConfig) (limit : Nat)
    (stream : List UInt8) : List DispatchedRequest :=
  numbered ((clientFraming config limit).split .setup stream).1

/-- Requests that have been read are the first of the stream. -/
theorem requestsOf_begins {config : ConnectionConfig} {limit : Nat}
    {items : List StreamItem}
    (reads : Reads (clientFraming config limit) .setup stream items phase
      rest) :
    numbered items <+: requestsOf config limit stream := by
  rw [requestsOf, reads.split_eq]
  exact numbered_begins _ _

/-- Where the requests of a stream end. -/
def endingOf (config : ConnectionConfig) (limit : Nat)
    (stream : List UInt8) : Ending StreamPhase UInt8 StreamError :=
  ((clientFraming config limit).split .setup stream).2

/-- A stream that comes to an error comes to it whatever follows. -/
theorem malformed_extends {config : ConnectionConfig} {limit : Nat}
    (ending : endingOf config limit stream = .malformed phase error)
    (more : List UInt8) :
    requestsOf config limit (stream ++ more) = requestsOf config limit stream ∧
      endingOf config limit (stream ++ more) = .malformed phase error := by
  have split : (clientFraming config limit).split .setup (stream ++ more) = _ :=
    Framing.split_malformed_append (Prod.ext rfl ending) more
  constructor
  · rw [requestsOf, split, requestsOf]
  · rw [endingOf, split]

/-- A client that is refused says nothing more. -/
theorem refused_extends {config : ConnectionConfig} {limit : Nat}
    (ending : endingOf config limit stream = .incomplete .refused rest)
    (more : List UInt8) :
    requestsOf config limit (stream ++ more) = requestsOf config limit stream ∧
      endingOf config limit (stream ++ more) =
        .incomplete .refused (rest ++ more) := by
  have split : (clientFraming config limit).split .setup (stream ++ more) = _ :=
    Framing.split_incomplete_append (Prod.ext rfl ending) more
  have nothing : (clientFraming config limit).split .refused (rest ++ more) =
      ([], .incomplete .refused (rest ++ more)) :=
    Framing.split_incomplete rfl
  rw [nothing, List.append_nil] at split
  constructor
  · rw [requestsOf, split, requestsOf]
  · rw [endingOf, split]

/-- The framing errors of a stream: none, or the one at which its requests
end. -/
def framingErrorsOf (config : ConnectionConfig) (limit : Nat)
    (stream : List UInt8) : List FramingError :=
  match endingOf config limit stream with
  | .malformed _ (.request status) =>
      [{ sequence := (requestsOf config limit stream).length + 1, status }]
  | _ => []

end Glasswyrm.Server
