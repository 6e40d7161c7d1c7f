import Glasswyrm.Server.ClientOutput
import Glasswyrm.Server.ClientStream
import Glasswyrm.Server.ConnectionEnd

namespace Glasswyrm.Server

open Library X11
open ClientConnection (Turn dispatchRequest requestRound processRound
  processLoop processInput processPending readLoop)

/-! The requests that reach the dispatcher are those of the byte stream,
whatever the chunks, the work budget and the blocking of the dispatcher. -/

variable {config : ConnectionConfig} {limit : Nat} {severed : Prop}
  {connection : ClientConnection} {input partly rest : List UInt8}
  {items : List StreamItem} {phase : StreamPhase}

/-- All requests of what was received are dispatched, and what follows them is
no complete request and no error. -/
def CaughtUp (config : ConnectionConfig) (limit : Nat)
    (trace : ConnectionTrace) : Prop :=
  trace.requests = requestsOf config limit trace.received ∧
    trace.framingErrors = [] ∧
    ∃ phase rest,
      endingOf config limit trace.received = .incomplete phase rest

/-- The error that stands after all requests of what was received. -/
def Reported (config : ConnectionConfig) (limit : Nat)
    (trace : ConnectionTrace) (error : FramingError) : Prop :=
  trace.requests = requestsOf config limit trace.received ∧
    error.sequence = trace.requests.length + 1 ∧
    ∃ phase, endingOf config limit trace.received =
      .malformed phase (.request error.status)

/-- How the client's bytes or their end conclude a connection. -/
inductive StreamEnded (config : ConnectionConfig) (limit : Nat)
    (trace : ConnectionTrace) : Prop
  | setupMalformed (status : ParseStatus)
      (requests : trace.requests = requestsOf config limit trace.received)
      (errors : trace.framingErrors = [])
      (ending : endingOf config limit trace.received =
        .malformed .setup (.setup status))
  | setupRefused (rest : List UInt8)
      (requests : trace.requests = requestsOf config limit trace.received)
      (errors : trace.framingErrors = [])
      (ending : endingOf config limit trace.received =
        .incomplete .refused rest)
  | requestMalformed (error : FramingError)
      (errors : trace.framingErrors = [error])
  | endMet (met : trace.ended = true)

/-- What a connection that reads no more has dispatched and reported, and why
it reads no more. -/
structure Concluded (config : ConnectionConfig) (limit : Nat)
    (severed : Prop) (trace : ConnectionTrace) : Prop where
  dispatched : trace.requests <+: requestsOf config limit trace.received
  ended : trace.ended = true → trace.cutOff = false →
    CaughtUp config limit trace
  reported : ∀ error ∈ trace.framingErrors, Reported config limit trace error
  named : severed ∨ StreamEnded config limit trace

/-- What has been read so far, and that nothing else has happened. -/
structure Tracked (config : ConnectionConfig) (limit : Nat)
    (trace : ConnectionTrace) (items : List StreamItem) (phase : StreamPhase)
    (rest : List UInt8) : Prop where
  reads : Reads (clientFraming config limit) .setup trace.received items phase
    rest
  requests : trace.requests = numbered items
  errors : trace.framingErrors = []
  ended : trace.ended = false

/-- The connection holds these bytes of what it reads in this phase. -/
inductive Holding (connection : ClientConnection) :
    StreamPhase → List UInt8 → Prop
  | setup {partly : List UInt8}
      (awaiting : connection.state = .awaitingSetup)
      (reading : SetupReading partly connection.setupParser) :
      Holding connection .setup partly
  | requests {rules : RequestRules} {framer : RequestFramer}
      {partly : List UInt8}
      (established : connection.state = .established)
      (held : connection.requestFramer = some framer)
      (reading : Reading rules partly framer) :
      Holding connection (.requests rules) partly

/-- Where a live connection stands in the stream, with some input that it has
not looked at. -/
inductive Standing (config : ConnectionConfig) (limit : Nat)
    (connection : ClientConnection) (input : List UInt8) : Prop
  | at (items : List StreamItem) (phase : StreamPhase) (partly : List UInt8)
      (tracked : Tracked config limit connection.trace items phase
        (partly ++ (connection.pendingInput ++ input)))
      (holding : Holding connection phase partly)
      (sequence : connection.requestSequence = (numbered items).length)

/-- The invariant of a connection, with some input that it has not looked
at. -/
structure Following (config : ConnectionConfig) (limit : Nat)
    (severed : Prop) (connection : ClientConnection) (input : List UInt8) :
    Prop where
  configured : connection.config = config
  limited : connection.screen.maximumRequestLength = limit
  standing : connection.live = true → Standing config limit connection input
  concluded : connection.live = false →
    Concluded config limit severed connection.trace

/-- All is dispatched when what is left is no complete frame. -/
theorem Tracked.caughtUp {trace : ConnectionTrace}
    (tracked : Tracked config limit trace items phase rest)
    (incomplete : nextItem phase rest = .incomplete) :
    CaughtUp config limit trace := by
  have all := tracked.reads.all_read incomplete
  refine ⟨?_, tracked.errors, phase, rest, ?_⟩
  · rw [requestsOf, all, tracked.requests]
  · rw [endingOf, all]

/-- Nothing is read after a setup request that is refused. -/
theorem Tracked.refused {trace : ConnectionTrace}
    (tracked : Tracked config limit trace items .refused rest) :
    StreamEnded config limit trace := by
  have all := tracked.reads.all_read rfl
  refine .setupRefused rest ?_ tracked.errors ?_
  · rw [requestsOf, all, tracked.requests]
  · rw [endingOf, all]

theorem Tracked.setupMalformed {trace : ConnectionTrace}
    {status : ParseStatus}
    (tracked : Tracked config limit trace items .setup rest)
    (malformed : nextItem .setup rest = .malformed (.setup status)) :
    StreamEnded config limit trace := by
  have whole := tracked.reads.malformed malformed
  refine .setupMalformed status ?_ tracked.errors ?_
  · rw [requestsOf, whole, tracked.requests]
  · rw [endingOf, whole]

theorem Tracked.concluded {trace : ConnectionTrace}
    (tracked : Tracked config limit trace items phase rest)
    (named : severed ∨ StreamEnded config limit trace) :
    Concluded config limit severed trace where
  dispatched := by
    rw [tracked.requests]
    exact requestsOf_begins tracked.reads
  ended := fun ended => by
    rw [tracked.ended] at ended
    cases ended
  reported := fun error member => by
    rw [tracked.errors] at member
    cases member
  named := named

theorem Holding.live (holding : Holding connection phase partly) :
    connection.live = true := by
  cases holding with
  | setup awaiting _ =>
      rw [ClientConnection.live, awaiting]
      rfl
  | requests established _ _ =>
      rw [ClientConnection.live, established]
      rfl

/-- A live connection that is severed has concluded where it stood. -/
theorem Following.close {after : ClientConnection}
    (following : Following config limit severed connection input)
    (alive : connection.live = true) (cause : severed)
    (dead : after.live = false)
    (trace : after.trace = connection.trace)
    (configured : after.config = connection.config)
    (screen : after.screen = connection.screen) (more : List UInt8) :
    Following config limit severed after more := by
  obtain ⟨items, phase, partly, tracked, holding, sequence⟩ :=
    following.standing alive
  exact
    { configured := configured.trans following.configured
      limited := by rw [screen, following.limited]
      standing := fun live => by
        rw [dead] at live
        cases live
      concluded := fun _ => trace ▸ tracked.concluded (.inl cause) }

theorem Holding.called {after : ClientConnection}
    (holding : Holding connection phase partly)
    (state : after.state = connection.state)
    (parser : after.setupParser = connection.setupParser)
    (framer : after.requestFramer = connection.requestFramer) :
    Holding after phase partly := by
  cases holding with
  | setup awaiting reading =>
      exact .setup (state.trans awaiting) (parser ▸ reading)
  | requests established held reading =>
      exact .requests (state.trans established) (framer.trans held) reading

theorem Following.called {after : ClientConnection}
    (following : Following config limit severed connection input)
    (called : Called severed connection after) :
    Following config limit severed after input := by
  rcases called.state with ⟨state, pending⟩ | ⟨closed, _, cause⟩
  · have same := live_of_state state
    refine
      { configured := called.config.trans following.configured
        limited := by rw [called.screen, following.limited]
        standing := fun live => ?_
        concluded := fun dead => ?_ }
    · obtain ⟨items, phase, partly, tracked, holding, sequence⟩ :=
        following.standing (same ▸ live)
      refine ⟨items, phase, partly, ?_,
        holding.called state called.parser called.framer,
        called.sequence.trans sequence⟩
      rw [called.trace, pending]
      exact tracked
    · rw [called.trace]
      exact following.concluded (same ▸ dead)
  · cases alive : connection.live with
    | true =>
        exact following.close alive (cause alive) (dead_of_closing closed)
          called.trace called.config called.screen input
    | false =>
        refine
          { configured := called.config.trans following.configured
            limited := by rw [called.screen, following.limited]
            standing := fun live => ?_
            concluded := fun _ => ?_ }
        · rw [dead_of_closing closed] at live
          cases live
        · rw [called.trace]
          exact following.concluded alive

/-! ## The input loop -/

/-- Input that waits is still to be looked at. -/
theorem Following.keepPending
    (following : Following config limit severed connection input) :
    Following config limit severed (connection.keepPending input) [] where
  configured := following.configured
  limited := following.limited
  standing := fun live => by
    obtain ⟨items, phase, partly, tracked, holding, sequence⟩ :=
      following.standing live
    refine ⟨items, phase, partly, ?_, holding.called rfl rfl rfl, sequence⟩
    rw [List.append_nil]
    exact tracked
  concluded := following.concluded

/-- Two traces that tell the same of the stream. -/
structure SameStream (before after : ConnectionTrace) : Prop where
  received : after.received = before.received
  requests : after.requests = before.requests
  errors : after.framingErrors = before.framingErrors
  ended : after.ended = before.ended

theorem Tracked.same {before after : ConnectionTrace}
    (tracked : Tracked config limit before items phase rest)
    (same : SameStream before after) :
    Tracked config limit after items phase rest where
  reads := by
    rw [same.received]
    exact tracked.reads
  requests := same.requests.trans tracked.requests
  errors := same.errors.trans tracked.errors
  ended := same.ended.trans tracked.ended

/-- A packet of the connection's own changes nothing but the output and the
state. -/
theorem enqueueThenAssign_spec (bytes : List UInt8) (closeAfter : Bool)
    (state : ConnectionState) (nothing : connection.pendingInput = []) :
    let answered := connection.enqueueThenAssign bytes closeAfter state
    SameStream connection.trace answered.trace ∧
      answered.state = state ∧ answered.pendingInput = [] ∧
      answered.config = connection.config ∧
      answered.screen = connection.screen ∧
      answered.requestSequence = connection.requestSequence := by
  have called : Called True connection
      (connection.enqueue bytes closeAfter) := .enqueue fun _ _ => trivial
  have pending : (connection.enqueue bytes closeAfter).pendingInput = [] := by
    rcases called.state with ⟨_, kept⟩ | ⟨_, cleared, _⟩
    · rw [kept, nothing]
    · exact cleared
  have trace := called.trace
  refine ⟨?_, rfl, pending, called.config, called.screen, called.sequence⟩
  simp only [ClientConnection.enqueueThenAssign, trace]
  exact ⟨rfl, rfl, rfl, rfl⟩

/-- The setup request is answered, and its answer decides how to go on. -/
theorem prepareSetupReply_following
    (configured : connection.config = config)
    (limited : connection.screen.maximumRequestLength = limit)
    (nothing : connection.pendingInput = [])
    (tracked : Tracked config limit connection.trace items
      (phaseAfterSetup limit connection.setupParser.request) rest)
    (sequence : connection.requestSequence = (numbered items).length) :
    Following config limit severed connection.prepareSetupReply rest ∧
      connection.prepareSetupReply.pendingInput = [] := by
  have refused : ∀ bytes, ∀ order,
      phaseAfterSetup limit connection.setupParser.request = .refused →
      Following config limit severed
        (ClientConnection.enqueueThenAssign
          { connection with byteOrder := order } bytes true .rejecting) rest ∧
        (ClientConnection.enqueueThenAssign
          { connection with byteOrder := order }
            bytes true .rejecting).pendingInput = [] := by
    intro bytes order refusal
    rw [refusal] at tracked
    obtain ⟨same, state, pending, config_eq, screen_eq, _⟩ :=
      @enqueueThenAssign_spec { connection with byteOrder := order } bytes true
        .rejecting nothing
    refine ⟨?_, pending⟩
    exact
      { configured := config_eq.trans configured
        limited := by rw [screen_eq, limited]
        standing := fun live => by
          rw [ClientConnection.live, state] at live
          cases live
        concluded := fun _ =>
          (tracked.same same).concluded (.inr (tracked.same same).refused) }
  simp only [ClientConnection.prepareSetupReply]
  cases decision : evaluateSetupRequest connection.setupParser.request with
  | accepted =>
      simp only
      obtain ⟨same, state, pending, config_eq, screen_eq, sequence_eq⟩ :=
        @enqueueThenAssign_spec { connection with
          byteOrder := connection.setupParser.request.byteOrder }
          (encodeSetupSuccess connection.setupParser.request.byteOrder
            { resourceIdBase := connection.config.resourceIdBase
              resourceIdMask := connection.screen.resourceIdMask
              screen := connection.screen
              gameCompat := connection.config.gameCompat }) false .established
          nothing
      refine ⟨?_, pending⟩
      refine
        { configured := config_eq.trans configured
          limited := by rw [screen_eq, limited]
          standing := fun _ => ?_
          concluded := fun dead => ?_ }
      · rw [phaseAfterSetup, decision] at tracked
        refine ⟨items, .requests
          { order := connection.setupParser.request.byteOrder
            maximumLengthUnits := limit
            bigRequests := false }, [], ?_, ?_, sequence_eq.trans sequence⟩
        · have moved := tracked.same same
          rw [← List.nil_append rest, ← List.nil_append ([] ++ rest)] at moved
          exact pending ▸ moved
        · subst limited
          apply Holding.requests
          · exact state
          · rfl
          · exact .fresh
      · rw [ClientConnection.live, state] at dead
        cases dead
  | unsupportedVersion => exact refused _ _ (by rw [phaseAfterSetup, decision])
  | unsupportedAuthorization =>
      exact refused _ _ (by rw [phaseAfterSetup, decision])

/-- Input waits only behind a block or for the next turn. -/
def Quiet (connection : ClientConnection) : Prop :=
  connection.live = true → connection.dispatchBlocked = false →
    connection.pendingInput = [] ∨ connection.state = .established

theorem quiet_of_dead (dead : connection.live = false) : Quiet connection := by
  intro live
  rw [dead] at live
  cases live

/-- The connection after a round, and what the loop goes on with. -/
structure Rounded (config : ConnectionConfig) (limit : Nat)
    (severed : Prop) (input : List UInt8) (connection : ClientConnection)
    (more : Option (List UInt8)) : Prop where
  following : Following config limit severed connection (more.getD [])
  empty : more.isSome → connection.pendingInput = []
  shorter : ∀ rest ∈ more, rest.length < input.length
  quiet : more.isNone → Quiet connection

/-- A connection that is not live any more has concluded. -/
theorem following_dead (configured : connection.config = config)
    (limited : connection.screen.maximumRequestLength = limit)
    (dead : connection.live = false)
    (concluded : Concluded config limit severed connection.trace)
    (input : List UInt8) : Following config limit severed connection input where
  configured := configured
  limited := limited
  standing := fun live => by
    rw [dead] at live
    cases live
  concluded := fun _ => concluded

theorem setupRound_rounded
    (following : Following config limit severed connection input)
    (awaiting : connection.state = .awaitingSetup)
    (nothing : connection.pendingInput = []) (more : input ≠ []) :
    Rounded config limit severed input (connection.setupRound input).1
      (connection.setupRound input).2 := by
  have alive : connection.live = true := by
    rw [ClientConnection.live, awaiting]
    rfl
  obtain ⟨items, phase, partly, tracked, holding, sequence⟩ :=
    following.standing alive
  rw [nothing, List.nil_append] at tracked
  cases holding with
  | requests established _ _ =>
      rw [awaiting] at established
      cases established
  | setup _ reading =>
      have shorter := setupConsume_shorter reading more
      have framed := setupConsume_framed reading input
      generalize outcome : connection.setupParser.consume input = consumed
        at framed shorter
      simp only [ClientConnection.setupRound, outcome]
      cases framed with
      | reading unfinished =>
          rw [unfinished.status]
          refine
            { following := ?_
              empty := fun _ => nothing
              shorter := fun rest member => ?_
              quiet := fun none_more => by cases none_more }
          · exact
              { configured := following.configured
                limited := following.limited
                standing := fun _ => ⟨items, .setup, _,
                  by rwa [nothing, List.nil_append, Option.getD_some,
                    List.append_nil],
                  .setup awaiting unfinished, sequence⟩
                concluded := fun dead => by
                  have same : connection.live = false := dead
                  rw [alive] at same
                  cases same }
          · obtain rfl := Option.mem_some_iff.mp member
            exact shorter
      | @complete parser rest found done =>
          rw [done]
          have item : nextItem .setup (partly ++ input) =
              .frame (.setup parser.request) rest :=
            Next.map_eq_frame.mpr ⟨_, found, rfl⟩
          have tracked_more : Tracked config limit connection.trace
              (items ++ [.setup parser.request])
              (phaseAfterSetup limit parser.request) rest :=
            { reads := tracked.reads.read item
              requests := tracked.requests.trans (numbered_setup _ _).symm
              errors := tracked.errors
              ended := tracked.ended }
          have sequence_same : connection.requestSequence =
              (numbered (items ++ [.setup parser.request])).length := by
            rw [numbered_setup]
            exact sequence
          obtain ⟨answered, pending⟩ := @prepareSetupReply_following
            config limit severed { connection with setupParser := parser } rest _
            following.configured following.limited nothing tracked_more
            sequence_same
          refine
            { following := answered
              empty := fun _ => pending
              shorter := fun rest member => ?_
              quiet := fun none_more => by cases none_more }
          obtain rfl := Option.mem_some_iff.mp member
          exact shorter
      | malformed found known rest =>
          obtain ⟨status, item⟩ : ∃ status,
              nextItem .setup (partly ++ input) = .malformed (.setup status) :=
            ⟨_, Next.map_eq_malformed.mpr ⟨_, found, rfl⟩⟩
          have closed : ∀ parser, Rounded config limit severed input
              ({ connection with setupParser := parser } :
                ClientConnection).closeWithLog none := by
            intro parser
            refine
              { following := ?_
                empty := fun some_more => by cases some_more
                shorter := fun rest member => by cases member
                quiet := fun _ => quiet_of_dead rfl }
            apply following_dead
            · exact following.configured
            · exact following.limited
            · rfl
            · exact tracked.concluded (.inr (tracked.setupMalformed item))
          rcases known with invalid | large
          · rw [invalid]
            exact closed _
          · rw [large]
            exact closed _

/-- The framer after a request has been dispatched. -/
theorem framer_reset {rules : RequestRules} {size : Nat}
    {request : FramedRequest} (configured : connection.config = config) :
    (connection.framerAfter
      { rules.framer size request with status := .complete }).reset =
      (config.rulesAfter rules request).framer coreRequestHeaderSize {} := by
  rw [ClientConnection.framerAfter, ConnectionConfig.rulesAfter, configured]
  cases enables : config.enablesBigRequests request with
  | false =>
      simp [RequestRules.framer, RequestFramer.reset, enables]
  | true =>
      simp [RequestRules.framer, RequestFramer.reset,
        RequestFramer.enableBigRequests, enables]

/-- An answered request, whatever its handlers ask for. -/
structure Answered (config : ConnectionConfig) (limit : Nat) (severed : Prop)
    (sequence : Nat) (trace : ConnectionTrace)
    (connection : ClientConnection) : Prop where
  configured : connection.config = config
  limited : connection.screen.maximumRequestLength = limit
  sequence : connection.requestSequence = sequence
  trace : connection.trace = trace
  state : connection.state = .established ∨
    connection.state = .closing ∧ severed
  nothing : connection.pendingInput = []

theorem Called.answered {after : ClientConnection}
    (called : Called severed connection after)
    (configured : connection.config = config)
    (limited : connection.screen.maximumRequestLength = limit)
    (established : connection.state = .established)
    (nothing : connection.pendingInput = []) :
    Answered config limit severed connection.requestSequence connection.trace
      after where
  configured := called.config.trans configured
  limited := by rw [called.screen, limited]
  sequence := called.sequence
  trace := called.trace
  state := by
    rcases called.state with ⟨same, _⟩ | ⟨closed, _, cause⟩
    · exact .inl (same.trans established)
    · exact .inr ⟨closed, cause (live_of_established established)⟩
  nothing := by
    rcases called.state with ⟨_, kept⟩ | ⟨_, cleared, _⟩
    · exact kept.trans nothing
    · exact cleared

/-- An answered request leaves the framer ready for the next one. -/
theorem Answered.following {sequence : Nat} {trace : ConnectionTrace}
    {rules : RequestRules}
    (answered : Answered config limit severed sequence trace connection)
    (tracked : Tracked config limit trace items (.requests rules) rest)
    (counted : sequence = (numbered items).length) :
    Following config limit severed
      { connection with
        requestFramer := some (rules.framer coreRequestHeaderSize {}) }
      rest where
  configured := answered.configured
  limited := answered.limited
  concluded := fun dead => by
    rcases answered.state with still | ⟨_, cause⟩
    · have same : connection.live = false := dead
      rw [live_of_established still] at same
      cases same
    · exact answered.trace ▸ tracked.concluded (.inl cause)
  standing := fun live => by
    rcases answered.state with still | ⟨closed, _⟩
    · refine .at items _ [] ?_ (.requests still rfl .fresh)
        (answered.sequence.trans counted)
      simp only [answered.trace, answered.nothing, List.nil_append]
      exact tracked
    · have dead : connection.live = true := live
      rw [dead_of_closing closed] at dead
      cases dead

theorem dispatchRequest_following {turn : Turn} {framer : RequestFramer}
    {rules : RequestRules}
    (weighed : Weighed severed turn.connection turn.answers)
    (configured : turn.connection.config = config)
    (limited : turn.connection.screen.maximumRequestLength = limit)
    (established : turn.connection.state = .established)
    (nothing : turn.connection.pendingInput = [])
    (sequence : turn.connection.requestSequence + 1 =
      (numbered items).length)
    (tracked : Tracked config limit
      (turn.connection.numberRequest framer).trace items (.requests rules) rest)
    (reset : ((turn.connection.numberRequest framer).framerAfter framer).reset =
      rules.framer coreRequestHeaderSize {}) :
    ((dispatchRequest turn framer).2 = true →
        Following config limit severed
            (dispatchRequest turn framer).1.connection rest ∧
          (dispatchRequest turn framer).1.connection.pendingInput = []) ∧
      ((dispatchRequest turn framer).2 = false →
        Following config limit severed
            (dispatchRequest turn framer).1.connection [] ∧
          (dispatchRequest turn framer).1.connection.live = false) := by
  have alive := live_of_established established
  have roomy := weighed.roomy alive
  have called : Called severed _ _ :=
    @answerRequest_called severed (turn.connection.numberRequest framer)
      framer (turn.answers.headD {}) (fun _ => roomy)
      (fun member => weighed.head (DispatchAnswer.ends_iff.mpr (.inr member)))
  have answered : Answered config limit severed _ _
      ((turn.connection.numberRequest framer).answerRequest framer
        (turn.answers.headD {})) :=
    called.answered configured limited established nothing
  simp only [dispatchRequest]
  split
  · next full =>
    refine ⟨Bool.noConfusion, fun _ => ⟨?_, rfl⟩⟩
    apply following_dead
    · exact configured
    · exact limited
    · rfl
    · refine tracked.concluded (.inl (roomy ?_))
      have crowded := full.2
      rw [Bool.not_eq_true', ClientConnection.hasRoom,
        decide_eq_false_iff_not] at crowded
      have counted :
          (turn.connection.numberRequest framer).queuedOutputBytes =
            turn.connection.queuedOutputBytes := rfl
      rw [DispatchAnswer.offered]
      omega
  · split
    · next ends =>
      refine ⟨Bool.noConfusion, fun _ => ⟨?_, rfl⟩⟩
      apply following_dead
      · exact answered.configured
      · exact answered.limited
      · rfl
      · have cause := weighed.head (DispatchAnswer.ends_iff.mpr (.inl ends))
        exact answered.trace ▸ tracked.concluded (.inl cause)
    · refine ⟨fun _ => ⟨?_, answered.nothing⟩, Bool.noConfusion⟩
      rw [reset]
      exact answered.following tracked sequence

/-- A malformed request is reported after all requests before it. -/
theorem rejectFraming_following {status : RequestFrameStatus}
    (configured : connection.config = config)
    (limited : connection.screen.maximumRequestLength = limit)
    (nothing : connection.pendingInput = [])
    (tracked : Tracked config limit connection.trace items phase rest)
    (malformed : nextItem phase rest = .malformed (.request status))
    (sequence : connection.requestSequence = (numbered items).length) :
    Following config limit severed
      (connection.rejectFraming .badLength status) [] := by
  let counted : ClientConnection := { connection with
    requestSequence := connection.requestSequence + 1
    trace := connection.trace.reject
      { sequence := connection.requestSequence + 1, status } }
  obtain ⟨majorOpcode, rejected⟩ : ∃ majorOpcode : UInt8,
      connection.rejectFraming .badLength status =
        { counted.enqueueThenAssign (encodeCoreError connection.byteOrder
            { code := .badLength, sequence := connection.requestSequence + 1
              badValue := 0, majorOpcode, minorOpcode := 0 }) true
            .rejecting with pendingInput := [] } := ⟨_, rfl⟩
  obtain ⟨same, state, _, config_same, screen_same, _⟩ :=
    @enqueueThenAssign_spec counted (encodeCoreError connection.byteOrder
      { code := .badLength, sequence := connection.requestSequence + 1
        badValue := 0, majorOpcode, minorOpcode := 0 }) true .rejecting nothing
  generalize connection.rejectFraming .badLength status = final at rejected ⊢
  have whole := tracked.reads.malformed malformed
  have all : connection.trace.requests =
      requestsOf config limit connection.trace.received := by
    rw [requestsOf, whole, tracked.requests]
  apply following_dead
  · rw [rejected]
    exact config_same.trans configured
  · rw [rejected]
    exact (congrArg ScreenModel.maximumRequestLength screen_same).trans limited
  · rw [rejected]
    rfl
  · have requests : final.trace.requests = connection.trace.requests := by
      rw [rejected]
      exact same.requests
    have received : final.trace.received = connection.trace.received := by
      rw [rejected]
      exact same.received
    have ended : final.trace.ended = false := by
      rw [rejected]
      exact same.ended.trans tracked.ended
    have errors : final.trace.framingErrors =
        [{ sequence := connection.requestSequence + 1, status }] := by
      rw [rejected]
      refine same.errors.trans ?_
      simp only [counted, ConnectionTrace.reject, tracked.errors,
        List.nil_append]
    refine
      { dispatched := ?_
        ended := fun ending => ?_
        reported := fun error member => ?_
        named := .inr (.requestMalformed _ errors) }
    · apply List.prefix_iff_eq_take.mpr
      rw [requests, received, all, List.take_length]
    · rw [ended] at ending
      cases ending
    · rw [errors, List.mem_singleton] at member
      subst member
      refine ⟨by rw [requests, received, all], ?_, phase, ?_⟩
      · rw [requests, tracked.requests, sequence]
      · rw [received, endingOf, whole]

theorem requestRound_rounded {turn : Turn} {framer : RequestFramer}
    (following : Following config limit severed turn.connection input)
    (weighed : Weighed severed turn.connection turn.answers)
    (established : turn.connection.state = .established)
    (held : turn.connection.requestFramer = some framer)
    (nothing : turn.connection.pendingInput = []) (more : input ≠ []) :
    Rounded config limit severed input
      (requestRound turn framer input).1.connection
      (requestRound turn framer input).2 := by
  have alive : turn.connection.live = true := by
    rw [ClientConnection.live, established]
    rfl
  obtain ⟨items, phase, partly, tracked, holding, sequence⟩ :=
    following.standing alive
  rw [nothing, List.nil_append] at tracked
  cases holding with
  | setup awaiting _ =>
      rw [established] at awaiting
      cases awaiting
  | @requests rules other _ _ also reading =>
      rw [held] at also
      obtain rfl := Option.some.inj also
      have shorter := consume_shorter reading more
      have framed := consume_framed reading input
      generalize outcome : framer.consume input = consumed at framed shorter
      simp only [requestRound, outcome]
      cases framed with
      | reading unfinished =>
          rw [unfinished.status]
          refine
            { following := ?_
              empty := fun _ => nothing
              shorter := fun rest member => ?_
              quiet := fun none_more => by cases none_more }
          · exact
              { configured := following.configured
                limited := following.limited
                standing := fun _ => ⟨items, .requests rules, _,
                  by rwa [nothing, List.nil_append, Option.getD_some,
                    List.append_nil],
                  .requests established rfl unfinished, sequence⟩
                concluded := fun dead => by
                  have same : turn.connection.live = false := dead
                  rw [alive] at same
                  cases same }
          · obtain rfl := Option.mem_some_iff.mp member
            exact shorter
      | @complete request rest found size =>
          have item : nextItem (.requests rules) (partly ++ input) =
              .frame (.request request) rest :=
            Next.map_eq_frame.mpr ⟨_, found, rfl⟩
          have counted : turn.connection.requestSequence + 1 =
              (numbered (items ++ [.request request])).length := by
            rw [numbered_request, List.length_append, List.length_singleton,
              sequence]
          have tracked_more : Tracked config limit
              (turn.connection.trace.dispatch
                { sequence := turn.connection.requestSequence + 1, request })
              (items ++ [.request request])
              (.requests (config.rulesAfter rules request)) rest :=
            { reads := tracked.reads.read item
              requests := by
                rw [numbered_request, ← sequence, ← tracked.requests]
                rfl
              errors := tracked.errors
              ended := tracked.ended }
          have dispatched := @dispatchRequest_following config limit severed rest
            (items ++ [StreamItem.request request]) { turn with
              connection := { turn.connection with
                requestFramer := some
                  { rules.framer size request with status := .complete } } }
            { rules.framer size request with status := .complete }
            (config.rulesAfter rules request)
            ⟨weighed.room, weighed.answers⟩ following.configured
            following.limited established nothing counted tracked_more
            (framer_reset following.configured)
          generalize dispatchRequest _ _ = result at dispatched
          simp only
          cases going : result.2 with
          | false =>
              exact
                { following := (dispatched.2 going).1
                  empty := fun some_more => by cases some_more
                  shorter := fun rest member => by cases member
                  quiet := fun _ => quiet_of_dead (dispatched.2 going).2 }
          | true =>
              refine
                { following := (dispatched.1 going).1
                  empty := fun _ => (dispatched.1 going).2
                  shorter := fun rest member => ?_
                  quiet := fun none_more => by cases none_more }
              obtain rfl := Option.mem_some_iff.mp member
              exact shorter
      | malformed found known size request rest =>
          have rejected : ∀ status framer,
              rules.nextRequest (partly ++ input) = .malformed status →
              Rounded config limit severed input
                (ClientConnection.rejectFraming { turn.connection with
                  requestFramer := some framer } .badLength status) none := by
            intro status framer stopped
            have item : nextItem (.requests rules) (partly ++ input) =
                .malformed (.request status) :=
              Next.map_eq_malformed.mpr ⟨_, stopped, rfl⟩
            have reported := @rejectFraming_following config limit severed
              { turn.connection with requestFramer := some framer } _ items _
              status following.configured following.limited nothing tracked
              item sequence
            exact
              { following := reported
                empty := fun some_more => by cases some_more
                shorter := fun rest member => by cases member
                quiet := fun _ => quiet_of_dead rfl }
          rcases known with rfl | rfl
          · exact rejected _ _ found
          · exact rejected _ _ found

theorem processRound_rounded {turn : Turn}
    (following : Following config limit severed turn.connection input)
    (weighed : Weighed severed turn.connection turn.answers)
    (waiting : turn.connection.dispatchBlocked = false →
      turn.connection.pendingInput = []) :
    Rounded config limit severed input (processRound turn input).1.connection
      (processRound turn input).2 := by
  simp only [processRound]
  split
  · next stopped =>
    split
    · next blocked =>
      exact
        { following := following.keepPending
          empty := fun some_more => by cases some_more
          shorter := fun rest member => by cases member
          quiet := fun _ _ free => by
            have same : turn.connection.dispatchBlocked = false := free
            rw [blocked] at same
            cases same }
    · next free =>
      rw [Bool.not_eq_true] at free
      have left : Following config limit severed turn.connection [] := by
        cases alive : turn.connection.live with
        | true =>
            rcases stopped with rfl | dead | blocked
            · exact following
            · rw [alive] at dead
              cases dead
            · rw [free] at blocked
              cases blocked
        | false =>
            exact following_dead following.configured following.limited alive
              (following.concluded alive) []
      exact
        { following := left
          empty := fun some_more => by cases some_more
          shorter := fun rest member => by cases member
          quiet := fun _ _ _ => .inl (waiting free) }
  · next going =>
    rw [not_or, not_or, Bool.not_eq_true, Bool.not_eq_true] at going
    obtain ⟨more, dead, free⟩ := going
    have alive : turn.connection.live = true := by simpa using dead
    have nothing := waiting free
    split
    · next awaiting => exact setupRound_rounded following awaiting nothing more
    · next later =>
      have established : turn.connection.state = .established := by
        rw [ClientConnection.live, Bool.or_eq_true, beq_iff_eq,
          beq_iff_eq] at alive
        exact alive.resolve_left later
      split
      · exact
          { following := following.keepPending
            empty := fun some_more => by cases some_more
            shorter := fun rest member => by cases member
            quiet := fun _ _ _ => .inr established }
      · obtain ⟨_, _, _, _, holding, _⟩ := following.standing alive
        cases holding with
        | setup awaiting _ => exact absurd awaiting later
        | requests _ held _ =>
            rw [held]
            exact requestRound_rounded following weighed established held nothing
              more

/-- The rounds follow the stream, by induction on them. -/
theorem processLoop_following {fuel : Nat} {turn : Turn}
    (following : Following config limit severed turn.connection input)
    (weighed : Weighed severed turn.connection turn.answers)
    (waiting : turn.connection.dispatchBlocked = false →
      turn.connection.pendingInput = [])
    (enough : input.length < fuel) :
    Following config limit severed (processLoop fuel turn input).connection [] ∧
      Quiet (processLoop fuel turn input).connection := by
  induction fuel generalizing turn input with
  | zero => cases enough
  | succ fuel ih =>
      have rounded := processRound_rounded following weighed waiting
      have still := @processRound_weighed severed input turn weighed
      rw [processLoop]
      split
      · next next stopped =>
        rw [stopped] at rounded
        exact ⟨rounded.following, rounded.quiet rfl⟩
      · next next rest more =>
        rw [more] at rounded still
        have shorter := rounded.shorter rest rfl
        exact ih rounded.following still (fun _ => rounded.empty rfl) (by omega)

theorem processPending_following {turn : Turn}
    (following : Following config limit severed turn.connection [])
    (weighed : Weighed severed turn.connection turn.answers) :
    Following config limit severed (processPending turn).connection [] ∧
      Quiet (processPending turn).connection := by
  rw [processPending]
  split
  · next nothing => exact ⟨following, fun _ _ => .inl nothing⟩
  · refine processLoop_following ?_ ⟨weighed.room, weighed.answers⟩
      (fun _ => rfl) (Nat.lt_succ_self _)
    exact
      { configured := following.configured
        limited := following.limited
        standing := fun live => by
          obtain ⟨items, phase, partly, tracked, holding, sequence⟩ :=
            following.standing live
          refine ⟨items, phase, partly, ?_, holding.called rfl rfl rfl,
            sequence⟩
          rw [List.append_nil] at tracked
          exact tracked
        concluded := following.concluded }

/-! ## Reading -/

/-- No request is held exactly if what waits is no complete frame. -/
theorem Holding.incomplete (holding : Holding connection phase partly)
    (none_held : connection.holdsRequest = false) :
    nextItem phase (partly ++ connection.pendingInput) = .incomplete := by
  cases holding with
  | setup awaiting reading =>
      simp only [ClientConnection.holdsRequest, awaiting, reading.bytes_eq,
        Bool.not_eq_false'] at none_held
      rw [nextItem]
      cases next : nextSetup (partly ++ connection.pendingInput) with
      | incomplete => rfl
      | frame value rest =>
          rw [next] at none_held
          cases none_held
      | malformed error =>
          rw [next] at none_held
          cases none_held
  | @requests rules framer _ established held reading =>
      simp only [ClientConnection.holdsRequest, established, held,
        reading.rules_eq, reading.bytes_eq, Bool.not_eq_false'] at none_held
      rw [nextItem]
      cases next : rules.nextRequest (partly ++ connection.pendingInput) with
      | incomplete => rfl
      | frame value rest =>
          rw [next] at none_held
          cases none_held
      | malformed error =>
          rw [next] at none_held
          cases none_held

/-- The end of the stream concludes the connection, and cuts nothing off
unless a request is held. -/
theorem meetEnd_concluded
    (following : Following config limit severed connection []) :
    Concluded config limit severed connection.meetEnd.trace := by
  cases alive : connection.live with
  | true =>
      obtain ⟨items, phase, partly, tracked, holding, sequence⟩ :=
        following.standing alive
      rw [List.append_nil] at tracked
      have met : connection.meetEnd.trace.ended = true := by
        simp [ClientConnection.meetEnd, alive]
      refine
        { dispatched := ?_
          ended := fun _ uncut => ?_
          reported := fun error member => ?_
          named := .inr (.endMet met) }
      · exact (tracked.concluded (.inl trivial)).dispatched
      · have none_held : connection.holdsRequest = false :=
          (Bool.or_eq_false_iff.mp uncut).2
        exact tracked.caughtUp (holding.incomplete none_held)
      · exact (tracked.concluded (.inl trivial)).reported error member
  | false =>
      have concluded := following.concluded alive
      have same : connection.meetEnd.trace.ended = connection.trace.ended := by
        simp [ClientConnection.meetEnd, alive]
      refine
        { dispatched := concluded.dispatched
          ended := fun ending uncut => ?_
          reported := concluded.reported
          named := concluded.named.imp_right fun stream => ?_ }
      · exact concluded.ended (same ▸ ending) (Bool.or_eq_false_iff.mp uncut).1
      · cases stream with
        | setupMalformed status requests errors ending =>
            exact .setupMalformed status requests errors ending
        | setupRefused rest requests errors ending =>
            exact .setupRefused rest requests errors ending
        | requestMalformed error errors => exact .requestMalformed error errors
        | endMet met => exact .endMet (same.trans met)

theorem endOfStream_following
    (following : Following config limit severed connection []) :
    Following config limit severed connection.meetEnd.endOfStream [] := by
  have concluded := meetEnd_concluded following
  have closed : Following config limit severed
      connection.meetEnd.closeWithLog [] := by
    apply following_dead
    · exact following.configured
    · exact following.limited
    · rfl
    · exact concluded
  have closing : Following config limit severed
      connection.meetEnd.closeAfterOutput [] := by
    rw [ClientConnection.closeAfterOutput]
    split
    · apply following_dead
      · exact following.configured
      · exact following.limited
      · rfl
      · exact concluded
    · apply following_dead
      · exact following.configured
      · exact following.limited
      · rfl
      · exact concluded
  rw [ClientConnection.endOfStream]
  split
  · exact closed
  · split
    · split
      · exact closed
      · exact closing
    · exact closing

theorem receive_following
    (following : Following config limit severed connection [])
    (alive : connection.live = true) (bytes : List UInt8) :
    Following config limit severed (connection.receive bytes) bytes where
  configured := following.configured
  limited := following.limited
  standing := fun _ => by
    obtain ⟨items, phase, partly, tracked, holding, sequence⟩ :=
      following.standing alive
    refine ⟨items, phase, partly, ?_, holding.called rfl rfl rfl, sequence⟩
    have extended := tracked.reads.extend bytes
    rw [List.append_nil, List.append_assoc] at extended
    exact
      { reads := extended
        requests := tracked.requests
        errors := tracked.errors
        ended := tracked.ended }
  concluded := fun dead => by
    have same : connection.live = false := dead
    rw [alive] at same
    cases same

/-- Nothing waits for service when the connection takes input. -/
theorem waiting_of_quiet (quiet : Quiet connection)
    (alive : connection.live = true)
    (idle : connection.needsService = false) :
    connection.dispatchBlocked = false → connection.pendingInput = [] := by
  intro free
  rcases quiet alive free with nothing | established
  · exact nothing
  · simpa [ClientConnection.needsService, established, free] using idle

theorem readLoop_following {receives : List Receive} {turn : Turn}
    (following : Following config limit severed turn.connection [])
    (weighed : Weighed severed turn.connection turn.answers)
    (failing : .failed ∈ receives → severed)
    (alive : turn.connection.live = true)
    (waiting : turn.connection.dispatchBlocked = false →
      turn.connection.pendingInput = []) :
    Following config limit severed (readLoop receives turn).connection [] := by
  induction receives generalizing turn with
  | nil => exact following
  | cons receive more ih =>
      have later : .failed ∈ more → severed := fun member =>
        failing (List.mem_cons_of_mem _ member)
      cases receive with
      | data first rest =>
          have received : Weighed severed
              (turn.connection.receive (first :: rest)) turn.answers :=
            ⟨weighed.room, weighed.answers⟩
          have processed := @processLoop_following config limit severed
            (first :: rest) ((first :: rest).length + 1) { turn with
              connection := turn.connection.receive (first :: rest) }
            (receive_following following alive (first :: rest)) received
            waiting (Nat.lt_succ_self _)
          have still := @processLoop_weighed severed (first :: rest)
            { turn with
              connection := turn.connection.receive (first :: rest) }
            ((first :: rest).length + 1) received
          rw [readLoop]
          split
          · exact processed.1
          · next going =>
            rw [not_or, not_or, Bool.not_eq_true, Bool.not_eq_true,
              Bool.not_eq_false'] at going
            exact ih processed.1 still later going.1
              (waiting_of_quiet processed.2 going.1 going.2.1)
      | endOfStream => exact endOfStream_following following
      | interrupted => exact ih following weighed later alive waiting
      | again => exact following
      | failed =>
          exact following.called
            (.closeWithLog fun _ => failing List.mem_cons_self)

theorem readInput_following {receives : List Receive}
    {answers : List DispatchAnswer}
    (following : Following config limit severed connection [])
    (weighed : Weighed severed connection answers)
    (failing : .failed ∈ receives → severed) :
    Following config limit severed
      (connection.readInput receives answers) [] := by
  obtain ⟨processed, quiet⟩ := @processPending_following config limit severed
    { connection, answers } following weighed
  have still := @processPending_weighed severed { connection, answers }
    weighed
  rw [ClientConnection.readInput]
  split
  · exact processed
  · next going =>
    rw [not_or, Bool.not_eq_true, Bool.not_eq_true, Bool.not_eq_false'] at going
    exact readLoop_following processed still failing going.2
      (waiting_of_quiet quiet going.2 going.1)

/-! ## Whole runs -/

/-- A live connection has no packet that closes it. -/
theorem Called.popFinished {queue : List OutputPacket}
    (unmarked : connection.live = true → ¬ ClosesAfter queue) :
    Called severed connection (connection.popFinished queue) := by
  induction queue with
  | nil => exact ⟨rfl, rfl, rfl, rfl, rfl, rfl, .inl ⟨rfl, rfl⟩⟩
  | cons packet rest ih =>
      rw [ClientConnection.popFinished]
      split
      · exact ⟨rfl, rfl, rfl, rfl, rfl, rfl, .inl ⟨rfl, rfl⟩⟩
      · split
        · next closes =>
          refine .closeWithLog fun live => ?_
          exact absurd ⟨packet, List.mem_cons_self, closes⟩ (unmarked live)
        · refine ih fun live marked => unmarked live ?_
          obtain ⟨closing, member, closes⟩ := marked
          exact ⟨closing, List.mem_cons_of_mem _ member, closes⟩

/-- What is left of the queue begins with a packet that is not sent whole. -/
theorem popFinished_unsent (queue : List OutputPacket)
    (left : (connection.popFinished queue).outputQueue ≠ []) :
    0 < (connection.popFinished queue).unsentOfFirst := by
  induction queue with
  | nil => exact absurd rfl left
  | cons packet rest ih =>
      rw [ClientConnection.popFinished] at left ⊢
      split at left
      · next unsent =>
        rw [if_pos unsent, ClientConnection.unsentOfFirst]
        exact Nat.sub_pos_of_lt unsent
      · next sent =>
        rw [if_neg sent]
        split at left
        · exact absurd rfl left
        · next stays =>
          rw [if_neg stays]
          exact ih left

theorem Called.advance (count : Nat) :
    Called severed connection (connection.advance count) := by
  rw [ClientConnection.advance]
  split
  · exact .refl
  · exact ⟨rfl, rfl, rfl, rfl, rfl, rfl, .inl ⟨rfl, rfl⟩⟩

/-- Sending leaves a connection open unless the socket fails. -/
theorem Called.writeLoop {sends : List Send}
    (sound : OutputInvariant connection)
    (failing : connection.live = true →
      .failed ∈ sends ∨ .sent 0 ∈ sends → severed) :
    Called severed connection
      (ClientConnection.writeLoop sends connection) := by
  induction sends generalizing connection with
  | nil => exact .popFinished sound.unmarked
  | cons send more ih =>
      have popped : Called severed connection
          (connection.popFinished connection.outputQueue) :=
        .popFinished sound.unmarked
      have still : OutputInvariant
          (connection.popFinished connection.outputQueue) :=
        ClientConnection.popFinished_output sound
      have later : (connection.popFinished connection.outputQueue).live = true →
          .failed ∈ more ∨ .sent 0 ∈ more → severed := fun live fails =>
        failing (popped.live live)
          (fails.imp (List.mem_cons_of_mem _) (List.mem_cons_of_mem _))
      simp only [ClientConnection.writeLoop]
      split
      · exact popped
      · next left =>
        cases send with
        | sent count =>
            simp only
            have unsent := popFinished_unsent connection.outputQueue left
            split
            · next nothing =>
              have zero : count = 0 := by omega
              subst zero
              exact popped.trans (.closeWithLog fun live =>
                failing (popped.live live) (.inr List.mem_cons_self))
            · have advanced : Called severed _
                  ((connection.popFinished connection.outputQueue).advance
                    (min count (connection.popFinished
                      connection.outputQueue).unsentOfFirst)) := .advance _
              exact popped.trans (advanced.trans (ih
                (ClientConnection.advance_output still (Nat.min_le_right _ _))
                fun live => later (advanced.live live)))
        | interrupted => exact popped.trans (ih still later)
        | again => exact popped
        | failed =>
            exact popped.trans (.closeWithLog fun live =>
              failing (popped.live live) (.inl List.mem_cons_self))

theorem serve_following {events : PollEvents} {receives : List Receive}
    {answers : List DispatchAnswer}
    (following : Following config limit severed connection [])
    (weighed : connection.live = true →
      Weighed severed connection answers)
    (failing : connection.live = true → .failed ∈ receives → severed) :
    Following config limit severed
      (connection.serve events receives answers) [] := by
  cases alive : connection.live with
  | true =>
      rw [ClientConnection.serve]
      split
      · exact readInput_following following (weighed alive) (failing alive)
      · exact following
  | false =>
      rw [ClientConnection.serve_eq alive]
      exact following

/-- One event keeps the invariant. -/
theorem step_following
    (following : Following config limit severed connection [])
    (sound : OutputInvariant connection) {event : ConnectionEvent}
    (excused : connection.live = true → Severs connection event → severed) :
    Following config limit severed (connection.step event) [] := by
  cases event with
  | call call =>
      refine following.called (.call (fun live same => ?_) ?_)
      · exact excused live (same ▸ .transportClosed)
      · rintro bytes rfl live full
        exact excused live (.packetOverflow full)
  | poll events receives answers sends =>
      have served : Following config limit severed
          (connection.serve events receives answers) [] := by
        refine serve_following following (fun live => ?_) fun live failed =>
          excused live (.readFailed failed)
        exact
          { room := fun _ full => excused live (.outputOverflow full)
            answers := fun answer member ends =>
              excused live (.dispatcherEnds ⟨answer, member, ends⟩) }
      have failing :
          (connection.serve events receives answers).live = true →
          .failed ∈ sends ∨ .sent 0 ∈ sends → severed := by
        intro live fails
        refine excused ?_ (.writeFailed fails)
        cases alive : connection.live with
        | true => rfl
        | false =>
            rw [ClientConnection.serve_eq alive, alive] at live
            cases live
      simp only [ClientConnection.step, ClientConnection.handleEvents]
      split
      · next error =>
        exact following.called
          (.closeWithLog fun live => excused live (.socketError error))
      · split
        · apply following_dead
          · exact following.configured
          · exact following.limited
          · rfl
          · exact meetEnd_concluded following
        · split
          · exact served.called
              (.writeLoop (ClientConnection.serve_output sound) failing)
          · exact served
  | resizeScreen width height widthMillimeters heightMillimeters =>
      exact
        { configured := following.configured
          limited := following.limited
          standing := fun live => by
            obtain ⟨items, phase, partly, tracked, holding, sequence⟩ :=
              following.standing live
            exact ⟨items, phase, partly, tracked, holding.called rfl rfl rfl,
              sequence⟩
          concluded := following.concluded }

/-- A reason to end a connection stays one among more reasons. -/
theorem Following.mono {more : Prop} (wider : severed → more)
    (following : Following config limit severed connection input) :
    Following config limit more connection input where
  configured := following.configured
  limited := following.limited
  standing := following.standing
  concluded := fun dead =>
    { dispatched := (following.concluded dead).dispatched
      ended := (following.concluded dead).ended
      reported := (following.concluded dead).reported
      named := (following.concluded dead).named.imp_left wider }

theorem Holding.nothing_next (holding : Holding connection phase partly) :
    nextItem phase partly = .incomplete := by
  cases holding with
  | setup _ reading =>
      rw [nextItem, reading.incomplete]
      rfl
  | requests _ _ reading =>
      rw [nextItem, reading.incomplete]
      rfl

theorem start_following (config : ConnectionConfig) (screen : ScreenModel) :
    Following config screen.maximumRequestLength severed
      { config, screen } [] where
  configured := rfl
  limited := rfl
  standing := fun _ =>
    ⟨[], .setup, [],
      { reads := .start
        requests := rfl
        errors := rfl
        ended := rfl }, .setup rfl .fresh, rfl⟩
  concluded := fun dead => by cases dead

end Glasswyrm.Server
