import Mathlib.Algebra.GroupWithZero.Nat
import Glasswyrm.Server.ClientConnection

namespace Glasswyrm.Server

open Library X11

/-! What the output queue of a connection keeps to over every run. -/

/-- The bytes of the queue that are not sent yet. -/
def unsentBytes (queue : List OutputPacket) : Nat :=
  (queue.map fun packet => packet.bytes.length - packet.offset).sum

@[simp] theorem unsentBytes_cons (packet : OutputPacket)
    (queue : List OutputPacket) :
    unsentBytes (packet :: queue) =
      packet.bytes.length - packet.offset + unsentBytes queue := rfl

@[simp] theorem unsentBytes_append (first second : List OutputPacket) :
    unsentBytes (first ++ second) = unsentBytes first + unsentBytes second := by
  rw [unsentBytes, List.map_append, List.sum_append]
  rfl

/-- Some packet of the queue closes the connection when it is sent. -/
def ClosesAfter (queue : List OutputPacket) : Prop :=
  ∃ packet ∈ queue, packet.closeAfter = true

/-- The counter is exact and bounded, a connection that never left the closing
state closes once it has been rejected, and a live one only sends. -/
structure OutputInvariant (connection : ClientConnection) : Prop where
  balance : connection.queuedOutputBytes = unsentBytes connection.outputQueue
  bounded : connection.queuedOutputBytes ≤ maximumQueuedOutput
  rejected : connection.state = .rejecting →
    connection.trace.reopened = false → ClosesAfter connection.outputQueue
  crowded : connection.trace.crowded = connection.trace.reopened
  unmarked : connection.live = true → ¬ ClosesAfter connection.outputQueue

namespace OutputInvariant

variable {connection : ClientConnection}

theorem withFramer (sound : OutputInvariant connection)
    (framer : Option RequestFramer) :
    OutputInvariant { connection with requestFramer := framer } :=
  ⟨sound.balance, sound.bounded, sound.rejected, sound.crowded,
      sound.unmarked⟩

theorem withPending (sound : OutputInvariant connection) (input : List UInt8) :
    OutputInvariant { connection with pendingInput := input } :=
  ⟨sound.balance, sound.bounded, sound.rejected, sound.crowded,
      sound.unmarked⟩

end OutputInvariant

namespace ClientConnection

variable {connection : ClientConnection} {bytes : List UInt8}
  {closeAfter : Bool}

theorem closeWithLog_output (sound : OutputInvariant connection) :
    OutputInvariant connection.closeWithLog where
  balance := rfl
  bounded := Nat.zero_le _
  rejected := fun rejecting => by cases rejecting
  crowded := sound.crowded
  unmarked := fun live => by cases live

theorem markTransportClosed_output (sound : OutputInvariant connection) :
    OutputInvariant connection.markTransportClosed where
  balance := rfl
  bounded := Nat.zero_le _
  rejected := fun rejecting => by cases rejecting
  crowded := sound.crowded
  unmarked := fun live => by cases live

theorem closeAfterOutput_output (sound : OutputInvariant connection) :
    OutputInvariant connection.closeAfterOutput := by
  rw [closeAfterOutput]
  split
  · exact
      { balance := sound.balance
        bounded := sound.bounded
        rejected := fun rejecting => by cases rejecting
        crowded := sound.crowded
        unmarked := fun live => by cases live }
  · next last found =>
    have whole : connection.outputQueue =
        connection.outputQueue.dropLast ++ [last] := by
      have nonempty : connection.outputQueue ≠ [] := by
        intro empty
        simp [empty] at found
      rw [List.getLast?_eq_some_getLast nonempty] at found
      rw [← Option.some.inj found, List.dropLast_append_getLast]
    refine
      { balance := ?_
        bounded := sound.bounded
        rejected := fun _ _ =>
          ⟨_, List.mem_append_right _ (List.mem_singleton_self _), rfl⟩
        crowded := sound.crowded
        unmarked := fun live => by cases live }
    have balance := sound.balance
    rw [whole, unsentBytes_append] at balance
    rw [unsentBytes_append]
    exact balance

/-- A live connection is not closing. -/
theorem open_of_live (live : connection.live = true) :
    connection.state ≠ .closing := by
  intro closing
  rw [ClientConnection.live, closing] at live
  cases live

theorem enqueue_full (full : connection.hasRoom bytes = false) :
    connection.enqueue bytes closeAfter = connection.closeWithLog := by
  rw [enqueue, full]
  rfl

theorem enqueue_room (room : connection.hasRoom bytes = true) :
    connection.enqueue bytes closeAfter =
      { connection with
        queuedOutputBytes := connection.queuedOutputBytes + bytes.length
        outputQueue := connection.outputQueue ++ [{ bytes, closeAfter }] } := by
  rw [enqueue, room]
  rfl

/-- A packet that finds no room closes the connection. -/
theorem enqueue_balance (sound : OutputInvariant connection) :
    let queued := connection.enqueue bytes closeAfter
    queued.queuedOutputBytes = unsentBytes queued.outputQueue ∧
      queued.queuedOutputBytes ≤ maximumQueuedOutput := by
  cases room : connection.hasRoom bytes with
  | false =>
      rw [enqueue_full room]
      exact ⟨rfl, Nat.zero_le _⟩
  | true =>
      rw [enqueue_room room]
      have fits : bytes.length ≤
          maximumQueuedOutput - connection.queuedOutputBytes :=
        of_decide_eq_true room
      have bounded := sound.bounded
      constructor
      · rw [unsentBytes_append, sound.balance]
        rfl
      · simp only
        omega

theorem enqueue_output (sound : OutputInvariant connection) :
    OutputInvariant (connection.enqueue bytes false) := by
  have balance := @enqueue_balance connection bytes false sound
  cases room : connection.hasRoom bytes with
  | false =>
      rw [enqueue_full room]
      exact closeWithLog_output sound
  | true =>
      rw [enqueue_room room] at balance ⊢
      refine
        { balance := balance.1
          bounded := balance.2
          rejected := fun rejecting kept => ?_
          crowded := sound.crowded
          unmarked := fun live marked => ?_ }
      · obtain ⟨packet, member, closes⟩ := sound.rejected rejecting kept
        exact ⟨packet, List.mem_append_left _ member, closes⟩
      · obtain ⟨packet, member, closes⟩ := marked
        rcases List.mem_append.mp member with earlier | last
        · exact sound.unmarked live ⟨packet, earlier, closes⟩
        · rw [List.mem_singleton.mp last] at closes
          cases closes

/-- A packet that finds no room closes the connection, and the assignment
after it opens it again. -/
theorem enqueueThenAssign_output {state : ConnectionState}
    (sound : OutputInvariant connection) (live : connection.live = true)
    (marks : closeAfter = true ↔ state = .rejecting) :
    OutputInvariant
      (connection.enqueueThenAssign bytes closeAfter state) := by
  have balance := @enqueue_balance connection bytes closeAfter sound
  cases room : connection.hasRoom bytes with
  | false =>
      have closed : connection.enqueue bytes closeAfter =
          connection.closeWithLog := enqueue_full room
      refine
        { balance := balance.1
          bounded := balance.2
          rejected := ?_
          crowded := ?_
          unmarked := ?_ }
      · intro _ kept
        simp only [enqueueThenAssign, closed] at kept
        simp [closeWithLog] at kept
      · simp only [enqueueThenAssign, closed, room]
        simp [closeWithLog]
      · intro _ marked
        obtain ⟨packet, member, _⟩ := marked
        simp only [enqueueThenAssign, closed] at member
        cases member
  | true =>
      have added : connection.enqueue bytes closeAfter = _ := enqueue_room room
      refine
        { balance := balance.1
          bounded := balance.2
          rejected := ?_
          crowded := ?_
          unmarked := ?_ }
      · intro rejecting _
        simp only [enqueueThenAssign, added] at rejecting ⊢
        exact ⟨_, List.mem_append_right _ (List.mem_singleton_self _),
          marks.mpr rejecting⟩
      · have stated : (connection.state == .closing) = false :=
          beq_eq_false_iff_ne.mpr (open_of_live live)
        simp only [enqueueThenAssign, added, room, stated, Bool.not_true,
          Bool.or_false]
        exact sound.crowded
      · intro still marked
        obtain ⟨packet, member, closes⟩ := marked
        simp only [enqueueThenAssign, added] at member
        rcases List.mem_append.mp member with earlier | last
        · exact sound.unmarked live ⟨packet, earlier, closes⟩
        · rw [List.mem_singleton.mp last] at closes
          have assigned : state = .rejecting := marks.mp closes
          subst assigned
          cases still

theorem call_output (sound : OutputInvariant connection)
    (call : ConnectionCall) : OutputInvariant (connection.call call) := by
  cases call with
  | enqueueServerPacket bytes =>
      simp only [ClientConnection.call, enqueueServerPacket]
      split
      · exact sound
      · exact enqueue_output sound
  | setDispatchBlocked token =>
      exact ⟨sound.balance, sound.bounded, sound.rejected, sound.crowded,
      sound.unmarked⟩
  | clearDispatchBlocked token =>
      simp only [ClientConnection.call, clearDispatchBlocked]
      split
      · exact ⟨sound.balance, sound.bounded, sound.rejected, sound.crowded,
      sound.unmarked⟩
      · exact sound
  | markTransportClosed => exact markTransportClosed_output sound

theorem calls_output (sound : OutputInvariant connection)
    (calls : List ConnectionCall) :
    OutputInvariant (run ClientConnection.call connection calls) := by
  apply run_preserves _ sound calls
  intro connection call kept
  exact call_output kept call

theorem prepareSetupReply_output (sound : OutputInvariant connection)
    (live : connection.live = true) :
    OutputInvariant connection.prepareSetupReply := by
  have kept : OutputInvariant { connection with
      byteOrder := connection.setupParser.request.byteOrder } :=
    ⟨sound.balance, sound.bounded, sound.rejected, sound.crowded,
      sound.unmarked⟩
  simp only [prepareSetupReply]
  split
  · apply OutputInvariant.withFramer
    exact enqueueThenAssign_output kept live (by simp)
  · exact enqueueThenAssign_output kept live (by simp)
  · exact enqueueThenAssign_output kept live (by simp)

theorem rejectFraming_output {code : CoreErrorCode}
    {status : RequestFrameStatus} (sound : OutputInvariant connection)
    (live : connection.live = true) :
    OutputInvariant (connection.rejectFraming code status) := by
  have kept : OutputInvariant { connection with
      requestSequence := connection.requestSequence + 1
      trace := connection.trace.reject
        { sequence := connection.requestSequence + 1, status } } :=
    ⟨sound.balance, sound.bounded, sound.rejected, sound.crowded,
      sound.unmarked⟩
  apply OutputInvariant.withPending
  exact enqueueThenAssign_output kept live (by simp)

theorem answerRequest_output {framer : RequestFramer}
    {answer : DispatchAnswer} (sound : OutputInvariant connection) :
    OutputInvariant (connection.answerRequest framer answer) := by
  apply calls_output
  apply OutputInvariant.withFramer
  rw [queueAnswer]
  split
  · exact enqueue_output sound
  · exact sound

theorem dispatchRequest_output {turn : Turn} {framer : RequestFramer}
    (sound : OutputInvariant turn.connection) :
    OutputInvariant (dispatchRequest turn framer).1.connection := by
  have numbered : OutputInvariant (turn.connection.numberRequest framer) :=
    ⟨sound.balance, sound.bounded, sound.rejected, sound.crowded,
      sound.unmarked⟩
  simp only [dispatchRequest]
  split
  · exact closeWithLog_output numbered
  · split
    · exact closeWithLog_output (answerRequest_output numbered)
    · exact (answerRequest_output numbered).withFramer _

theorem setupRound_output {input : List UInt8}
    (sound : OutputInvariant connection)
    (live : connection.live = true) :
    OutputInvariant (connection.setupRound input).1 := by
  have parsed : OutputInvariant { connection with
      setupParser := (connection.setupParser.consume input).1 } :=
    ⟨sound.balance, sound.bounded, sound.rejected, sound.crowded,
      sound.unmarked⟩
  simp only [setupRound]
  split
  · exact parsed
  · exact prepareSetupReply_output parsed live
  · exact closeWithLog_output parsed

theorem requestRound_output {turn : Turn} {framer : RequestFramer}
    {input : List UInt8} (sound : OutputInvariant turn.connection)
    (live : turn.connection.live = true) :
    OutputInvariant (requestRound turn framer input).1.connection := by
  have framed := sound.withFramer (some (framer.consume input).1)
  simp only [requestRound]
  split
  · exact framed
  · exact dispatchRequest_output framed
  · exact rejectFraming_output framed live
  · exact rejectFraming_output framed live
  · exact closeWithLog_output framed

theorem processRound_output {turn : Turn} {input : List UInt8}
    (sound : OutputInvariant turn.connection) :
    OutputInvariant (processRound turn input).1.connection := by
  simp only [processRound]
  split
  · split
    · exact sound.withPending _
    · exact sound
  · next going =>
    have live : turn.connection.live = true := by
      cases held : turn.connection.live with
      | true => rfl
      | false => exact absurd (.inr (.inl (by rw [held]; rfl))) going
    split
    · exact setupRound_output sound live
    · split
      · exact sound.withPending _
      · split
        · exact sound
        · exact requestRound_output sound live

/-- The rounds of the input loop keep the invariant, by induction on them. -/
theorem processLoop_output {fuel : Nat} {turn : Turn} {input : List UInt8}
    (sound : OutputInvariant turn.connection) :
    OutputInvariant (processLoop fuel turn input).connection := by
  induction fuel generalizing turn input with
  | zero => exact sound
  | succ fuel ih =>
      have round : OutputInvariant (processRound turn input).1.connection :=
        processRound_output sound
      rw [processLoop]
      split
      · next next stopped =>
        rw [stopped] at round
        exact round
      · next next rest more =>
        rw [more] at round
        exact ih round

theorem processPending_output {turn : Turn}
    (sound : OutputInvariant turn.connection) :
    OutputInvariant (processPending turn).connection := by
  rw [processPending]
  split
  · exact sound
  · exact processLoop_output (sound.withPending [])

theorem endOfStream_output (sound : OutputInvariant connection) :
    OutputInvariant connection.meetEnd.endOfStream := by
  have met : OutputInvariant connection.meetEnd :=
    ⟨sound.balance, sound.bounded, sound.rejected, sound.crowded,
      sound.unmarked⟩
  rw [endOfStream]
  split
  · exact closeWithLog_output met
  · split
    · split
      · exact closeWithLog_output met
      · exact closeAfterOutput_output met
    · exact closeAfterOutput_output met

theorem readLoop_output {receives : List Receive} {turn : Turn}
    (sound : OutputInvariant turn.connection) :
    OutputInvariant (readLoop receives turn).connection := by
  induction receives generalizing turn with
  | nil => exact sound
  | cons receive more ih =>
      cases receive with
      | data first rest =>
          rw [readLoop]
          have received : OutputInvariant
              (turn.connection.receive (first :: rest)) :=
            ⟨sound.balance, sound.bounded, sound.rejected, sound.crowded,
      sound.unmarked⟩
          have processed : OutputInvariant (processInput
              { turn with connection := _ } (first :: rest)).connection :=
            processLoop_output received
          split
          · exact processed
          · exact ih processed
      | endOfStream => exact endOfStream_output sound
      | interrupted => exact ih sound
      | again => exact sound
      | failed => exact closeWithLog_output sound

theorem readInput_output {receives : List Receive}
    {answers : List DispatchAnswer} (sound : OutputInvariant connection) :
    OutputInvariant (connection.readInput receives answers) := by
  have processed : OutputInvariant
      (processPending { connection, answers }).connection :=
    processPending_output sound
  rw [readInput]
  split
  · exact processed
  · exact readLoop_output processed

/-- Packets sent whole hold no unsent bytes, and the one that closes the
connection does so when it leaves. -/
theorem popFinished_output {queue : List OutputPacket}
    (sound : OutputInvariant { connection with outputQueue := queue }) :
    OutputInvariant (connection.popFinished queue) := by
  induction queue with
  | nil => exact sound
  | cons packet rest ih =>
      rw [popFinished]
      split
      · exact sound
      · next sent =>
        split
        · have closed : OutputInvariant { connection with
              outputQueue := packet :: rest }.closeWithLog :=
            closeWithLog_output sound
          exact closed
        · next stays =>
          apply ih
          have balance : connection.queuedOutputBytes =
              packet.bytes.length - packet.offset + unsentBytes rest :=
            sound.balance
          refine
            { balance := ?_
              bounded := sound.bounded
              rejected := fun rejecting kept => ?_
              crowded := sound.crowded
              unmarked := fun live marked => ?_ }
          · simp only
            omega
          · obtain ⟨closing, member, closes⟩ := sound.rejected rejecting kept
            rcases List.mem_cons.mp member with rfl | later
            · exact absurd closes stays
            · exact ⟨closing, later, closes⟩
          · obtain ⟨closing, member, closes⟩ := marked
            exact sound.unmarked live
              ⟨closing, List.mem_cons_of_mem _ member, closes⟩

theorem advance_output {count : Nat} (sound : OutputInvariant connection)
    (within : count ≤ connection.unsentOfFirst) :
    OutputInvariant (connection.advance count) := by
  rw [advance]
  split
  · exact sound
  · next packet rest queue =>
    have balance := sound.balance
    have bounded := sound.bounded
    rw [queue, unsentBytes_cons] at balance
    rw [unsentOfFirst, queue] at within
    simp only at within
    refine
      { balance := ?_
        bounded := ?_
        rejected := fun rejecting kept => ?_
        crowded := sound.crowded
        unmarked := fun live marked => ?_ }
    · simp only [unsentBytes_cons]
      omega
    · simp only
      omega
    · obtain ⟨closing, member, closes⟩ := sound.rejected rejecting kept
      rw [queue] at member
      rcases List.mem_cons.mp member with rfl | later
      · exact ⟨_, List.mem_cons_self, closes⟩
      · exact ⟨closing, List.mem_cons_of_mem _ later, closes⟩
    · obtain ⟨closing, member, closes⟩ := marked
      apply sound.unmarked live
      rw [queue]
      rcases List.mem_cons.mp member with rfl | later
      · exact ⟨packet, List.mem_cons_self, closes⟩
      · exact ⟨closing, List.mem_cons_of_mem _ later, closes⟩

theorem writeLoop_output {sends : List Send}
    (sound : OutputInvariant connection) :
    OutputInvariant (writeLoop sends connection) := by
  induction sends generalizing connection with
  | nil => exact popFinished_output sound
  | cons send more ih =>
      have popped : OutputInvariant
          (connection.popFinished connection.outputQueue) :=
        popFinished_output sound
      simp only [writeLoop]
      split
      · exact popped
      · cases send with
        | sent count =>
            simp only
            split
            · exact closeWithLog_output popped
            · exact ih (advance_output popped (Nat.min_le_right _ _))
        | interrupted => exact ih popped
        | again => exact popped
        | failed => exact closeWithLog_output popped

theorem serve_output {events : PollEvents} {receives : List Receive}
    {answers : List DispatchAnswer} (sound : OutputInvariant connection) :
    OutputInvariant (connection.serve events receives answers) := by
  rw [serve]
  split
  · exact readInput_output sound
  · exact sound

theorem handleEvents_output {events : PollEvents} {receives : List Receive}
    {answers : List DispatchAnswer} {sends : List Send}
    (sound : OutputInvariant connection) :
    OutputInvariant
      (connection.handleEvents events receives answers sends) := by
  simp only [handleEvents]
  split
  · exact closeWithLog_output sound
  · split
    · exact markTransportClosed_output
        ⟨sound.balance, sound.bounded, sound.rejected, sound.crowded,
          sound.unmarked⟩
    · split
      · exact writeLoop_output (serve_output sound)
      · exact serve_output sound

theorem step_output (sound : OutputInvariant connection)
    (event : ConnectionEvent) : OutputInvariant (connection.step event) := by
  cases event with
  | call call => exact call_output sound call
  | poll events receives answers sends => exact handleEvents_output sound
  | resizeScreen width height widthMillimeters heightMillimeters =>
      exact ⟨sound.balance, sound.bounded, sound.rejected, sound.crowded,
      sound.unmarked⟩

/-! ## The states a connection does not leave -/

/-- A connection that is not live only ever goes to the closing state. -/
structure Ends (before after : ClientConnection) : Prop where
  rejecting : before.state = .rejecting →
    after.state = .rejecting ∨ after.state = .closing
  closing : before.state = .closing → after.state = .closing

theorem Ends.refl : Ends connection connection :=
  ⟨fun rejecting => .inl rejecting, fun closing => closing⟩

theorem Ends.of_state {after : ClientConnection}
    (same : after.state = connection.state) : Ends connection after :=
  ⟨fun rejecting => .inl (same.trans rejecting),
    fun closing => same.trans closing⟩

theorem Ends.of_closing {after : ClientConnection}
    (closed : after.state = .closing) : Ends connection after :=
  ⟨fun _ => .inr closed, fun _ => closed⟩

theorem Ends.trans {first second third : ClientConnection}
    (earlier : Ends first second) (later : Ends second third) :
    Ends first third where
  rejecting := fun rejecting => (earlier.rejecting rejecting).elim
    later.rejecting fun closed => .inr (later.closing closed)
  closing := fun closing => later.closing (earlier.closing closing)

theorem popFinished_ends (queue : List OutputPacket) :
    Ends connection (connection.popFinished queue) := by
  induction queue with
  | nil => exact .of_state rfl
  | cons packet rest ih =>
      rw [popFinished]
      split
      · exact .of_state rfl
      · split
        · exact .of_closing rfl
        · exact ih

theorem writeLoop_ends (sends : List Send) :
    Ends connection (writeLoop sends connection) := by
  induction sends generalizing connection with
  | nil => exact popFinished_ends _
  | cons send more ih =>
      have popped : Ends connection
          (connection.popFinished connection.outputQueue) :=
        popFinished_ends _
      simp only [writeLoop]
      split
      · exact popped
      · cases send with
        | sent count =>
            simp only
            split
            · exact .of_closing rfl
            · have advanced : ∀ c : ClientConnection, ∀ count,
                  (c.advance count).state = c.state := by
                intro c count
                rw [advance]
                split <;> rfl
              exact popped.trans ((Ends.of_state (advanced _ _)).trans ih)
        | interrupted => exact popped.trans ih
        | again => exact popped
        | failed => exact .of_closing rfl

theorem call_ends (call : ConnectionCall) :
    Ends connection (connection.call call) := by
  cases call with
  | enqueueServerPacket bytes =>
      simp only [ClientConnection.call, enqueueServerPacket]
      split
      · exact .refl
      · rw [enqueue]
        split
        · exact .of_closing rfl
        · exact .of_state rfl
  | setDispatchBlocked token => exact .of_state rfl
  | clearDispatchBlocked token =>
      simp only [ClientConnection.call, clearDispatchBlocked]
      split
      · exact .of_state rfl
      · exact .refl
  | markTransportClosed => exact .of_closing rfl

/-- A connection that is not live reads nothing. -/
theorem serve_eq {events : PollEvents} {receives : List Receive}
    {answers : List DispatchAnswer} (dead : connection.live = false) :
    connection.serve events receives answers = connection := by
  rw [live, Bool.or_eq_false_iff] at dead
  simp [serve, needsService, dead.1, dead.2]

theorem step_ends (event : ConnectionEvent) :
    Ends connection (connection.step event) := by
  cases event with
  | call call => exact call_ends call
  | poll events receives answers sends =>
      cases alive : connection.live with
      | true =>
          have neither : connection.state ≠ .rejecting ∧
              connection.state ≠ .closing := by
            constructor
            · intro rejecting
              rw [live, rejecting] at alive
              cases alive
            · exact open_of_live alive
          exact ⟨fun rejecting => absurd rejecting neither.1,
            fun closing => absurd closing neither.2⟩
      | false =>
          simp only [step, handleEvents, serve_eq alive]
          split
          · exact .of_closing rfl
          · split
            · exact .of_closing rfl
            · split
              · exact writeLoop_ends sends
              · exact .refl
  | resizeScreen width height widthMillimeters heightMillimeters =>
      exact .of_state rfl

/-! ## Whole runs -/

/-- What a step of a connection should keep to. -/
structure OutputSound (before after : ClientConnection) : Prop where
  balance : after.queuedOutputBytes = unsentBytes after.outputQueue
  bounded : after.queuedOutputBytes ≤ maximumQueuedOutput
  absorbing : before.state = .closing → after.state = .closing
  neverReopened : after.trace.reopened = false
  rejecting : after.state = .rejecting → ClosesAfter after.outputQueue
  flushed : before.state = .rejecting → after.outputQueue = [] →
    after.state = .closing

theorem step_sound_iff (sound : OutputInvariant connection)
    (event : ConnectionEvent) :
    OutputSound connection (connection.step event) ↔
      (connection.step event).trace.crowded = false := by
  have kept := step_output sound event
  have ends : Ends connection (connection.step event) := step_ends event
  constructor
  · intro property
    rw [kept.crowded, property.neverReopened]
  · intro roomy
    have never : (connection.step event).trace.reopened = false := by
      rw [← kept.crowded, roomy]
    have closes := fun rejecting => kept.rejected rejecting never
    refine
      { balance := kept.balance
        bounded := kept.bounded
        absorbing := ends.closing
        neverReopened := never
        rejecting := closes
        flushed := fun rejecting empty => ?_ }
    rcases ends.rejecting rejecting with still | closed
    · obtain ⟨packet, member, _⟩ := closes still
      rw [empty] at member
      cases member
    · exact closed

theorem start_output (config : ConnectionConfig) (screen : ScreenModel) :
    OutputInvariant { config, screen } where
  balance := rfl
  bounded := Nat.zero_le _
  rejected := fun rejecting => by cases rejecting
  crowded := rfl
  unmarked := fun _ marked => by
    obtain ⟨packet, member, _⟩ := marked
    cases member

/-- A run keeps the output of a connection sound exactly if no answer to a
setup request or to a malformed request meets a queue without room for it. -/
theorem output_sound_iff (config : ConnectionConfig) (screen : ScreenModel)
    (events : List ConnectionEvent) :
    Guarded step (fun before event => OutputSound before (before.step event))
        { config, screen } events ↔
      Guarded step (fun before event =>
        (before.step event).trace.crowded = false) { config, screen } events := by
  have every : Guarded step (fun _ _ => True) { config, screen } events :=
    Guarded.always fun _ _ => trivial
  refine Guarded.congr OutputInvariant
    (fun before event sound _ => step_sound_iff sound event)
    (fun before event sound _ _ => step_output sound event)
    (start_output config screen) every

/-! ## A connection rejected without an answer -/

theorem encodeCoreError_length (order : ByteOrder) (error : CoreError) :
    (encodeCoreError order error).length = 32 := by
  simp [encodeCoreError, ByteOrder.writeFields]

/-- With no room for the error, the connection is rejecting and its queue is
empty. -/
theorem rejectFraming_crowded {code : CoreErrorCode}
    {status : RequestFrameStatus}
    (full : maximumQueuedOutput < connection.queuedOutputBytes + 32) :
    (connection.rejectFraming code status).state = .rejecting ∧
      (connection.rejectFraming code status).outputQueue = [] := by
  refine ⟨rfl, ?_⟩
  have crowded : ∀ order error, ClientConnection.hasRoom
      { connection with
        requestSequence := connection.requestSequence + 1
        trace := connection.trace.reject
          { sequence := connection.requestSequence + 1, status } }
      (encodeCoreError order error) = false := by
    intro order error
    rw [hasRoom, encodeCoreError_length, decide_eq_false_iff_not]
    simp only
    omega
  simp only [rejectFraming, enqueueThenAssign, enqueue_full (crowded _ _)]
  rfl

/-- A malformed request reaches a connection whose queue is full. -/
theorem malformed_on_full {framer : RequestFramer} {first : UInt8}
    {rest : List UInt8} (established : connection.state = .established)
    (free : connection.dispatchBlockToken = none)
    (nothing : connection.pendingInput = [])
    (held : connection.requestFramer = some framer)
    (malformed : (framer.consume (first :: rest)).1.status = .zeroLength)
    (full : maximumQueuedOutput < connection.queuedOutputBytes + 32) :
    let after := connection.step
      (.poll { input := true } [.data first rest] [] [])
    after.state = .rejecting ∧ after.outputQueue = [] := by
  let arrived := { connection.receive (first :: rest) with
    requestFramer := some (framer.consume (first :: rest)).1 }
  have served : connection.step (.poll { input := true }
        [.data first rest] [] []) =
      arrived.rejectFraming .badLength .zeroLength := by
    have idle : connection.needsService = false := by
      simp [needsService, nothing]
    have unblocked : connection.dispatchBlocked = false := by
      simp [dispatchBlocked, free]
    have alive : connection.live = true := by
      simp [live, established]
    have pending : processPending { connection } = { connection } :=
      if_pos nothing
    have round : processInput
        { connection := connection.receive (first :: rest) }
        (first :: rest) =
        { connection := arrived.rejectFraming .badLength .zeroLength } := by
      simp [processInput, processLoop, processRound, requestRound, live,
        dispatchBlocked, established, free, held, malformed, receive, arrived,
        RequestWorkBudget.available, maximumRequestsPerClientTurn,
        maximumRequestBytesPerClientTurn]
    have read : readLoop [.data first rest] { connection } =
        { connection := arrived.rejectFraming .badLength .zeroLength } := by
      rw [readLoop, round]
      exact if_pos (.inl rfl)
    have entered : connection.readInput [.data first rest] [] =
        (readLoop [.data first rest] { connection }).connection := by
      rw [readInput, pending]
      exact if_neg (by simp [idle, alive])
    have serving : connection.serve { input := true } [.data first rest] [] =
        connection.readInput [.data first rest] [] :=
      if_pos (by simp [idle, unblocked, established])
    simp only [step, handleEvents, unblocked, serving, entered, read]
    rfl
  simp only [served]
  apply rejectFraming_crowded
  exact full

/-- Packets that fit are queued one after the other. -/
theorem packets_queued (packet : List UInt8) (count : Nat)
    (still_open : connection.state ≠ .closing)
    (fits : connection.queuedOutputBytes + count * packet.length ≤
      maximumQueuedOutput) :
    run step connection
        (List.replicate count (.call (.enqueueServerPacket packet))) =
      { connection with
        queuedOutputBytes :=
          connection.queuedOutputBytes + count * packet.length
        outputQueue := connection.outputQueue ++
          List.replicate count { bytes := packet } } := by
  induction count generalizing connection with
  | zero => simp
  | succ count ih =>
      rw [Nat.succ_mul] at fits
      have room : connection.hasRoom packet = true := by
        rw [hasRoom, decide_eq_true_eq]
        omega
      have queued : connection.step (.call (.enqueueServerPacket packet)) =
          { connection with
            queuedOutputBytes := connection.queuedOutputBytes + packet.length
            outputQueue := connection.outputQueue ++ [{ bytes := packet }] } := by
        simp only [step, ClientConnection.call, enqueueServerPacket]
        rw [if_neg still_open, enqueue_room room]
      have later := @ih { connection with
        queuedOutputBytes := connection.queuedOutputBytes + packet.length
        outputQueue := connection.outputQueue ++ [{ bytes := packet }] }
        still_open (by simp only; omega)
      rw [List.replicate_succ, run_cons, queued, later]
      simp only [List.append_assoc, List.singleton_append,
        List.replicate_succ, Nat.succ_mul, Nat.add_assoc,
        Nat.add_comm packet.length]

/-- No step that meets a malformed request with a full queue is sound. -/
theorem malformed_unsound {before : ClientConnection} {framer : RequestFramer}
    {first : UInt8} {rest : List UInt8}
    (established : connection.state = .established)
    (free : connection.dispatchBlockToken = none)
    (nothing : connection.pendingInput = [])
    (held : connection.requestFramer = some framer)
    (malformed : (framer.consume (first :: rest)).1.status = .zeroLength)
    (full : maximumQueuedOutput < connection.queuedOutputBytes + 32) :
    ¬ OutputSound before
      (connection.step (.poll { input := true } [.data first rest] [] [])) := by
  intro sound
  have stuck := malformed_on_full established free nothing held malformed full
  obtain ⟨packet, member, _⟩ := sound.rejecting stuck.1
  rw [stuck.2] at member
  cases member

/-- The connection after a setup request. -/
def setUp : ClientConnection :=
  ClientConnection.step { config := {}, screen := {} }
    (.poll { input := true } [.data 108 [0, 11, 0, 0, 0, 0, 0, 0, 0, 0, 0]]
      [] [])

/-- The client sets up the connection, lets 32-byte events fill the queue,
which it does not read, and sends a request of length zero. -/
def overflowingEvents (events : Nat) : List ConnectionEvent :=
  .poll { input := true } [.data 108 [0, 11, 0, 0, 0, 0, 0, 0, 0, 0, 0]]
      [] [] ::
    List.replicate events
      (.call (.enqueueServerPacket (34 :: List.replicate 31 0)))

theorem overflowing_run (events : Nat) (fits : events ≤ 32763) :
    run step { config := {}, screen := {} } (overflowingEvents events) =
      { setUp with
        queuedOutputBytes := setUp.queuedOutputBytes + events * 32
        outputQueue := setUp.outputQueue ++
          List.replicate events { bytes := 34 :: List.replicate 31 0 } } := by
  have opened : setUp.state = .established := by decide +kernel
  have replied : setUp.queuedOutputBytes = 160 := by decide +kernel
  have size : (34 :: List.replicate 31 0 : List UInt8).length = 32 := by decide
  have queued := packets_queued (34 :: List.replicate 31 0) events
    (by rw [opened]; decide : setUp.state ≠ .closing)
    (by rw [replied, size, maximumQueuedOutput]; omega)
  rw [size] at queued
  have first : ClientConnection.step { config := {}, screen := {} }
      (.poll { input := true } [.data 108 [0, 11, 0, 0, 0, 0, 0, 0, 0, 0, 0]]
        [] []) = setUp := rfl
  rw [overflowingEvents, run_cons, first]
  exact queued

theorem rejected_without_answer :
    ¬ Guarded step (fun before event => OutputSound before (before.step event))
      { config := {}, screen := {} }
      (overflowingEvents 32763 ++
        [.poll { input := true } [.data 1 [0, 0, 0]] [] []]) := by
  intro guarded
  have sound := (Guarded.append.mp guarded).2.1
  rw [overflowing_run 32763 (Nat.le_refl _)] at sound
  generalize List.replicate 32763 _ = packets at sound
  have opened : setUp.state = .established := by decide +kernel
  have free : setUp.dispatchBlockToken = none := by decide +kernel
  have nothing : setUp.pendingInput = [] := by decide +kernel
  have framed : setUp.requestFramer = some { order := .littleEndian } := by
    decide +kernel
  have replied : setUp.queuedOutputBytes = 160 := by decide +kernel
  have zero : (RequestFramer.consume { order := .littleEndian }
      [1, 0, 0, 0]).1.status = .zeroLength := by decide +kernel
  generalize setUp = connection at *
  have full : maximumQueuedOutput <
      connection.queuedOutputBytes + 32763 * 32 + 32 := by
    rw [replied]
    decide
  revert sound
  apply malformed_unsound
  · exact opened
  · exact free
  · exact nothing
  · exact framed
  · exact zero
  · exact full

end ClientConnection

end Glasswyrm.Server
