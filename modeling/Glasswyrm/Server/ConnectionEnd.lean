import Mathlib.Algebra.GroupWithZero.Nat
import Mathlib.Data.List.Infix
import Glasswyrm.Library.Run
import Glasswyrm.Server.ClientConnection

namespace Glasswyrm.Server

open Library X11
open ClientConnection (Turn dispatchRequest requestRound processRound
  processLoop processPending)

/-! What the server, the dispatcher and the socket may do to end a connection,
whatever bytes its client sends. -/

/-- The bytes that a call adds to the output queue. -/
def ConnectionCall.offered : ConnectionCall → Nat
  | .enqueueServerPacket bytes => bytes.length
  | _ => 0

/-- The bytes that an answer adds to the output queue. -/
def DispatchAnswer.offered (answer : DispatchAnswer) : Nat :=
  answer.output.length + (answer.calls.map ConnectionCall.offered).sum

def offeredBy (answers : List DispatchAnswer) : Nat :=
  (answers.map DispatchAnswer.offered).sum

/-- The answer ends the connection, whatever the request was. -/
def DispatchAnswer.ends (answer : DispatchAnswer) : Bool :=
  answer.handoffFailed || answer.closeClient ||
    answer.calls.contains .markTransportClosed

theorem DispatchAnswer.ends_iff {answer : DispatchAnswer} :
    answer.ends = true ↔ (answer.handoffFailed = true ∨
      answer.closeClient = true) ∨ .markTransportClosed ∈ answer.calls := by
  rw [ends, Bool.or_eq_true, Bool.or_eq_true, List.contains_iff_mem]

/-- The bytes of the reply that an accepted setup request is still owed. -/
def ClientConnection.setupDue (connection : ClientConnection) : Nat :=
  if connection.state = .awaitingSetup then
    (encodeSetupSuccess .littleEndian
      { resourceIdBase := connection.config.resourceIdBase
        resourceIdMask := connection.screen.resourceIdMask
        screen := connection.screen
        gameCompat := connection.config.gameCompat }).length
  else 0

/-- The bytes that are in the output queue or may come into it when the
dispatcher gives these answers. -/
def ClientConnection.load (connection : ClientConnection)
    (answers : List DispatchAnswer) : Nat :=
  connection.queuedOutputBytes + connection.setupDue + offeredBy answers

/-- The event ends the connection for a reason of its own. -/
inductive Severs (connection : ClientConnection) : ConnectionEvent → Prop
  | transportClosed : Severs connection (.call .markTransportClosed)
  | packetOverflow {bytes : List UInt8}
      (full : connection.hasRoom bytes = false) :
      Severs connection (.call (.enqueueServerPacket bytes))
  | socketError {events : PollEvents} {receives : List Receive}
      {answers : List DispatchAnswer} {sends : List Send}
      (error : events.error = true) :
      Severs connection (.poll events receives answers sends)
  | readFailed {events : PollEvents} {receives : List Receive}
      {answers : List DispatchAnswer} {sends : List Send}
      (failed : .failed ∈ receives) :
      Severs connection (.poll events receives answers sends)
  | writeFailed {events : PollEvents} {receives : List Receive}
      {answers : List DispatchAnswer} {sends : List Send}
      (failed : .failed ∈ sends ∨ .sent 0 ∈ sends) :
      Severs connection (.poll events receives answers sends)
  | dispatcherEnds {events : PollEvents} {receives : List Receive}
      {answers : List DispatchAnswer} {sends : List Send}
      (ends : ∃ answer ∈ answers, answer.ends = true) :
      Severs connection (.poll events receives answers sends)
  | outputOverflow {events : PollEvents} {receives : List Receive}
      {answers : List DispatchAnswer} {sends : List Send}
      (full : maximumQueuedOutput < connection.load answers) :
      Severs connection (.poll events receives answers sends)

/-- The event leaves it to the client's bytes whether the connection ends. -/
def Spares (connection : ClientConnection) (event : ConnectionEvent) : Prop :=
  connection.live = true → ¬ Severs connection event

instance (connection : ClientConnection) (event : ConnectionEvent) :
    Decidable (Severs connection event) :=
  match event with
  | .call (.markTransportClosed) => isTrue .transportClosed
  | .call (.setDispatchBlocked _) => isFalse fun severs => by cases severs
  | .call (.clearDispatchBlocked _) => isFalse fun severs => by cases severs
  | .call (.enqueueServerPacket bytes) =>
      decidable_of_iff (connection.hasRoom bytes = false)
        ⟨.packetOverflow, fun severs => by cases severs; assumption⟩
  | .resizeScreen _ _ _ _ => isFalse fun severs => by cases severs
  | .poll events receives answers sends =>
      decidable_of_iff
        (events.error = true ∨ .failed ∈ receives ∨
          (.failed ∈ sends ∨ .sent 0 ∈ sends) ∨
          (∃ answer ∈ answers, answer.ends = true) ∨
          maximumQueuedOutput < connection.load answers)
        ⟨fun some_cause => by
          rcases some_cause with error | failed | failed | ends | full
          · exact .socketError error
          · exact .readFailed failed
          · exact .writeFailed failed
          · exact .dispatcherEnds ends
          · exact .outputOverflow full,
        fun severs => by cases severs <;> simp [*]⟩

instance (connection : ClientConnection) (event : ConnectionEvent) :
    Decidable (Spares connection event) :=
  inferInstanceAs (Decidable (connection.live = true → _))

/-! ## How the output queue grows -/

namespace ClientConnection

variable {connection : ClientConnection}

theorem enqueue_queued (bytes : List UInt8) (closeAfter : Bool) :
    (connection.enqueue bytes closeAfter).queuedOutputBytes ≤
      connection.queuedOutputBytes + bytes.length := by
  rw [enqueue]
  split
  · exact Nat.zero_le _
  · exact Nat.le_refl _

theorem call_queued (call : ConnectionCall) :
    (connection.call call).queuedOutputBytes ≤
      connection.queuedOutputBytes + call.offered := by
  cases call with
  | enqueueServerPacket bytes =>
      rw [ClientConnection.call, enqueueServerPacket]
      split
      · exact Nat.le_add_right _ _
      · exact enqueue_queued bytes false
  | setDispatchBlocked token => exact Nat.le_refl _
  | clearDispatchBlocked token =>
      rw [ClientConnection.call, clearDispatchBlocked]
      split <;> exact Nat.le_refl _
  | markTransportClosed => exact Nat.zero_le _

theorem calls_queued (calls : List ConnectionCall) :
    (run ClientConnection.call connection calls).queuedOutputBytes ≤
      connection.queuedOutputBytes +
        (calls.map ConnectionCall.offered).sum := by
  induction calls generalizing connection with
  | nil => exact Nat.le_refl _
  | cons call rest ih =>
      have first := @call_queued connection call
      have later := @ih (connection.call call)
      rw [run_cons, List.map_cons, List.sum_cons]
      omega

theorem queueAnswer_queued (output : List UInt8) :
    (connection.queueAnswer output).queuedOutputBytes ≤
      connection.queuedOutputBytes + output.length := by
  rw [queueAnswer]
  split
  · exact enqueue_queued output false
  · exact Nat.le_add_right _ _

/-- An answered request adds what the answer offers at most. -/
theorem answerRequest_queued (framer : RequestFramer)
    (answer : DispatchAnswer) :
    (connection.answerRequest framer answer).queuedOutputBytes ≤
      connection.queuedOutputBytes + answer.offered := by
  have queued := @queueAnswer_queued connection answer.output
  have called : (connection.answerRequest framer answer).queuedOutputBytes ≤
      (connection.queueAnswer answer.output).queuedOutputBytes +
        (answer.calls.map ConnectionCall.offered).sum := calls_queued _
  rw [DispatchAnswer.offered]
  omega

theorem writeFields_length (order : ByteOrder) (fields : List (Nat × Nat)) :
    (order.writeFields fields).length = (fields.map Prod.fst).sum := by
  simp [ByteOrder.writeFields, List.length_flatMap]

theorem encodeSetupSuccess_length (order other : ByteOrder)
    (config : SetupReplyConfig) :
    (encodeSetupSuccess order config).length =
      (encodeSetupSuccess other config).length := by
  simp only [encodeSetupSuccess, List.length_append, writeFields_length]

theorem setupDue_established (later : connection.state ≠ .awaitingSetup) :
    connection.setupDue = 0 := if_neg later

end ClientConnection

/-! ## Calls -/

section

variable {connection : ClientConnection}

theorem live_of_state {after : ClientConnection}
    (state : after.state = connection.state) :
    after.live = connection.live := by
  rw [ClientConnection.live, ClientConnection.live, state]

theorem dead_of_closing (closed : connection.state = .closing) :
    connection.live = false := by
  rw [ClientConnection.live, closed]
  rfl

theorem live_of_established (established : connection.state = .established) :
    connection.live = true := by
  rw [ClientConnection.live, established]
  rfl

end

/-- What the calls of others may do to a connection.  They close a live one
only when it is severed. -/
structure Called (severed : Prop) (before after : ClientConnection) :
    Prop where
  trace : after.trace = before.trace
  config : after.config = before.config
  screen : after.screen = before.screen
  sequence : after.requestSequence = before.requestSequence
  parser : after.setupParser = before.setupParser
  framer : after.requestFramer = before.requestFramer
  state : after.state = before.state ∧
      after.pendingInput = before.pendingInput ∨
    after.state = .closing ∧ after.pendingInput = [] ∧
      (before.live = true → severed)

namespace Called

variable {severed : Prop} {connection first second third : ClientConnection}

theorem refl : Called severed connection connection :=
  ⟨rfl, rfl, rfl, rfl, rfl, rfl, .inl ⟨rfl, rfl⟩⟩

theorem trans (earlier : Called severed first second)
    (later : Called severed second third) : Called severed first third where
  trace := later.trace.trans earlier.trace
  config := later.config.trans earlier.config
  screen := later.screen.trans earlier.screen
  sequence := later.sequence.trans earlier.sequence
  parser := later.parser.trans earlier.parser
  framer := later.framer.trans earlier.framer
  state := by
    rcases later.state with ⟨state, pending⟩ | ⟨closed, nothing, cause⟩
    · rw [state, pending]
      exact earlier.state
    · refine .inr ⟨closed, nothing, fun live => ?_⟩
      rcases earlier.state with ⟨same, _⟩ | ⟨_, _, sooner⟩
      · exact cause ((live_of_state same).trans live)
      · exact sooner live

/-- A live connection was live before, or it was severed. -/
theorem live (called : Called severed first second)
    (live : second.live = true) : first.live = true := by
  rcases called.state with ⟨same, _⟩ | ⟨closed, _⟩
  · rw [← live_of_state same]
    exact live
  · rw [dead_of_closing closed] at live
    cases live

theorem closeWithLog (cause : connection.live = true → severed) :
    Called severed connection connection.closeWithLog :=
  ⟨rfl, rfl, rfl, rfl, rfl, rfl, .inr ⟨rfl, rfl, cause⟩⟩

theorem enqueue {bytes : List UInt8} {closeAfter : Bool}
    (cause : connection.live = true → connection.hasRoom bytes = false →
      severed) :
    Called severed connection (connection.enqueue bytes closeAfter) := by
  rw [ClientConnection.enqueue]
  split
  · next full =>
    rw [Bool.not_eq_true'] at full
    exact .closeWithLog fun live => cause live full
  · exact ⟨rfl, rfl, rfl, rfl, rfl, rfl, .inl ⟨rfl, rfl⟩⟩

theorem call {call : ConnectionCall}
    (ends : connection.live = true → call = .markTransportClosed → severed)
    (cause : ∀ bytes, call = .enqueueServerPacket bytes →
      connection.live = true → connection.hasRoom bytes = false → severed) :
    Called severed connection (connection.call call) := by
  cases call with
  | enqueueServerPacket bytes =>
      rw [ClientConnection.call, ClientConnection.enqueueServerPacket]
      split
      · exact .refl
      · exact .enqueue (cause bytes rfl)
  | setDispatchBlocked token =>
      exact ⟨rfl, rfl, rfl, rfl, rfl, rfl, .inl ⟨rfl, rfl⟩⟩
  | clearDispatchBlocked token =>
      rw [ClientConnection.call, ClientConnection.clearDispatchBlocked]
      split
      · exact ⟨rfl, rfl, rfl, rfl, rfl, rfl, .inl ⟨rfl, rfl⟩⟩
      · exact .refl
  | markTransportClosed =>
      exact ⟨rfl, rfl, rfl, rfl, rfl, rfl,
        .inr ⟨rfl, rfl, fun live => ends live rfl⟩⟩

/-- The calls of one answer, by induction on them. -/
theorem calls {calls : List ConnectionCall}
    (ends : .markTransportClosed ∈ calls → severed)
    (room : connection.live = true → maximumQueuedOutput <
      connection.queuedOutputBytes + (calls.map ConnectionCall.offered).sum →
      severed) :
    Called severed connection
      (run ClientConnection.call connection calls) := by
  induction calls generalizing connection with
  | nil => exact .refl
  | cons call rest ih =>
      rw [List.map_cons, List.sum_cons] at room
      have first : Called severed connection (connection.call call) := by
        refine .call (fun _ same => ends (same ▸ List.mem_cons_self)) ?_
        rintro bytes rfl live full
        refine room live ?_
        rw [ClientConnection.hasRoom, decide_eq_false_iff_not] at full
        rw [ConnectionCall.offered]
        omega
      have queued := @ClientConnection.call_queued connection call
      refine first.trans (ih ?_ fun live heavy => ?_)
      · exact fun member => ends (List.mem_cons_of_mem _ member)
      · exact room (first.live live) (by omega)

end Called

/-! ## Turns -/

/-- Whatever may end the connection in the rest of a turn, but for the bytes of
the client, is a reason to say that it was severed. -/
structure Weighed (severed : Prop) (connection : ClientConnection)
    (answers : List DispatchAnswer) : Prop where
  room : connection.live = true →
    maximumQueuedOutput < connection.load answers → severed
  answers : ∀ answer ∈ answers, answer.ends = true → severed

variable {severed : Prop} {connection : ClientConnection}
  {answers : List DispatchAnswer} {input : List UInt8} {turn : Turn}

theorem Weighed.of_dead (weighed : Weighed severed connection answers)
    {after : ClientConnection} (dead : after.live = false)
    {others : List DispatchAnswer} (fewer : others ⊆ answers) :
    Weighed severed after others where
  room := fun live => by
    rw [dead] at live
    cases live
  answers := fun answer member => weighed.answers answer (fewer member)

theorem Weighed.of_load (weighed : Weighed severed connection answers)
    {after : ClientConnection} (alive : connection.live = true)
    {others : List DispatchAnswer} (fewer : others ⊆ answers)
    (lighter : after.load others ≤ connection.load answers) :
    Weighed severed after others where
  room := fun _ heavy =>
    weighed.room alive (Nat.lt_of_lt_of_le heavy lighter)
  answers := fun answer member => weighed.answers answer (fewer member)

/-- The first answer, and what the others offer. -/
theorem offeredBy_tail (answers : List DispatchAnswer) :
    offeredBy answers = (answers.headD {}).offered + offeredBy answers.tail := by
  cases answers with
  | nil => rfl
  | cons answer rest => rw [offeredBy, List.map_cons, List.sum_cons]; rfl

/-- The answer to come does not end the connection unless it is severed. -/
theorem Weighed.head (weighed : Weighed severed connection answers)
    (ends : (answers.headD {}).ends = true) : severed := by
  cases answers with
  | nil => cases ends
  | cons answer rest => exact weighed.answers answer List.mem_cons_self ends

/-- An answered request is open still, or it was severed. -/
theorem answerRequest_called {framer : RequestFramer}
    {answer : DispatchAnswer} (room : connection.live = true →
      maximumQueuedOutput < connection.queuedOutputBytes + answer.offered →
      severed)
    (ends : .markTransportClosed ∈ answer.calls → severed) :
    Called severed
      { connection with requestFramer := some (connection.framerAfter framer) }
      (connection.answerRequest framer answer) := by
  have queued : Called severed connection
      (connection.queueAnswer answer.output) := by
    rw [ClientConnection.queueAnswer]
    split
    · refine .enqueue fun live full => room live ?_
      rw [ClientConnection.hasRoom, decide_eq_false_iff_not] at full
      rw [DispatchAnswer.offered]
      omega
    · exact .refl
  have framed : Called severed
      { connection with requestFramer := some (connection.framerAfter framer) }
      { connection.queueAnswer answer.output with
        requestFramer := some (connection.framerAfter framer) } :=
    ⟨queued.trace, queued.config, queued.screen, queued.sequence,
      queued.parser, rfl, queued.state⟩
  refine framed.trans (.calls ends fun live heavy => ?_)
  have grown := @ClientConnection.queueAnswer_queued connection answer.output
  rw [DispatchAnswer.offered] at room
  refine room (queued.live live) ?_
  simp only at heavy
  omega

/-- An answer is weighed before it comes. -/
theorem Weighed.answered (weighed : Weighed severed connection answers)
    {after : ClientConnection} (alive : connection.live = true)
    (later : after.state ≠ .awaitingSetup)
    (grown : after.queuedOutputBytes ≤
      connection.queuedOutputBytes + (answers.headD {}).offered) :
    Weighed severed after answers.tail := by
  refine weighed.of_load alive (List.tail_subset answers) ?_
  rw [ClientConnection.load, ClientConnection.load,
    ClientConnection.setupDue_established later, offeredBy_tail answers]
  omega

/-- The queue has room for the answer to come unless it is severed. -/
theorem Weighed.roomy (weighed : Weighed severed connection answers)
    (alive : connection.live = true)
    (heavy : maximumQueuedOutput <
      connection.queuedOutputBytes + (answers.headD {}).offered) :
    severed := by
  refine weighed.room alive ?_
  rw [ClientConnection.load, offeredBy_tail answers]
  omega

theorem dispatchRequest_weighed {framer : RequestFramer}
    (weighed : Weighed severed turn.connection turn.answers)
    (established : turn.connection.state = .established) :
    Weighed severed (dispatchRequest turn framer).1.connection
      (dispatchRequest turn framer).1.answers := by
  have fewer : turn.answers.tail ⊆ turn.answers := List.tail_subset _
  simp only [dispatchRequest]
  split
  · exact weighed.of_dead rfl fewer
  · split
    · exact weighed.of_dead rfl fewer
    · have called : Called True _ _ :=
        @answerRequest_called True (turn.connection.numberRequest framer)
          framer (turn.answers.headD {}) (fun _ _ => trivial)
          (fun _ => trivial)
      refine weighed.answered (live_of_established established) ?_
        (ClientConnection.answerRequest_queued framer _)
      rcases called.state with ⟨same, _⟩ | ⟨closed, _⟩
      · rw [same.trans established]
        exact ConnectionState.noConfusion
      · rw [closed]
        exact ConnectionState.noConfusion

theorem requestRound_weighed {framer : RequestFramer}
    (weighed : Weighed severed turn.connection turn.answers)
    (established : turn.connection.state = .established) :
    Weighed severed (requestRound turn framer input).1.connection
      (requestRound turn framer input).1.answers := by
  have alive := live_of_established established
  have same := List.Subset.refl turn.answers
  simp only [requestRound]
  split
  · exact weighed.of_load alive same (Nat.le_refl _)
  · refine dispatchRequest_weighed ?_ established
    exact weighed.of_load alive same (Nat.le_refl _)
  · exact weighed.of_dead rfl same
  · exact weighed.of_dead rfl same
  · exact weighed.of_dead rfl same

/-- The reply to an accepted setup request is weighed before it comes. -/
theorem setupRound_weighed
    (weighed : Weighed severed connection answers)
    (awaiting : connection.state = .awaitingSetup) :
    Weighed severed (connection.setupRound input).1 answers := by
  have alive : connection.live = true := by
    rw [ClientConnection.live, awaiting]
    rfl
  have same := List.Subset.refl answers
  simp only [ClientConnection.setupRound]
  split
  · exact weighed.of_load alive same (Nat.le_refl _)
  · simp only [ClientConnection.prepareSetupReply]
    split
    · refine weighed.of_load alive same ?_
      rw [ClientConnection.load, ClientConnection.load,
        ClientConnection.setupDue_established ConnectionState.noConfusion,
        ClientConnection.setupDue, if_pos awaiting,
        ClientConnection.encodeSetupSuccess_length .littleEndian
          (connection.setupParser.consume input).1.request.byteOrder]
      exact Nat.add_le_add_right (ClientConnection.enqueue_queued _ _) _
    · exact weighed.of_dead rfl same
    · exact weighed.of_dead rfl same
  · exact weighed.of_dead rfl same

theorem processRound_weighed
    (weighed : Weighed severed turn.connection turn.answers) :
    Weighed severed (processRound turn input).1.connection
      (processRound turn input).1.answers := by
  have kept : Weighed severed (turn.connection.keepPending input)
      turn.answers := ⟨weighed.room, weighed.answers⟩
  simp only [processRound]
  split
  · split
    · exact kept
    · exact weighed
  · next going =>
    rw [not_or, not_or, Bool.not_eq_true, Bool.not_eq_true] at going
    obtain ⟨_, dead, _⟩ := going
    have alive : turn.connection.live = true := by simpa using dead
    split
    · next awaiting => exact setupRound_weighed weighed awaiting
    · next later =>
      have established : turn.connection.state = .established := by
        rw [ClientConnection.live, Bool.or_eq_true, beq_iff_eq,
          beq_iff_eq] at alive
        exact alive.resolve_left later
      split
      · exact kept
      · split
        · exact weighed
        · exact requestRound_weighed weighed established

theorem processLoop_weighed {fuel : Nat}
    (weighed : Weighed severed turn.connection turn.answers) :
    Weighed severed (processLoop fuel turn input).connection
      (processLoop fuel turn input).answers := by
  induction fuel generalizing turn input with
  | zero => exact weighed
  | succ fuel ih =>
      have rounded := @processRound_weighed severed input turn weighed
      rw [processLoop]
      split
      · next next stopped =>
        rw [stopped] at rounded
        exact rounded
      · next next rest more =>
        rw [more] at rounded
        exact ih rounded

theorem processPending_weighed
    (weighed : Weighed severed turn.connection turn.answers) :
    Weighed severed (processPending turn).connection
      (processPending turn).answers := by
  rw [processPending]
  split
  · exact weighed
  · exact processLoop_weighed ⟨weighed.room, weighed.answers⟩

end Glasswyrm.Server
