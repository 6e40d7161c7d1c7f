import Glasswyrm.Server.RequestStream

namespace Glasswyrm.Server

open Library X11

/-! Whole runs of a connection, and two runs that are given one stream. -/

variable {config : ConnectionConfig} {limit : Nat} {severed : Prop}
  {connection : ClientConnection} {screen : ScreenModel}
  {events : List ConnectionEvent} {stream : List UInt8}

/-- A new connection after these events. -/
def connectionAfter (config : ConnectionConfig) (screen : ScreenModel)
    (events : List ConnectionEvent) : ClientConnection :=
  run ClientConnection.step { config, screen } events

/-- No event of the run severs the connection. -/
def Spared (config : ConnectionConfig) (screen : ScreenModel)
    (events : List ConnectionEvent) : Prop :=
  Guarded ClientConnection.step Spares { config, screen } events

instance : Decidable (Spared config screen events) :=
  inferInstanceAs (Decidable (Guarded _ _ _ _))

/-- Every run follows the stream, by induction on its events from the last
one. -/
theorem run_following (events : List ConnectionEvent) :
    Following config screen.maximumRequestLength
        (¬ Spared config screen events)
        (connectionAfter config screen events) [] ∧
      OutputInvariant (connectionAfter config screen events) := by
  induction events using List.reverseRecOn with
  | nil =>
      exact ⟨start_following config screen,
        ClientConnection.start_output config screen⟩
  | append_singleton earlier event ih =>
      have split : Spared config screen (earlier ++ [event]) ↔
          Spared config screen earlier ∧
            Guarded ClientConnection.step Spares
              (connectionAfter config screen earlier) [event] :=
        Guarded.append
      obtain ⟨following, sound⟩ := ih
      rw [connectionAfter, run_concat]
      refine ⟨?_, ClientConnection.step_output sound event⟩
      refine step_following (following.mono fun severed spared => ?_) sound
        fun live severs spared => ?_
      · exact severed (split.mp spared).1
      · exact (split.mp spared).2.1 live severs

/-- The requests that were dispatched are a function of the bytes that were
received, and a connection that reads no more was severed or has come to its
end by these bytes. -/
structure StreamFaithful (config : ConnectionConfig) (limit : Nat)
    (severed : Prop) (connection : ClientConnection) : Prop where
  dispatched : connection.trace.requests <+:
    requestsOf config limit connection.trace.received
  caughtUp : connection.live = true →
    connection.pendingInput = [] ∨ connection.holdsRequest = false →
    CaughtUp config limit connection.trace
  ended : connection.trace.ended = true →
    CaughtUp config limit connection.trace
  reported : ∀ error ∈ connection.trace.framingErrors,
    Reported config limit connection.trace error
  named : connection.live = false →
    severed ∨ StreamEnded config limit connection.trace

theorem Following.faithful
    (following : Following config limit severed connection [])
    (uncut : connection.trace.cutOff = false) :
    StreamFaithful config limit severed connection := by
  cases alive : connection.live with
  | true =>
      obtain ⟨items, phase, partly, tracked, holding, sequence⟩ :=
        following.standing alive
      rw [List.append_nil] at tracked
      have concluded : Concluded config limit True connection.trace :=
        tracked.concluded (.inl trivial)
      refine
        { dispatched := concluded.dispatched
          caughtUp := fun _ looked => tracked.caughtUp ?_
          ended := fun ending => concluded.ended ending uncut
          reported := concluded.reported
          named := fun dead => ?_ }
      · rcases looked with nothing | none_held
        · rw [nothing, List.append_nil]
          exact holding.nothing_next
        · exact holding.incomplete none_held
      · rw [alive] at dead
        cases dead
  | false =>
      have concluded := following.concluded alive
      exact
        { dispatched := concluded.dispatched
          caughtUp := fun live => by
            rw [alive] at live
            cases live
          ended := fun ending => concluded.ended ending uncut
          reported := concluded.reported
          named := fun _ => concluded.named }

theorem run_faithful
    (uncut : (connectionAfter config screen events).trace.cutOff = false) :
    StreamFaithful config screen.maximumRequestLength
      (¬ Spared config screen events)
      (connectionAfter config screen events) :=
  (run_following events).1.faithful uncut

/-! ## Two runs -/

/-- The run brings a client's stream through: nobody severs the connection or
cuts a request off, and all of the stream is read unless it ends the
connection by itself. -/
structure Delivers (config : ConnectionConfig) (screen : ScreenModel)
    (stream : List UInt8) (events : List ConnectionEvent) : Prop where
  spared : Spared config screen events
  uncut : (connectionAfter config screen events).trace.cutOff = false
  begins : (connectionAfter config screen events).trace.received <+: stream
  whole : (connectionAfter config screen events).live = true ∨
      (connectionAfter config screen events).trace.ended = true →
    (connectionAfter config screen events).trace.received = stream
  looked : (connectionAfter config screen events).live = true →
    (connectionAfter config screen events).pendingInput = [] ∨
      (connectionAfter config screen events).holdsRequest = false

/-- What is dispatched and reported is all that the stream holds. -/
def Exhausts (config : ConnectionConfig) (limit : Nat) (stream : List UInt8)
    (trace : ConnectionTrace) : Prop :=
  trace.requests = requestsOf config limit stream ∧
    trace.framingErrors = framingErrorsOf config limit stream

theorem CaughtUp.exhausts {trace : ConnectionTrace}
    (caught : CaughtUp config limit trace) :
    Exhausts config limit trace.received trace := by
  obtain ⟨requests, errors, phase, rest, ending⟩ := caught
  refine ⟨requests, ?_⟩
  rw [errors, framingErrorsOf, ending]

/-- A stream that has ended the connection has nothing more to dispatch,
whatever follows. -/
theorem StreamEnded.exhausts {trace : ConnectionTrace}
    (ended : StreamEnded config limit trace)
    (caught : trace.ended = true → CaughtUp config limit trace)
    (reported : ∀ error ∈ trace.framingErrors,
      Reported config limit trace error)
    (begins : trace.received <+: stream)
    (whole : trace.ended = true → trace.received = stream) :
    Exhausts config limit stream trace := by
  obtain ⟨more, rfl⟩ := begins
  cases ended with
  | setupMalformed status requests errors ending =>
      obtain ⟨same, still⟩ := malformed_extends ending more
      refine ⟨requests.trans same.symm, ?_⟩
      rw [errors, framingErrorsOf, still]
  | setupRefused rest requests errors ending =>
      obtain ⟨same, still⟩ := refused_extends ending more
      refine ⟨requests.trans same.symm, ?_⟩
      rw [errors, framingErrorsOf, still]
  | requestMalformed error errors =>
      have member : error ∈ trace.framingErrors := by
        rw [errors]
        exact List.mem_singleton_self error
      obtain ⟨requests, sequence, phase, ending⟩ := reported error member
      obtain ⟨same, still⟩ := malformed_extends ending more
      refine ⟨requests.trans same.symm, ?_⟩
      rw [errors, framingErrorsOf, still, same, ← requests, ← sequence]
  | endMet met =>
      rw [← whole met]
      exact (caught met).exhausts

/-- What a run dispatches and reports is a function of the client's stream. -/
theorem Delivers.exhausts
    (delivers : Delivers config screen stream events) :
    Exhausts config screen.maximumRequestLength stream
      (connectionAfter config screen events).trace := by
  have faithful := run_faithful delivers.uncut
  cases alive : (connectionAfter config screen events).live with
  | true =>
      rw [← delivers.whole (.inl alive)]
      exact (faithful.caughtUp alive (delivers.looked alive)).exhausts
  | false =>
      rcases faithful.named alive with severed | ended
      · exact absurd delivers.spared severed
      · exact ended.exhausts faithful.ended faithful.reported delivers.begins
          fun met => delivers.whole (.inr met)

/-- A request is dispatched under its number, wherever the reads cut it. -/
theorem straddling_request_dispatched
    {before first second rest left : List UInt8} {items : List StreamItem}
    {phase : StreamPhase} {request : FramedRequest}
    (delivers : Delivers config screen (before ++ (first ++ second)) events)
    (reads : Reads (clientFraming config screen.maximumRequestLength) .setup
      before items phase rest)
    (found : nextItem phase (rest ++ (first ++ second)) =
      .frame (.request request) left) :
    { sequence := (numbered items).length + 1, request } ∈
      (connectionAfter config screen events).trace.requests := by
  rw [delivers.exhausts.1]
  have earlier := (reads.extend (first ++ second)).read found
  apply (requestsOf_begins earlier).subset
  rw [numbered_request]
  exact List.mem_append_right _ (List.mem_singleton_self _)

end Glasswyrm.Server
