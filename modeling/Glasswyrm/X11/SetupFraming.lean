import Glasswyrm.X11.Setup

namespace Glasswyrm.X11

open Library

/-! However a stream is cut into chunks, the parser finds the setup request
that stands at its head. -/

/-- The parser that knows the byte order. -/
def ByteOrder.parser (order : ByteOrder) (bytes : List UInt8) :
    SetupParser where
  request := { byteOrder := order }
  bytes := bytes

/-- The parser that has read the header. -/
def SetupHeader.parser (header : SetupHeader) (order : ByteOrder)
    (bytes : List UInt8) : SetupParser where
  expectedSize := header.totalSize
  authorizationNameSize := header.nameSize
  authorizationNamePaddedSize := alignUp header.nameSize
  authorizationDataSize := header.dataSize
  request :=
    { byteOrder := order
      protocolMajor := header.major
      protocolMinor := header.minor }
  bytes := bytes

/-- The parser holds these bytes of an unfinished setup request, the first of
them the marker of this byte order. -/
inductive SetupBegun (order : ByteOrder) (bytes : List UInt8) :
    SetupParser → Prop
  | header (short : bytes.length < setupRequestHeaderSize) :
      SetupBegun order bytes (order.parser bytes)
  | body {header : SetupHeader}
      (read : readSetupHeader order bytes = some header)
      (bounded : header.totalSize ≤ defaultMaximumSetupSize)
      (short : bytes.length < header.totalSize) :
      SetupBegun order bytes (header.parser order bytes)

/-- The byte order that the first byte announces. -/
def Marked (order : ByteOrder) (bytes : List UInt8) : Prop :=
  bytes.head?.bind ByteOrder.fromMarker = some order

inductive SetupReading : List UInt8 → SetupParser → Prop
  | fresh : SetupReading [] {}
  | begun {order : ByteOrder} {bytes : List UInt8} {parser : SetupParser}
      (marked : Marked order bytes) (begun : SetupBegun order bytes parser) :
      SetupReading bytes parser

/-- The parser and what it left of the bytes tell what the stream has next. -/
inductive SetupFramed (stream : List UInt8) :
    SetupParser × List UInt8 → Prop
  | reading {parser : SetupParser} (unfinished : SetupReading stream parser) :
      SetupFramed stream (parser, [])
  | complete {parser : SetupParser} {rest : List UInt8}
      (found : nextSetup stream = .frame parser.request rest)
      (done : parser.status = .complete) :
      SetupFramed stream (parser, rest)
  | malformed {parser : SetupParser}
      (found : nextSetup stream = .malformed parser.status)
      (known : parser.status = .invalidByteOrder ∨
        parser.status = .messageTooLarge)
      (rest : List UInt8) :
      SetupFramed stream (parser, rest)

variable {order : ByteOrder} {header : SetupHeader}
  {bytes input full rest : List UInt8} {parser : SetupParser}

theorem readSetupHeader_short (short : bytes.length < setupRequestHeaderSize) :
    readSetupHeader order bytes = none := by
  simp [readSetupHeader, short]

theorem readSetupHeader_append
    (long : setupRequestHeaderSize ≤ bytes.length) (more : List UInt8) :
    readSetupHeader order (bytes ++ more) = readSetupHeader order bytes := by
  have enough : 12 ≤ bytes.length := long
  have field : ∀ offset, offset ≤ 8 →
      order.read 2 ((bytes ++ more).drop offset) =
        order.read 2 (bytes.drop offset) := by
    intro offset small
    rw [List.drop_append_of_le_length (by omega),
      ByteOrder.read_append (by rw [List.length_drop]; omega)]
  have longer : ¬(bytes ++ more).length < setupRequestHeaderSize := by
    rw [List.length_append]
    omega
  simp only [readSetupHeader, field 2 (by decide), field 4 (by decide),
    field 6 (by decide), field 8 (by decide), if_neg longer,
    if_neg (Nat.not_lt.mpr long)]

theorem readSetupHeader_isSome (long : setupRequestHeaderSize ≤ bytes.length) :
    ∃ header, readSetupHeader order bytes = some header := by
  have enough : 12 ≤ bytes.length := long
  have field : ∀ offset, offset ≤ 8 →
      ∃ value, order.read 2 (bytes.drop offset) = some value := by
    intro offset small
    exact ⟨_, ByteOrder.read_of_le (by rw [List.length_drop]; omega)⟩
  obtain ⟨major, first⟩ := field 2 (by decide)
  obtain ⟨minor, second⟩ := field 4 (by decide)
  obtain ⟨nameSize, third⟩ := field 6 (by decide)
  obtain ⟨dataSize, fourth⟩ := field 8 (by decide)
  refine ⟨{ major, minor, nameSize, dataSize }, ?_⟩
  simp only [readSetupHeader, first, second, third, fourth,
    if_neg (Nat.not_lt.mpr long)]
  rfl

theorem readSetupHeader_length
    (read : readSetupHeader order bytes = some header) :
    setupRequestHeaderSize ≤ bytes.length := by
  by_contra short
  rw [readSetupHeader_short (Nat.lt_of_not_le short)] at read
  cases read

theorem Marked.append (marked : Marked order bytes) (more : List UInt8) :
    Marked order (bytes ++ more) := by
  cases bytes with
  | nil => cases marked
  | cons marker rest => exact marked

theorem Marked.nextSetup_eq (marked : Marked order bytes) :
    nextSetup bytes = nextSetupIn order bytes := by
  cases bytes with
  | nil => cases marked
  | cons marker rest =>
      have announced : ByteOrder.fromMarker marker = some order := marked
      rw [nextSetup, announced]

theorem SetupReading.status (reading : SetupReading bytes parser) :
    parser.status = .needMore := by
  cases reading with
  | fresh => rfl
  | begun _ begun => cases begun <;> rfl

theorem SetupReading.incomplete (reading : SetupReading bytes parser) :
    nextSetup bytes = .incomplete := by
  cases reading with
  | fresh => rfl
  | begun marked begun =>
      rw [marked.nextSetup_eq, nextSetupIn]
      cases begun with
      | header short => rw [readSetupHeader_short short]
      | body read bounded short =>
          simp only [read]
          rw [if_neg (by omega), if_pos short]

/-- A parser whose expected bytes have arrived either goes on to expect more
or has found what the stream has next. -/
def SetupSettled (full rest : List UInt8) (parser : SetupParser) : Prop :=
  SetupReading full parser ∨
    parser.status ≠ .needMore ∧ SetupFramed (full ++ rest) (parser, rest)

theorem SetupBegun.room (begun : SetupBegun order bytes parser) :
    parser.bytes = bytes ∧ bytes.length < parser.expectedSize := by
  cases begun with
  | header short => exact ⟨rfl, short⟩
  | body _ _ short => exact ⟨rfl, short⟩

theorem SetupReading.bytes_eq (reading : SetupReading bytes parser) :
    parser.bytes = bytes := by
  cases reading with
  | fresh => rfl
  | begun _ begun => exact begun.room.1

/-- A setup request that is not filled yet. -/
theorem SetupBegun.append (begun : SetupBegun order bytes parser)
    (short : bytes.length + input.length < parser.expectedSize) :
    SetupBegun order (bytes ++ input)
      { parser with bytes := bytes ++ input } := by
  rw [← List.length_append] at short
  cases begun with
  | header _ => exact .header short
  | body read bounded _ =>
      refine .body ?_ bounded short
      rw [readSetupHeader_append (readSetupHeader_length read), read]

/-- All the bytes that the header announces are there. -/
theorem settled_body (marked : Marked order full)
    (read : readSetupHeader order full = some header)
    (bounded : header.totalSize ≤ defaultMaximumSetupSize)
    (size : full.length ≤ header.totalSize) :
    SetupSettled full rest (header.parser order full).checkComplete := by
  by_cases complete : full.length = header.totalSize
  · have done : (header.parser order full).checkComplete =
        { (header.parser order full).finishRequest with
          status := .complete } := if_pos ⟨rfl, complete⟩
    have stopped : ParseStatus.complete ≠ .needMore := by decide
    rw [done]
    refine .inr ⟨stopped, .complete ?_ rfl⟩
    have longer : full.length ≤ (full ++ rest).length := by simp
    rw [(marked.append rest).nextSetup_eq, nextSetupIn,
      readSetupHeader_append (readSetupHeader_length read)]
    simp only [read]
    rw [if_neg (by omega), if_neg (by omega), ← complete, List.take_left,
      List.drop_left]
    rfl
  · have waiting : (header.parser order full).checkComplete =
        header.parser order full := if_neg fun both => complete both.2
    rw [waiting]
    exact .inl (.begun marked (.body read bounded (by omega)))

theorem settled_setupHeader (marked : Marked order full)
    (size : full.length = setupRequestHeaderSize) :
    SetupSettled full rest (order.parser full).checkHeader.checkComplete := by
  have long : setupRequestHeaderSize ≤ full.length := Nat.le_of_eq size.symm
  obtain ⟨header, read⟩ := @readSetupHeader_isSome order full long
  have checked : (order.parser full).checkHeader =
      (order.parser full).inspectHeader := if_pos ⟨size, rfl⟩
  have inspected : (order.parser full).inspectHeader =
      if header.totalSize > defaultMaximumSetupSize then
        { header.parser order full with
          expectedSize := setupRequestHeaderSize
          status := .messageTooLarge }
      else header.parser order full := by
    simp only [SetupParser.inspectHeader, ByteOrder.parser, read]
    rfl
  rw [checked, inspected]
  split
  · next large =>
    have stopped : ParseStatus.messageTooLarge ≠ .needMore := by decide
    rw [SetupParser.checkComplete, if_neg (fun both => stopped both.1)]
    refine .inr ⟨stopped, .malformed ?_ (.inr rfl) rest⟩
    rw [(marked.append rest).nextSetup_eq, nextSetupIn,
      readSetupHeader_append long]
    simp only [read]
    rw [if_pos large]
  · next bounded =>
    refine settled_body marked read (Nat.le_of_not_lt bounded) ?_
    rw [size, SetupHeader.totalSize]
    omega

/-- What the bytes after the marker make of the parser. -/
theorem fillBytes_settled (marked : Marked order bytes)
    (begun : SetupBegun order bytes parser) :
    ∃ taken, input = taken ++ (parser.fillBytes input).2 ∧
      (input ≠ [] → taken ≠ []) ∧
      SetupSettled (bytes ++ taken) (parser.fillBytes input).2
        (parser.fillBytes input).1 := by
  obtain ⟨held, room⟩ := begun.room
  refine ⟨input.take (parser.expectedSize - bytes.length), ?_, ?_, ?_⟩
  · rw [SetupParser.fillBytes, held, List.take_append_drop]
  · intro more
    rw [ne_eq, List.take_eq_nil_iff]
    rintro (full | empty)
    · omega
    · exact more empty
  · rw [SetupParser.fillBytes, held]
    by_cases short : bytes.length + input.length < parser.expectedSize
    · rw [List.take_of_length_le (by omega), List.drop_of_length_le (by omega)]
      have room : (bytes ++ input).length ≠ parser.expectedSize := by
        rw [List.length_append]
        omega
      have unchecked : ({ parser with
          bytes := bytes ++ input } : SetupParser).checkHeader =
          { parser with bytes := bytes ++ input } :=
        if_neg fun both => room (both.1.trans both.2.symm)
      have unfinished : ({ parser with
          bytes := bytes ++ input } : SetupParser).checkComplete =
          { parser with bytes := bytes ++ input } :=
        if_neg fun both => room both.2
      rw [unchecked, unfinished]
      exact .inl (.begun (marked.append input) (begun.append short))
    · have size : (bytes ++ input.take
          (parser.expectedSize - bytes.length)).length =
          parser.expectedSize := by
        rw [List.length_append, List.length_take]
        omega
      have marked_all := marked.append
        (input.take (parser.expectedSize - bytes.length))
      cases begun with
      | header _ => exact settled_setupHeader marked_all size
      | body read bounded _ =>
          have long := readSetupHeader_length read
          have beyond : (SetupHeader.parser _ order bytes).expectedSize ≠
              setupRequestHeaderSize := Nat.ne_of_gt (Nat.lt_of_le_of_lt long room)
          rw [SetupParser.checkHeader, if_neg (fun both => beyond both.2)]
          exact settled_body marked_all
            (by rw [readSetupHeader_append long, read]) bounded
            (Nat.le_of_eq size)

/-- What one turn of `consume` makes of an unfinished setup request. -/
theorem setupFill_settled (reading : SetupReading bytes parser)
    (more : input ≠ []) :
    ∃ taken, input = taken ++ (parser.fill input).2 ∧ taken ≠ [] ∧
      SetupSettled (bytes ++ taken) (parser.fill input).2
        (parser.fill input).1 := by
  cases reading with
  | fresh =>
      cases input with
      | nil => exact absurd rfl more
      | cons marker rest =>
          cases announced : ByteOrder.fromMarker marker with
          | none =>
              have stopped : ParseStatus.invalidByteOrder ≠ .needMore := by
                decide
              have unknown : nextSetup (marker :: rest) =
                  .malformed .invalidByteOrder := by
                rw [nextSetup, announced]
              have filled : ({} : SetupParser).fill (marker :: rest) =
                  ({ bytes := [marker], status := .invalidByteOrder },
                    rest) := by
                simp [SetupParser.fill, SetupParser.takeMarker, announced]
              rw [filled]
              exact ⟨[marker], rfl, List.cons_ne_nil _ _,
                .inr ⟨stopped, .malformed unknown (.inl rfl) rest⟩⟩
          | some order =>
              have marked : Marked order [marker] := announced
              have filled : ({} : SetupParser).fill (marker :: rest) =
                  (order.parser [marker]).fillBytes rest := by
                simp [SetupParser.fill, SetupParser.takeMarker, announced,
                  ByteOrder.parser]
              have one : [marker].length < setupRequestHeaderSize := by
                rw [List.length_singleton]
                decide
              obtain ⟨taken, split, _, settled⟩ :=
                @fillBytes_settled order [marker] rest _ marked (.header one)
              rw [filled]
              exact ⟨marker :: taken, congrArg (marker :: ·) split,
                List.cons_ne_nil _ _, settled⟩
  | begun marked begun =>
      have present : parser.bytes ≠ [] := by
        rw [begun.room.1]
        rintro rfl
        cases marked
      have taken : parser.takeMarker input = (parser, input) := by
        rw [SetupParser.takeMarker]
        exact fun _ _ empty _ => present empty
      have known := SetupReading.status (.begun marked begun)
      have filled : parser.fill input = parser.fillBytes input := by
        rw [SetupParser.fill, taken, if_neg (by simp [known])]
      obtain ⟨taken, split, some_taken, settled⟩ :=
        @fillBytes_settled _ bytes input parser marked begun
      rw [filled]
      exact ⟨taken, split, some_taken more, settled⟩

theorem setupConsumeLoop_stopped {fuel : Nat}
    (stopped : parser.status ≠ .needMore) :
    parser.consumeLoop fuel input = (parser, input) := by
  cases fuel with
  | zero => rfl
  | succ fuel => rw [SetupParser.consumeLoop, if_pos (.inr stopped)]

theorem setupConsumeLoop_framed {fuel : Nat}
    (reading : SetupReading bytes parser) (enough : input.length ≤ fuel) :
    SetupFramed (bytes ++ input) (parser.consumeLoop fuel input) := by
  induction fuel generalizing parser bytes input with
  | zero =>
      obtain rfl := List.eq_nil_of_length_eq_zero (Nat.le_zero.mp enough)
      rw [List.append_nil]
      exact .reading reading
  | succ fuel ih =>
      by_cases empty : input = []
      · rw [SetupParser.consumeLoop, if_pos (.inl empty), empty,
          List.append_nil]
        exact .reading reading
      · obtain ⟨taken, split, some_taken, settled⟩ :=
          setupFill_settled reading empty
        rw [SetupParser.consumeLoop,
          if_neg (by simp [empty, reading.status])]
        rw [split, List.length_append] at enough
        have positive : 0 < taken.length := List.length_pos_of_ne_nil some_taken
        have stream : bytes ++ input =
            bytes ++ taken ++ (parser.fill input).2 := by
          rw [List.append_assoc, ← split]
        rw [stream]
        rcases settled with still | ⟨stopped, found⟩
        · exact ih still (by omega)
        · rw [setupConsumeLoop_stopped stopped]
          exact found

/-- Some more input takes an unfinished setup request to what the stream has
next. -/
theorem setupConsume_framed (reading : SetupReading bytes parser)
    (input : List UInt8) :
    SetupFramed (bytes ++ input) (parser.consume input) :=
  setupConsumeLoop_framed reading Nat.le.refl

theorem setupFill_rest (parser : SetupParser) (input : List UInt8) :
    (parser.fill input).2.length ≤ input.length := by
  have marked : (parser.takeMarker input).2.length ≤ input.length := by
    rw [SetupParser.takeMarker.eq_def]
    split
    · split
      · exact Nat.le_succ _
      · exact Nat.le_succ _
    · exact Nat.le_refl _
  simp only [SetupParser.fill]
  split
  · exact marked
  · rw [SetupParser.fillBytes, List.length_drop]
    omega

theorem setupConsumeLoop_rest (fuel : Nat) (parser : SetupParser)
    (input : List UInt8) :
    (parser.consumeLoop fuel input).2.length ≤ input.length := by
  induction fuel generalizing parser input with
  | zero => exact Nat.le_refl _
  | succ fuel ih =>
      rw [SetupParser.consumeLoop]
      split
      · exact Nat.le_refl _
      · exact Nat.le_trans (ih _ _) (setupFill_rest parser input)

/-- Input that an unfinished setup request meets is taken, at least in
part. -/
theorem setupConsume_shorter (reading : SetupReading bytes parser)
    (more : input ≠ []) : (parser.consume input).2.length < input.length := by
  obtain ⟨taken, split, some_taken, _⟩ := setupFill_settled reading more
  have positive : 0 < taken.length := List.length_pos_of_ne_nil some_taken
  obtain ⟨fuel, whole⟩ := Nat.exists_eq_succ_of_ne_zero
    (Nat.ne_of_gt (List.length_pos_of_ne_nil more))
  have left := setupConsumeLoop_rest fuel (parser.fill input).1
    (parser.fill input).2
  have total := congrArg List.length split
  rw [List.length_append] at total
  rw [SetupParser.consume, whole, SetupParser.consumeLoop,
    if_neg (by simp [more, reading.status])]
  omega

/-! ## The framing of the setup request -/

variable {stream : List UInt8} {request : SetupRequest} {error : ParseStatus}

/-- A stream that has more to read than it tells has a marker. -/
theorem marked_of_nextSetup
    (known : nextSetup stream ≠ .incomplete)
    (valid : nextSetup stream ≠ .malformed .invalidByteOrder) :
    ∃ order, Marked order stream := by
  cases stream with
  | nil => exact absurd rfl known
  | cons marker rest =>
      cases announced : ByteOrder.fromMarker marker with
      | none =>
          refine absurd ?_ valid
          rw [nextSetup, announced]
      | some order => exact ⟨order, announced⟩

theorem nextSetup_frame (found : nextSetup stream = .frame request rest) :
    ∃ full, stream = full ++ rest ∧ full ≠ [] ∧
      ∀ more, nextSetup (full ++ more) = .frame request more := by
  obtain ⟨order, marked⟩ := @marked_of_nextSetup stream
    (by simp [found]) (by simp [found])
  rw [marked.nextSetup_eq, nextSetupIn] at found
  cases read : readSetupHeader order stream with
  | none =>
      simp only [read] at found
      cases found
  | some header =>
      simp only [read] at found
      split at found
      · cases found
      · next bounded =>
        split at found
        · cases found
        · next enough =>
          injection found with whole left
          have positive : setupRequestHeaderSize ≤ header.totalSize := by
            rw [SetupHeader.totalSize]
            omega
          have size : (stream.take header.totalSize).length =
              header.totalSize := by
            rw [List.length_take]
            omega
          have long : setupRequestHeaderSize ≤
              (stream.take header.totalSize).length := by
            rwa [size]
          have again : readSetupHeader order (stream.take header.totalSize) =
              some header := by
            have appended := @readSetupHeader_append order _ long
              (stream.drop header.totalSize)
            rw [List.take_append_drop] at appended
            rw [← appended, read]
          have some_bytes : stream.take header.totalSize ≠ [] := by
            intro none_taken
            rw [none_taken] at long
            cases long
          have marked_full : Marked order (stream.take header.totalSize) := by
            cases stream with
            | nil => cases marked
            | cons marker others =>
                rw [← Nat.sub_add_cancel (Nat.le_trans (by decide) positive :
                  1 ≤ header.totalSize)]
                exact marked
          rw [← whole, ← left]
          refine ⟨_, (List.take_append_drop ..).symm, some_bytes,
            fun more => ?_⟩
          have longer : header.totalSize ≤
              (stream.take header.totalSize ++ more).length := by
            rw [List.length_append]
            omega
          rw [(marked_full.append more).nextSetup_eq, nextSetupIn,
            readSetupHeader_append long]
          simp only [again]
          rw [if_neg bounded, if_neg (by omega),
            List.take_left' size, List.drop_left' size]

theorem nextSetup_shorter (found : nextSetup stream = .frame request rest) :
    rest.length < stream.length := by
  obtain ⟨full, rfl, some_taken, _⟩ := nextSetup_frame found
  have positive := List.length_pos_of_ne_nil some_taken
  rw [List.length_append]
  omega

theorem nextSetup_frame_append
    (found : nextSetup stream = .frame request rest) (more : List UInt8) :
    nextSetup (stream ++ more) = .frame request (rest ++ more) := by
  obtain ⟨full, rfl, _, again⟩ := nextSetup_frame found
  rw [List.append_assoc, again]

theorem nextSetup_malformed_append
    (found : nextSetup stream = .malformed error) (more : List UInt8) :
    nextSetup (stream ++ more) = .malformed error := by
  cases stream with
  | nil => cases found
  | cons marker others =>
      cases announced : ByteOrder.fromMarker marker with
      | none =>
          rw [nextSetup, announced] at found
          rw [List.cons_append, nextSetup, announced, found]
      | some order =>
          have marked : Marked order (marker :: others) := announced
          rw [marked.nextSetup_eq, nextSetupIn] at found
          cases read : readSetupHeader order (marker :: others) with
          | none =>
              simp only [read] at found
              cases found
          | some header =>
              simp only [read] at found
              rw [(marked.append more).nextSetup_eq, nextSetupIn,
                readSetupHeader_append (readSetupHeader_length read)]
              simp only [read]
              split at found
              · next large =>
                rw [if_pos large]
                exact found
              · split at found <;> cases found

end Glasswyrm.X11
