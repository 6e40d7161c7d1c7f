import Glasswyrm.X11.Request

namespace Glasswyrm.X11

open Library

/-! However a stream is cut into chunks, the framer finds the request that
stands at its head. -/

/-- The framer holds these bytes of an unfinished request. -/
inductive Reading (rules : RequestRules) (bytes : List UInt8) :
    RequestFramer → Prop
  | header (short : bytes.length < coreRequestHeaderSize) :
      Reading rules bytes
        (rules.framer coreRequestHeaderSize { bytes := bytes })
  | extended (long : coreRequestHeaderSize ≤ bytes.length)
      (zero : rules.coreUnits bytes = 0) (enabled : rules.bigRequests = true)
      (short : bytes.length < bigRequestHeaderSize) :
      Reading rules bytes
        (rules.framer bigRequestHeaderSize
          { rules.coreRequest bytes with headerSize := bigRequestHeaderSize })
  | core (long : coreRequestHeaderSize ≤ bytes.length)
      (positive : rules.coreUnits bytes ≠ 0)
      (bounded : rules.coreUnits bytes ≤ rules.maximumLengthUnits)
      (short : bytes.length < rules.coreUnits bytes * 4) :
      Reading rules bytes
        (rules.framer (rules.coreUnits bytes * 4) (rules.coreRequest bytes))
  | big (long : bigRequestHeaderSize ≤ bytes.length)
      (zero : rules.coreUnits bytes = 0) (enabled : rules.bigRequests = true)
      (least : 2 ≤ rules.bigUnits bytes)
      (bounded : rules.bigUnits bytes ≤ maximumBigRequestLengthUnits)
      (short : bytes.length < rules.bigUnits bytes * 4) :
      Reading rules bytes
        (rules.framer (rules.bigUnits bytes * 4) (rules.bigRequest bytes))

/-- The framer and what it left of the bytes tell what the stream has next. -/
inductive Framed (rules : RequestRules) (stream : List UInt8) :
    RequestFramer × List UInt8 → Prop
  | reading {framer : RequestFramer} (unfinished : Reading rules stream framer) :
      Framed rules stream (framer, [])
  | complete {request : FramedRequest} {rest : List UInt8}
      (found : rules.nextRequest stream = .frame request rest) (size : Nat) :
      Framed rules stream
        ({ rules.framer size request with status := .complete }, rest)
  | malformed {error : RequestFrameStatus}
      (found : rules.nextRequest stream = .malformed error)
      (known : error = .zeroLength ∨ error = .tooLarge)
      (size : Nat) (request : FramedRequest) (rest : List UInt8) :
      Framed rules stream ({ rules.framer size request with status := error }, rest)

section

variable {rules : RequestRules} {bytes input : List UInt8}
  {framer : RequestFramer}

theorem Reading.status (reading : Reading rules bytes framer) :
    framer.status = .needMore := by
  cases reading <;> rfl

theorem Reading.bytes_eq (reading : Reading rules bytes framer) :
    framer.request.bytes = bytes := by
  cases reading <;> rfl

theorem Reading.rules_eq (reading : Reading rules bytes framer) :
    framer.rules = rules := by
  cases reading <;> rfl

/-- An unfinished request is no complete frame. -/
theorem Reading.incomplete (reading : Reading rules bytes framer) :
    rules.nextRequest bytes = .incomplete := by
  cases reading with
  | header short => rw [RequestRules.nextRequest, if_pos short]
  | extended long zero enabled short =>
      rw [RequestRules.nextRequest, if_neg (by omega), if_pos zero,
        if_neg (by simp [enabled]), if_pos short]
  | core long positive bounded short =>
      rw [RequestRules.nextRequest, if_neg (by omega), if_neg positive,
        if_neg (by omega), if_pos short]
  | big long zero enabled least bounded short =>
      have header : coreRequestHeaderSize < bigRequestHeaderSize := by decide
      rw [RequestRules.nextRequest, if_neg (by omega), if_pos zero,
        if_neg (by simp [enabled]), if_neg (by omega), if_neg (by omega),
        if_pos short]

/-- The header has arrived. -/
theorem inspectHeader_eq (size : bytes.length = coreRequestHeaderSize) :
    (rules.framer coreRequestHeaderSize { bytes := bytes }).inspectHeader =
      if rules.coreUnits bytes = 0 then
        if !rules.bigRequests then
          { rules.framer coreRequestHeaderSize (rules.coreRequest bytes) with
            status := .zeroLength }
        else
          rules.framer bigRequestHeaderSize
            { rules.coreRequest bytes with headerSize := bigRequestHeaderSize }
      else if rules.coreUnits bytes > rules.maximumLengthUnits then
        { rules.framer coreRequestHeaderSize (rules.coreRequest bytes) with
          status := .tooLarge }
      else
        rules.framer (rules.coreUnits bytes * 4) (rules.coreRequest bytes) := by
  have long : 2 ≤ (bytes.drop 2).length := by
    rw [List.length_drop, size]
    decide
  have units : rules.order.read 2 (bytes.drop 2) =
      some (rules.coreUnits bytes) := by
    rw [RequestRules.coreUnits, ByteOrder.read_of_le long, Option.getD_some]
  simp only [RequestFramer.inspectHeader, RequestRules.framer, units]
  rfl

/-- The extended header has arrived. -/
theorem inspectExtendedHeader_eq
    (size : bytes.length = bigRequestHeaderSize) :
    (rules.framer bigRequestHeaderSize
        { rules.coreRequest bytes with
          headerSize := bigRequestHeaderSize }).inspectExtendedHeader =
      if rules.bigUnits bytes < 2 ∨
          rules.bigUnits bytes > maximumBigRequestLengthUnits then
        { rules.framer bigRequestHeaderSize (rules.bigRequest bytes) with
          status := .tooLarge }
      else
        rules.framer (rules.bigUnits bytes * 4) (rules.bigRequest bytes) := by
  have long : 4 ≤ (bytes.drop 4).length := by
    rw [List.length_drop, size]
    decide
  have units : rules.order.read 4 (bytes.drop 4) =
      some (rules.bigUnits bytes) := by
    rw [RequestRules.bigUnits, ByteOrder.read_of_le long, Option.getD_some]
  simp only [RequestFramer.inspectExtendedHeader, RequestRules.framer,
    RequestRules.coreRequest, units]
  rfl

theorem Reading.room (reading : Reading rules bytes framer) :
    bytes.length < framer.expectedSize := by
  cases reading with
  | header short => exact short
  | extended _ _ _ short => exact short
  | core _ _ _ short => exact short
  | big _ _ _ _ _ short => exact short

/-- An unfinished request that is not filled yet. -/
theorem Reading.append (reading : Reading rules bytes framer)
    (short : bytes.length + input.length < framer.expectedSize) :
    Reading rules (bytes ++ input) (framer.withBytes (bytes ++ input)) := by
  rw [← List.length_append] at short
  cases reading with
  | header _ => exact .header short
  | extended long zero enabled _ =>
      have still : Reading rules (bytes ++ input) _ := .extended
        (by rw [List.length_append]; omega)
        (by rw [RequestRules.coreUnits_append long, zero]) enabled short
      rw [RequestRules.coreRequest_append long] at still
      exact still
  | core long positive bounded _ =>
      have still := @Reading.core rules (bytes ++ input)
        (by rw [List.length_append]; omega)
      rw [RequestRules.coreUnits_append long,
        RequestRules.coreRequest_append long] at still
      exact still positive bounded short
  | big long zero enabled least bounded _ =>
      have header : coreRequestHeaderSize ≤ bytes.length :=
        Nat.le_trans (by decide) long
      have still := @Reading.big rules (bytes ++ input)
        (by rw [List.length_append]; omega)
        (by rw [RequestRules.coreUnits_append header, zero]) enabled
      rw [RequestRules.bigUnits_append long,
        RequestRules.bigRequest_append long] at still
      exact still least bounded short

section

variable {filled : RequestFramer}

theorem checkHeader_of_ne
    (other : filled.request.bytes.length ≠ coreRequestHeaderSize ∨
      filled.expectedSize ≠ coreRequestHeaderSize) :
    filled.checkHeader = filled :=
  if_neg fun both => other.elim (· both.1) (· both.2)

theorem checkExtendedHeader_of_ne
    (other : filled.status ≠ .needMore ∨
      filled.request.headerSize ≠ bigRequestHeaderSize ∨
      filled.request.bytes.length ≠ bigRequestHeaderSize ∨
      filled.expectedSize ≠ bigRequestHeaderSize) :
    filled.checkExtendedHeader = filled :=
  if_neg (by tauto)

theorem checkComplete_of_ne
    (other : filled.status ≠ .needMore ∨
      filled.request.bytes.length ≠ filled.expectedSize) :
    filled.checkComplete = filled :=
  if_neg fun both => other.elim (· both.1) (· both.2)

theorem checkComplete_of_eq (known : filled.status = .needMore)
    (full : filled.request.bytes.length = filled.expectedSize) :
    filled.checkComplete = { filled with status := .complete } :=
  if_pos ⟨known, full⟩

end

theorem fill_short (short : framer.request.bytes.length + input.length <
      framer.expectedSize) :
    framer.fill input =
      (framer.withBytes (framer.request.bytes ++ input), []) := by
  have all : input.take (framer.expectedSize - framer.request.bytes.length) =
      input := List.take_of_length_le (by omega)
  have none_left :
      input.drop (framer.expectedSize - framer.request.bytes.length) = [] :=
    List.drop_of_length_le (by omega)
  have room : (framer.request.bytes ++ input).length < framer.expectedSize := by
    rw [List.length_append]
    exact short
  have unequal : (framer.request.bytes ++ input).length ≠
      framer.expectedSize := Nat.ne_of_lt room
  rw [RequestFramer.fill, all, none_left, checkHeader_of_ne,
    checkExtendedHeader_of_ne, checkComplete_of_ne (.inr unequal)]
  · by_cases size : framer.expectedSize = bigRequestHeaderSize
    · exact .inr (.inr (.inl (size ▸ unequal)))
    · exact .inr (.inr (.inr size))
  · by_cases size : framer.expectedSize = coreRequestHeaderSize
    · exact .inl (size ▸ unequal)
    · exact .inr size

/-- The expected bytes are there. -/
theorem fill_full (reading : Reading rules bytes framer)
    (long : framer.expectedSize ≤ bytes.length + input.length) :
    ∃ taken rest, input = taken ++ rest ∧
      (bytes ++ taken).length = framer.expectedSize ∧
      framer.fill input =
        ((framer.withBytes
          (bytes ++ taken)).checkHeader.checkExtendedHeader.checkComplete,
          rest) := by
  have room := reading.room
  refine ⟨input.take (framer.expectedSize - bytes.length),
    input.drop (framer.expectedSize - bytes.length),
    (List.take_append_drop ..).symm, ?_, ?_⟩
  · rw [List.length_append, List.length_take]
    omega
  · rw [RequestFramer.fill, reading.bytes_eq]

/-- A framer whose expected bytes have arrived either goes on to expect more or
has found what the stream has next. -/
def Settled (rules : RequestRules) (full rest : List UInt8)
    (framer : RequestFramer) : Prop :=
  Reading rules full framer ∨
    framer.status ≠ .needMore ∧ Framed rules (full ++ rest) (framer, rest)

variable {full rest : List UInt8}

theorem nextRequest_core (long : coreRequestHeaderSize ≤ full.length)
    (positive : rules.coreUnits full ≠ 0)
    (bounded : rules.coreUnits full ≤ rules.maximumLengthUnits)
    (size : full.length = rules.coreUnits full * 4) :
    rules.nextRequest (full ++ rest) =
      .frame (rules.coreRequest full) rest := by
  have more : full.length ≤ (full ++ rest).length := by simp
  rw [RequestRules.nextRequest, RequestRules.coreUnits_append long,
    if_neg (by omega), if_neg positive, if_neg (by omega),
    if_neg (by omega), ← size, List.take_left, List.drop_left]

theorem nextRequest_big (long : bigRequestHeaderSize ≤ full.length)
    (zero : rules.coreUnits full = 0) (enabled : rules.bigRequests = true)
    (least : 2 ≤ rules.bigUnits full)
    (bounded : rules.bigUnits full ≤ maximumBigRequestLengthUnits)
    (size : full.length = rules.bigUnits full * 4) :
    rules.nextRequest (full ++ rest) =
      .frame (rules.bigRequest full) rest := by
  have more : full.length ≤ (full ++ rest).length := by simp
  have header : coreRequestHeaderSize ≤ full.length :=
    Nat.le_trans (by decide) long
  rw [RequestRules.nextRequest, RequestRules.coreUnits_append header,
    RequestRules.bigUnits_append long, if_neg (by omega), if_pos zero,
    if_neg (by simp [enabled]), if_neg (by omega), if_neg (by omega),
    if_neg (by omega), ← size, List.take_left, List.drop_left]

theorem settled_complete {size : Nat} {request : FramedRequest}
    (found : rules.nextRequest (full ++ rest) = .frame request rest) :
    Settled rules full rest
      { rules.framer size request with status := .complete } := by
  have done : RequestFrameStatus.complete ≠ .needMore := by decide
  exact .inr ⟨done, .complete found size⟩

theorem settled_malformed {size : Nat} {request : FramedRequest}
    {error : RequestFrameStatus}
    (found : rules.nextRequest (full ++ rest) = .malformed error)
    (known : error = .zeroLength ∨ error = .tooLarge) :
    Settled rules full rest
      ({ rules.framer size request with
        status := error } : RequestFramer).checkExtendedHeader.checkComplete := by
  have stopped : error ≠ .needMore := by
    rcases known with rfl | rfl
    · decide
    · decide
  rw [checkExtendedHeader_of_ne (.inl stopped),
    checkComplete_of_ne (.inl stopped)]
  exact .inr ⟨stopped, .malformed found known size request rest⟩

theorem settled_core (long : coreRequestHeaderSize ≤ full.length)
    (positive : rules.coreUnits full ≠ 0)
    (bounded : rules.coreUnits full ≤ rules.maximumLengthUnits)
    (size : full.length ≤ rules.coreUnits full * 4) :
    Settled rules full rest
      (rules.framer (rules.coreUnits full * 4)
        (rules.coreRequest full)).checkExtendedHeader.checkComplete := by
  have ordinary : coreRequestHeaderSize ≠ bigRequestHeaderSize := by decide
  rw [checkExtendedHeader_of_ne (.inr (.inl ordinary))]
  by_cases complete : full.length = rules.coreUnits full * 4
  · rw [checkComplete_of_eq rfl complete]
    exact settled_complete (nextRequest_core long positive bounded complete)
  · rw [checkComplete_of_ne (.inr complete)]
    exact .inl (.core long positive bounded (by omega))

theorem settled_big (long : bigRequestHeaderSize ≤ full.length)
    (zero : rules.coreUnits full = 0) (enabled : rules.bigRequests = true)
    (least : 2 ≤ rules.bigUnits full)
    (bounded : rules.bigUnits full ≤ maximumBigRequestLengthUnits)
    (size : full.length ≤ rules.bigUnits full * 4) :
    Settled rules full rest
      (rules.framer (rules.bigUnits full * 4)
        (rules.bigRequest full)).checkComplete := by
  by_cases complete : full.length = rules.bigUnits full * 4
  · rw [checkComplete_of_eq rfl complete]
    exact settled_complete
      (nextRequest_big long zero enabled least bounded complete)
  · rw [checkComplete_of_ne (.inr complete)]
    exact .inl (.big long zero enabled least bounded (by omega))

theorem settled_header (size : full.length = coreRequestHeaderSize) :
    Settled rules full rest
      (rules.framer coreRequestHeaderSize
        { bytes := full }).checkHeader.checkExtendedHeader.checkComplete := by
  have long : coreRequestHeaderSize ≤ full.length := Nat.le_of_eq size.symm
  have more : ¬(full ++ rest).length < coreRequestHeaderSize := by
    rw [List.length_append]
    omega
  have checked : (rules.framer coreRequestHeaderSize
      { bytes := full }).checkHeader =
      (rules.framer coreRequestHeaderSize { bytes := full }).inspectHeader :=
    if_pos ⟨size, rfl⟩
  rw [checked, inspectHeader_eq size]
  split
  · next zero =>
    split
    · next disabled =>
      apply settled_malformed _ (.inl rfl)
      rw [RequestRules.nextRequest, RequestRules.coreUnits_append long,
        if_neg more, if_pos zero, if_pos disabled]
    · next enabled =>
      have partly : full.length ≠ bigRequestHeaderSize := by
        rw [size]
        decide
      rw [checkExtendedHeader_of_ne (.inr (.inr (.inl partly))),
        checkComplete_of_ne (.inr partly)]
      refine .inl (.extended long zero (by simpa using enabled) ?_)
      rw [size]
      decide
  · next positive =>
    split
    · next large =>
      apply settled_malformed _ (.inr rfl)
      rw [RequestRules.nextRequest, RequestRules.coreUnits_append long,
        if_neg more, if_neg positive, if_pos large]
    · next bounded =>
      have header : full.length = 4 := size
      exact settled_core long positive (by omega) (by omega)

theorem settled_extended (size : full.length = bigRequestHeaderSize)
    (zero : rules.coreUnits full = 0) (enabled : rules.bigRequests = true) :
    Settled rules full rest
      (rules.framer bigRequestHeaderSize { rules.coreRequest full with
        headerSize := bigRequestHeaderSize
        }).checkHeader.checkExtendedHeader.checkComplete := by
  have long : bigRequestHeaderSize ≤ full.length := Nat.le_of_eq size.symm
  have header : coreRequestHeaderSize ≤ full.length :=
    Nat.le_trans (by decide) long
  have more : ¬(full ++ rest).length < bigRequestHeaderSize := by
    rw [List.length_append]
    omega
  have beyond : ¬(full ++ rest).length < coreRequestHeaderSize := by
    rw [List.length_append]
    omega
  rw [checkHeader_of_ne (.inr (by decide : bigRequestHeaderSize ≠ _))]
  have checked : (rules.framer bigRequestHeaderSize
      { rules.coreRequest full with
        headerSize := bigRequestHeaderSize }).checkExtendedHeader =
      (rules.framer bigRequestHeaderSize { rules.coreRequest full with
        headerSize := bigRequestHeaderSize }).inspectExtendedHeader :=
    if_pos ⟨rfl, rfl, size, rfl⟩
  rw [checked, inspectExtendedHeader_eq size]
  split
  · next outside =>
    have stopped : RequestFrameStatus.tooLarge ≠ .needMore := by decide
    rw [checkComplete_of_ne (.inl stopped)]
    refine .inr ⟨stopped, .malformed ?_ (.inr rfl) _ _ _⟩
    rw [RequestRules.nextRequest, RequestRules.coreUnits_append header,
      RequestRules.bigUnits_append long, if_neg beyond, if_pos zero,
      if_neg (by simp [enabled]), if_neg more, if_pos outside]
  · next inside =>
    have extended : full.length = 8 := size
    exact settled_big long zero enabled (by omega) (by omega) (by omega)

/-- What one turn of `consume` makes of an unfinished request. -/
theorem fill_settled (reading : Reading rules bytes framer)
    (more : input ≠ []) :
    ∃ taken, input = taken ++ (framer.fill input).2 ∧ taken ≠ [] ∧
      Settled rules (bytes ++ taken) (framer.fill input).2
        (framer.fill input).1 := by
  by_cases short : bytes.length + input.length < framer.expectedSize
  · rw [fill_short (reading.bytes_eq ▸ short), reading.bytes_eq]
    exact ⟨input, (List.append_nil _).symm, more, .inl (reading.append short)⟩
  · obtain ⟨taken, rest, rfl, size, filled⟩ :=
      fill_full reading (Nat.le_of_not_lt short)
    have room := reading.room
    refine ⟨taken, by rw [filled], ?_, ?_⟩
    · rintro rfl
      rw [List.append_nil] at size
      omega
    · rw [filled]
      cases reading with
      | header _ => exact settled_header size
      | extended long zero enabled _ =>
          have settled : Settled rules (bytes ++ taken) rest _ :=
            settled_extended size
            (by rw [RequestRules.coreUnits_append long, zero]) enabled
          rw [RequestRules.coreRequest_append long] at settled
          exact settled
      | core long positive bounded _ =>
          have units : rules.coreUnits (bytes ++ taken) =
              rules.coreUnits bytes := RequestRules.coreUnits_append long taken
          have header : bytes.length ≥ 4 := long
          have settled : Settled rules (bytes ++ taken) rest _ :=
            settled_core (by rw [List.length_append]; omega)
            (by rwa [units]) (by rwa [units]) (by rw [units]; exact Nat.le_of_eq size)
          rw [units, RequestRules.coreRequest_append long] at settled
          have beyond : rules.coreUnits bytes * 4 ≠ 4 := by omega
          rw [checkHeader_of_ne (.inr beyond)]
          exact settled
      | big long zero enabled least bounded _ =>
          have units : rules.bigUnits (bytes ++ taken) =
              rules.bigUnits bytes := RequestRules.bigUnits_append long taken
          have extended : bytes.length ≥ 8 := long
          have beyond : rules.bigUnits bytes * 4 ≠ 8 := by omega
          have settled : Settled rules (bytes ++ taken) rest _ :=
            settled_big (by rw [List.length_append]; omega)
            (by rwa [RequestRules.coreUnits_append
              (Nat.le_trans (by decide) long)])
            enabled (by rwa [units]) (by rwa [units])
            (by rw [units]; exact Nat.le_of_eq size)
          rw [units, RequestRules.bigRequest_append long] at settled
          have past : rules.bigUnits bytes * 4 ≠ 4 := by omega
          rw [checkHeader_of_ne (.inr past),
            checkExtendedHeader_of_ne (.inr (.inr (.inr beyond)))]
          exact settled

theorem consumeLoop_stopped {fuel : Nat}
    (stopped : framer.status ≠ .needMore) :
    framer.consumeLoop fuel input = (framer, input) := by
  cases fuel with
  | zero => rfl
  | succ fuel => rw [RequestFramer.consumeLoop, if_pos (.inr stopped)]

theorem consumeLoop_framed {fuel : Nat} (reading : Reading rules bytes framer)
    (enough : input.length ≤ fuel) :
    Framed rules (bytes ++ input) (framer.consumeLoop fuel input) := by
  induction fuel generalizing framer bytes input with
  | zero =>
      obtain rfl := List.eq_nil_of_length_eq_zero (Nat.le_zero.mp enough)
      rw [List.append_nil]
      exact .reading reading
  | succ fuel ih =>
      by_cases empty : input = []
      · rw [RequestFramer.consumeLoop, if_pos (.inl empty), empty,
          List.append_nil]
        exact .reading reading
      · obtain ⟨taken, split, some_taken, settled⟩ :=
          fill_settled reading empty
        rw [RequestFramer.consumeLoop,
          if_neg (by simp [empty, reading.status])]
        rw [split, List.length_append] at enough
        have positive : 0 < taken.length := List.length_pos_of_ne_nil some_taken
        have stream : bytes ++ input =
            bytes ++ taken ++ (framer.fill input).2 := by
          rw [List.append_assoc, ← split]
        rw [stream]
        rcases settled with still | ⟨stopped, found⟩
        · exact ih still (by omega)
        · rw [consumeLoop_stopped stopped]
          exact found

/-- Some more input takes an unfinished request to what the stream has next,
however the stream was cut into chunks. -/
theorem consume_framed (reading : Reading rules bytes framer)
    (input : List UInt8) :
    Framed rules (bytes ++ input) (framer.consume input) :=
  consumeLoop_framed reading Nat.le.refl

theorem consumeLoop_rest (fuel : Nat) (framer : RequestFramer)
    (input : List UInt8) :
    (framer.consumeLoop fuel input).2.length ≤ input.length := by
  induction fuel generalizing framer input with
  | zero => exact Nat.le_refl _
  | succ fuel ih =>
      rw [RequestFramer.consumeLoop]
      split
      · exact Nat.le_refl _
      · apply Nat.le_trans (ih _ _)
        rw [RequestFramer.fill, List.length_drop]
        exact Nat.sub_le _ _

/-- Input that an unfinished request meets is taken, at least in part. -/
theorem consume_shorter (reading : Reading rules bytes framer)
    (more : input ≠ []) : (framer.consume input).2.length < input.length := by
  obtain ⟨taken, split, some_taken, _⟩ := fill_settled reading more
  have positive : 0 < taken.length := List.length_pos_of_ne_nil some_taken
  obtain ⟨fuel, whole⟩ := Nat.exists_eq_succ_of_ne_zero
    (Nat.ne_of_gt (List.length_pos_of_ne_nil more))
  have left := consumeLoop_rest fuel (framer.fill input).1
    (framer.fill input).2
  have total := congrArg List.length split
  rw [List.length_append] at total
  rw [RequestFramer.consume, whole, RequestFramer.consumeLoop,
    if_neg (by simp [more, reading.status])]
  omega

/-- A framer that has not seen any bytes. -/
theorem Reading.fresh :
    Reading rules [] (rules.framer coreRequestHeaderSize {}) :=
  .header (by decide)

end

/-! ## The framing of requests -/

namespace RequestRules

variable {rules : RequestRules} {stream rest : List UInt8}
  {request : FramedRequest} {error : RequestFrameStatus}

/-- A frame is a request with an ordinary or with an extended header. -/
theorem nextRequest_frame
    (found : rules.nextRequest stream = .frame request rest) :
    ∃ full, stream = full ++ rest ∧ full ≠ [] ∧
      ∀ more, rules.nextRequest (full ++ more) = .frame request more := by
  rw [nextRequest] at found
  split at found
  · cases found
  · next header =>
    have long : 4 ≤ stream.length := Nat.le_of_not_lt header
    split at found
    · next zero =>
      split at found
      · cases found
      · next enabled =>
        split at found
        · cases found
        · next extended =>
          have longer : 8 ≤ stream.length := Nat.le_of_not_lt extended
          split at found
          · cases found
          · next inside =>
            split at found
            · cases found
            · next enough =>
              injection found with whole left
              have size : (stream.take (rules.bigUnits stream * 4)).length =
                  rules.bigUnits stream * 4 := by
                rw [List.length_take]
                omega
              have least : 8 ≤
                  (stream.take (rules.bigUnits stream * 4)).length := by
                omega
              have units := @bigUnits_append rules _ least
                (stream.drop (rules.bigUnits stream * 4))
              have ordinary := @coreUnits_append rules _
                (Nat.le_trans (by decide) least)
                (stream.drop (rules.bigUnits stream * 4))
              rw [List.take_append_drop] at units ordinary
              rw [← whole, ← left]
              refine ⟨_, (List.take_append_drop ..).symm, ?_, fun more => ?_⟩
              · exact List.ne_nil_of_length_pos (by omega)
              · exact nextRequest_big least (by rw [← ordinary, zero])
                  (by simpa using enabled) (by omega) (by omega) (by omega)
    · next positive =>
      split at found
      · cases found
      · next bounded =>
        split at found
        · cases found
        · next enough =>
          injection found with whole left
          have size : (stream.take (rules.coreUnits stream * 4)).length =
              rules.coreUnits stream * 4 := by
            rw [List.length_take]
            omega
          have least : 4 ≤
              (stream.take (rules.coreUnits stream * 4)).length := by
            omega
          have units := @coreUnits_append rules _ least
            (stream.drop (rules.coreUnits stream * 4))
          rw [List.take_append_drop] at units
          rw [← whole, ← left]
          refine ⟨_, (List.take_append_drop ..).symm, ?_, fun more => ?_⟩
          · exact List.ne_nil_of_length_pos (by omega)
          · exact nextRequest_core least (by rwa [← units])
              (by omega) (by omega)

theorem nextRequest_shorter
    (found : rules.nextRequest stream = .frame request rest) :
    rest.length < stream.length := by
  obtain ⟨full, rfl, some_taken, _⟩ := nextRequest_frame found
  have positive := List.length_pos_of_ne_nil some_taken
  rw [List.length_append]
  omega

theorem nextRequest_frame_append
    (found : rules.nextRequest stream = .frame request rest)
    (more : List UInt8) :
    rules.nextRequest (stream ++ more) = .frame request (rest ++ more) := by
  obtain ⟨full, rfl, _, again⟩ := nextRequest_frame found
  rw [List.append_assoc, again]

theorem nextRequest_malformed_append
    (found : rules.nextRequest stream = .malformed error)
    (more : List UInt8) :
    rules.nextRequest (stream ++ more) = .malformed error := by
  have longer : stream.length ≤ (stream ++ more).length := by simp
  rw [nextRequest] at found
  split at found
  · cases found
  · next header =>
    have long : coreRequestHeaderSize ≤ stream.length :=
      Nat.le_of_not_lt header
    rw [nextRequest, coreUnits_append long, if_neg (by omega)]
    split at found
    · next zero =>
      rw [if_pos zero]
      split at found
      · next disabled =>
        rw [if_pos disabled]
        exact found
      · next enabled =>
        rw [if_neg enabled]
        split at found
        · cases found
        · next extended =>
          have further : bigRequestHeaderSize ≤ stream.length :=
            Nat.le_of_not_lt extended
          rw [bigUnits_append further, if_neg (by omega)]
          split at found
          · next outside =>
            rw [if_pos outside]
            exact found
          · split at found <;> cases found
    · next positive =>
      rw [if_neg positive]
      split at found
      · next large =>
        rw [if_pos large]
        exact found
      · split at found <;> cases found

end RequestRules

end Glasswyrm.X11
