import Mathlib.Data.List.Basic

namespace Glasswyrm.Library

/-! Streams that are read frame by frame.  A state says how the next frame is
read, and each frame moves the state on. -/

variable {σ β φ ε : Type*}

/-- What stands at the head of a stream. -/
inductive Next (β φ ε : Type*)
  | incomplete
  | frame (value : φ) (rest : List β)
  | malformed (error : ε)
deriving DecidableEq

def Next.isIncomplete : Next β φ ε → Bool
  | .incomplete => true
  | .frame _ _ => false
  | .malformed _ => false

/-- The same frame or error under other names. -/
def Next.map {φ' ε' : Type*} (frame : φ → φ') (error : ε → ε') :
    Next β φ ε → Next β φ' ε'
  | .incomplete => .incomplete
  | .frame value rest => .frame (frame value) rest
  | .malformed failure => .malformed (error failure)

section

variable {φ' ε' : Type*} {frame : φ → φ'} {error : ε → ε'} {next : Next β φ ε}

theorem Next.map_eq_frame {value : φ'} {rest : List β} :
    next.map frame error = .frame value rest ↔
      ∃ original, next = .frame original rest ∧ frame original = value := by
  cases next with
  | incomplete => simp [Next.map]
  | frame original rest => simp [Next.map, and_comm]
  | malformed failure => simp [Next.map]

theorem Next.map_eq_malformed {failure : ε'} :
    next.map frame error = .malformed failure ↔
      ∃ original, next = .malformed original ∧ error original = failure := by
  cases next with
  | incomplete => simp [Next.map]
  | frame original rest => simp [Next.map]
  | malformed failure => simp [Next.map]

end

/-- A way to read frames.  What is read does not depend on what follows. -/
structure Framing (σ β φ ε : Type*) where
  next : σ → List β → Next β φ ε
  advance : σ → φ → σ
  shorter : ∀ {state stream value rest}, next state stream = .frame value rest →
    rest.length < stream.length
  frame_append : ∀ {state stream value rest},
    next state stream = .frame value rest → ∀ more,
      next state (stream ++ more) = .frame value (rest ++ more)
  malformed_append : ∀ {state stream error},
    next state stream = .malformed error → ∀ more,
      next state (stream ++ more) = .malformed error

/-- Where the reading of a stream ends. -/
inductive Ending (σ β ε : Type*)
  | incomplete (state : σ) (rest : List β)
  | malformed (state : σ) (error : ε)

namespace Framing

variable (framing : Framing σ β φ ε)

/-- The frames of a stream, and where the reading ends. -/
def split (state : σ) (stream : List β) : List φ × Ending σ β ε :=
  match _ : framing.next state stream with
  | .incomplete => ([], .incomplete state stream)
  | .malformed error => ([], .malformed state error)
  | .frame value rest =>
      let later := split (framing.advance state value) rest
      (value :: later.1, later.2)
termination_by stream.length
decreasing_by exact framing.shorter ‹_›

variable {framing} {state : σ} {stream rest : List β} {value : φ} {error : ε}

theorem split_incomplete (found : framing.next state stream = .incomplete) :
    framing.split state stream = ([], .incomplete state stream) := by
  rw [split]
  split <;> simp_all

theorem split_malformed (found : framing.next state stream = .malformed error) :
    framing.split state stream = ([], .malformed state error) := by
  rw [split]
  split <;> simp_all

theorem split_frame (found : framing.next state stream = .frame value rest) :
    framing.split state stream =
      (value :: (framing.split (framing.advance state value) rest).1,
        (framing.split (framing.advance state value) rest).2) := by
  rw [split]
  split <;> simp_all

/-- The frames up to a malformed one stay, whatever follows it. -/
theorem split_malformed_append {frames : List φ} {last : σ}
    (ends : framing.split state stream = (frames, .malformed last error))
    (more : List β) :
    framing.split state (stream ++ more) = (frames, .malformed last error) := by
  induction state, stream using split.induct framing generalizing frames with
  | case1 state stream found =>
      rw [split_incomplete found] at ends
      cases ends
  | case2 state stream failure found =>
      rw [split_malformed (framing.malformed_append found more),
        ← split_malformed found]
      exact ends
  | case3 state stream value rest found ih =>
      rw [split_frame found, Prod.mk.injEq] at ends
      rw [split_frame (framing.frame_append found more),
        ih (Prod.ext rfl ends.2), ← ends.1]

/-- What follows an incomplete frame is read on from there. -/
theorem split_incomplete_append {frames : List φ} {last : σ}
    (ends : framing.split state stream = (frames, .incomplete last rest))
    (more : List β) :
    framing.split state (stream ++ more) =
      (frames ++ (framing.split last (rest ++ more)).1,
        (framing.split last (rest ++ more)).2) := by
  induction state, stream using split.induct framing generalizing frames with
  | case1 state stream found =>
      rw [split_incomplete found] at ends
      cases ends
      rfl
  | case2 state stream failure found =>
      rw [split_malformed found] at ends
      cases ends
  | case3 state stream value later found ih =>
      rw [split_frame found, Prod.mk.injEq] at ends
      rw [split_frame (framing.frame_append found more),
        ih (Prod.ext rfl ends.2), ← ends.1, List.cons_append]

end Framing

/-- Some frames have been read from the head of a stream. -/
inductive Reads (framing : Framing σ β φ ε) (start : σ) (stream : List β) :
    List φ → σ → List β → Prop
  | start : Reads framing start stream [] start stream
  | read {frames : List φ} {state : σ} {rest later : List β} {value : φ}
      (earlier : Reads framing start stream frames state rest)
      (found : framing.next state rest = .frame value later) :
      Reads framing start stream (frames ++ [value])
        (framing.advance state value) later

namespace Reads

variable {framing : Framing σ β φ ε} {start state : σ}
  {stream rest : List β} {frames : List φ}

/-- What has been read stays read when more arrives. -/
theorem extend (reads : Reads framing start stream frames state rest)
    (more : List β) :
    Reads framing start (stream ++ more) frames state (rest ++ more) := by
  induction reads with
  | start => exact .start
  | read _ found ih => exact .read ih (framing.frame_append found more)

/-- The frames of a stream are those read and those of what is left. -/
theorem split_eq (reads : Reads framing start stream frames state rest) :
    framing.split start stream =
      (frames ++ (framing.split state rest).1, (framing.split state rest).2) := by
  induction reads with
  | start => rfl
  | read _ found ih =>
      rw [ih, Framing.split_frame found, List.append_assoc]
      rfl

/-- All complete frames have been read when the rest is incomplete. -/
theorem all_read (reads : Reads framing start stream frames state rest)
    (found : framing.next state rest = .incomplete) :
    framing.split start stream = (frames, .incomplete state rest) := by
  rw [reads.split_eq, Framing.split_incomplete found, List.append_nil]

/-- The reading ends at a malformed frame. -/
theorem malformed (reads : Reads framing start stream frames state rest)
    {error : ε} (found : framing.next state rest = .malformed error) :
    framing.split start stream = (frames, .malformed state error) := by
  rw [reads.split_eq, Framing.split_malformed found, List.append_nil]

end Reads

end Glasswyrm.Library
