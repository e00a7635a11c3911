import CyberLegends.Lib.Machine
import Mathlib.Data.List.Basic
import Mathlib.Order.Nat

/-! The stream of the frontend that forwards a request body up to a limit on its bytes. -/

namespace CyberLegends.Frontend

open CyberLegends.Lib

abbrev Chunk := List UInt8

inductive StreamState
  | readable
  | closed
  | errored
  deriving DecidableEq

/-- Where the pull of the stream is: it waits for the source, or for the source to be cancelled, or it
has returned. -/
inductive Pull
  | idle
  | reading
  | cancelling
  | settling
  deriving DecidableEq

/-- The stream between a source of chunks and a consumer. -/
structure LimitedStream where
  /-- The chunks that the source still has. -/
  source : List Chunk
  bytes : ℕ := 0
  /-- How often `onLimit` was called. -/
  limitCalls : ℕ := 0
  started : Bool := false
  state : StreamState := .readable
  closeRequested : Bool := false
  queue : List Chunk := []
  pull : Pull := .idle
  pullAgain : Bool := false
  /-- The reads of the consumer that wait for a chunk. -/
  readRequests : ℕ := 0
  cancelled : Bool := false
  /-- The chunks that the consumer has got. -/
  forwarded : List Chunk := []
  deriving DecidableEq

inductive StreamEvent
  | start
  | read
  | cancel
  /-- The source answers the pull. -/
  | resume
  /-- The source is cancelled, as the pull has asked. -/
  | sourceCancelled
  | settle
  deriving DecidableEq

namespace LimitedStream

variable (limit : ℕ) (s : LimitedStream)

/-! ### The controller -/

/-- The queue holds one chunk when nobody reads. -/
def shouldCallPull : Bool :=
  s.state = .readable ∧ s.closeRequested = false ∧ s.started ∧
    (0 < s.readRequests ∨ s.queue.length < 1)

def callPullIfNeeded : LimitedStream :=
  if s.shouldCallPull then
    if s.pull = .idle then { s with pull := .reading } else { s with pullAgain := true }
  else s

/-- The error of the controller; a stream that has ended stays as it is. -/
def error : LimitedStream :=
  if s.state = .readable then { s with state := .errored, queue := [], readRequests := 0 } else s

/-- A chunk goes to a read that waits, or into the queue; `none` where the controller raises. -/
def enqueue (chunk : Chunk) : Option LimitedStream :=
  if s.state = .readable ∧ s.closeRequested = false then
    match s.readRequests with
    | 0 => some { s with queue := s.queue ++ [chunk] }.callPullIfNeeded
    | requests + 1 =>
      some { s with
        readRequests := requests, forwarded := s.forwarded ++ [chunk] }.callPullIfNeeded
  else none

/-- The stream is closed once its queue is empty; `none` where the controller raises. -/
def close : Option LimitedStream :=
  if s.state = .readable ∧ s.closeRequested = false then
    if s.queue = [] then some { s with closeRequested := true, state := .closed, readRequests := 0 }
    else some { s with closeRequested := true }
  else none

/-! ### The pull -/

/-- What follows the answer of the source. -/
def resume : LimitedStream :=
  match s.source with
  | [] => { s.close.getD s.error with pull := .settling }
  | chunk :: source =>
    let s := { s with source, bytes := s.bytes + chunk.length }
    if s.bytes > limit then
      { s with limitCalls := s.limitCalls + 1, source := [], pull := .cancelling }
    else { (s.enqueue chunk).getD s.error with pull := .settling }

/-- What follows the return of the pull. -/
def settle : LimitedStream :=
  if s.pullAgain then { s with pull := .idle, pullAgain := false }.callPullIfNeeded
  else { s with pull := .idle }

/-! ### The consumer -/

def read : LimitedStream :=
  if s.state = .readable then
    match s.queue with
    | [] => { s with readRequests := s.readRequests + 1 }.callPullIfNeeded
    | chunk :: queue =>
      let s := { s with queue, forwarded := s.forwarded ++ [chunk] }
      if s.closeRequested ∧ queue = [] then { s with state := .closed } else s.callPullIfNeeded
  else s

def cancel : LimitedStream :=
  if s.state = .readable then
    { s with state := .closed, cancelled := true, queue := [], readRequests := 0, source := [] }
  else s

def step : StreamEvent → LimitedStream
  | .start => if s.started then s else { s with started := true }.callPullIfNeeded
  | .read => s.read
  | .cancel => s.cancel
  | .resume => if s.pull = .reading then s.resume limit else s
  | .sourceCancelled => if s.pull = .cancelling then { s.error with pull := .settling } else s
  | .settle => if s.pull = .settling then s.settle else s

end LimitedStream

/-- The events go on with the stream: its reader reads, and each part of it comes to act. -/
def Fair (round : List StreamEvent) : Prop := ∀ event, event ∈ round ↔ event ≠ .cancel

def streamWithByteLimit (stream : List Chunk) (limit : ℕ) : Machine LimitedStream StreamEvent where
  init := { source := stream }
  step := LimitedStream.step limit

/-! ### What holds in every state -/

namespace LimitedStream

variable {chunks : List Chunk} {limit : ℕ} {s : LimitedStream}

/-- What is forwarded or queued is a beginning of the input that keeps to the limit. -/
structure Kept (chunks : List Chunk) (limit : ℕ) (s : LimitedStream) : Prop where
  forwards : s.forwarded ++ s.queue <+: chunks
  fits : (s.forwarded ++ s.queue).flatten.length ≤ limit
  whole : s.state = .readable → s.pull ≠ .cancelling →
    s.forwarded ++ s.queue ++ s.source = chunks ∧
      s.bytes = (s.forwarded ++ s.queue).flatten.length ∧ s.limitCalls = 0
  exceeded : s.pull = .cancelling ∨ s.state = .errored →
    limit < chunks.flatten.length ∧ s.limitCalls = 1 ∧ s.source = []
  once : s.limitCalls ≤ 1
  complete : s.state = .closed → s.cancelled = false → s.forwarded = chunks
  ongoing : s.state = .readable → s.closeRequested = false
  drained : s.state = .readable → s.pull = .reading ∨ s.pull = .cancelling → s.queue = []
  served : s.state = .readable → 0 < s.readRequests → s.queue = []
  unstarted : s.started = false → s.pull = .idle
  ended : s.state ≠ .readable → s.queue = [] ∧ s.source = []

/-- As long as chunks are wanted, a pull is on its way or will be called again. -/
def Awaited (s : LimitedStream) : Prop :=
  s.shouldCallPull = true → s.pull ≠ .idle ∧ (s.pull = .settling → s.pullAgain = true)

theorem shouldCallPull_iff : s.shouldCallPull = true ↔
    s.state = .readable ∧ s.closeRequested = false ∧ s.started = true ∧
      (0 < s.readRequests ∨ s.queue = []) := by
  simp [shouldCallPull]

theorem callPullIfNeeded_cases (s : LimitedStream) :
    s.shouldCallPull = false ∧ s.callPullIfNeeded = s ∨
      s.shouldCallPull = true ∧
        (s.pull = .idle ∧ s.callPullIfNeeded = { s with pull := .reading } ∨
          s.pull ≠ .idle ∧ s.callPullIfNeeded = { s with pullAgain := true }) := by
  unfold callPullIfNeeded
  by_cases should : s.shouldCallPull = true
  · by_cases idle : s.pull = .idle
    · exact .inr ⟨should, .inl ⟨idle, by rw [if_pos should, if_pos idle]⟩⟩
    · exact .inr ⟨should, .inr ⟨idle, by rw [if_pos should, if_neg idle]⟩⟩
  · exact .inl ⟨by simpa using should, if_neg should⟩

theorem Kept.callPullIfNeeded (kept : s.Kept chunks limit) :
    s.callPullIfNeeded.Kept chunks limit ∧ s.callPullIfNeeded.Awaited := by
  rcases callPullIfNeeded_cases s with ⟨satisfied, same⟩ | ⟨should, ⟨idle, same⟩ | ⟨busy, same⟩⟩
  · rw [same]
    exact ⟨kept, fun should => absurd should (by simp [satisfied])⟩
  · obtain ⟨readable, -, started, wanted⟩ := shouldCallPull_iff.mp should
    have empty : s.queue = [] := wanted.elim (kept.served readable) id
    rw [same]
    refine ⟨{ kept with whole := ?_, exceeded := ?_, drained := ?_, unstarted := ?_ }, ?_⟩
    · exact fun _ _ => kept.whole readable (by simp [idle])
    · exact fun ended => kept.exceeded (ended.elim (fun reading => by cases reading) .inr)
    · exact fun _ _ => empty
    · exact fun unstarted => by simp [started] at unstarted
    · exact fun _ => ⟨by simp, by simp⟩
  · rw [same]
    exact ⟨{ kept with }, fun _ => ⟨busy, fun _ => rfl⟩⟩

theorem Kept.init (chunks : List Chunk) (limit : ℕ) :
    ({ source := chunks } : LimitedStream).Kept chunks limit where
  forwards := List.nil_prefix
  fits := Nat.zero_le _
  whole _ _ := ⟨rfl, rfl, rfl⟩
  exceeded is := by simp at is
  once := Nat.zero_le _
  complete closed := by cases closed
  ongoing _ := rfl
  drained _ _ := rfl
  served _ _ := rfl
  unstarted _ := rfl
  ended ended := absurd rfl ended

theorem awaited_ended (ended : s.state ≠ .readable) : s.Awaited :=
  fun should => absurd (shouldCallPull_iff.mp should).1 ended

theorem Kept.read (kept : s.Kept chunks limit) (awaited : s.Awaited) :
    s.read.Kept chunks limit ∧ s.read.Awaited := by
  unfold LimitedStream.read
  split
  next readable =>
    split
    next empty =>
      have waiting : Kept chunks limit { s with readRequests := s.readRequests + 1 } :=
        { kept with served := fun _ _ => empty }
      exact waiting.callPullIfNeeded
    next chunk queue queued =>
      have filled : s.queue ≠ [] := by simp [queued]
      have same : s.forwarded ++ [chunk] ++ queue = s.forwarded ++ s.queue := by
        rw [queued, List.append_assoc, List.singleton_append]
      have delivered : Kept chunks limit { s with queue, forwarded := s.forwarded ++ [chunk] } :=
        { kept with
          forwards := same ▸ kept.forwards
          fits := same ▸ kept.fits
          whole := fun _ fresh => same ▸ kept.whole readable fresh
          complete := fun closed => by simp [readable] at closed
          drained := fun _ busy => absurd (kept.drained readable busy) filled
          served := fun _ waiting => absurd (kept.served readable waiting) filled
          ended := fun ended => absurd readable ended }
      rw [if_neg (by simp [kept.ongoing readable])]
      exact delivered.callPullIfNeeded
  next => exact ⟨kept, awaited⟩

theorem Kept.cancel (kept : s.Kept chunks limit) (awaited : s.Awaited) :
    s.cancel.Kept chunks limit ∧ s.cancel.Awaited := by
  unfold LimitedStream.cancel
  split
  next readable =>
    refine ⟨{ kept with
      forwards := ?_, fits := ?_, whole := ?_, exceeded := ?_, complete := ?_, ongoing := ?_,
      drained := ?_, served := ?_, ended := ?_ }, awaited_ended (by simp)⟩
    · rw [List.append_nil]
      exact (List.prefix_append _ _).trans kept.forwards
    · have fits := kept.fits
      simp only [List.flatten_append, List.length_append, List.flatten_nil,
        List.length_nil] at fits ⊢
      omega
    · exact fun closed => by cases closed
    · intro is
      obtain ⟨total, calls, -⟩ := kept.exceeded (is.elim .inl fun errored => by cases errored)
      exact ⟨total, calls, rfl⟩
    · exact fun _ uncancelled => by cases uncancelled
    · exact fun closed => by cases closed
    · exact fun _ _ => rfl
    · exact fun _ _ => rfl
    · exact fun _ => ⟨rfl, rfl⟩
  next => exact ⟨kept, awaited⟩

/-- A pull on its way is not called a second time, wherever it is. -/
theorem callPullIfNeeded_busy (busy : s.pull ≠ .idle) :
    { s.callPullIfNeeded with pull := .settling } =
      { s with pull := .settling }.callPullIfNeeded := by
  unfold callPullIfNeeded
  have same : { s with pull := .settling }.shouldCallPull = s.shouldCallPull := rfl
  rw [same, if_neg busy, if_neg (by simp : Pull.settling ≠ .idle)]
  split <;> rfl

theorem Kept.error (kept : s.Kept chunks limit) (cancelling : s.pull = .cancelling) :
    { s.error with pull := .settling }.Kept chunks limit := by
  have exceeded := kept.exceeded (.inl cancelling)
  unfold LimitedStream.error
  split
  next readable =>
    have front : s.forwarded ++ [] = s.forwarded ++ s.queue := by
      rw [kept.drained readable (.inr cancelling)]
    exact { kept with
      forwards := front ▸ kept.forwards
      fits := front ▸ kept.fits
      whole := fun live => by cases live
      exceeded := fun _ => exceeded
      complete := fun closed => by cases closed
      ongoing := fun live => by cases live
      drained := fun _ _ => rfl
      served := fun _ _ => rfl
      unstarted := fun unstarted => by simp [kept.unstarted unstarted] at cancelling
      ended := fun _ => ⟨rfl, exceeded.2.2⟩ }
  next ended =>
    exact { kept with
      whole := fun live => absurd live ended
      exceeded := fun _ => exceeded
      drained := fun live => absurd live ended
      unstarted := fun unstarted => by simp [kept.unstarted unstarted] at cancelling }

/-- The source has answered that it has no more chunks. -/
theorem Kept.close (kept : s.Kept chunks limit) (reading : s.pull = .reading)
    (done : s.source = []) :
    { s.close.getD s.error with pull := .settling }.Kept chunks limit ∧
      { s.close.getD s.error with pull := .settling }.Awaited := by
  have started : s.started ≠ false := fun unstarted => by
    simp [kept.unstarted unstarted] at reading
  unfold LimitedStream.close
  by_cases readable : s.state = .readable
  · have empty := kept.drained readable (.inl reading)
    obtain ⟨whole, -, -⟩ := kept.whole readable (by simp [reading])
    rw [if_pos ⟨readable, kept.ongoing readable⟩, if_pos empty, Option.getD_some]
    refine ⟨{ kept with
      whole := fun live => by cases live
      exceeded := fun is => by simp at is
      complete := fun _ _ => ?_
      ongoing := fun live => by cases live
      drained := fun _ _ => empty
      served := fun _ _ => empty
      unstarted := fun unstarted => absurd unstarted started
      ended := fun _ => ⟨empty, done⟩ }, awaited_ended (by simp)⟩
    rw [empty, done, List.append_nil, List.append_nil] at whole
    exact whole
  · rw [if_neg fun ongoing => readable ongoing.1, Option.getD_none, LimitedStream.error,
      if_neg readable]
    exact ⟨{ kept with
      whole := fun live => absurd live readable
      exceeded := fun is => kept.exceeded (is.elim (fun settling => by cases settling) .inr)
      drained := fun live => absurd live readable
      unstarted := fun unstarted => absurd unstarted started }, awaited_ended readable⟩

/-- The source has answered with a chunk that keeps to the limit, and the chunk is passed on. -/
theorem Kept.pass (kept : s.Kept chunks limit) (reading : s.pull = .reading)
    (readable : s.state = .readable) {chunk : Chunk} {source queue forwarded : List Chunk}
    {requests : ℕ} (sourced : s.source = chunk :: source)
    (fits : s.bytes + chunk.length ≤ limit)
    (passed : forwarded ++ queue = s.forwarded ++ [chunk])
    (served : 0 < requests → queue = []) :
    Kept chunks limit { s with
      source, bytes := s.bytes + chunk.length, queue, forwarded, readRequests := requests,
      pull := .settling } := by
  have empty := kept.drained readable (.inl reading)
  obtain ⟨whole, counted, calls⟩ := kept.whole readable (by simp [reading])
  have taken : forwarded ++ queue ++ source = chunks := by
    rw [passed, ← whole, sourced, empty, List.append_nil, List.append_assoc,
      List.singleton_append]
  have bytes : s.bytes + chunk.length = (forwarded ++ queue).flatten.length := by
    rw [passed, counted, empty]
    simp
  exact {
    forwards := ⟨source, taken⟩
    fits := bytes ▸ fits
    whole := fun _ _ => ⟨taken, bytes, calls⟩
    exceeded := fun is => by simp [readable] at is
    once := kept.once
    complete := fun closed => by simp [readable] at closed
    ongoing := kept.ongoing
    drained := fun _ is => by simp at is
    served := fun _ waiting => served waiting
    unstarted := fun unstarted => by simp [kept.unstarted unstarted] at reading
    ended := fun ended => absurd readable ended }

/-- A chunk that keeps to the limit goes on; the one that does not is the end. -/
theorem Kept.resume (kept : s.Kept chunks limit) (reading : s.pull = .reading) :
    (s.resume limit).Kept chunks limit ∧ (s.resume limit).Awaited := by
  unfold LimitedStream.resume
  split
  next done => exact kept.close reading done
  next chunk source sourced =>
    have readable : s.state = .readable := by
      by_contra ended
      simp [(kept.ended ended).2] at sourced
    have empty := kept.drained readable (.inl reading)
    obtain ⟨whole, counted, calls⟩ := kept.whole readable (by simp [reading])
    dsimp only
    split
    next exceeds =>
      have total : chunks.flatten.length = s.bytes + chunk.length + source.flatten.length := by
        rw [← whole, sourced, counted]
        simp only [List.flatten_append, List.flatten_cons, List.length_append]
        omega
      refine ⟨{ kept with
        whole := fun _ fresh => absurd rfl fresh
        exceeded := fun _ => ⟨by omega, by simp [calls], rfl⟩
        once := by simp [calls]
        drained := fun _ _ => empty
        unstarted := fun unstarted => by simp [kept.unstarted unstarted] at reading
        ended := fun ended => absurd readable ended }, fun _ => ⟨by simp, by simp⟩⟩
    next within =>
      have fits : s.bytes + chunk.length ≤ limit := by omega
      unfold LimitedStream.enqueue
      rw [if_pos ⟨readable, kept.ongoing readable⟩]
      split
      next idle =>
        rw [Option.getD_some, callPullIfNeeded_busy (by simp [reading])]
        refine (kept.pass reading readable sourced fits ?_ fun waiting => ?_).callPullIfNeeded
        · rw [empty, List.nil_append]
        · exact absurd waiting (Nat.not_lt.mpr (Nat.le_of_eq idle))
      next requests _ =>
        rw [Option.getD_some, callPullIfNeeded_busy (by simp [reading])]
        refine (kept.pass reading readable sourced fits ?_ fun _ => empty).callPullIfNeeded
        rw [empty, List.append_nil]

theorem Kept.settle (kept : s.Kept chunks limit) (awaited : s.Awaited)
    (settling : s.pull = .settling) :
    s.settle.Kept chunks limit ∧ s.settle.Awaited := by
  have idle : Kept chunks limit { s with pull := .idle } :=
    { kept with
      whole := fun live _ => kept.whole live (by simp [settling])
      exceeded := fun is => kept.exceeded (is.elim (fun cancelling => by cases cancelling) .inr)
      drained := fun _ is => by simp at is
      unstarted := fun _ => rfl }
  unfold LimitedStream.settle
  split
  next =>
    have again : Kept chunks limit { s with pull := .idle, pullAgain := false } := { idle with }
    exact again.callPullIfNeeded
  next unasked =>
    exact ⟨idle, fun should => absurd ((awaited should).2 settling) unasked⟩

/-- What each step keeps. -/
theorem Kept.step (kept : s.Kept chunks limit) (awaited : s.Awaited) (event : StreamEvent) :
    (s.step limit event).Kept chunks limit ∧ (s.step limit event).Awaited := by
  cases event with
  | start =>
    simp only [LimitedStream.step]
    split
    · exact ⟨kept, awaited⟩
    · have started : Kept chunks limit { s with started := true } :=
        { kept with unstarted := fun unstarted => by cases unstarted }
      exact started.callPullIfNeeded
  | read => exact kept.read awaited
  | cancel => exact kept.cancel awaited
  | resume =>
    simp only [LimitedStream.step]
    split
    · exact kept.resume ‹_›
    · exact ⟨kept, awaited⟩
  | sourceCancelled =>
    simp only [LimitedStream.step]
    split
    next cancelling =>
      refine ⟨kept.error cancelling, awaited_ended ?_⟩
      unfold LimitedStream.error
      split
      · simp
      · assumption
    next => exact ⟨kept, awaited⟩
  | settle =>
    simp only [LimitedStream.step]
    split
    · exact kept.settle awaited ‹_›
    · exact ⟨kept, awaited⟩

theorem Kept.run (kept : s.Kept chunks limit) (awaited : s.Awaited)
    (events : List StreamEvent) :
    ((streamWithByteLimit chunks limit).run s events).Kept chunks limit ∧
      ((streamWithByteLimit chunks limit).run s events).Awaited := by
  induction events generalizing s with
  | nil => exact ⟨kept, awaited⟩
  | cons event events ih =>
    obtain ⟨kept', awaited'⟩ := kept.step awaited event
    exact ih kept' awaited'

/-! ### The end of the stream -/

/-- A bound on what still happens in a stream that is read. -/
def left (s : LimitedStream) : ℕ :=
  if s.state = .readable then
    3 * s.source.length + s.queue.length +
      (if s.pull = .cancelling ∨ s.pull = .settling then 1 else 0) +
      (if s.started then 0 else 1) + 1
  else 0

/-- The event that the stream waits for. -/
def due (s : LimitedStream) : StreamEvent :=
  if s.started then
    match s.pull with
    | .idle => .read
    | .reading => .resume
    | .cancelling => .sourceCancelled
    | .settling => .settle
  else .start

theorem left_callPullIfNeeded (s : LimitedStream) : s.callPullIfNeeded.left = s.left := by
  rcases callPullIfNeeded_cases s with ⟨-, same⟩ | ⟨-, ⟨idle, same⟩ | ⟨-, same⟩⟩
  · rw [same]
  · rw [same]
    simp [left, idle]
  · rw [same]
    rfl

theorem left_ended (ended : s.state ≠ .readable) : s.left = 0 := if_neg ended

theorem left_pos (readable : s.state = .readable) : 0 < s.left := by
  rw [left, if_pos readable]
  exact Nat.succ_pos _

/-- A read takes a chunk of the queue, or waits. -/
theorem read_cases (kept : s.Kept chunks limit) (readable : s.state = .readable) :
    s.read.left < s.left ∨
      s.queue = [] ∧ s.read = { s with readRequests := s.readRequests + 1 }.callPullIfNeeded := by
  unfold LimitedStream.read
  rw [if_pos readable]
  split
  next empty => exact .inr ⟨empty, rfl⟩
  next chunk queue queued =>
    rw [if_neg (by simp [kept.ongoing readable]), left_callPullIfNeeded]
    left
    simp only [LimitedStream.left, readable, queued, if_true, List.length_cons]
    omega

/-- The event that the stream waits for brings it nearer to its end. -/
theorem due_lt (kept : s.Kept chunks limit) (awaited : s.Awaited)
    (readable : s.state = .readable) : (s.step limit s.due).left < s.left := by
  unfold due
  split
  next started =>
    cases pulled : s.pull with
    | idle =>
      have satisfied : s.shouldCallPull ≠ true := fun should => (awaited should).1 pulled
      rcases read_cases kept readable with less | ⟨empty, -⟩
      · exact less
      · exact absurd (shouldCallPull_iff.mpr
          ⟨readable, kept.ongoing readable, started, .inr empty⟩) satisfied
    | reading =>
      simp only [LimitedStream.step, pulled, if_true]
      unfold LimitedStream.resume
      split
      next done =>
        unfold LimitedStream.close
        rw [if_pos ⟨readable, kept.ongoing readable⟩, if_pos (kept.drained readable (.inl pulled)),
          Option.getD_some, left_ended (by simp)]
        exact left_pos readable
      next chunk source sourced =>
        dsimp only
        split
        next =>
          simp only [left, readable, sourced, List.length_cons, List.length_nil, if_true, true_or]
          omega
        next =>
          unfold LimitedStream.enqueue
          rw [if_pos ⟨readable, kept.ongoing readable⟩]
          split
          all_goals
            rw [Option.getD_some, callPullIfNeeded_busy (by simp [pulled]), left_callPullIfNeeded]
            simp only [left, readable, sourced, pulled, List.length_cons, List.length_append,
              List.length_nil, if_true, or_true]
            omega
    | cancelling =>
      simp only [LimitedStream.step, pulled, if_true, LimitedStream.error, if_pos readable]
      rw [left_ended (by simp)]
      exact left_pos readable
    | settling =>
      simp only [LimitedStream.step, pulled, if_true]
      unfold LimitedStream.settle
      split
      · rw [left_callPullIfNeeded]
        simp [left, readable, pulled]
      · simp [left, readable, pulled]
  next unstarted =>
    simp only [LimitedStream.step, if_neg unstarted, left_callPullIfNeeded]
    simp [left, readable, unstarted]

/-- Any other event leaves the stream waiting for the same one, if it does not bring it nearer. -/
theorem due_stays (kept : s.Kept chunks limit) (readable : s.state = .readable)
    {event : StreamEvent} (other : event ≠ s.due) (uncancelled : event ≠ .cancel) :
    (s.step limit event).left < s.left ∨
      (s.step limit event).left = s.left ∧ (s.step limit event).due = s.due ∧
        (s.step limit event).state = .readable := by
  have started : s.pull ≠ .idle → s.started = true := fun busy => by
    by_contra unstarted
    exact busy (kept.unstarted (by simpa using unstarted))
  have still : ∀ {t : LimitedStream}, t = s →
      t.left < s.left ∨ t.left = s.left ∧ t.due = s.due ∧ t.state = .readable := by
    rintro _ rfl
    exact .inr ⟨rfl, rfl, readable⟩
  cases event with
  | start =>
    have was : s.started = true := by
      by_contra unstarted
      exact other (by simp [due, unstarted])
    exact still (if_pos was)
  | read =>
    rcases read_cases kept readable with less | ⟨empty, waits⟩
    · exact .inl less
    · right
      simp only [LimitedStream.step, waits, left_callPullIfNeeded]
      refine ⟨rfl, ?_⟩
      rcases callPullIfNeeded_cases { s with readRequests := s.readRequests + 1 } with
        ⟨-, same⟩ | ⟨should, ⟨idle, -⟩ | ⟨-, same⟩⟩
      · rw [same]
        exact ⟨rfl, readable⟩
      · obtain ⟨-, -, started, -⟩ := shouldCallPull_iff.mp should
        have waited : s.due = .read := by
          have idle : s.pull = .idle := idle
          have started : s.started = true := started
          rw [due, if_pos started, idle]
        exact absurd waited.symm other
      · rw [same]
        exact ⟨rfl, readable⟩
  | cancel => exact absurd rfl uncancelled
  | resume =>
    have elsewhere : s.pull ≠ .reading := fun reading =>
      other (by rw [due, if_pos (started (by simp [reading])), reading])
    exact still (if_neg elsewhere)
  | sourceCancelled =>
    have elsewhere : s.pull ≠ .cancelling := fun cancelling =>
      other (by rw [due, if_pos (started (by simp [cancelling])), cancelling])
    exact still (if_neg elsewhere)
  | settle =>
    have elsewhere : s.pull ≠ .settling := fun settling =>
      other (by rw [due, if_pos (started (by simp [settling])), settling])
    exact still (if_neg elsewhere)

/-- A stream that has ended stays ended. -/
theorem step_ended (kept : s.Kept chunks limit) (ended : s.state ≠ .readable)
    (event : StreamEvent) : (s.step limit event).state = s.state := by
  have called : ∀ {t : LimitedStream}, t.state = s.state → t.callPullIfNeeded.state = s.state := by
    intro t same
    rcases callPullIfNeeded_cases t with ⟨-, is⟩ | ⟨-, ⟨-, is⟩ | ⟨-, is⟩⟩ <;>
      rw [is] <;> exact same
  cases event with
  | start =>
    simp only [LimitedStream.step]
    split
    · rfl
    · exact called rfl
  | read => simp only [LimitedStream.step, LimitedStream.read, if_neg ended]
  | cancel => simp only [LimitedStream.step, LimitedStream.cancel, if_neg ended]
  | resume =>
    simp only [LimitedStream.step]
    split
    · simp only [LimitedStream.resume, (kept.ended ended).2, LimitedStream.close, ended,
        false_and, if_false, Option.getD_none, LimitedStream.error]
    · rfl
  | sourceCancelled =>
    simp only [LimitedStream.step, LimitedStream.error, if_neg ended]
    split <;> rfl
  | settle =>
    simp only [LimitedStream.step, LimitedStream.settle]
    split
    · split
      · exact called rfl
      · rfl
    · rfl

theorem step_left_le (kept : s.Kept chunks limit) (awaited : s.Awaited) (event : StreamEvent) :
    (s.step limit event).left ≤ s.left := by
  by_cases readable : s.state = .readable
  · by_cases waited : event = s.due
    · rw [waited]
      exact (due_lt kept awaited readable).le
    · by_cases cancels : event = .cancel
      · rw [cancels, left_ended (by simp [LimitedStream.step, LimitedStream.cancel, readable])]
        exact Nat.zero_le _
      · rcases due_stays kept readable waited cancels with less | ⟨same, -⟩
        · exact less.le
        · exact same.le
  · rw [left_ended (by rwa [step_ended kept readable])]
    exact Nat.zero_le _

theorem run_left_le (kept : s.Kept chunks limit) (awaited : s.Awaited)
    (events : List StreamEvent) :
    ((streamWithByteLimit chunks limit).run s events).left ≤ s.left := by
  induction events generalizing s with
  | nil => exact le_refl _
  | cons event events ih =>
    obtain ⟨kept', awaited'⟩ := kept.step awaited event
    exact (ih kept' awaited').trans (step_left_le kept awaited event)

/-- As long as the stream has not ended, a round brings it nearer to its end. -/
theorem round_lt (kept : s.Kept chunks limit) (awaited : s.Awaited)
    (readable : s.state = .readable) {events : List StreamEvent}
    (uncancelled : StreamEvent.cancel ∉ events) (acts : s.due ∈ events) :
    ((streamWithByteLimit chunks limit).run s events).left < s.left := by
  induction events generalizing s with
  | nil => cases acts
  | cons event events ih =>
    obtain ⟨kept', awaited'⟩ := kept.step awaited event
    have later := run_left_le kept' awaited' events
    rw [Machine.run_cons]
    by_cases waited : event = s.due
    · exact later.trans_lt (waited ▸ due_lt kept awaited readable)
    · have other : event ≠ .cancel := fun cancels => uncancelled (cancels ▸ List.mem_cons_self)
      rcases due_stays kept readable waited other with less | ⟨same, due, still⟩
      · exact later.trans_lt less
      · have acts' : (s.step limit event).due ∈ events := by
          rw [due]
          exact (List.mem_cons.mp acts).resolve_left (Ne.symm waited)
        exact (ih kept' awaited' still (fun there => uncancelled (List.mem_cons_of_mem _ there))
          acts').trans_eq same

theorem rounds_end (kept : s.Kept chunks limit) (awaited : s.Awaited)
    {rounds : List (List StreamEvent)} (fair : ∀ round ∈ rounds, Fair round)
    (enough : s.left ≤ rounds.length) :
    ((streamWithByteLimit chunks limit).run s rounds.flatten).state ≠ .readable := by
  induction rounds generalizing s with
  | nil => exact fun readable => (left_pos readable).ne' (Nat.le_zero.mp enough)
  | cons round rounds ih =>
    obtain ⟨here, later⟩ := List.forall_mem_cons.mp fair
    obtain ⟨kept', awaited'⟩ := kept.run awaited round
    rw [List.flatten_cons, Machine.run_append]
    refine ih kept' awaited' later ?_
    rw [List.length_cons] at enough
    by_cases readable : s.state = .readable
    · have acts : s.due ∈ round := (here s.due).mpr (by unfold due; split <;> [split; skip] <;> simp)
      have less := round_lt kept awaited readable (fun cancels => (here _).mp cancels rfl) acts
      omega
    · have none_left := run_left_le kept awaited round
      rw [left_ended readable] at none_left
      omega

theorem step_cancelled {event : StreamEvent} (other : event ≠ .cancel) :
    (s.step limit event).cancelled = s.cancelled := by
  have called : ∀ t : LimitedStream, t.callPullIfNeeded.cancelled = t.cancelled := by
    intro t
    rcases callPullIfNeeded_cases t with ⟨-, is⟩ | ⟨-, ⟨-, is⟩ | ⟨-, is⟩⟩ <;> rw [is]
  have fails : ∀ t : LimitedStream, t.error.cancelled = t.cancelled := by
    intro t
    unfold LimitedStream.error
    split <;> rfl
  cases event with
  | start => simp only [LimitedStream.step]; split <;> simp only [called]
  | read =>
    simp only [LimitedStream.step, LimitedStream.read]
    split
    · split
      · simp only [called]
      · split
        · rfl
        · simp only [called]
    · rfl
  | cancel => exact absurd rfl other
  | resume =>
    simp only [LimitedStream.step, LimitedStream.resume]
    split
    · split
      · unfold LimitedStream.close
        split
        · split <;> rfl
        · exact fails s
      · split
        · rfl
        · unfold LimitedStream.enqueue
          split
          · split <;> exact called _
          · exact fails _
    · rfl
  | sourceCancelled =>
    simp only [LimitedStream.step]
    split <;> simp only [fails]
  | settle =>
    simp only [LimitedStream.step, LimitedStream.settle]
    split
    · split <;> simp only [called]
    · rfl

theorem run_cancelled {events : List StreamEvent} (uncancelled : StreamEvent.cancel ∉ events) :
    ((streamWithByteLimit chunks limit).run s events).cancelled = s.cancelled := by
  induction events generalizing s with
  | nil => rfl
  | cons event events ih =>
    obtain ⟨other, others⟩ := not_or.mp (List.mem_cons.not.mp uncancelled)
    exact (ih others).trans (step_cancelled (Ne.symm other))

theorem Kept.forwarded_prefix (kept : s.Kept chunks limit) :
    s.forwarded.flatten <+: chunks.flatten := by
  obtain ⟨rest, whole⟩ := kept.forwards
  refine ⟨(s.queue ++ rest).flatten, ?_⟩
  rw [← whole, ← List.flatten_append, List.append_assoc]

theorem Kept.forwarded_length (kept : s.Kept chunks limit) :
    s.forwarded.flatten.length ≤ limit := by
  have fits := kept.fits
  rw [List.flatten_append, List.length_append] at fits
  omega

theorem Kept.closed (kept : s.Kept chunks limit) (closed : s.state = .closed)
    (uncancelled : s.cancelled = false) :
    s.forwarded = chunks ∧ chunks.flatten.length ≤ limit := by
  have forwarded := kept.complete closed uncancelled
  exact ⟨forwarded, forwarded ▸ kept.forwarded_length⟩

/-- How a stream ends that nobody cancels. -/
theorem Kept.end (kept : s.Kept chunks limit) (ended : s.state ≠ .readable)
    (uncancelled : s.cancelled = false) :
    (s.state = .errored ↔ limit < chunks.flatten.length) ∧
      (chunks.flatten.length ≤ limit → s.state = .closed ∧ s.forwarded = chunks) := by
  cases state : s.state with
  | readable => exact absurd state ended
  | closed =>
    obtain ⟨forwarded, fits⟩ := kept.closed state uncancelled
    exact ⟨⟨fun errored => (by cases errored), fun exceeds => absurd fits (by omega)⟩,
      fun _ => ⟨rfl, forwarded⟩⟩
  | errored =>
    have exceeds := (kept.exceeded (.inr state)).1
    exact ⟨⟨fun _ => exceeds, fun _ => rfl⟩, fun fits => absurd exceeds (by omega)⟩

end LimitedStream

/-- However the input is split into chunks and the stream is read: what is forwarded is a beginning of
the input within the limit, and a stream that is not cancelled and goes on to its end is an error if
the input exceeds the limit, and the input itself if it does not. -/
theorem limited_stream_laws (chunks : List Chunk) (limit : ℕ) (events : List StreamEvent) :
    let M := streamWithByteLimit chunks limit
    let s := M.run M.init events
    s.forwarded.flatten <+: chunks.flatten ∧ s.forwarded.flatten.length ≤ limit ∧
      s.limitCalls ≤ 1 ∧
      (s.state = .errored → limit < chunks.flatten.length ∧ s.limitCalls = 1) ∧
      (s.state = .closed → s.cancelled = false →
        s.forwarded = chunks ∧ chunks.flatten.length ≤ limit) ∧
      ∀ rounds : List (List StreamEvent), (∀ round ∈ rounds, Fair round) →
        3 * chunks.length + 2 ≤ rounds.length → s.cancelled = false →
          let t := M.run s rounds.flatten
          (t.state = .errored ↔ limit < chunks.flatten.length) ∧
            (chunks.flatten.length ≤ limit → t.state = .closed ∧ t.forwarded = chunks) := by
  intro M s
  have start : LimitedStream.Awaited M.init := fun should => by
    have started := (LimitedStream.shouldCallPull_iff.mp should).2.2.1
    cases started
  obtain ⟨kept, awaited⟩ : s.Kept chunks limit ∧ s.Awaited :=
    (LimitedStream.Kept.init chunks limit).run start events
  refine ⟨kept.forwarded_prefix, kept.forwarded_length, kept.once, fun errored => ?_,
    kept.closed, fun rounds fair enough uncancelled => ?_⟩
  · obtain ⟨exceeds, calls, -⟩ := kept.exceeded (.inr errored)
    exact ⟨exceeds, calls⟩
  · have cancels : StreamEvent.cancel ∉ rounds.flatten := fun there => by
      obtain ⟨round, member, cancels⟩ := List.mem_flatten.mp there
      exact (fair round member _).mp cancels rfl
    have bound : s.left ≤ 3 * chunks.length + 2 :=
      LimitedStream.run_left_le (LimitedStream.Kept.init chunks limit) start events
    exact (kept.run awaited rounds.flatten).1.end
      (LimitedStream.rounds_end kept awaited fair (bound.trans enough))
      ((LimitedStream.run_cancelled cancels).trans uncancelled)

/-- An input of four bytes in three chunks, one of them empty, that its reader begins to read. -/
theorem limited_stream_laws_example :
    let M := streamWithByteLimit [[1, 2], [], [3, 4]] 3
    let s := M.run M.init [.read, .start, .resume]
    let round : List StreamEvent := [.start, .read, .resume, .sourceCancelled, .settle]
    s.forwarded = [[1, 2]] ∧ (M.run s (List.replicate 11 round).flatten).state = .errored := by
  intro M s round
  have fair : ∀ round' ∈ List.replicate 11 round, Fair round' := fun round' member => by
    rw [List.eq_of_mem_replicate member]
    intro event
    cases event <;> decide
  have laws := (limited_stream_laws [[1, 2], [], [3, 4]] 3 [.read, .start, .resume]).2.2.2.2.2
    (List.replicate 11 round) fair (by decide) (by decide)
  exact ⟨by decide, laws.1.mpr (by decide)⟩

/-! ### What is read ahead -/

namespace LimitedStream

variable {chunks : List Chunk} {limit : ℕ} {s : LimitedStream}

/-- At most one chunk waits that the consumer has not asked for, and each read gets one chunk at most. -/
structure Ahead (reads : ℕ) (s : LimitedStream) : Prop where
  queued : s.queue.length ≤ 1
  answered : s.forwarded.length + s.readRequests ≤ reads

theorem Ahead.callPullIfNeeded {reads : ℕ} (ahead : s.Ahead reads) :
    s.callPullIfNeeded.Ahead reads := by
  rcases callPullIfNeeded_cases s with ⟨-, same⟩ | ⟨-, ⟨-, same⟩ | ⟨-, same⟩⟩
  · rw [same]
    exact ahead
  · rw [same]
    exact { ahead with }
  · rw [same]
    exact { ahead with }

theorem Ahead.error {reads : ℕ} (ahead : s.Ahead reads) : s.error.Ahead reads := by
  unfold LimitedStream.error
  split
  · exact ⟨Nat.zero_le _, (Nat.le_add_right _ _).trans ahead.answered⟩
  · exact ahead

theorem Ahead.close {reads : ℕ} (ahead : s.Ahead reads) : (s.close.getD s.error).Ahead reads := by
  unfold LimitedStream.close
  split
  · split
    · exact ⟨ahead.queued, (Nat.le_add_right _ _).trans ahead.answered⟩
    · exact { ahead with }
  · exact ahead.error

theorem Ahead.enqueue {reads : ℕ} (ahead : s.Ahead reads) (chunk : Chunk)
    (empty : s.state = .readable → s.queue = []) :
    ((s.enqueue chunk).getD s.error).Ahead reads := by
  unfold LimitedStream.enqueue
  split
  next ongoing =>
    have answered := ahead.answered
    split
    · refine callPullIfNeeded ⟨?_, answered⟩
      rw [empty ongoing.1]
      exact le_rfl
    next requests waiting =>
      refine callPullIfNeeded ⟨ahead.queued, ?_⟩
      rw [waiting] at answered
      show (s.forwarded ++ [chunk]).length + requests ≤ reads
      rw [List.length_append, List.length_singleton]
      omega
  next => exact ahead.error

theorem Ahead.read {reads : ℕ} (ahead : s.Ahead reads) : s.read.Ahead (reads + 1) := by
  have answered := ahead.answered
  have queued := ahead.queued
  unfold LimitedStream.read
  split
  · split
    · exact callPullIfNeeded ⟨queued, by simp only; omega⟩
    next chunk queue held =>
      have delivered : Ahead (reads + 1) { s with queue, forwarded := s.forwarded ++ [chunk] } := by
        rw [held, List.length_cons] at queued
        refine ⟨by simp only; omega, ?_⟩
        simp only [List.length_append, List.length_singleton]
        omega
      dsimp only
      split
      · exact { delivered with }
      · exact delivered.callPullIfNeeded
  · exact ⟨queued, Nat.le_succ_of_le answered⟩

theorem Ahead.step {reads : ℕ} (kept : s.Kept chunks limit) (ahead : s.Ahead reads)
    (event : StreamEvent) :
    (s.step limit event).Ahead (if event = .read then reads + 1 else reads) := by
  cases event with
  | start =>
    rw [if_neg (by decide)]
    simp only [LimitedStream.step]
    split
    · exact ahead
    · exact callPullIfNeeded { ahead with }
  | read => exact ahead.read
  | cancel =>
    rw [if_neg (by decide)]
    simp only [LimitedStream.step, LimitedStream.cancel]
    split
    · exact ⟨Nat.zero_le _, (Nat.le_add_right _ _).trans ahead.answered⟩
    · exact ahead
  | resume =>
    rw [if_neg (by decide)]
    simp only [LimitedStream.step]
    split
    next reading =>
      unfold LimitedStream.resume
      split
      · exact { ahead.close with }
      next chunk source held =>
        dsimp only
        split
        · exact { ahead with }
        · have taken : Ahead reads { s with source, bytes := s.bytes + chunk.length } :=
            { ahead with }
          exact { taken.enqueue chunk fun readable => kept.drained readable (.inl reading) with }
    next => exact ahead
  | sourceCancelled =>
    rw [if_neg (by decide)]
    simp only [LimitedStream.step]
    split
    · exact { ahead.error with }
    · exact ahead
  | settle =>
    rw [if_neg (by decide)]
    simp only [LimitedStream.step, LimitedStream.settle]
    split
    · split
      · exact callPullIfNeeded { ahead with }
      · exact { ahead with }
    · exact ahead

theorem Ahead.run {reads : ℕ} (kept : s.Kept chunks limit) (awaited : s.Awaited)
    (ahead : s.Ahead reads) (events : List StreamEvent) :
    ((streamWithByteLimit chunks limit).run s events).Ahead (reads + events.count .read) := by
  induction events generalizing s reads with
  | nil => exact ahead
  | cons event events ih =>
    obtain ⟨kept', awaited'⟩ := kept.step awaited event
    have later := ih kept' awaited' (ahead.step kept event)
    rw [Machine.run_cons, List.count_cons]
    have total : (if event = .read then reads + 1 else reads) + events.count .read =
        reads + (events.count .read + if event == .read then 1 else 0) := by
      simp only [beq_iff_eq]
      split <;> omega
    rwa [← total]

end LimitedStream

/-- The stream keeps back its source: however it is read, at most one chunk waits in it, and of a
stream that goes on the source has given at most one chunk more than the consumer has asked for. -/
theorem limited_stream_ahead (chunks : List Chunk) (limit : ℕ) (events : List StreamEvent) :
    let M := streamWithByteLimit chunks limit
    let s := M.run M.init events
    s.queue.length ≤ 1 ∧ s.forwarded.length + s.readRequests ≤ events.count .read ∧
      (s.state = .readable → s.pull ≠ .cancelling →
        chunks.length ≤ s.source.length + events.count .read + 1) := by
  intro M s
  have start : LimitedStream.Awaited M.init := fun should => by
    have started := (LimitedStream.shouldCallPull_iff.mp should).2.2.1
    cases started
  have first : LimitedStream.Ahead 0 M.init := ⟨Nat.zero_le _, le_rfl⟩
  obtain ⟨kept, -⟩ : s.Kept chunks limit ∧ s.Awaited :=
    (LimitedStream.Kept.init chunks limit).run start events
  have ahead : s.Ahead (events.count .read) := by
    have ran := first.run (LimitedStream.Kept.init chunks limit) start events
    rwa [Nat.zero_add] at ran
  refine ⟨ahead.queued, ahead.answered, fun readable busy => ?_⟩
  have whole := congrArg List.length (kept.whole readable busy).1
  have queued := ahead.queued
  have answered := ahead.answered
  rw [List.length_append, List.length_append] at whole
  omega

end CyberLegends.Frontend
