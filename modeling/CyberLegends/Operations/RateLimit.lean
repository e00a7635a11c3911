import CyberLegends.Lib.Table
import CyberLegends.Lib.Window
import Mathlib.Algebra.Order.Ring.Int

/-! The rate limiter in memory: for each key a queue of the times of the calls that it has allowed,
without those that have left the window. -/

namespace CyberLegends.Operations

open CyberLegends.Lib

/-! ### The limiter -/

/-- A limiter whose clock reads times in `α`. -/
structure InMemoryRateLimiter (α : Type*) where
  queues : Table String (List α) := ∅

namespace InMemoryRateLimiter

variable {α : Type*} (limiter : InMemoryRateLimiter α)

/-- The queue of a key, empty at first. -/
def events (key : String) : List α := (limiter.queues.lookup key).getD []

def setEvents (key : String) (events : List α) : InMemoryRateLimiter α where
  queues := limiter.queues.insert key events

variable [Sub α] [LinearOrder α]

/-- Whether a call is allowed, and the limiter after it. -/
def allow (now : α) (key : String) (limit : Nat) (windowSeconds : α) :
    Bool × InMemoryRateLimiter α :=
  let cutoff := now - windowSeconds
  let events := (limiter.events key).dropWhile (· ≤ cutoff)
  if events.length ≥ limit then (false, limiter.setEvents key events)
  else (true, limiter.setEvents key (events ++ [now]))

end InMemoryRateLimiter

/-- A call of the limiter, with what its clock reads then. -/
structure Call (α : Type*) where
  now : α
  key : String
  limit : Nat
  windowSeconds : α

section

variable {α : Type*} [Sub α] [LinearOrder α]

/-- The calls, each with whether it was allowed. -/
def answers (limiter : InMemoryRateLimiter α) : List (Call α) → List (Call α × Bool)
  | [] => []
  | call :: calls =>
    let (allowed, limiter) := limiter.allow call.now call.key call.limit call.windowSeconds
    (call, allowed) :: answers limiter calls

/-- When the calls for the key that were allowed were made. -/
def allowedTimes (key : String) (answered : List (Call α × Bool)) : List α :=
  (answered.filter fun (call, allowed) => call.key = key ∧ allowed).map fun (call, _) => call.now

end

/-! ### One call -/

section

variable {α : Type*}

@[simp] theorem setEvents_events (limiter : InMemoryRateLimiter α) (key : String)
    (events : List α) : (limiter.setEvents key events).events key = events := by
  simp [InMemoryRateLimiter.events, InMemoryRateLimiter.setEvents]

theorem setEvents_events_ne (limiter : InMemoryRateLimiter α) {key key' : String}
    (other : key' ≠ key) (events : List α) :
    (limiter.setEvents key events).events key' = limiter.events key' := by
  simp [InMemoryRateLimiter.events, InMemoryRateLimiter.setEvents, other]

@[simp] theorem empty_events (key : String) :
    ({} : InMemoryRateLimiter α).events key = [] := by
  simp [InMemoryRateLimiter.events]

variable [Sub α] [LinearOrder α]

/-- A call leaves the queues of other keys. -/
theorem allow_events_ne (limiter : InMemoryRateLimiter α) (now : α) {key key' : String}
    (limit : Nat) (windowSeconds : α) (other : key' ≠ key) :
    (limiter.allow now key limit windowSeconds).2.events key' = limiter.events key' := by
  unfold InMemoryRateLimiter.allow
  dsimp only
  split <;> exact setEvents_events_ne limiter other _

/-- The answer to a call and the queue of its key after it are those of the queue before it. -/
theorem allow_congr {limiter limiter' : InMemoryRateLimiter α} {key : String}
    (same : limiter.events key = limiter'.events key) (now : α) (limit : Nat) (windowSeconds : α) :
    (limiter.allow now key limit windowSeconds).1 =
        (limiter'.allow now key limit windowSeconds).1 ∧
      (limiter.allow now key limit windowSeconds).2.events key =
        (limiter'.allow now key limit windowSeconds).2.events key := by
  unfold InMemoryRateLimiter.allow
  dsimp only
  rw [same]
  split <;> simp

/-- The answers to the calls for a key are those to these calls alone. -/
theorem answers_filter {limiter limiter' : InMemoryRateLimiter α} {key : String}
    (same : limiter.events key = limiter'.events key) (calls : List (Call α)) :
    (answers limiter calls).filter (fun (call, _) => call.key = key) =
      answers limiter' (calls.filter fun call => call.key = key) := by
  induction calls generalizing limiter limiter' with
  | nil => rfl
  | cons call calls ih =>
    by_cases here : call.key = key
    · subst here
      obtain ⟨answer, after⟩ := allow_congr same call.now call.limit call.windowSeconds
      simp [answers, answer, ih after]
    · have after : (limiter.allow call.now call.key call.limit call.windowSeconds).2.events key =
          limiter'.events key := by
        rw [allow_events_ne limiter call.now call.limit call.windowSeconds (Ne.symm here), same]
      simp [answers, here, ih after]

end

/-! ### Runs -/

section

variable {α : Type*} [AddCommGroup α] [LinearOrder α]

/-- The queue of a key holds what the log of its allowed calls has in any window that a later call
looks at. -/
structure Queued (queue log : List α) (window now : α) : Prop where
  sorted : log.Pairwise (· ≤ ·)
  past : ∀ s ∈ log, s ≤ now
  recent : ∀ cut, now - window ≤ cut → queue.filter (cut < ·) = log.filter (cut < ·)
  sublist : queue.Sublist log

/-- What a call keeps of the queue is what lies in its window. -/
theorem Queued.dropWhile {queue log : List α} {window now : α}
    (queued : Queued queue log window now) :
    queue.dropWhile (· ≤ now - window) = within window now log := by
  rw [dropWhile_sorted (queued.sorted.sublist queued.sublist), within_of_le queued.past,
    queued.recent _ le_rfl]

theorem Queued.within {queue log : List α} {window now : α}
    (queued : Queued queue log window now) :
    Queued (within window now log) log window now where
  sorted := queued.sorted
  past := queued.past
  recent cut inside := by
    rw [within_of_le queued.past, List.filter_filter]
    refine List.filter_congr fun s _ => ?_
    have : cut < s → now - window < s := fun late => inside.trans_lt late
    by_cases late : cut < s <;> simp [late, this]
  sublist := List.filter_sublist

theorem Queued.append {queue log : List α} {window now : α} (queued : Queued queue log window now) :
    Queued (queue ++ [now]) (log ++ [now]) window now where
  sorted := List.pairwise_append.mpr
    ⟨queued.sorted, List.pairwise_singleton .., by simpa using queued.past⟩
  past s member := by
    rcases List.mem_append.mp member with member | member
    · exact queued.past s member
    · exact le_of_eq (List.mem_singleton.mp member)
  recent cut inside := by rw [List.filter_append, List.filter_append, queued.recent cut inside]
  sublist := queued.sublist.append (List.Sublist.refl _)

/-- A call is allowed exactly if fewer than its limit of the log lie in its window, and then joins
the log. -/
theorem allow_queued {limiter : InMemoryRateLimiter α} {key : String} {log : List α}
    {window now : α} (limit : Nat) (queued : Queued (limiter.events key) log window now) :
    (limiter.allow now key limit window).1 = decide ((within window now log).length < limit) ∧
      Queued ((limiter.allow now key limit window).2.events key)
        (if (limiter.allow now key limit window).1 then log ++ [now] else log) window now := by
  have result : limiter.allow now key limit window =
      if (within window now log).length ≥ limit then
        (false, limiter.setEvents key (within window now log))
      else (true, limiter.setEvents key (within window now log ++ [now])) := by
    unfold InMemoryRateLimiter.allow
    dsimp only
    rw [queued.dropWhile]
  rw [result]
  by_cases full : (within window now log).length ≥ limit
  · simpa [full] using queued.within
  · simpa [full, Nat.lt_of_not_le full] using queued.within.append

variable [IsOrderedAddMonoid α]

theorem Queued.later {queue log : List α} {window now now' : α}
    (queued : Queued queue log window now) (later : now ≤ now') : Queued queue log window now' where
  sorted := queued.sorted
  past s member := (queued.past s member).trans later
  recent cut inside := queued.recent cut ((sub_le_sub_right later window).trans inside)
  sublist := queued.sublist

/-- Of calls in the order of their times, one for the key is allowed exactly if fewer than its limit
of the log and of the calls allowed before it lie in its window. -/
theorem answers_decides {limiter : InMemoryRateLimiter α} {key : String} {limit : Nat} {window : α}
    {calls : List (Call α)} (ordered : calls.Pairwise fun call call' => call.now ≤ call'.now)
    (fixed : ∀ call ∈ calls, call.key = key → call.limit = limit ∧ call.windowSeconds = window)
    {log : List α}
    (queued : ∀ call ∈ calls, Queued (limiter.events key) log window call.now)
    {before after : List (Call α × Bool)} {call : Call α} {allowed : Bool}
    (whole : answers limiter calls = before ++ (call, allowed) :: after) (here : call.key = key) :
    allowed =
      decide ((within window call.now (log ++ allowedTimes key before)).length < limit) := by
  induction calls generalizing limiter log before with
  | nil => simp [answers] at whole
  | cons first calls ih =>
    obtain ⟨later, ordered⟩ := List.pairwise_cons.mp ordered
    have fixed' : ∀ call ∈ calls, call.key = key →
        call.limit = limit ∧ call.windowSeconds = window :=
      fun call member => fixed call (List.mem_cons_of_mem _ member)
    have now := queued first List.mem_cons_self
    rw [answers] at whole
    dsimp only at whole
    cases before with
    | nil =>
      rw [List.nil_append, List.cons.injEq, Prod.mk.injEq] at whole
      obtain ⟨⟨rfl, rfl⟩, -⟩ := whole
      obtain ⟨limits, windows⟩ := fixed first List.mem_cons_self here
      have answer := (allow_queued limit now).1
      rw [limits, windows, here, answer]
      simp [allowedTimes]
    | cons answered before =>
      rw [List.cons_append, List.cons.injEq] at whole
      obtain ⟨rfl, rest⟩ := whole
      by_cases own : first.key = key
      · obtain ⟨limits, windows⟩ := fixed first List.mem_cons_self own
        rw [limits, windows, own] at rest ⊢
        obtain ⟨-, next⟩ := allow_queued limit now
        have decides := ih ordered fixed'
          (fun call member => next.later (later call member)) rest
        rw [decides]
        cases (limiter.allow first.now key limit window).1 <;> simp [allowedTimes, own]
      · have same := allow_events_ne limiter first.now first.limit first.windowSeconds (Ne.symm own)
        have queued' : ∀ call ∈ calls, Queued
            ((limiter.allow first.now first.key first.limit first.windowSeconds).2.events key)
            log window call.now := by
          intro call member
          rw [same]
          exact queued call (List.mem_cons_of_mem _ member)
        rw [ih ordered fixed' queued' rest]
        simp [allowedTimes, own]

omit [AddCommGroup α] [LinearOrder α] [IsOrderedAddMonoid α] in
theorem allowedTimes_append (key : String) (answered answered' : List (Call α × Bool)) :
    allowedTimes key (answered ++ answered') =
      allowedTimes key answered ++ allowedTimes key answered' := by
  simp [allowedTimes]

omit [AddCommGroup α] [LinearOrder α] [IsOrderedAddMonoid α] in
/-- A time at which a call was allowed is that of an answer. -/
theorem allowedTimes_split {key : String} {answered : List (Call α × Bool)} {times times' : List α}
    {s : α} (split : allowedTimes key answered = times ++ s :: times') :
    ∃ before call after, answered = before ++ (call, true) :: after ∧ call.key = key ∧
      call.now = s ∧ allowedTimes key before = times := by
  obtain ⟨kept, kept', filtered, rfl, rest⟩ := List.map_eq_append_iff.mp split
  obtain ⟨⟨call, allowed⟩, later, rfl, rfl, -⟩ := List.map_eq_cons_iff.mp rest
  obtain ⟨before, after, rfl, rfl, rest⟩ := List.filter_eq_append_iff.mp filtered
  obtain ⟨skipped, after', rfl, others, own, -⟩ := List.filter_eq_cons_iff.mp rest
  simp only [decide_eq_true_eq] at own
  obtain ⟨here, rfl⟩ := own
  refine ⟨before ++ skipped, call, after', by simp, here, rfl, ?_⟩
  have denied : allowedTimes key skipped = [] := by
    rw [allowedTimes, List.filter_eq_nil_iff.mpr others, List.map_nil]
  rw [allowedTimes_append, denied, List.append_nil]
  rfl

omit [IsOrderedAddMonoid α] in
theorem allowedTimes_sublist (limiter : InMemoryRateLimiter α) (key : String)
    (calls : List (Call α)) :
    (allowedTimes key (answers limiter calls)).Sublist (calls.map Call.now) := by
  have times : (answers limiter calls).map (fun answered => answered.1.now) =
      calls.map Call.now := by
    induction calls generalizing limiter with
    | nil => rfl
    | cons call calls ih => simp [answers, ih]
  rw [← times]
  exact List.filter_sublist.map _

/-- Of calls in the order of their times, those for a key have one limit and one window: no window
holds more than the limit of the allowed ones, a denied one has the limit of them in its window, and
the answers are those without the calls for other keys. -/
theorem allow_slides {key : String} {limit : Nat} {window : α} {calls : List (Call α)}
    (ordered : calls.Pairwise fun call call' => call.now ≤ call'.now)
    (fixed : ∀ call ∈ calls, call.key = key → call.limit = limit ∧ call.windowSeconds = window) :
    (∀ t, (within window t (allowedTimes key (answers {} calls))).length ≤ limit) ∧
    (∀ before call after, answers {} calls = before ++ (call, false) :: after → call.key = key →
      (within window call.now (allowedTimes key before)).length = limit) ∧
    (answers {} calls).filter (fun (call, _) => call.key = key) =
      answers {} (calls.filter fun call => call.key = key) := by
  have decides : ∀ {before call allowed after},
      answers {} calls = before ++ (call, allowed) :: after → call.key = key →
        allowed = decide ((within window call.now (allowedTimes key before)).length < limit) := by
    intro before call allowed after whole here
    have empty : ∀ call ∈ calls,
        Queued (({} : InMemoryRateLimiter α).events key) [] window call.now := by
      intro call _
      rw [empty_events]
      exact ⟨List.Pairwise.nil, by simp, by simp, List.Sublist.refl _⟩
    exact answers_decides ordered fixed empty whole here
  have bounded : ∀ t, (within window t (allowedTimes key (answers {} calls))).length ≤ limit := by
    have sorted : (allowedTimes key (answers {} calls)).Pairwise (· ≤ ·) :=
      (List.pairwise_map.mpr ordered).sublist (allowedTimes_sublist {} key calls)
    refine length_within_le sorted fun times s times' split => ?_
    obtain ⟨before, call, after, whole, here, rfl, rfl⟩ := allowedTimes_split split
    have room := of_decide_eq_true (decides whole here).symm
    have one : (within window call.now [call.now]).length ≤ 1 := List.length_filter_le _ [call.now]
    rw [within_append, List.length_append]
    omega
  refine ⟨bounded, fun before call after whole here => ?_, answers_filter rfl calls⟩
  have full := of_decide_eq_false (decides whole here).symm
  have most := bounded call.now
  rw [whole, allowedTimes_append, within_append, List.length_append] at most
  omega

/-- Three calls for one key and one for another. -/
def burst : List (Call ℤ) :=
  [⟨0, "key", 2, 2⟩, ⟨0, "key", 2, 2⟩, ⟨0, "other", 1, 1⟩, ⟨1, "key", 2, 2⟩, ⟨2, "key", 2, 2⟩]

/-- A burst at the start of a window of two seconds, and a call at the instant that it has left it. -/
theorem allow_slides_burst :
    (∀ t, (within 2 t (allowedTimes "key" (answers {} burst))).length ≤ 2) ∧
    (∀ before call after, answers {} burst = before ++ (call, false) :: after → call.key = "key" →
      (within 2 call.now (allowedTimes "key" before)).length = 2) ∧
    (answers {} burst).filter (fun (call, _) => call.key = "key") =
      answers {} (burst.filter fun call => call.key = "key") :=
  allow_slides (by decide) (by decide)

end

end CyberLegends.Operations
