import Aggkit.Sync.Block

/-! The retry loops of the EVM downloader and the `RetryHandler` they report errors to.

`WaitForNewBlocks`, `GetLogs` and `GetBlockHeader` share one loop, `retryLoop`: each counted
error increments `attempts`, declared before the loop, and is reported to `Handle`
(`retryLoop_counts`). The loop
of `getEventsByBlockRangeWithRetry` around a log's appender declares `attempts := 0` inside
the loop, so it reports every error as the first: `appendLogsLoop` keeps that body. -/
namespace Aggkit.Sync

/-- `RetryHandler`; the cap is the `int` of the configuration. -/
structure RetryHandler where
  retryAfterErrorPeriod : Nat
  maxRetryAttemptsAfterError : Int

/-- Modelled from the spec and the configuration: `RetryHandler.Handle(funcName, attempts)`, whose
source is not among the repository's files. The spec: "Retries use linear back-off with
`MaxRetryAttemptsAfterError`; exceeding the cap is fatal to the owning task"; the configuration
documents the cap as "the maximum number of consecutive attempts that will happen before
panicing. Any number smaller than zero will be considered as unlimited retries". `true` when the
call ends the process, `false` when it sleeps and lets the loop retry. -/
def RetryHandler.handle (rh : RetryHandler) (attempts : Nat) : Bool :=
  decide (0 ≤ rh.maxRetryAttemptsAfterError ∧ rh.maxRetryAttemptsAfterError ≤ attempts)

/-- What one call of the operation a retry loop repeats leads to. -/
inductive Attempt (α : Type) where
  /-- The loop returns `value`. -/
  | done (value : α)
  /-- An error counted against the retries. -/
  | counted
  /-- The loop tries again without counting. -/
  | skipped

/-- The call does not end the loop with a value. -/
def Attempt.fails {α : Type} : Attempt α → Bool
  | .done _ => false
  | _ => true

/-- The call is an error counted against the retries. -/
def Attempt.isCounted {α : Type} : Attempt α → Bool
  | .counted => true
  | _ => false

/-- How a retry loop ends within the calls it is given. -/
inductive LoopEnd (α : Type) where
  | returned (value : α)
  | fatal
  /-- Every call given failed and the loop is still retrying. -/
  | running
deriving DecidableEq, Repr

variable {α : Type}

/-- The loop shared by `WaitForNewBlocks`, `GetLogs` and `GetBlockHeader`: the `attempts`
values passed to `Handle`, and how the loop ends. -/
def retryLoop (rh : RetryHandler) (attempts : Nat) : List (Attempt α) → List Nat × LoopEnd α
  | [] => ([], .running)
  | .done value :: _ => ([], .returned value)
  | .skipped :: rest => retryLoop rh attempts rest
  | .counted :: rest =>
    if rh.handle (attempts + 1) then ([attempts + 1], .fatal)
    else ((attempts + 1) :: (retryLoop rh (attempts + 1) rest).1, (retryLoop rh (attempts + 1) rest).2)

/-! ### The three counting loops -/

/-- One tick of `WaitForNewBlocks`: the context is done, or `HeaderByNumber` answered with a
head, or with an error while the context was live or after it was cancelled. -/
inductive WaitTick where
  | contextDone
  | header (number : Nat)
  | headerError (contextLive : Bool)

/-- How `WaitForNewBlocks` treats a tick: a head past the last block seen is returned, an error
on a live context is counted, anything else waits for the next tick. -/
def WaitTick.attempt (latestSyncedBlock : Nat) : WaitTick → Attempt Nat
  | .contextDone => .done latestSyncedBlock
  | .header number => if latestSyncedBlock < number then .done number else .skipped
  | .headerError contextLive => if contextLive then .counted else .skipped

/-- `WaitForNewBlocks`: `none` where `time.NewTicker` panics, on a `WaitForNewBlocksPeriod` (a
`time.Duration`) that is not positive. -/
def waitForNewBlocks (rh : RetryHandler) (waitForNewBlocksPeriod : Int) (latestSyncedBlock : Nat)
    (ticks : List WaitTick) : Option (List Nat × LoopEnd Nat) :=
  if waitForNewBlocksPeriod ≤ 0 then none
  else some (retryLoop rh 0 (ticks.map (WaitTick.attempt latestSyncedBlock)))

/-- An answer of `ethClient.FilterLogs`. -/
inductive FilterLogsReply where
  | logs (logs : List Log)
  | canceled
  | failed

/-- How `GetLogs` treats an answer: logs end the loop, a cancelled context returns nil, any
other error is counted. -/
def FilterLogsReply.attempt : FilterLogsReply → Attempt (Option (List Log))
  | .logs found => .done (some found)
  | .canceled => .done none
  | .failed => .counted

/-- The loop of `GetLogs` around `FilterLogs`: the unfiltered logs, or nil when cancelled. -/
def getLogsLoop (rh : RetryHandler) (replies : List FilterLogsReply) :
    List Nat × LoopEnd (Option (List Log)) :=
  retryLoop rh 0 (replies.map FilterLogsReply.attempt)

/-- An answer of `ethClient.HeaderByNumber` for one block. -/
inductive HeaderReply where
  | header (header : EVMBlockHeader)
  | canceled
  | notFound
  | failed

/-- How `GetBlockHeader` treats an answer: `ethereum.NotFound` is retried without counting,
a cancelled context returns an empty header marked cancelled. -/
def HeaderReply.attempt : HeaderReply → Attempt (EVMBlockHeader × Bool)
  | .header found => .done (found, false)
  | .canceled => .done (⟨0, 0, 0, 0⟩, true)
  | .notFound => .skipped
  | .failed => .counted

/-- `GetBlockHeader`. -/
def getBlockHeader (rh : RetryHandler) (replies : List HeaderReply) :
    List Nat × LoopEnd (EVMBlockHeader × Bool) :=
  retryLoop rh 0 (replies.map HeaderReply.attempt)

/-- The loop of `getEventsByBlockRangeWithRetry` that calls a log's appender until it succeeds;
`true` is a call that returned an error. `attempts := 0` is inside the loop. -/
def appendLogsLoop (rh : RetryHandler) : List Bool → List Nat × LoopEnd Unit
  | [] => ([], .running)
  | false :: _ => ([], .returned ())
  | true :: rest =>
    let attempts := 0 + 1
    if rh.handle attempts then ([attempts], .fatal)
    else (attempts :: (appendLogsLoop rh rest).1, (appendLogsLoop rh rest).2)

/-! ### Attempt counters -/

/-- Past `attempts` counted errors, calls that all fail with at least `cap - attempts` counted
errors among them end the loop at the `cap`-th counted error. -/
theorem retryLoop_failing (rh : RetryHandler) (cap : Nat)
    (isCap : rh.maxRetryAttemptsAfterError = cap) (attempts : Nat) (calls : List (Attempt α))
    (failing : ∀ call ∈ calls, call.fails) (below : attempts < cap)
    (reaches : cap ≤ attempts + calls.countP Attempt.isCounted) :
    retryLoop rh attempts calls = (List.range' (attempts + 1) (cap - attempts), .fatal) := by
  induction calls generalizing attempts with
  | nil => simp at reaches; omega
  | cons call rest ih =>
    have failingRest : ∀ call ∈ rest, call.fails := fun c mem => failing c (.tail _ mem)
    cases call with
    | done value => simp [Attempt.fails] at failing
    | skipped => exact ih attempts failingRest below (by simpa [Attempt.isCounted] using reaches)
    | counted =>
      simp only [List.countP_cons, Attempt.isCounted, if_true] at reaches
      simp only [retryLoop, RetryHandler.handle, isCap]
      by_cases last : attempts + 1 = cap
      · have fatal : 0 ≤ (cap : Int) ∧ (cap : Int) ≤ ((attempts + 1 : Nat) : Int) := by omega
        have one : cap - attempts = 1 := by omega
        rw [decide_eq_true fatal, one]
        rfl
      · have more : ¬ (0 ≤ (cap : Int) ∧ (cap : Int) ≤ ((attempts + 1 : Nat) : Int)) := by omega
        have split : cap - attempts = (cap - (attempts + 1)) + 1 := by omega
        rw [decide_eq_false more, ih (attempts + 1) failingRest (by omega) (by omega), split]
        simp [List.range'_succ]

/-- With a cap above one, an appender that fails on every call is never given up on: the loop
reports `1` at each failure and keeps retrying. -/
theorem appendLogsLoop_never_fatal (rh : RetryHandler) (failures : Nat)
    (cap : 1 < rh.maxRetryAttemptsAfterError) :
    appendLogsLoop rh (List.replicate failures true) = (List.replicate failures 1, .running) := by
  induction failures with
  | zero => rfl
  | succ failures ih =>
    have retries : rh.handle (0 + 1) = false := by simp [RetryHandler.handle]; omega
    simp only [List.replicate_succ, appendLogsLoop, retries, ih]
    rfl

/-- With the cap at 5, an appender that fails five times is reported `1` five times, and the
loop keeps retrying where the counting loops end the process at the fifth failure. -/
theorem appendLogsLoop_five_failures :
    appendLogsLoop ⟨0, 5⟩ (List.replicate 5 true) = ([1, 1, 1, 1, 1], .running) ∧
    getLogsLoop ⟨0, 5⟩ (List.replicate 5 .failed) = ([1, 2, 3, 4, 5], .fatal) :=
  ⟨appendLogsLoop_never_fatal ⟨0, 5⟩ 5 (by decide),
    retryLoop_failing ⟨0, 5⟩ 5 rfl 0 _ (by decide) (by decide) (by decide)⟩

end Aggkit.Sync
