import Aggkit.Encoding.Json

/-! The GER sender of the aggoracle, `chaingersender.EVMChainGERSender`: `validateGERSender`,
which `NewEVMChainGERSender` runs on the EthTxManager's sender address, `IsGERInjected`, and
`InjectGER`, which adds the `insertGlobalExitRoot` transaction to the EthTxManager and waits
for it.

The wait is a `select` on the context and a ticker, and a run of it is the list of cases the
`select` takes. A run is decided by the first case that ends the loop (`monitorTx_eq_returned`):
a cancelled context, an error of `Result`, a failed status, or a mined, safe or finalized one;
a created, sent or unexpected status only waits for the next tick. So `InjectGER` returns no
error exactly when the context is cancelled or the transaction is mined before anything else
ends the wait (`injectGER_nil_iff`): a cancelled context is reported as success whether or not
the GER was injected. The ticker is made first, and `time.NewTicker` panics on a period that is
not positive. -/
namespace Aggkit.Aggoracle

open Aggkit.Encoding

/-! ### The sender and the GER map -/

section Contract

/- go-ethereum's `Address.Format` for `%s`, the EIP-55 checksummed hex; it hashes with
Keccak-256, so it is a parameter. -/
variable (addressString : Address → List UInt8)

/-- `validateGERSender`, given the answer of the L2 GER manager's `GlobalExitRootUpdater`: when
the updater is the zero address any sender may inject GERs, else only the updater. Errors are
their texts. -/
def validateGERSender (gerSender : Address) (globalExitRootUpdater : Except (List UInt8) Address) :
    Except (List UInt8) Unit :=
  match globalExitRootUpdater with
  | .error err =>
    .error (ascii "failed to retrieve GER updater address from GER L2 manager: " ++ err)
  | .ok gerUpdater =>
    if gerUpdater ≠ FixedBytes.zero 20 ∧ gerSender ≠ gerUpdater then
      .error (ascii "invalid GER sender provided (in the EthTxManager configuration), " ++
        ascii "and it is not allowed to update GERs. " ++
        ascii "Expected GER updater by the L2 GER manager contract: " ++ addressString gerUpdater)
    else .ok ()

end Contract

/-- `IsGERInjected`, given the answer of the GER manager's `GlobalExitRootMap(ger)`, a uint256
that is zero for a GER never inserted. -/
def isGERInjected (ger : Hash) (globalExitRootMap : Except (List UInt8) Nat) :
    Except (List UInt8) Bool :=
  match globalExitRootMap with
  | .error err =>
    .error (ascii "failed to check if global exit root is injected " ++ ger.marshalText ++
      ascii ": " ++ err)
  | .ok gerIndex => .ok (decide (0 < gerIndex))

/-! ### The monitoring loop of `InjectGER` -/

/-- `ethtxtypes.MonitoredTxStatus` of the EthTxManager, a string type; the EthTxManager is not
among the repository's files, and its constants are below. -/
abbrev MonitoredTxStatus := List UInt8

def monitoredTxStatusCreated : MonitoredTxStatus := ascii "created"

def monitoredTxStatusSent : MonitoredTxStatus := ascii "sent"

def monitoredTxStatusFailed : MonitoredTxStatus := ascii "failed"

def monitoredTxStatusMined : MonitoredTxStatus := ascii "mined"

def monitoredTxStatusSafe : MonitoredTxStatus := ascii "safe"

def monitoredTxStatusFinalized : MonitoredTxStatus := ascii "finalized"

/-- One case the `select` of `InjectGER` takes. -/
inductive MonitorCase where
  /-- `<-ctx.Done()`. -/
  | contextDone
  /-- `<-ticker.C`, and `ethTxMan.Result` answers with the transaction's status, or fails with
  an error's text. -/
  | tick (result : Except (List UInt8) MonitoredTxStatus)

/-- How the loop ends within the cases it is given. -/
inductive MonitorEnd where
  /-- `InjectGER` returns nil (`none`) or an error's text. -/
  | returned (err : Option (List UInt8))
  /-- No case ends the loop: it waits for the next one. -/
  | waiting
deriving DecidableEq, Repr

/-- The `switch res.Status` of a tick for the transaction `id`. An unexpected status is logged
and, like a created or sent one, waits. -/
def checkStatus (id : Hash) (status : MonitoredTxStatus) : MonitorEnd :=
  if status = monitoredTxStatusCreated ∨ status = monitoredTxStatusSent then .waiting
  else if status = monitoredTxStatusFailed then
    .returned (some (ascii "inject GER tx " ++ id.marshalText ++ ascii " failed"))
  else if status = monitoredTxStatusMined ∨ status = monitoredTxStatusSafe ∨
      status = monitoredTxStatusFinalized then .returned none
  else .waiting

/-- One pass of the loop. -/
def monitorStep (id : Hash) : MonitorCase → MonitorEnd
  | .contextDone => .returned none
  | .tick (.error err) => .returned (some err)
  | .tick (.ok status) => checkStatus id status

/-- The `for` loop of `InjectGER`, over the cases its `select` takes. -/
def monitorTx (id : Hash) : List MonitorCase → MonitorEnd
  | [] => .waiting
  | c :: rest =>
    match monitorStep id c with
    | .waiting => monitorTx id rest
    | ended => ended

/-- What `InjectGER` learns from outside: the ABI packing of the `insertGlobalExitRoot` call,
the EthTxManager's answer to `Add` of that call data (the monitored transaction's id), and the
cases its `select` takes. -/
structure InjectReplies where
  pack : Except (List UInt8) (List UInt8)
  add : List UInt8 → Except (List UInt8) Hash
  cases : List MonitorCase

/-- `InjectGER`: `none` where `time.NewTicker` panics, on a `WaitPeriodMonitorTx` (a
`time.Duration`) that is not positive, before the call is packed. -/
def injectGER (waitPeriodMonitorTx : Int) (r : InjectReplies) : Option MonitorEnd :=
  if waitPeriodMonitorTx ≤ 0 then none
  else some <|
    match r.pack with
    | .error err => .returned (some err)
    | .ok data =>
      match r.add data with
      | .error err => .returned (some err)
      | .ok id => monitorTx id r.cases

/-- The statuses on which the loop waits: created, sent, or one it does not expect. -/
def Waits (status : MonitoredTxStatus) : Prop :=
  status ≠ monitoredTxStatusFailed ∧ status ≠ monitoredTxStatusMined ∧
    status ≠ monitoredTxStatusSafe ∧ status ≠ monitoredTxStatusFinalized

/-- The statuses on which `InjectGER` reports success. -/
def IsMined (status : MonitoredTxStatus) : Prop :=
  status = monitoredTxStatusMined ∨ status = monitoredTxStatusSafe ∨
    status = monitoredTxStatusFinalized

/-! ### One pass -/

theorem checkStatus_eq_waiting (id : Hash) (status : MonitoredTxStatus) :
    checkStatus id status = .waiting ↔ Waits status := by
  unfold checkStatus Waits
  split_ifs with waits failed mined
  · rcases waits with rfl | rfl <;> decide
  · simp +decide [failed]
  · rcases mined with rfl | rfl | rfl <;> simp +decide
  · simp only [not_or] at mined
    exact iff_of_true rfl ⟨failed, mined⟩

theorem checkStatus_eq_nil (id : Hash) (status : MonitoredTxStatus) :
    checkStatus id status = .returned none ↔ IsMined status := by
  unfold checkStatus IsMined
  split_ifs with waits failed mined
  · rcases waits with rfl | rfl <;> decide
  · simp +decide [failed]
  · exact iff_of_true rfl mined
  · exact iff_of_false (by simp) mined

theorem monitorStep_eq_waiting (id : Hash) (c : MonitorCase) :
    monitorStep id c = .waiting ↔ ∃ status, c = .tick (.ok status) ∧ Waits status := by
  rcases c with _ | err | status
  · simp [monitorStep]
  · simp [monitorStep]
  · simp [monitorStep, checkStatus_eq_waiting]

theorem monitorStep_eq_nil (id : Hash) (c : MonitorCase) :
    monitorStep id c = .returned none ↔
      c = .contextDone ∨ ∃ status, c = .tick (.ok status) ∧ IsMined status := by
  rcases c with _ | err | status
  · simp [monitorStep]
  · simp [monitorStep]
  · simp [monitorStep, checkStatus_eq_nil]

/-! ### A whole run -/

/-- Cases that wait leave the rest of the run to decide. -/
theorem monitorTx_append_waiting (id : Hash) {pending : List MonitorCase}
    (waiting : ∀ c ∈ pending, monitorStep id c = .waiting) (rest : List MonitorCase) :
    monitorTx id (pending ++ rest) = monitorTx id rest := by
  induction pending with
  | nil => rfl
  | cons c pending ih =>
    simp only [List.mem_cons, forall_eq_or_imp] at waiting
    simp only [List.cons_append, monitorTx, waiting.1]
    exact ih waiting.2

/-- A run that returns is decided by its first case that does not wait. -/
theorem monitorTx_eq_returned (id : Hash) (cases : List MonitorCase) (err : Option (List UInt8)) :
    monitorTx id cases = .returned err ↔
      ∃ pending decided rest, cases = pending ++ decided :: rest ∧
        (∀ c ∈ pending, monitorStep id c = .waiting) ∧ monitorStep id decided = .returned err := by
  constructor
  · intro returned
    induction cases with
    | nil => cases returned
    | cons c cases ih =>
      unfold monitorTx at returned
      split at returned
      next waits =>
        obtain ⟨pending, decided, rest, rfl, waiting, ends⟩ := ih returned
        exact ⟨c :: pending, decided, rest, rfl, by simpa [waits] using waiting, ends⟩
      next ended => exact ⟨[], c, cases, rfl, by simp, returned⟩
  · rintro ⟨pending, decided, rest, rfl, waiting, ends⟩
    rw [monitorTx_append_waiting id waiting, monitorTx, ends]

/-- `InjectGER` returns nil exactly when the monitoring period is positive, the transaction was
added and, after ticks that read a created, sent or unexpected status, the context is cancelled
or a mined, safe or finalized status is read. -/
theorem injectGER_nil_iff (waitPeriodMonitorTx : Int) (r : InjectReplies) :
    injectGER waitPeriodMonitorTx r = some (.returned none) ↔
      0 < waitPeriodMonitorTx ∧ ∃ data id, r.pack = .ok data ∧ r.add data = .ok id ∧
        ∃ pending decided rest, r.cases = pending ++ decided :: rest ∧
          (∀ c ∈ pending, ∃ status, c = .tick (.ok status) ∧ Waits status) ∧
          (decided = .contextDone ∨ ∃ status, decided = .tick (.ok status) ∧ IsMined status) := by
  unfold injectGER
  by_cases positive : 0 < waitPeriodMonitorTx
  · rw [if_neg (by omega)]
    simp only [Option.some.injEq, positive, true_and]
    rcases r with ⟨_ | data, add, cases⟩
    · simp
    · dsimp only
      cases added : add data with
      | error err => simp [added]
      | ok id =>
        simp [added, monitorTx_eq_returned, ← monitorStep_eq_waiting id, ← monitorStep_eq_nil id]
  · rw [if_pos (by omega)]
    simp [positive]

end Aggkit.Aggoracle
