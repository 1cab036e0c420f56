import Aggkit.Common.Word

/-! `EpochNotifierPerBlock`, the aggsender's clock: it turns the stream of new L1 blocks into
`EpochEvent`s, one per epoch, once the configured share of the epoch has passed.

The notifier compares `float64` quotients. They are the parameter `float64Div`
(`float64(a) / float64(b)`), of which only the order is read, so every result holds for every
rounding, IEEE's among them. The block arithmetic is uint64 (`Aggkit.Common.Word`). -/
namespace Aggkit.Aggsender

/-- `ConfigEpochNotifierPerBlock`. -/
structure ConfigEpochNotifierPerBlock where
  startingEpochBlock : Nat
  numBlockPerEpoch : Nat
  epochNotificationPercentage : Nat
deriving DecidableEq, Repr

/-- `maxPercent`. -/
def maxPercent : Nat := 100

/-- `ConfigEpochNotifierPerBlock.Validate`. `float64(p) >= 100.0` is `100 ≤ p` for every `uint`
`p`: the conversion is exact below `2^53` and monotone above. -/
def ConfigEpochNotifierPerBlock.validate (c : ConfigEpochNotifierPerBlock) : Except String Unit :=
  if c.numBlockPerEpoch = 0 then .error "num block per epoch should be greater than 0"
  else if maxPercent ≤ c.epochNotificationPercentage then
    .error "epoch notification percentage must be between 0 and 99"
  else .ok ()

/-- `types.EventNewBlock`; its finality type and block rate are only logged. -/
structure EventNewBlock where
  blockNumber : Nat
deriving DecidableEq, Repr

/-- `ExtraInfoEventEpoch`; `PendingBlocks` is a Go `int`. -/
structure ExtraInfoEventEpoch where
  pendingBlocks : Int
deriving DecidableEq, Repr

/-- `types.EpochEvent`. -/
structure EpochEvent where
  epoch : Nat
  extraInfo : ExtraInfoEventEpoch
deriving DecidableEq, Repr

/-- `internalStatus`. -/
structure InternalStatus where
  lastBlockSeen : Nat
  waitingForEpoch : Nat
deriving DecidableEq, Repr

namespace EpochNotifierPerBlock

variable (c : ConfigEpochNotifierPerBlock)

/-- `epochNumber`: `0` before the starting block, else `1 + (currentBlock - start) / N`. -/
def epochNumber (currentBlock : Nat) : Nat :=
  if currentBlock < c.startingEpochBlock then 0
  else add64 1 ((currentBlock - c.startingEpochBlock) / c.numBlockPerEpoch)

/-- `startingBlockEpoch`: the first block of an epoch, `start - 1` for epoch 0. -/
def startingBlockEpoch (epoch : Nat) : Nat :=
  if epoch = 0 then sub64 c.startingEpochBlock 1
  else add64 c.startingEpochBlock (mul64 (epoch - 1) c.numBlockPerEpoch)

/-- `endBlockEpoch`: the first block of the next epoch. -/
def endBlockEpoch (epoch : Nat) : Nat :=
  startingBlockEpoch c (add64 epoch 1)

/-- The `elapsedBlocks` that `percentEpoch` divides by `NumBlockPerEpoch`. -/
def elapsedBlocks (currentBlock : Nat) : Nat :=
  sub64 currentBlock (startingBlockEpoch c (epochNumber c currentBlock))

/-- `infoEpoch`: `PendingBlocks = int(endBlockEpoch(epoch) - currentBlock)`. -/
def infoEpoch (currentBlock newEpochNotified : Nat) : ExtraInfoEventEpoch :=
  ⟨toInt64 (sub64 (endBlockEpoch c newEpochNotified) currentBlock)⟩

/-- The status `startInternal` starts from. -/
def initialStatus : InternalStatus :=
  ⟨c.startingEpochBlock, epochNumber c c.startingEpochBlock⟩

section Float

variable {F : Type} [LinearOrder F] (float64Div : Nat → Nat → F)

/-- `percentEpoch`. -/
def percentEpoch (currentBlock : Nat) : F :=
  float64Div (elapsedBlocks c currentBlock) c.numBlockPerEpoch

/-- The threshold of `isNotificationRequired`: the configured percentage, capped at the share
of the epoch's last block. -/
def thresholdPercent : F :=
  if float64Div c.epochNotificationPercentage maxPercent >
      float64Div (sub64 c.numBlockPerEpoch 1) c.numBlockPerEpoch
  then float64Div (sub64 c.numBlockPerEpoch 1) c.numBlockPerEpoch
  else float64Div c.epochNotificationPercentage maxPercent

/-- `isNotificationRequired`: whether to notify, and the epoch of the block. -/
def isNotificationRequired (currentBlock lastEpochNotified : Nat) : Bool × Nat :=
  if percentEpoch c float64Div currentBlock < thresholdPercent c float64Div then
    (false, epochNumber c currentBlock)
  else
    (decide (add64 (epochNumber c currentBlock) 1 > lastEpochNotified), epochNumber c currentBlock)

/-- `step`: blocks before the starting block and blocks not past the last one seen change
nothing; a new block is recorded, and notified when `isNotificationRequired` says so. -/
def step (status : InternalStatus) (newBlock : EventNewBlock) :
    InternalStatus × Option EpochEvent :=
  if newBlock.blockNumber < c.startingEpochBlock then (status, none)
  else if newBlock.blockNumber ≤ status.lastBlockSeen then (status, none)
  else
    let notification :=
      isNotificationRequired c float64Div newBlock.blockNumber status.waitingForEpoch
    if notification.1 then
      (⟨newBlock.blockNumber, add64 notification.2 1⟩,
        some ⟨notification.2, infoEpoch c newBlock.blockNumber notification.2⟩)
    else (⟨newBlock.blockNumber, status.waitingForEpoch⟩, none)

/-- The loop of `startInternal` over the blocks received: the status after them and the events
published, in order. -/
def run : InternalStatus → List EventNewBlock → InternalStatus × List EpochEvent
  | status, [] => (status, [])
  | status, newBlock :: rest =>
    ((run (step c float64Div status newBlock).1 rest).1,
      (step c float64Div status newBlock).2.toList ++
        (run (step c float64Div status newBlock).1 rest).2)

/-- The events `startInternal` publishes for the blocks it receives. -/
def startInternal (blocks : List EventNewBlock) : List EpochEvent :=
  (run c float64Div (initialStatus c) blocks).2

/-- `types.EpochStatus`. -/
structure EpochStatus (F : Type) where
  epoch : Nat
  percentEpoch : F

/-- `GetEpochStatus` at the current block. -/
def getEpochStatus (currentBlock : Nat) : EpochStatus F :=
  ⟨epochNumber c currentBlock, percentEpoch c float64Div currentBlock⟩

/-! ### What one step does -/

theorem epochNumber_lt (currentBlock : Nat) : epochNumber c currentBlock < 2 ^ 64 := by
  unfold epochNumber
  split
  · exact Nat.two_pow_pos 64
  · exact add64_lt _ _

/-- A notification is required exactly when the block's share of its epoch reaches the threshold
and the epoch after it, in uint64, is past the last one notified. -/
theorem isNotificationRequired_fst (currentBlock lastEpochNotified : Nat) :
    (isNotificationRequired c float64Div currentBlock lastEpochNotified).1 = true ↔
      ¬ percentEpoch c float64Div currentBlock < thresholdPercent c float64Div ∧
      lastEpochNotified ≤ epochNumber c currentBlock ∧ epochNumber c currentBlock + 1 < 2 ^ 64 := by
  have bound := epochNumber_lt c currentBlock
  unfold isNotificationRequired
  split
  · rename_i below
    exact ⟨fun never => absurd never Bool.false_ne_true, fun reached => absurd below reached.1⟩
  · rename_i reached
    rw [decide_eq_true_iff, add64]
    exact ⟨fun past => ⟨reached, by omega, by omega⟩, fun ⟨_, waited, fits⟩ => by omega⟩

@[simp] theorem isNotificationRequired_snd (currentBlock lastEpochNotified : Nat) :
    (isNotificationRequired c float64Div currentBlock lastEpochNotified).2 =
      epochNumber c currentBlock := by
  unfold isNotificationRequired
  split <;> rfl

/-- What one step can do: nothing, record the block, or record it and notify its epoch, which
is at least the epoch waited for and not the last uint64. -/
theorem step_cases (status : InternalStatus) (newBlock : EventNewBlock) :
    step c float64Div status newBlock = (status, none) ∨
    (c.startingEpochBlock ≤ newBlock.blockNumber ∧ status.lastBlockSeen < newBlock.blockNumber ∧
      step c float64Div status newBlock =
        (⟨newBlock.blockNumber, status.waitingForEpoch⟩, none)) ∨
    (c.startingEpochBlock ≤ newBlock.blockNumber ∧ status.lastBlockSeen < newBlock.blockNumber ∧
      status.waitingForEpoch ≤ epochNumber c newBlock.blockNumber ∧
      epochNumber c newBlock.blockNumber + 1 < 2 ^ 64 ∧
      step c float64Div status newBlock =
        (⟨newBlock.blockNumber, epochNumber c newBlock.blockNumber + 1⟩,
          some ⟨epochNumber c newBlock.blockNumber,
            infoEpoch c newBlock.blockNumber (epochNumber c newBlock.blockNumber)⟩)) := by
  unfold step
  split
  · exact .inl rfl
  · rename_i started
    split
    · exact .inl rfl
    · rename_i past
      dsimp only
      split
      · rename_i notify
        obtain ⟨-, waited, fits⟩ := (isNotificationRequired_fst c float64Div _ _).mp notify
        refine .inr (.inr ⟨by omega, by omega, waited, fits, ?_⟩)
        simp [add64_of_lt fits]
      · exact .inr (.inl ⟨by omega, by omega, rfl⟩)

/-- A step never moves the last block seen or the epoch waited for back, and an event it emits
is for the block's epoch, at least the one waited for, which it then waits past. -/
theorem step_monotone (status : InternalStatus) (newBlock : EventNewBlock) :
    status.lastBlockSeen ≤ (step c float64Div status newBlock).1.lastBlockSeen ∧
    status.waitingForEpoch ≤ (step c float64Div status newBlock).1.waitingForEpoch ∧
    ∀ event ∈ (step c float64Div status newBlock).2,
      event.epoch = epochNumber c newBlock.blockNumber ∧ status.waitingForEpoch ≤ event.epoch ∧
      (step c float64Div status newBlock).1.waitingForEpoch = event.epoch + 1 := by
  rcases step_cases c float64Div status newBlock with same | ⟨-, past, recorded⟩ |
    ⟨-, past, waited, -, notified⟩
  · simp [same]
  · simp [recorded, Nat.le_of_lt past]
  · simp only [notified, Option.mem_def, Option.some.injEq]
    exact ⟨Nat.le_of_lt past, by omega, fun event sent => sent ▸ ⟨rfl, waited, rfl⟩⟩

/-! ### Runs -/

/-- The epochs a run notifies strictly increase, from the epoch waited for at its start. -/
theorem run_epochs (status : InternalStatus) (blocks : List EventNewBlock) :
    ((run c float64Div status blocks).2.map (·.epoch)).Pairwise (· < ·) ∧
      ∀ event ∈ (run c float64Div status blocks).2, status.waitingForEpoch ≤ event.epoch := by
  induction blocks generalizing status with
  | nil => simp [run]
  | cons newBlock rest ih =>
    obtain ⟨-, waitGrows, sent⟩ := step_monotone c float64Div status newBlock
    obtain ⟨ascending, above⟩ := ih (step c float64Div status newBlock).1
    simp only [run, List.map_append, List.pairwise_append, List.mem_append, List.mem_map]
    refine ⟨⟨?_, ascending, ?_⟩, ?_⟩
    · cases (step c float64Div status newBlock).2 <;> simp
    · rintro _ ⟨event, first, rfl⟩ _ ⟨later, member, rfl⟩
      obtain ⟨-, -, waits⟩ := sent event (by simpa using first)
      exact Nat.lt_of_lt_of_le (waits ▸ Nat.lt_succ_self _) (above later member)
    · rintro event (first | member)
      · exact (sent event (by simpa using first)).2.1
      · exact Nat.le_trans waitGrows (above event member)

/-- Folding `step` over any blocks: the last block seen and the epoch waited for never decrease,
each event is for its block's epoch, at least the epoch waited for, which then moves past it;
so the published epochs strictly increase and none is published twice. -/
theorem startInternal_epochs_increase :
    (∀ (status : InternalStatus) (newBlock : EventNewBlock),
      status.lastBlockSeen ≤ (step c float64Div status newBlock).1.lastBlockSeen ∧
      status.waitingForEpoch ≤ (step c float64Div status newBlock).1.waitingForEpoch ∧
      ∀ event ∈ (step c float64Div status newBlock).2,
        event.epoch = epochNumber c newBlock.blockNumber ∧ status.waitingForEpoch ≤ event.epoch ∧
        (step c float64Div status newBlock).1.waitingForEpoch = event.epoch + 1) ∧
    ∀ blocks : List EventNewBlock,
      ((startInternal c float64Div blocks).map (·.epoch)).Pairwise (· < ·) ∧
      ((startInternal c float64Div blocks).map (·.epoch)).Nodup :=
  ⟨step_monotone c float64Div, fun blocks =>
    ⟨(run_epochs c float64Div _ blocks).1,
      (run_epochs c float64Div _ blocks).1.imp fun {_ _} lt => Nat.ne_of_lt lt⟩⟩

end Float

end EpochNotifierPerBlock

end Aggkit.Aggsender
