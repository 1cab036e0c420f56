import Aggkit.Aggsender.EpochNotifier
import Mathlib.Data.List.Range

/-! The blocks of an epoch, as the notifier's uint64 arithmetic sees them, and what a run over
them notifies.

Inside an epoch whose blocks fit in uint64, `epochNumber`, `startingBlockEpoch` and
`elapsedBlocks` are the exact quotient, first block and remainder. At the epoch's last block the
share `percentEpoch` is computed exactly as the cap of the threshold, so the last block is always
at the threshold, whatever the rounding of `float64Div`: this gives the notification of every
epoch whose blocks are all received. -/
namespace Aggkit.Aggsender

namespace EpochNotifierPerBlock

variable (c : ConfigEpochNotifierPerBlock)

/-- The blocks of epoch `epoch`, in increasing order. -/
def blocksOfEpoch (epoch : Nat) : List EventNewBlock :=
  (List.range' (c.startingEpochBlock + (epoch - 1) * c.numBlockPerEpoch)
    c.numBlockPerEpoch).map EventNewBlock.mk

/-! ### uint64 arithmetic inside an epoch -/

theorem startingBlockEpoch_of_fits {epoch : Nat} (first : 1 ≤ epoch)
    (fits : c.startingEpochBlock + (epoch - 1) * c.numBlockPerEpoch < 2 ^ 64) :
    startingBlockEpoch c epoch = c.startingEpochBlock + (epoch - 1) * c.numBlockPerEpoch := by
  unfold startingBlockEpoch
  rw [if_neg (by omega), mul64_of_lt (by omega), add64_of_lt fits]

/-- A block of an epoch whose blocks are uint64 numbers: its epoch, the epoch's first block and
the blocks elapsed since, all without wrap-around. -/
theorem epoch_of_block {epoch currentBlock : Nat} (first : 1 ≤ epoch) (small : epoch < 2 ^ 64)
    (from_start : c.startingEpochBlock + (epoch - 1) * c.numBlockPerEpoch ≤ currentBlock)
    (before_end : currentBlock < c.startingEpochBlock + epoch * c.numBlockPerEpoch)
    (fits : currentBlock < 2 ^ 64) :
    epochNumber c currentBlock = epoch ∧
    startingBlockEpoch c epoch = c.startingEpochBlock + (epoch - 1) * c.numBlockPerEpoch ∧
    elapsedBlocks c currentBlock =
      currentBlock - (c.startingEpochBlock + (epoch - 1) * c.numBlockPerEpoch) := by
  have whole : epoch * c.numBlockPerEpoch = (epoch - 1) * c.numBlockPerEpoch + c.numBlockPerEpoch := by
    rw [← Nat.succ_mul, Nat.succ_eq_add_one, Nat.sub_add_cancel first]
  have quotient : (currentBlock - c.startingEpochBlock) / c.numBlockPerEpoch = epoch - 1 :=
    Nat.div_eq_of_lt_le (by rw [Nat.sub_one_mul] at *; omega) (by rw [Nat.sub_add_cancel first]; omega)
  have number : epochNumber c currentBlock = epoch := by
    unfold epochNumber
    rw [if_neg (by omega), quotient, add64_of_lt (by omega)]
    omega
  have start := startingBlockEpoch_of_fits c first (by omega)
  refine ⟨number, start, ?_⟩
  rw [elapsedBlocks, number, start, sub64_of_le fits from_start]

/-- A block below the first block of an epoch belongs to an earlier epoch. -/
theorem epochNumber_lt_of_lt {epoch currentBlock : Nat} (positive : 0 < c.numBlockPerEpoch)
    (first : 1 ≤ epoch) (small : epoch < 2 ^ 64)
    (earlier : currentBlock < c.startingEpochBlock + (epoch - 1) * c.numBlockPerEpoch) :
    epochNumber c currentBlock < epoch := by
  unfold epochNumber
  split
  · omega
  · have quotient : (currentBlock - c.startingEpochBlock) / c.numBlockPerEpoch < epoch - 1 :=
      (Nat.div_lt_iff_lt_mul positive).mpr (by omega)
    rw [add64_of_lt (by omega)]
    omega

/-- The threshold is never above the share of an epoch's last block. -/
theorem thresholdPercent_le {F : Type} [LinearOrder F] (float64Div : Nat → Nat → F) :
    thresholdPercent c float64Div ≤ float64Div (sub64 c.numBlockPerEpoch 1) c.numBlockPerEpoch := by
  unfold thresholdPercent
  split
  · exact le_rfl
  · exact not_lt.mp ‹_›

/-- A block's distance from the starting block, as quotient and remainder by `N`. -/
private theorem distance_parts (positive : 0 < c.numBlockPerEpoch) (currentBlock : Nat) :
    (currentBlock - c.startingEpochBlock) / c.numBlockPerEpoch * c.numBlockPerEpoch +
        (currentBlock - c.startingEpochBlock) % c.numBlockPerEpoch =
      currentBlock - c.startingEpochBlock ∧
    (currentBlock - c.startingEpochBlock) % c.numBlockPerEpoch < c.numBlockPerEpoch ∧
    (currentBlock - c.startingEpochBlock) / c.numBlockPerEpoch ≤
      currentBlock - c.startingEpochBlock :=
  ⟨by rw [Nat.mul_comm]; exact Nat.div_add_mod _ _, Nat.mod_lt _ positive, Nat.div_le_self _ _⟩

/-- A block at or after the starting block with an epoch's room below `2^64`: its epoch is
`1 + (block - start) / N`, that epoch starts at the quotient times `N`, and `elapsedBlocks` is
the remainder. -/
theorem elapsedBlocks_eq_mod (positive : 0 < c.numBlockPerEpoch) {currentBlock : Nat}
    (started : c.startingEpochBlock ≤ currentBlock)
    (fits : currentBlock + c.numBlockPerEpoch < 2 ^ 64) :
    epochNumber c currentBlock = (currentBlock - c.startingEpochBlock) / c.numBlockPerEpoch + 1 ∧
    startingBlockEpoch c ((currentBlock - c.startingEpochBlock) / c.numBlockPerEpoch + 1) =
      c.startingEpochBlock +
        (currentBlock - c.startingEpochBlock) / c.numBlockPerEpoch * c.numBlockPerEpoch ∧
    elapsedBlocks c currentBlock = (currentBlock - c.startingEpochBlock) % c.numBlockPerEpoch := by
  obtain ⟨parts, remainder, bounded⟩ := distance_parts c positive currentBlock
  generalize (currentBlock - c.startingEpochBlock) / c.numBlockPerEpoch = q at *
  generalize (currentBlock - c.startingEpochBlock) % c.numBlockPerEpoch = r at *
  have next := Nat.add_one_mul q c.numBlockPerEpoch
  have from_start : c.startingEpochBlock + (q + 1 - 1) * c.numBlockPerEpoch ≤ currentBlock := by
    rw [Nat.add_sub_cancel]; omega
  obtain ⟨number, start, elapsed⟩ :=
    epoch_of_block c (by omega) (by omega) from_start (by omega) (by omega)
  rw [Nat.add_sub_cancel] at start elapsed
  exact ⟨number, start, by omega⟩

/-- The elapsed blocks of a block from one before the starting block on, with an epoch's room
below `2^64`, are computed without wrap-around and are fewer than an epoch; an event emitted at
such a block has `endBlockEpoch(Epoch) - block` in `[1, N]`, which is its `PendingBlocks` when
`N < 2^63`. -/
theorem elapsedBlocks_and_pendingBlocks {F : Type} [LinearOrder F] (float64Div : Nat → Nat → F)
    (positive : 0 < c.numBlockPerEpoch) (currentBlock : Nat)
    (fits : currentBlock + c.numBlockPerEpoch < 2 ^ 64) :
    (c.startingEpochBlock ≤ currentBlock + 1 →
      startingBlockEpoch c (epochNumber c currentBlock) ≤ currentBlock ∧
      elapsedBlocks c currentBlock =
        currentBlock - startingBlockEpoch c (epochNumber c currentBlock) ∧
      elapsedBlocks c currentBlock < c.numBlockPerEpoch) ∧
    ∀ (status : InternalStatus), ∀ event ∈ (step c float64Div status ⟨currentBlock⟩).2,
      sub64 (endBlockEpoch c event.epoch) currentBlock =
        endBlockEpoch c event.epoch - currentBlock ∧
      currentBlock < endBlockEpoch c event.epoch ∧
      endBlockEpoch c event.epoch - currentBlock ≤ c.numBlockPerEpoch ∧
      (c.numBlockPerEpoch < 2 ^ 63 → event.extraInfo.pendingBlocks =
        ((endBlockEpoch c event.epoch - currentBlock : Nat) : Int)) := by
  refine ⟨fun near => ?_, fun status event sent => ?_⟩
  · by_cases started : c.startingEpochBlock ≤ currentBlock
    · obtain ⟨number, start, elapsed⟩ := elapsedBlocks_eq_mod c positive started fits
      obtain ⟨parts, remainder, -⟩ := distance_parts c positive currentBlock
      rw [number, start, elapsed]
      omega
    · -- the block just before the starting block, in epoch 0
      have number : epochNumber c currentBlock = 0 := by simp [epochNumber]; omega
      have start : startingBlockEpoch c 0 = currentBlock := by
        rw [startingBlockEpoch, if_pos rfl, sub64_of_le (by omega) (by omega)]; omega
      rw [elapsedBlocks, number, start, sub64_of_le (by omega) le_rfl]
      omega
  · rcases step_cases c float64Div status ⟨currentBlock⟩ with same | ⟨-, -, recorded⟩ |
      ⟨started, -, -, fitsNext, notified⟩
    · simp [same] at sent
    · simp [recorded] at sent
    simp only [notified, Option.mem_def, Option.some.injEq] at sent started fitsNext
    subst sent
    obtain ⟨number, -⟩ := elapsedBlocks_eq_mod c positive started fits
    obtain ⟨parts, remainder, -⟩ := distance_parts c positive currentBlock
    rw [number] at fitsNext
    simp only [infoEpoch]
    rw [number, endBlockEpoch, add64_of_lt fitsNext]
    generalize (currentBlock - c.startingEpochBlock) / c.numBlockPerEpoch = q at *
    generalize (currentBlock - c.startingEpochBlock) % c.numBlockPerEpoch = r at *
    have next := Nat.add_one_mul q c.numBlockPerEpoch
    rw [startingBlockEpoch_of_fits c (by omega) (by rw [Nat.add_sub_cancel]; omega),
      Nat.add_sub_cancel, sub64_of_le (by omega) (by omega)]
    exact ⟨rfl, by omega, by omega, fun half => toInt64_of_lt (by omega)⟩

/-- With the starting block at 100, epochs of 10 blocks and block 50, `elapsedBlocks` wraps:
`50 - 99` is `2^64 - 49`, not fewer than an epoch. -/
theorem elapsedBlocks_wraps_early :
    ConfigEpochNotifierPerBlock.validate ⟨100, 10, 50⟩ = .ok () ∧ 50 + 10 < 2 ^ 64 ∧
      elapsedBlocks ⟨100, 10, 50⟩ 50 = 2 ^ 64 - 49 :=
  ⟨rfl, by decide, rfl⟩

theorem elapsedBlocks_and_pendingBlocks_block105 :
    elapsedBlocks ⟨100, 10, 50⟩ 105 = 105 - startingBlockEpoch ⟨100, 10, 50⟩
      (epochNumber ⟨100, 10, 50⟩ 105) ∧ elapsedBlocks ⟨100, 10, 50⟩ 105 < 10 :=
  ((elapsedBlocks_and_pendingBlocks ⟨100, 10, 50⟩ (fun a b : Nat => a * 100 / b) (by decide) 105
    (by decide)).1 (by decide)).2

/-! ### Runs over the blocks of an epoch -/

section Float

variable {F : Type} [LinearOrder F] (float64Div : Nat → Nat → F)

theorem run_append (status : InternalStatus) (first second : List EventNewBlock) :
    (run c float64Div status (first ++ second)).2 = (run c float64Div status first).2 ++
      (run c float64Div (run c float64Div status first).1 second).2 := by
  induction first generalizing status with
  | nil => rfl
  | cons newBlock rest ih => simp [run, ih]

/-- Blocks at or below `bound` leave the last block seen at or below it. -/
theorem run_lastBlockSeen_le {bound : Nat} (status : InternalStatus) (blocks : List EventNewBlock)
    (seen : status.lastBlockSeen ≤ bound) (below : ∀ b ∈ blocks, b.blockNumber ≤ bound) :
    (run c float64Div status blocks).1.lastBlockSeen ≤ bound := by
  induction blocks generalizing status with
  | nil => exact seen
  | cons newBlock rest ih =>
    refine ih _ ?_ fun b member => below b (List.mem_cons_of_mem _ member)
    have own := below newBlock (List.mem_cons_self _ _)
    rcases step_cases c float64Div status newBlock with same | ⟨-, -, recorded⟩ |
      ⟨-, -, -, -, notified⟩
    · rw [same]; exact seen
    · rw [recorded]; exact own
    · rw [notified]; exact own

/-- Blocks of epochs before `epoch` leave the epoch waited for at or below `epoch`. -/
theorem run_waitingForEpoch_le {epoch : Nat} (status : InternalStatus)
    (blocks : List EventNewBlock) (waiting : status.waitingForEpoch ≤ epoch)
    (earlier : ∀ b ∈ blocks, epochNumber c b.blockNumber < epoch) :
    (run c float64Div status blocks).1.waitingForEpoch ≤ epoch := by
  induction blocks generalizing status with
  | nil => exact waiting
  | cons newBlock rest ih =>
    refine ih _ ?_ fun b member => earlier b (List.mem_cons_of_mem _ member)
    have own := earlier newBlock (List.mem_cons_self _ _)
    rcases step_cases c float64Div status newBlock with same | ⟨-, -, recorded⟩ |
      ⟨-, -, -, -, notified⟩
    · rw [same]; exact waiting
    · rw [recorded]; exact waiting
    · rw [notified]; exact own

/-- Once past an epoch, blocks of that epoch notify nothing. -/
theorem run_quiet_past {epoch : Nat} (status : InternalStatus) (blocks : List EventNewBlock)
    (past : epoch < status.waitingForEpoch)
    (same : ∀ b ∈ blocks, epochNumber c b.blockNumber = epoch) :
    (run c float64Div status blocks).2 = [] ∧
      (run c float64Div status blocks).1.waitingForEpoch = status.waitingForEpoch := by
  induction blocks generalizing status with
  | nil => exact ⟨rfl, rfl⟩
  | cons newBlock rest ih =>
    have own := same newBlock (List.mem_cons_self _ _)
    have rest_same := fun b member => same b (List.mem_cons_of_mem newBlock member)
    rcases step_cases c float64Div status newBlock with unchanged | ⟨-, -, recorded⟩ |
      ⟨-, -, waited, -, -⟩
    · simpa [run, unchanged] using ih status past rest_same
    · simpa [run, recorded] using
        ih ⟨newBlock.blockNumber, status.waitingForEpoch⟩ past rest_same
    · omega

/-- Blocks of one epoch, from a status waiting for at most the epoch after it, notify that
epoch at most once: either nothing, the epoch waited for unchanged, or the epoch once, and then
the next one is waited for. -/
theorem run_same_epoch {epoch : Nat} (status : InternalStatus) (blocks : List EventNewBlock)
    (same : ∀ b ∈ blocks, epochNumber c b.blockNumber = epoch) :
    ((run c float64Div status blocks).2 = [] ∧
      (run c float64Div status blocks).1.waitingForEpoch = status.waitingForEpoch) ∨
    ((run c float64Div status blocks).2.map (·.epoch) = [epoch] ∧
      (run c float64Div status blocks).1.waitingForEpoch = epoch + 1) := by
  induction blocks generalizing status with
  | nil => exact .inl ⟨rfl, rfl⟩
  | cons newBlock rest ih =>
    have own := same newBlock (List.mem_cons_self _ _)
    have rest_same := fun b member => same b (List.mem_cons_of_mem newBlock member)
    rcases step_cases c float64Div status newBlock with unchanged | ⟨-, -, recorded⟩ |
      ⟨-, -, -, -, notified⟩
    · simpa [run, unchanged] using ih status rest_same
    · simpa [run, recorded] using ih _ rest_same
    · rw [own] at notified
      obtain ⟨quiet, kept⟩ := run_quiet_past c float64Div
        (⟨newBlock.blockNumber, epoch + 1⟩ : InternalStatus) rest (Nat.lt_succ_self epoch) rest_same
      right
      simp [run, notified, quiet, kept]

/-- The last block of an epoch reaches the threshold: it is notified unless its epoch was. -/
theorem step_last_notifies (positive : 0 < c.numBlockPerEpoch) {epoch : Nat}
    (status : InternalStatus) (first : 1 ≤ epoch) (notLast : epoch + 1 < 2 ^ 64)
    (fits : c.startingEpochBlock + epoch * c.numBlockPerEpoch ≤ 2 ^ 64)
    (seen : status.lastBlockSeen < c.startingEpochBlock + epoch * c.numBlockPerEpoch - 1)
    (waiting : status.waitingForEpoch ≤ epoch) :
    (step c float64Div status ⟨c.startingEpochBlock + epoch * c.numBlockPerEpoch - 1⟩).2.map
      (·.epoch) = some epoch := by
  have whole : epoch * c.numBlockPerEpoch =
      (epoch - 1) * c.numBlockPerEpoch + c.numBlockPerEpoch := by
    rw [← Nat.add_one_mul, Nat.sub_add_cancel first]
  obtain ⟨number, -, elapsed⟩ := epoch_of_block c first (by omega)
    (by omega : c.startingEpochBlock + (epoch - 1) * c.numBlockPerEpoch ≤
      c.startingEpochBlock + epoch * c.numBlockPerEpoch - 1) (by omega) (by omega)
  -- the last block's share is the cap of the threshold
  have share : c.startingEpochBlock + epoch * c.numBlockPerEpoch - 1 -
      (c.startingEpochBlock + (epoch - 1) * c.numBlockPerEpoch) = sub64 c.numBlockPerEpoch 1 := by
    unfold sub64; omega
  have reached : ¬ percentEpoch c float64Div
      (c.startingEpochBlock + epoch * c.numBlockPerEpoch - 1) < thresholdPercent c float64Div := by
    rw [percentEpoch, elapsed, share]
    exact not_lt.mpr (thresholdPercent_le c float64Div)
  have notify := (isNotificationRequired_fst c float64Div _ status.waitingForEpoch).mpr
    ⟨reached, by rw [number]; exact waiting, by rw [number]; exact notLast⟩
  unfold step
  dsimp only
  rw [if_neg (by omega), if_neg (by omega), if_pos notify]
  simp [number]

theorem initialStatus_waitingForEpoch : (initialStatus c).waitingForEpoch = 1 := by
  show epochNumber c c.startingEpochBlock = 1
  rw [epochNumber, if_neg (Nat.lt_irrefl _), Nat.sub_self, Nat.zero_div]
  rfl

/-- From the status `startInternal` starts with, after blocks of earlier epochs in any order,
the blocks of an epoch received in increasing order notify that epoch exactly once, whatever
the rounding of the float quotients: for an epoch `e ≥ 1` whose blocks are uint64 numbers,
whose successor `e + 1` is a uint64 number, and that is not the single block of epoch 1. -/
theorem startInternal_notifies_epoch_once (positive : 0 < c.numBlockPerEpoch) (epoch : Nat)
    (first : 1 ≤ epoch) (fits : c.startingEpochBlock + epoch * c.numBlockPerEpoch ≤ 2 ^ 64)
    (notLast : epoch + 1 < 2 ^ 64) (notAlone : ¬ (epoch = 1 ∧ c.numBlockPerEpoch = 1))
    (earlier : List EventNewBlock) (before : ∀ b ∈ earlier,
      b.blockNumber < c.startingEpochBlock + (epoch - 1) * c.numBlockPerEpoch) :
    (run c float64Div (run c float64Div (initialStatus c) earlier).1
      (blocksOfEpoch c epoch)).2.map (·.epoch) = [epoch] := by
  have whole : epoch * c.numBlockPerEpoch =
      (epoch - 1) * c.numBlockPerEpoch + c.numBlockPerEpoch := by
    rw [← Nat.add_one_mul, Nat.sub_add_cancel first]
  -- the epoch's last block is past the starting block
  have room : 2 ≤ epoch * c.numBlockPerEpoch := by
    rcases Nat.lt_or_ge 1 epoch with several | single
    · have := Nat.le_mul_of_pos_left c.numBlockPerEpoch (by omega : 0 < epoch - 1)
      omega
    · omega
  -- the epoch's blocks: all but the last, then the last
  have concat := @List.range'_concat 1
    (c.startingEpochBlock + (epoch - 1) * c.numBlockPerEpoch) (c.numBlockPerEpoch - 1)
  rw [Nat.sub_add_cancel positive, Nat.one_mul] at concat
  have last : c.startingEpochBlock + (epoch - 1) * c.numBlockPerEpoch +
      (c.numBlockPerEpoch - 1) = c.startingEpochBlock + epoch * c.numBlockPerEpoch - 1 := by
    omega
  rw [blocksOfEpoch, concat, last, List.map_append, List.map_cons, List.map_nil, run_append,
    List.map_append]
  generalize leading : (List.range' (c.startingEpochBlock + (epoch - 1) * c.numBlockPerEpoch)
    (c.numBlockPerEpoch - 1)).map EventNewBlock.mk = init
  have initBlocks : ∀ b ∈ init, epochNumber c b.blockNumber = epoch ∧
      b.blockNumber ≤ c.startingEpochBlock + epoch * c.numBlockPerEpoch - 2 := by
    rw [← leading]
    intro b member
    obtain ⟨n, inRange, rfl⟩ := List.mem_map.mp member
    rw [List.mem_range'_1] at inRange
    exact ⟨(epoch_of_block c first (by omega) inRange.1 (by omega) (by omega)).1,
      show n ≤ _ by omega⟩
  -- the earlier blocks leave the last block unseen and the epoch not yet notified
  have seen : (run c float64Div (run c float64Div (initialStatus c) earlier).1 init).1.lastBlockSeen
      ≤ c.startingEpochBlock + epoch * c.numBlockPerEpoch - 2 :=
    run_lastBlockSeen_le c float64Div _ init
      (run_lastBlockSeen_le c float64Div _ earlier (by simp only [initialStatus]; omega)
        fun b member => by have := before b member; omega) fun b member => (initBlocks b member).2
  have waiting := run_waitingForEpoch_le c float64Div (initialStatus c) earlier
    (by rw [initialStatus_waitingForEpoch]; exact first)
    fun b member => epochNumber_lt_of_lt c positive first (by omega) (before b member)
  have lastSame : ∀ b ∈ [(⟨c.startingEpochBlock + epoch * c.numBlockPerEpoch - 1⟩ :
      EventNewBlock)], epochNumber c b.blockNumber = epoch := by
    simp only [List.mem_singleton, forall_eq]
    exact (epoch_of_block c first (by omega) (by omega : c.startingEpochBlock + (epoch - 1) *
      c.numBlockPerEpoch ≤ c.startingEpochBlock + epoch * c.numBlockPerEpoch - 1)
      (by omega) (by omega)).1
  rcases run_same_epoch c float64Div (run c float64Div (initialStatus c) earlier).1 init
    (fun b member => (initBlocks b member).1) with ⟨quiet, kept⟩ | ⟨once, moved⟩
  · -- nothing notified before the last block, which is notified
    obtain ⟨event, sent, rfl⟩ := Option.map_eq_some'.mp (step_last_notifies c float64Div positive
      _ first notLast fits (by omega) (kept ▸ waiting))
    simp [quiet, run, sent]
  · -- notified before the last block, which then notifies nothing
    have past : epoch < (run c float64Div (run c float64Div (initialStatus c) earlier).1
        init).1.waitingForEpoch := by rw [moved]; exact Nat.lt_succ_self epoch
    rw [once, (run_quiet_past c float64Div _ _ past lastSame).1]
    rfl

theorem startInternal_notifies_epoch_once_second :
    (run ⟨100, 10, 50⟩ (fun a b : Nat => a * 100 / b)
      (run ⟨100, 10, 50⟩ (fun a b : Nat => a * 100 / b) (initialStatus ⟨100, 10, 50⟩)
        [⟨100⟩, ⟨103⟩, ⟨109⟩]).1 (blocksOfEpoch ⟨100, 10, 50⟩ 2)).2.map (·.epoch) = [2] :=
  startInternal_notifies_epoch_once ⟨100, 10, 50⟩ (fun a b : Nat => a * 100 / b) (by decide) 2
    (by decide) (by decide) (by decide) (by decide) [⟨100⟩, ⟨103⟩, ⟨109⟩] (by decide)

/-- Two epochs never notified, whatever the float quotients. With one block per epoch, the only
block of epoch 1 is the starting block, which `step` ignores as the last block seen. From block
1 with one block per epoch, epoch `2^64 - 1` is block `2^64 - 1`, and the epoch after it wraps
to 0, which is not past the epoch waited for. -/
theorem startInternal_misses_epoch :
    ConfigEpochNotifierPerBlock.validate ⟨100, 1, 50⟩ = .ok () ∧
    (∀ {F : Type} [LinearOrder F] (float64Div : Nat → Nat → F),
      (run ⟨100, 1, 50⟩ float64Div (initialStatus ⟨100, 1, 50⟩)
        (blocksOfEpoch ⟨100, 1, 50⟩ 1)).2 = []) ∧
    ConfigEpochNotifierPerBlock.validate ⟨1, 1, 50⟩ = .ok () ∧
    (∀ {F : Type} [LinearOrder F] (float64Div : Nat → Nat → F),
      (run ⟨1, 1, 50⟩ float64Div (initialStatus ⟨1, 1, 50⟩)
        (blocksOfEpoch ⟨1, 1, 50⟩ (2 ^ 64 - 1))).2 = []) := by
  refine ⟨rfl, fun _ => rfl, rfl, fun {F} _ float64Div => ?_⟩
  have single : blocksOfEpoch ⟨1, 1, 50⟩ (2 ^ 64 - 1) = [⟨2 ^ 64 - 1⟩] := rfl
  rw [single]
  rcases step_cases ⟨1, 1, 50⟩ float64Div (initialStatus ⟨1, 1, 50⟩) ⟨2 ^ 64 - 1⟩ with
    same | ⟨-, -, recorded⟩ | ⟨-, -, -, wraps, -⟩
  · rw [run, same]; rfl
  · rw [run, recorded]; rfl
  · exact absurd wraps (by decide)

end Float

end EpochNotifierPerBlock

end Aggkit.Aggsender
