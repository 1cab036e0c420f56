import Aggkit.Common.Word
import Mathlib.Data.List.Basic

/-! The search of the bridge service for the first L1 info tree leaf that covers a deposit:
`getFirstL1InfoTreeIndexForL1Bridge` and `getFirstL1InfoTreeIndexForL2Bridge`.

Both run one binary search over block numbers, `binarySearch`, on the leaves (L1) or the
verified batches of the network (L2), and stop at the first probe whose exit root has exactly
the deposit count as index. The loop is run with a bound on its iterations, `fuel`. Every
answer it gives covers the deposit; it need not be the first one that does. -/
namespace Aggkit.Bridge

/-- The fields of `l1infotreesync.L1InfoTreeLeaf` the search reads. -/
structure L1InfoTreeLeaf where
  blockNumber : Nat
  l1InfoTreeIndex : Nat
  mainnetExitRoot : Nat
  rollupExitRoot : Nat
deriving DecidableEq, Repr

/-- The fields of `l1infotreesync.VerifyBatches` the search reads. -/
structure VerifyBatches where
  blockNumber : Nat
  rollupID : Nat
  exitRoot : Nat
  rollupExitRoot : Nat
deriving DecidableEq, Repr

/-- Why a search fails: `ErrNotOnL1Info`, or an error of a store or bridge query. -/
inductive SearchError where
  | notOnL1Info
  | query
deriving DecidableEq, Repr

/-- Modelled from the spec: the L1 info tree syncer's store, whose queries run in its processor,
which is not among the repository's files. The leaves are in index order and the verified
batches in the order they were synced; `GetFirstInfo`, `GetLastInfo` are the first and last
leaf and `GetFirstInfoAfterBlock(b)` the first leaf at a block at or after `b`; the
verified-batches queries are the same over one network's batches, and
`GetFirstL1InfoWithRollupExitRoot` is the first leaf with that rollup exit root. A query with no
answer is an error. -/
structure L1InfoTreeStore where
  leaves : List L1InfoTreeLeaf
  verifyBatches : List VerifyBatches
deriving DecidableEq, Repr

/-- `Except` from an optional answer of a store query. -/
def found {α : Type} : Option α → Except SearchError α
  | some a => .ok a
  | none => .error .query

@[simp] theorem found_eq_ok {α : Type} {answer : Option α} {a : α} :
    found answer = .ok a ↔ answer = some a := by
  cases answer <;> simp [found]

theorem found_error {α : Type} {answer : Option α} {e : SearchError}
    (failed : found answer = .error e) : e = .query := by
  cases answer <;> simp_all [found]

theorem found_map_ne_notOnL1Info {α β : Type} {answer : Option α} {f : α → β} :
    (found answer).map f ≠ .error .notOnL1Info := by
  cases answer <;> simp [found, Except.map]

namespace L1InfoTreeStore

variable (store : L1InfoTreeStore)

def getFirstInfo : Except SearchError L1InfoTreeLeaf := found store.leaves.head?

def getLastInfo : Except SearchError L1InfoTreeLeaf := found store.leaves.getLast?

def getFirstInfoAfterBlock (blockNum : Nat) : Except SearchError L1InfoTreeLeaf :=
  found (store.leaves.find? fun leaf => blockNum ≤ leaf.blockNumber)

/-- The verified batches of one network. -/
def batchesOf (rollupID : Nat) : List VerifyBatches :=
  store.verifyBatches.filter fun batch => batch.rollupID = rollupID

def getFirstVerifiedBatches (rollupID : Nat) : Except SearchError VerifyBatches :=
  found (store.batchesOf rollupID).head?

def getLastVerifiedBatches (rollupID : Nat) : Except SearchError VerifyBatches :=
  found (store.batchesOf rollupID).getLast?

def getFirstVerifiedBatchesAfterBlock (rollupID blockNum : Nat) : Except SearchError VerifyBatches :=
  found ((store.batchesOf rollupID).find? fun batch => blockNum ≤ batch.blockNumber)

def getFirstL1InfoWithRollupExitRoot (rollupExitRoot : Nat) : Except SearchError L1InfoTreeLeaf :=
  found (store.leaves.find? fun leaf => leaf.rollupExitRoot = rollupExitRoot)

end L1InfoTreeStore

/-- What `BridgeService` reads for the search. `GetRootByLER` of a bridge syncer is the index of
the root with that local exit root, `none` for an error. -/
structure BridgeService where
  networkID : Nat
  l1InfoTree : L1InfoTreeStore
  bridgeL1GetRootByLER : Nat → Option Nat
  bridgeL2GetRootByLER : Nat → Option Nat

/-- `binarySearchDivider`. -/
def binarySearchDivider : Nat := 2

/-- The `for lowerLimit <= upperLimit` loop shared by both searches, with at most `fuel`
iterations (`none` past them). A probe below the deposit count moves `lowerLimit` up; a probe
at it is the answer; a probe above it is the best result so far and moves `upperLimit` down.
The limits are uint64. -/
def binarySearch {α : Type} (getFirstAfterBlock : Nat → Except SearchError α)
    (rootIndex : α → Option Nat) (depositCount : Nat) :
    Nat → Nat → Nat → α → Option (Except SearchError α)
  | 0, _, _, _ => none
  | fuel + 1, lowerLimit, upperLimit, bestResult =>
    if lowerLimit ≤ upperLimit then
      let targetBlock := lowerLimit + (upperLimit - lowerLimit) / binarySearchDivider
      match getFirstAfterBlock targetBlock with
      | .error e => some (.error e)
      | .ok target =>
        match rootIndex target with
        | none => some (.error .query)
        | some index =>
          if index < depositCount then
            binarySearch getFirstAfterBlock rootIndex depositCount fuel (add64 targetBlock 1)
              upperLimit bestResult
          else if index = depositCount then some (.ok target)
          else
            binarySearch getFirstAfterBlock rootIndex depositCount fuel lowerLimit
              (sub64 targetBlock 1) target
    else some (.ok bestResult)

namespace BridgeService

variable (b : BridgeService)

/-- `getFirstL1InfoTreeIndexForL1Bridge`, with at most `fuel` iterations of its loop. -/
def getFirstL1InfoTreeIndexForL1Bridge (depositCount fuel : Nat) :
    Option (Except SearchError Nat) :=
  match b.l1InfoTree.getLastInfo with
  | .error e => some (.error e)
  | .ok lastInfo =>
    match b.bridgeL1GetRootByLER lastInfo.mainnetExitRoot with
    | none => some (.error .query)
    | some index =>
      if index < depositCount then some (.error .notOnL1Info)
      else match b.l1InfoTree.getFirstInfo with
        | .error e => some (.error e)
        | .ok firstInfo =>
          (binarySearch b.l1InfoTree.getFirstInfoAfterBlock
            (fun leaf => b.bridgeL1GetRootByLER leaf.mainnetExitRoot) depositCount fuel
            firstInfo.blockNumber lastInfo.blockNumber lastInfo).map
            fun result => result.map (·.l1InfoTreeIndex)

/-- `getFirstL1InfoTreeIndexForL2Bridge`, with at most `fuel` iterations of its loop. -/
def getFirstL1InfoTreeIndexForL2Bridge (depositCount fuel : Nat) :
    Option (Except SearchError Nat) :=
  match b.l1InfoTree.getLastVerifiedBatches b.networkID with
  | .error e => some (.error e)
  | .ok lastVerified =>
    match b.bridgeL2GetRootByLER lastVerified.exitRoot with
    | none => some (.error .query)
    | some index =>
      if index < depositCount then some (.error .notOnL1Info)
      else match b.l1InfoTree.getFirstVerifiedBatches b.networkID with
        | .error e => some (.error e)
        | .ok firstVerified =>
          (binarySearch (b.l1InfoTree.getFirstVerifiedBatchesAfterBlock b.networkID)
            (fun batch => b.bridgeL2GetRootByLER batch.exitRoot) depositCount fuel
            firstVerified.blockNumber lastVerified.blockNumber lastVerified).map fun result =>
              result.bind fun bestResult =>
                (b.l1InfoTree.getFirstL1InfoWithRollupExitRoot bestResult.rollupExitRoot).map
                  (·.l1InfoTreeIndex)

end BridgeService

/-! ### What the search returns -/

section Search

variable {α : Type} (getFirstAfterBlock : Nat → Except SearchError α)
  (rootIndex : α → Option Nat) (depositCount : Nat)

/-- The element found, or the best result, holds a root whose index reaches the deposit count;
and it is one of the elements the queries return, or the best result it started from. -/
theorem binarySearch_covers (Stored : α → Prop)
    (queried : ∀ block found, getFirstAfterBlock block = .ok found → Stored found) :
    ∀ fuel lowerLimit upperLimit bestResult result,
      Stored bestResult → (∃ index, rootIndex bestResult = some index ∧ depositCount ≤ index) →
      binarySearch getFirstAfterBlock rootIndex depositCount fuel lowerLimit upperLimit
        bestResult = some (.ok result) →
      Stored result ∧ ∃ index, rootIndex result = some index ∧ depositCount ≤ index := by
  intro fuel
  induction fuel with
  | zero => intro _ _ _ _ _ _ returned; simp [binarySearch] at returned
  | succ fuel ih =>
    intro lowerLimit upperLimit bestResult result stored covers returned
    unfold binarySearch at returned
    split at returned
    · dsimp only at returned
      split at returned
      · simp at returned
      · rename_i target probed
        split at returned
        · simp at returned
        · rename_i index rooted
          split at returned
          · exact ih _ _ _ _ stored covers returned
          · split at returned
            · simp only [Option.some.injEq, Except.ok.injEq] at returned
              exact returned ▸ ⟨queried _ _ probed, index, rooted, by omega⟩
            · exact ih _ _ _ _ (queried _ _ probed) ⟨index, rooted, by omega⟩ returned
    · simp only [Option.some.injEq, Except.ok.injEq] at returned
      exact returned ▸ ⟨stored, covers⟩

/-- The loop never reports a deposit as not on the L1 info tree: only the first check does. -/
theorem binarySearch_ne_notOnL1Info
    (queryErrors : ∀ block e, getFirstAfterBlock block = .error e → e = .query) :
    ∀ fuel lowerLimit upperLimit bestResult,
      binarySearch getFirstAfterBlock rootIndex depositCount fuel lowerLimit upperLimit
        bestResult ≠ some (.error .notOnL1Info) := by
  intro fuel
  induction fuel with
  | zero => intro _ _ _; simp [binarySearch]
  | succ fuel ih =>
    intro lowerLimit upperLimit bestResult
    unfold binarySearch
    split
    · dsimp only
      split
      · rename_i e probed
        simp [queryErrors _ _ probed]
      · split
        · simp
        · split
          · exact ih _ _ _
          · split
            · simp
            · exact ih _ _ _
    · simp

end Search

/-! ### The check before the loop, shared by both searches -/

section Covering

variable {α : Type} (getLast getFirst : Except SearchError α)
  (getFirstAfterBlock : Nat → Except SearchError α) (rootIndex : α → Option Nat)
  (blockNumber : α → Nat) (depositCount fuel : Nat)

/-- What both searches compute before they turn the element found into an index: the check of
the last element's root, then the loop from the first element's block to the last one's. -/
def coveringSearch : Option (Except SearchError α) :=
  match getLast with
  | .error e => some (.error e)
  | .ok last =>
    match rootIndex last with
    | none => some (.error .query)
    | some index =>
      if index < depositCount then some (.error .notOnL1Info)
      else match getFirst with
        | .error e => some (.error e)
        | .ok first =>
          binarySearch getFirstAfterBlock rootIndex depositCount fuel (blockNumber first)
            (blockNumber last) last

/-- Only the check of the last element reports `ErrNotOnL1Info`, and the search finds an element
the queries return whose root reaches the deposit count. -/
theorem coveringSearch_sound (Stored : α → Prop)
    (lastErrors : ∀ e, getLast = .error e → e = .query)
    (firstErrors : ∀ e, getFirst = .error e → e = .query)
    (queryErrors : ∀ block e, getFirstAfterBlock block = .error e → e = .query)
    (lastStored : ∀ last, getLast = .ok last → Stored last)
    (queried : ∀ block found, getFirstAfterBlock block = .ok found → Stored found) :
    (coveringSearch getLast getFirst getFirstAfterBlock rootIndex blockNumber depositCount fuel =
        some (.error .notOnL1Info) ↔
      ∃ last index, getLast = .ok last ∧ rootIndex last = some index ∧ index < depositCount) ∧
    ∀ result, coveringSearch getLast getFirst getFirstAfterBlock rootIndex blockNumber
        depositCount fuel = some (.ok result) →
      Stored result ∧ ∃ index, rootIndex result = some index ∧ depositCount ≤ index := by
  unfold coveringSearch
  cases getLast with
  | error e => simp [lastErrors e rfl]
  | ok last =>
    cases rooted : rootIndex last with
    | none => simp [rooted]
    | some index =>
      by_cases below : index < depositCount
      · simp [rooted, below]
      · cases getFirst with
        | error e => simp [rooted, below, firstErrors e rfl]
        | ok first =>
          simp only [rooted, below, if_false]
          refine ⟨iff_of_false (binarySearch_ne_notOnL1Info getFirstAfterBlock rootIndex
              depositCount queryErrors fuel _ _ last) ?_, fun result returned =>
            binarySearch_covers getFirstAfterBlock rootIndex depositCount Stored queried fuel _ _
              last result (lastStored last rfl) ⟨index, rooted, by omega⟩ returned⟩
          rintro ⟨_, _, same, found, small⟩
          cases same
          rw [rooted, Option.some.injEq] at found
          omega

end Covering

section Answer

variable {α β : Type} {g : α → Except SearchError β} {x : Option (Except SearchError α)}

theorem map_bind_notOnL1Info (never : ∀ a, g a ≠ .error .notOnL1Info) :
    x.map (·.bind g) = some (.error .notOnL1Info) ↔ x = some (.error .notOnL1Info) := by
  rcases x with _ | _ | a
  · simp
  · simp [Except.bind]
  · simpa [Except.bind] using never a

theorem map_bind_ok {r : β} :
    x.map (·.bind g) = some (.ok r) ↔ ∃ a, x = some (.ok a) ∧ g a = .ok r := by
  rcases x with _ | _ | a <;> simp [Except.bind]

end Answer

namespace BridgeService

variable (b : BridgeService)

theorem getFirstInfoAfterBlock_mem {blockNum : Nat} {leaf : L1InfoTreeLeaf}
    (first : b.l1InfoTree.getFirstInfoAfterBlock blockNum = .ok leaf) :
    leaf ∈ b.l1InfoTree.leaves :=
  List.mem_of_find?_eq_some (found_eq_ok.mp first)

theorem getFirstL1InfoTreeIndexForL1Bridge_eq (depositCount fuel : Nat) :
    b.getFirstL1InfoTreeIndexForL1Bridge depositCount fuel =
      (coveringSearch b.l1InfoTree.getLastInfo b.l1InfoTree.getFirstInfo
        b.l1InfoTree.getFirstInfoAfterBlock
        (fun leaf => b.bridgeL1GetRootByLER leaf.mainnetExitRoot) (·.blockNumber) depositCount
        fuel).map (·.bind fun leaf => .ok leaf.l1InfoTreeIndex) := by
  unfold getFirstL1InfoTreeIndexForL1Bridge coveringSearch
  dsimp only
  cases b.l1InfoTree.getLastInfo with
  | error e => rfl
  | ok lastInfo =>
    dsimp only
    cases b.bridgeL1GetRootByLER lastInfo.mainnetExitRoot with
    | none => rfl
    | some index =>
      dsimp only
      split
      · rfl
      · cases b.l1InfoTree.getFirstInfo with
        | error e => rfl
        | ok firstInfo =>
          dsimp only
          congr

theorem getFirstL1InfoTreeIndexForL2Bridge_eq (depositCount fuel : Nat) :
    b.getFirstL1InfoTreeIndexForL2Bridge depositCount fuel =
      (coveringSearch (b.l1InfoTree.getLastVerifiedBatches b.networkID)
        (b.l1InfoTree.getFirstVerifiedBatches b.networkID)
        (b.l1InfoTree.getFirstVerifiedBatchesAfterBlock b.networkID)
        (fun batch => b.bridgeL2GetRootByLER batch.exitRoot) (·.blockNumber) depositCount fuel).map
        (·.bind fun bestResult =>
          (b.l1InfoTree.getFirstL1InfoWithRollupExitRoot bestResult.rollupExitRoot).map
            (·.l1InfoTreeIndex)) := by
  unfold getFirstL1InfoTreeIndexForL2Bridge coveringSearch
  dsimp only
  cases b.l1InfoTree.getLastVerifiedBatches b.networkID with
  | error e => rfl
  | ok lastVerified =>
    dsimp only
    cases b.bridgeL2GetRootByLER lastVerified.exitRoot with
    | none => rfl
    | some index =>
      dsimp only
      split
      · rfl
      · cases b.l1InfoTree.getFirstVerifiedBatches b.networkID <;> rfl

/-- The L1 search reports `ErrNotOnL1Info` exactly when the last leaf's mainnet exit root has an
index below the deposit count, and any index it returns is that of a leaf whose mainnet exit
root has an index at or above the deposit count. -/
theorem getFirstL1InfoTreeIndexForL1Bridge_sound (depositCount fuel : Nat) :
    (b.getFirstL1InfoTreeIndexForL1Bridge depositCount fuel = some (.error .notOnL1Info) ↔
      ∃ lastInfo index, b.l1InfoTree.leaves.getLast? = some lastInfo ∧
        b.bridgeL1GetRootByLER lastInfo.mainnetExitRoot = some index ∧ index < depositCount) ∧
    ∀ index, b.getFirstL1InfoTreeIndexForL1Bridge depositCount fuel = some (.ok index) →
      ∃ leaf ∈ b.l1InfoTree.leaves, leaf.l1InfoTreeIndex = index ∧
        ∃ rootIndex, b.bridgeL1GetRootByLER leaf.mainnetExitRoot = some rootIndex ∧
          depositCount ≤ rootIndex := by
  rw [getFirstL1InfoTreeIndexForL1Bridge_eq, map_bind_notOnL1Info fun _ => Except.noConfusion]
  obtain ⟨notOn, covers⟩ := coveringSearch_sound b.l1InfoTree.getLastInfo b.l1InfoTree.getFirstInfo
    b.l1InfoTree.getFirstInfoAfterBlock (fun leaf => b.bridgeL1GetRootByLER leaf.mainnetExitRoot)
    (·.blockNumber) depositCount fuel (· ∈ b.l1InfoTree.leaves) (fun _ => found_error)
    (fun _ => found_error) (fun _ _ => found_error)
    (fun _ last => List.mem_of_mem_getLast? (found_eq_ok.mp last))
    (fun _ _ first => b.getFirstInfoAfterBlock_mem first)
  refine ⟨notOn.trans (by simp only [L1InfoTreeStore.getLastInfo, found_eq_ok]),
    fun index returned => ?_⟩
  obtain ⟨leaf, searched, indexed⟩ := map_bind_ok.mp returned
  obtain ⟨member, covering⟩ := covers leaf searched
  exact ⟨leaf, member, Except.ok.inj indexed, covering⟩

/-- The L2 search reports `ErrNotOnL1Info` exactly when the exit root of the network's last
verified batches has an index below the deposit count, and any index it returns is that of a
leaf with the rollup exit root of verified batches of the network whose exit root has an index
at or above the deposit count. -/
theorem getFirstL1InfoTreeIndexForL2Bridge_sound (depositCount fuel : Nat) :
    (b.getFirstL1InfoTreeIndexForL2Bridge depositCount fuel = some (.error .notOnL1Info) ↔
      ∃ lastVerified index, (b.l1InfoTree.batchesOf b.networkID).getLast? = some lastVerified ∧
        b.bridgeL2GetRootByLER lastVerified.exitRoot = some index ∧ index < depositCount) ∧
    ∀ index, b.getFirstL1InfoTreeIndexForL2Bridge depositCount fuel = some (.ok index) →
      ∃ batch ∈ b.l1InfoTree.verifyBatches, batch.rollupID = b.networkID ∧
        (∃ rootIndex, b.bridgeL2GetRootByLER batch.exitRoot = some rootIndex ∧
          depositCount ≤ rootIndex) ∧
        ∃ leaf ∈ b.l1InfoTree.leaves, leaf.rollupExitRoot = batch.rollupExitRoot ∧
          leaf.l1InfoTreeIndex = index := by
  have lookup : ∀ root index,
      (b.l1InfoTree.getFirstL1InfoWithRollupExitRoot root).map (·.l1InfoTreeIndex) = .ok index →
      ∃ leaf ∈ b.l1InfoTree.leaves, leaf.rollupExitRoot = root ∧ leaf.l1InfoTreeIndex = index := by
    intro root index answered
    cases first : b.l1InfoTree.leaves.find? fun leaf => leaf.rollupExitRoot = root with
    | none =>
      simp [L1InfoTreeStore.getFirstL1InfoWithRollupExitRoot, first, found, Except.map] at answered
    | some leaf =>
      simp only [L1InfoTreeStore.getFirstL1InfoWithRollupExitRoot, first, found, Except.map,
        Except.ok.injEq] at answered
      exact ⟨leaf, List.mem_of_find?_eq_some first, by simpa using List.find?_some first, answered⟩
  rw [getFirstL1InfoTreeIndexForL2Bridge_eq, map_bind_notOnL1Info ?never]
  case never => exact fun _ => found_map_ne_notOnL1Info
  obtain ⟨notOn, covers⟩ := coveringSearch_sound (b.l1InfoTree.getLastVerifiedBatches b.networkID)
    (b.l1InfoTree.getFirstVerifiedBatches b.networkID)
    (b.l1InfoTree.getFirstVerifiedBatchesAfterBlock b.networkID)
    (fun batch => b.bridgeL2GetRootByLER batch.exitRoot) (·.blockNumber) depositCount fuel
    (· ∈ b.l1InfoTree.batchesOf b.networkID) (fun _ => found_error) (fun _ => found_error)
    (fun _ _ => found_error) (fun _ last => List.mem_of_mem_getLast? (found_eq_ok.mp last))
    (fun _ _ first => List.mem_of_find?_eq_some (found_eq_ok.mp first))
  refine ⟨notOn.trans (by simp only [L1InfoTreeStore.getLastVerifiedBatches, found_eq_ok]),
    fun index returned => ?_⟩
  obtain ⟨batch, searched, answered⟩ := map_bind_ok.mp returned
  obtain ⟨member, covering⟩ := covers batch searched
  obtain ⟨stored, network⟩ := List.mem_filter.mp member
  exact ⟨batch, stored, of_decide_eq_true network, covering, lookup _ _ answered⟩

/-- The index the search is meant to find: that of the first leaf whose mainnet exit root has an
index at or above the deposit count. -/
def firstCoveringLeaf (depositCount : Nat) : Option Nat :=
  (b.l1InfoTree.leaves.find? fun leaf =>
    (b.bridgeL1GetRootByLER leaf.mainnetExitRoot).any (depositCount ≤ ·)).map (·.l1InfoTreeIndex)

end BridgeService

/-- Leaves 0 and 1, in blocks 10 and 20, share a mainnet exit root whose index is 5. -/
def repeatedRootService : BridgeService :=
  ⟨0, ⟨[⟨10, 0, 100, 0⟩, ⟨20, 1, 100, 0⟩], []⟩, fun _ => some 5, fun _ => none⟩

/-- For deposit count 5 the first probe, block 15, finds leaf 1 with exactly that index and
stops: the search returns 1, where the first covering leaf is 0. -/
theorem getFirstL1InfoTreeIndexForL1Bridge_repeated_root :
    repeatedRootService.getFirstL1InfoTreeIndexForL1Bridge 5 64 = some (.ok 1) ∧
      repeatedRootService.firstCoveringLeaf 5 = some 0 :=
  ⟨rfl, rfl⟩

end Aggkit.Bridge
