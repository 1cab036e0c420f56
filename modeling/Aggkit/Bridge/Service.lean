import Aggkit.Bridge.L1InfoSearch
import Aggkit.Encoding.Json

/-! The handlers of the bridge service, `bridgeservice.BridgeService`, and the methods of the L1
info tree syncer, `l1infotreesync.L1InfoTreeSync`, that they call.

A handler is modelled from the point where `parseUintQuery` and `parseUint32SliceParam` have
read its query parameters (they are not among the repository's files): each parameter is the
value read or the error's text, and the answer `c.JSON` is given is an `Except HttpError`. The
syncers' answers are functions of their arguments. Every handler runs the same `switch` on the
requested network (`selectNetwork`), and those that ask one syncer per network share
`askNetwork`. The searches `L1InfoTreeIndexForBridgeHandler` runs are those of
`L1InfoSearch`. -/
namespace Aggkit.Bridge

open Aggkit.Encoding

/-! ### The L1 info tree syncer -/

/-- What `L1InfoTreeSync` reads of its processor, which is not among the repository's files:
`isHalted`, `GetInfoByIndex`, and the rollup exit tree's `GetProof` and `GetLeaf` of a leaf
index under a root. -/
structure L1InfoTreeProcessor (Proof : Type) where
  isHalted : Bool
  getInfoByIndex : Nat → Except (List UInt8) L1InfoTreeLeaf
  rollupExitTreeGetProof : Nat → Nat → Except (List UInt8) Proof
  rollupExitTreeGetLeaf : Nat → Nat → Except (List UInt8) Nat

/-- `L1InfoTreeSync`; its driver takes no part in the queries. -/
structure L1InfoTreeSync (Proof : Type) where
  processor : L1InfoTreeProcessor Proof

namespace L1InfoTreeSync

variable {Proof : Type}
/- `sync.ErrInconsistentState`'s text and `tree.EmptyProof`, of packages that are not among the
repository's files. -/
variable (errInconsistentState : List UInt8) (emptyProof : Proof) (s : L1InfoTreeSync Proof)

/-- The check every method makes before it asks the processor. -/
def guarded {α : Type} (query : Except (List UInt8) α) : Except (List UInt8) α :=
  if s.processor.isHalted then .error errInconsistentState else query

/-- `GetInfoByIndex`. -/
def getInfoByIndex (index : Nat) : Except (List UInt8) L1InfoTreeLeaf :=
  s.guarded errInconsistentState (s.processor.getInfoByIndex index)

/-- `GetRollupExitTreeMerkleProof`: network 0 is not in the rollup exit tree and has the empty
proof; network `n` is its leaf `n - 1`. -/
def getRollupExitTreeMerkleProof (networkID root : Nat) : Except (List UInt8) Proof :=
  s.guarded errInconsistentState
    (if networkID = 0 then .ok emptyProof
    else s.processor.rollupExitTreeGetProof (networkID - 1) root)

/-- `GetLocalExitRoot`. -/
def getLocalExitRoot (networkID rollupExitRoot : Nat) : Except (List UInt8) Nat :=
  s.guarded errInconsistentState
    (if networkID = 0 then
      .error (ascii "network 0 is not a rollup, and it's not part of the rollup exit tree")
    else s.processor.rollupExitTreeGetLeaf (networkID - 1) rollupExitRoot)

end L1InfoTreeSync

/-! ### Answers and the network switch -/

/-- The answers of a handler other than `http.StatusOK`, each with the text of its
`gin.H{"error": …}`. -/
inductive HttpError where
  | badRequest (error : List UInt8)
  | internalServerError (error : List UInt8)
deriving DecidableEq, Repr

/-- `mainnetNetworkID`. -/
def mainnetNetworkID : Nat := 0

/-- `errNetworkID` for a network id. -/
def errNetworkID (networkID : Nat) : List UInt8 :=
  ascii "unsupported network id: " ++ decimal networkID

/-- The cases of the `switch` on the requested network. -/
inductive Network where
  | mainnet
  | own
  | unsupported
deriving DecidableEq, Repr

/-- The `switch` of every handler of a service whose own network is `ownNetworkID`: the mainnet
case comes first. -/
def selectNetwork (ownNetworkID networkID : Nat) : Network :=
  if networkID = mainnetNetworkID then .mainnet
  else if networkID = ownNetworkID then .own
  else .unsupported

/-- The `switch` of the handlers that ask one syncer per network: `l1` for mainnet and `l2` for
the service's own network, each failure answered with `http.StatusInternalServerError` and the
text that network's case gives it; any other network is a bad request. -/
def askNetwork {α : Type} (ownNetworkID networkID : Nat) (l1 l2 : Except (List UInt8) α)
    (l1Failed l2Failed : List UInt8 → List UInt8) (unsupported : List UInt8) :
    Except HttpError α :=
  match selectNetwork ownNetworkID networkID with
  | .mainnet => l1.mapError fun err => .internalServerError (l1Failed err)
  | .own => l2.mapError fun err => .internalServerError (l2Failed err)
  | .unsupported => .error (.badRequest unsupported)

/-! ### The paged handlers -/

/-- `math.MaxUint64`, the default `deposit_count` of `GetBridgesHandler`. -/
def maxUint64 : Nat := 2 ^ 64 - 1

/-- `setupRequest`, given what `parseUintQuery` reads of `page_number` and `page_size` and the
answer of `validatePaginationParams` (neither is among the repository's files); the context and
the counter take no part in the answer. -/
def setupRequest (pageNumber pageSize : Except (List UInt8) Nat)
    (validatePaginationParams : Nat → Nat → Except (List UInt8) Unit) :
    Except (List UInt8) (Nat × Nat) := do
  let pageNumber ← pageNumber
  let pageSize ← pageSize
  validatePaginationParams pageNumber pageSize
  pure (pageNumber, pageSize)

/-- `GetBridgesHandler`, with `page` the answer of `setupRequest` and the answers of both syncers'
`GetBridgesPaged` as functions of the page, the deposit count filter, the network ids and the
from address. `NewBridgeResponse` is not
among the repository's files: the answer holds the bridges as the syncer gives them. -/
def getBridgesHandler {Bridge : Type} (ownNetworkID : Nat)
    (networkID depositCount : Except (List UInt8) Nat) (networkIDs : Except (List UInt8) (List Nat))
    (fromAddress : List UInt8) (page : Except (List UInt8) (Nat × Nat))
    (bridgeL1 bridgeL2 : Nat → Nat → Option Nat → List Nat → List UInt8 →
      Except (List UInt8) (List Bridge × Nat)) : Except HttpError (List Bridge × Nat) := do
  let networkID ← networkID.mapError .badRequest
  let depositCount ← depositCount.mapError .badRequest
  let depositCountPtr := if depositCount ≠ maxUint64 then some depositCount else none
  let networkIDs ← networkIDs.mapError fun err => .badRequest (ascii "invalid network_ids: " ++ err)
  let (pageNumber, pageSize) ← page.mapError .badRequest
  askNetwork ownNetworkID networkID
    (bridgeL1 pageNumber pageSize depositCountPtr networkIDs fromAddress)
    (bridgeL2 pageNumber pageSize depositCountPtr networkIDs fromAddress)
    (ascii "failed to get bridges for the L1 network, error: " ++ ·)
    (fun err => ascii "failed to get bridges for the L2 network (ID=" ++ decimal networkID ++
      ascii "), error: " ++ err)
    (errNetworkID networkID)

/-- `GetClaimsHandler`, with `strconv.ParseBool`'s answer for a non-empty `include_all_fields`
(`none` for an empty one), `page` the answer of `setupRequest`, and the answers of both syncers'
`GetClaimsPaged`.
`NewClaimResponse` is not among the repository's files: the answer holds the claims as the
syncer gives them, with the flag it would read. -/
def getClaimsHandler {Claim : Type} (ownNetworkID : Nat) (networkID : Except (List UInt8) Nat)
    (networkIDs : Except (List UInt8) (List Nat)) (fromAddress : List UInt8)
    (includeAllFields : Option (Except (List UInt8) Bool)) (page : Except (List UInt8) (Nat × Nat))
    (claimL1 claimL2 : Nat → Nat → List Nat → List UInt8 → Except (List UInt8) (List Claim × Nat)) :
    Except HttpError (List Claim × Nat × Bool) := do
  let networkID ← networkID.mapError .badRequest
  let networkIDs ← networkIDs.mapError .badRequest
  let includeAllFieldsFlag ← match includeAllFields with
    | none => pure false
    | some parsed =>
      parsed.mapError fun _ => .badRequest (ascii "invalid include_all_fields parameter")
  let (pageNumber, pageSize) ← page.mapError .badRequest
  let (claims, count) ← askNetwork ownNetworkID networkID
    (claimL1 pageNumber pageSize networkIDs fromAddress)
    (claimL2 pageNumber pageSize networkIDs fromAddress)
    (ascii "failed to get claims for the L1 network, error: " ++ ·)
    (fun err => ascii "failed to get claims for the L2 network (ID=" ++ decimal networkID ++
      ascii "), error: " ++ err)
    (errNetworkID networkID)
  pure (claims, count, includeAllFieldsFlag)

/-- The shared body of `GetTokenMappingsHandler` and `GetLegacyTokenMigrationsHandler`: one
failure text for both networks, checked after the `switch`. -/
def pagedHandler {Item : Type} (failed : List UInt8) (ownNetworkID : Nat)
    (networkID : Except (List UInt8) Nat) (page : Except (List UInt8) (Nat × Nat))
    (itemsL1 itemsL2 : Nat → Nat → Except (List UInt8) (List Item × Nat)) :
    Except HttpError (List Item × Nat) := do
  let networkID ← networkID.mapError .badRequest
  let (pageNumber, pageSize) ← page.mapError .badRequest
  askNetwork ownNetworkID networkID (itemsL1 pageNumber pageSize) (itemsL2 pageNumber pageSize)
    (failed ++ ·) (failed ++ ·) (errNetworkID networkID)

/-- `GetTokenMappingsHandler`. -/
def getTokenMappingsHandler {TokenMapping : Type} :=
  @pagedHandler TokenMapping (ascii "failed to fetch token mappings: ")

/-- `GetLegacyTokenMigrationsHandler`. -/
def getLegacyTokenMigrationsHandler {LegacyTokenMigration : Type} :=
  @pagedHandler LegacyTokenMigration (ascii "failed to fetch legacy token migrations: ")

/-- `GetLastReorgEventHandler`: its unsupported network has a text of its own. -/
def getLastReorgEventHandler {LastReorg : Type} (ownNetworkID : Nat)
    (networkID : Except (List UInt8) Nat) (reorgL1 reorgL2 : Except (List UInt8) LastReorg) :
    Except HttpError LastReorg := do
  let networkID ← networkID.mapError .badRequest
  askNetwork ownNetworkID networkID reorgL1 reorgL2
    (ascii "failed to get last reorg event for the L1 network, error: " ++ ·)
    (fun err => ascii "failed to get last reorg event for the L2 network (ID=" ++
      decimal networkID ++ ascii "), error: " ++ err)
    (ascii "failed to get last reorg event, unsupported network " ++ decimal networkID)

/-! ### The L1 info tree handlers -/

/-- The text of a failed search: `ErrNotOnL1Info`'s, or `queryError` for a failed query, whose
text the search model does not keep. -/
def searchErrorString (queryError : List UInt8) : SearchError → List UInt8
  | .notOnL1Info => ascii "this bridge has not been included on the L1 Info Tree yet"
  | .query => queryError

/-- `L1InfoTreeIndexForBridgeHandler`, with at most `fuel` iterations of the search's loop. -/
def l1InfoTreeIndexForBridgeHandler (b : BridgeService) (queryError : List UInt8) (fuel : Nat)
    (networkID depositCount : Except (List UInt8) Nat) : Option (Except HttpError Nat) :=
  match networkID, depositCount with
  | .error err, _ => some (.error (.badRequest err))
  | .ok _, .error err => some (.error (.badRequest err))
  | .ok networkID, .ok depositCount =>
    let failed (err : SearchError) : HttpError :=
      .internalServerError (ascii "failed to get l1 info tree index for network id " ++
        decimal networkID ++ ascii " and deposit count " ++ decimal depositCount ++
        ascii ", error: " ++ searchErrorString queryError err)
    match selectNetwork b.networkID networkID with
    | .mainnet => (b.getFirstL1InfoTreeIndexForL1Bridge depositCount fuel).map (·.mapError failed)
    | .own => (b.getFirstL1InfoTreeIndexForL2Bridge depositCount fuel).map (·.mapError failed)
    | .unsupported => some (.error (.badRequest (errNetworkID networkID)))

/-- `InjectedL1InfoLeafHandler`, with the answer of the injected GERs' syncer
`GetFirstGERAfterL1InfoTreeIndex` as the L1 info tree index of the GER it finds.
`NewL1InfoTreeLeafResponse` is not among the repository's files: the answer is the leaf. -/
def injectedL1InfoLeafHandler {Proof : Type} (errInconsistentState : List UInt8)
    (ownNetworkID : Nat) (s : L1InfoTreeSync Proof)
    (getFirstGERAfterL1InfoTreeIndex : Nat → Except (List UInt8) Nat)
    (networkID leafIndex : Except (List UInt8) Nat) : Except HttpError L1InfoTreeLeaf := do
  let networkID ← networkID.mapError .badRequest
  let l1InfoTreeIndex ← leafIndex.mapError .badRequest
  askNetwork ownNetworkID networkID (s.getInfoByIndex errInconsistentState l1InfoTreeIndex)
    (do
      let e ← (getFirstGERAfterL1InfoTreeIndex l1InfoTreeIndex).mapError fun err =>
        ascii "failed to get injected global exit root for leaf index=" ++
          decimal l1InfoTreeIndex ++ ascii ", error: " ++ err
      (s.getInfoByIndex errInconsistentState e).mapError fun err =>
        ascii "failed to get L1 info tree leaf (leaf index=" ++ decimal e ++ ascii "), error: " ++
          err)
    (fun err => ascii "failed to get L1 info tree leaf (network id=" ++ decimal networkID ++
      ascii ", leaf index=" ++ decimal l1InfoTreeIndex ++ ascii "), error: " ++ err)
    id (errNetworkID networkID)

/-! ### The claim proof -/

/-- `types.ClaimProof`, with the proofs as the trees give them (`ConvertToProofResponse` writes
each hash as its hex text) and the leaf as `GetInfoByIndex` gives it. -/
structure ClaimProof (Proof : Type) where
  proofLocalExitRoot : Proof
  proofRollupExitRoot : Proof
  l1InfoTreeLeaf : L1InfoTreeLeaf

section ClaimProof

variable {Proof : Type} (errInconsistentState : List UInt8) (emptyProof : Proof)
  (ownNetworkID : Nat) (s : L1InfoTreeSync Proof)
  (bridgeL1GetProof bridgeL2GetProof : Nat → Nat → Except (List UInt8) Proof)

/-- `ClaimProofHandler`, with the answers of both bridge syncers' `GetProof` as functions of the
deposit count and the local exit root. -/
def claimProofHandler (networkID leafIndex depositCount : Except (List UInt8) Nat) :
    Except HttpError (ClaimProof Proof) := do
  let networkID ← networkID.mapError .badRequest
  let l1InfoTreeIndex ← leafIndex.mapError .badRequest
  let depositCount ← depositCount.mapError .badRequest
  let info ← (s.getInfoByIndex errInconsistentState l1InfoTreeIndex).mapError fun err =>
    .internalServerError (ascii "failed to get l1 info tree leaf for index " ++
      decimal l1InfoTreeIndex ++ ascii ": " ++ err)
  let proofLocalExitRoot ← askNetwork ownNetworkID networkID
    (bridgeL1GetProof depositCount info.mainnetExitRoot)
    (do
      let localExitRoot ←
        (s.getLocalExitRoot errInconsistentState networkID info.rollupExitRoot).mapError
          (ascii "failed to get local exit root from rollup exit tree, error: " ++ ·)
      (bridgeL2GetProof depositCount localExitRoot).mapError
        (ascii "failed to get local exit proof, error: " ++ ·))
    (ascii "failed to get local exit proof, error: " ++ ·) id
    (ascii "failed to get claim proof, unsupported network " ++ decimal networkID)
  let proofRollupExitRoot ←
    (s.getRollupExitTreeMerkleProof errInconsistentState emptyProof networkID
      info.rollupExitRoot).mapError fun err =>
      .internalServerError (ascii "failed to get rollup exit proof (network id=" ++
        decimal networkID ++ ascii ", leaf index=" ++ decimal l1InfoTreeIndex ++
        ascii ", deposit count=" ++ decimal depositCount ++ ascii "), error: " ++ err)
  pure ⟨proofLocalExitRoot, proofRollupExitRoot, info⟩

end ClaimProof

/-! ### The sync status -/

/-- `types.NetworkSyncInfo`. -/
structure NetworkSyncInfo where
  contractDepositCount : UInt32
  bridgeDepositCount : UInt32
  isSynced : Bool
deriving DecidableEq, Repr

/-- `types.SyncStatus`. -/
structure SyncStatus where
  l1Info : NetworkSyncInfo
  l2Info : NetworkSyncInfo
deriving DecidableEq, Repr

/-- What `GetSyncStatusHandler` sets for one network from the bridge contract's deposit count
and the count of bridges the syncer's database answers, converted by `uint32(bridgesCount)`. -/
def networkSyncInfo (contractDepositCount : UInt32) (bridgesCount : Nat) : NetworkSyncInfo :=
  let bridgeDepositCount := UInt32.ofNat bridgesCount
  ⟨contractDepositCount, bridgeDepositCount, contractDepositCount == bridgeDepositCount⟩

/-- `GetSyncStatusHandler`, with the answers of both bridge contracts' `GetContractDepositCount`
and the syncers' `GetBridgesPaged` of `getBridgesHandler`, which it asks for page 1 of size 1
with no filter. -/
def getSyncStatusHandler {Bridge : Type} (l1ContractDepositCount l2ContractDepositCount :
      Except (List UInt8) UInt32)
    (bridgeL1 bridgeL2 : Nat → Nat → Option Nat → List Nat → List UInt8 →
      Except (List UInt8) (List Bridge × Nat)) : Except HttpError SyncStatus := do
  let l1ContractDepositCount ← l1ContractDepositCount.mapError fun err =>
    .internalServerError (ascii "failed to get deposit count from L1 bridge contract: " ++ err)
  let (_, bridgesCount) ← (bridgeL1 1 1 none [] []).mapError fun err =>
    .internalServerError (ascii "failed to get bridges from L1 database: " ++ err)
  let l1Info := networkSyncInfo l1ContractDepositCount bridgesCount
  let l2ContractDepositCount ← l2ContractDepositCount.mapError fun err =>
    .internalServerError (ascii "failed to get deposit count from L2 bridge contract: " ++ err)
  let (_, bridgesCount) ← (bridgeL2 1 1 none [] []).mapError fun err =>
    .internalServerError (ascii "failed to get bridges from L2 database: " ++ err)
  pure ⟨l1Info, networkSyncInfo l2ContractDepositCount bridgesCount⟩

end Aggkit.Bridge
