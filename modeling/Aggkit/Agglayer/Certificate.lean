import Aggkit.Encoding.Json

/-! The agglayer certificate the aggsender sends, its `LeafType` names, and the hashes that
identify it and that the aggsender signs: `Hash`, `PPHashToSign` and `FEPHashToSign`.

A Go pointer is an `Option`, and an interface value is `none` for nil or its dynamic type with
the pointer it holds, which may itself be nil. A hash that dereferences a nil pointer panics; it
is `none` then. `crypto.Keccak256` and the packing of a global index into bytes,
`BigIntToLittleEndianBytes(GenerateGlobalIndex(..))`, are parameters: every result holds for any
of them. -/

namespace Aggkit.Agglayer

open Aggkit.Encoding

/-- `LeafType`, a `uint8`. -/
structure LeafType where
  toUInt8 : UInt8
deriving DecidableEq, Repr

/-- `LeafTypeAsset`. -/
def leafTypeAsset : LeafType := ⟨0⟩

/-- `LeafTypeMessage`. -/
def leafTypeMessage : LeafType := ⟨1⟩

/-- `LeafType.String`: the entry of the name table; `none` when the index is out of its range,
where Go panics. -/
def LeafType.string (l : LeafType) : Option (List UInt8) :=
  [ascii "Transfer", ascii "Message"].get? l.toUInt8.toNat

/-- `LeafType.UnmarshalJSON` on the raw text of a value: the names, else a number read by
`fmt.Sscanf` and converted to `uint8`. -/
def LeafType.unmarshalJSON (raw : List UInt8) : Option LeafType :=
  let rawStr := trimQuotes raw
  if rawStr = ascii "Transfer" then some leafTypeAsset
  else if rawStr = ascii "Message" then some leafTypeMessage
  else (sscanfInt rawStr).map fun value => ⟨UInt8.ofNat (value % 256).toNat⟩

/-- A leaf type of the name table: `LeafTypeAsset` or `LeafTypeMessage`. -/
def LeafType.declared (l : LeafType) : Bool := l.toUInt8.toNat < 2

/-- `TokenInfo`. -/
structure TokenInfo where
  originNetwork : UInt32
  originTokenAddress : Address
deriving DecidableEq

/-- `GlobalIndex`. -/
structure GlobalIndex where
  mainnetFlag : Bool
  rollupIndex : UInt32
  leafIndex : UInt32
deriving DecidableEq

/-- `BridgeExit`; a nil `Amount` is `none`. -/
structure BridgeExit where
  leafType : LeafType
  tokenInfo : Option TokenInfo
  destinationNetwork : UInt32
  destinationAddress : Address
  amount : Option Int
  metadata : Bytes
deriving DecidableEq

/-- `types.DefaultHeight`, the height of the bridge's Merkle trees. -/
def defaultHeight : Nat := 32

/-- `MerkleProof`: a root and the `[DefaultHeight]common.Hash` of siblings. -/
structure MerkleProof where
  root : Hash
  proof : List Hash
  length_proof : proof.length = defaultHeight
deriving DecidableEq

/-- `L1InfoTreeLeafInner`. -/
structure L1InfoTreeLeafInner where
  globalExitRoot : Hash
  blockHash : Hash
  timestamp : UInt64
deriving DecidableEq

/-- `L1InfoTreeLeaf`. -/
structure L1InfoTreeLeaf where
  l1InfoTreeIndex : UInt32
  rollupExitRoot : Hash
  mainnetExitRoot : Hash
  inner : Option L1InfoTreeLeafInner
deriving DecidableEq

/-- `ClaimFromMainnnet`. -/
structure ClaimFromMainnnet where
  proofLeafMER : Option MerkleProof
  proofGERToL1Root : Option MerkleProof
  l1Leaf : Option L1InfoTreeLeaf
deriving DecidableEq

/-- `ClaimFromRollup`. -/
structure ClaimFromRollup where
  proofLeafLER : Option MerkleProof
  proofLERToRER : Option MerkleProof
  proofGERToL1Root : Option MerkleProof
  l1Leaf : Option L1InfoTreeLeaf
deriving DecidableEq

/-- A non-nil `Claim` interface value: its dynamic type and the pointer it holds. -/
inductive Claim where
  | mainnet (claim : Option ClaimFromMainnnet)
  | rollup (claim : Option ClaimFromRollup)
deriving DecidableEq

/-- `ImportedBridgeExit`. -/
structure ImportedBridgeExit where
  bridgeExit : Option BridgeExit
  claimData : Option Claim
  globalIndex : Option GlobalIndex
deriving DecidableEq

/-- `AggchainDataProof`. -/
structure AggchainDataProof where
  proof : Bytes
  version : List UInt8
  vkey : Bytes
  aggchainParams : Hash
  context : Option (GoMap Bytes)
  signature : Bytes

/-- `AggchainDataSignature`. -/
structure AggchainDataSignature where
  signature : Bytes

/-- A non-nil `AggchainData` interface value: its dynamic type and the pointer it holds. -/
inductive AggchainData where
  | proof (data : Option AggchainDataProof)
  | signature (data : Option AggchainDataSignature)

/-- `Certificate`. -/
structure Certificate where
  networkID : UInt32
  height : UInt64
  prevLocalExitRoot : Hash
  newLocalExitRoot : Hash
  bridgeExits : Option (List (Option BridgeExit))
  importedBridgeExits : Option (List (Option ImportedBridgeExit))
  metadata : Hash
  customChainData : Bytes
  aggchainData : Option AggchainData
  l1InfoTreeLeafCount : UInt32

/-! ### Hashes -/

/-- The `n` bytes of `x`, most significant first, as the spec's big-endian integers. -/
def bigEndianBytes (n x : Nat) : List UInt8 :=
  (List.range n).reverse.map fun i => UInt8.ofNat (x / 256 ^ i)

/-- `aggkitcommon.Uint32ToBytes`, big-endian. -/
def uint32ToBytes (x : UInt32) : List UInt8 := bigEndianBytes 4 x.toNat

/-- `aggkitcommon.Uint64ToBigEndianBytes`. -/
def uint64ToBigEndianBytes (x : UInt64) : List UInt8 := bigEndianBytes 8 x.toNat

/-- `aggkitcommon.Uint64ToLittleEndianBytes`. -/
def uint64ToLittleEndianBytes (x : UInt64) : List UInt8 := (bigEndianBytes 8 x.toNat).reverse

/-- `common.BigToHash`: the last 32 bytes of the absolute value. -/
def bigToHash (a : Int) : Hash := ⟨bigEndianBytes 32 a.natAbs, by simp [bigEndianBytes]⟩

section Hashes

variable (keccak256 : List UInt8 → Hash) (globalIndexBytes : GlobalIndex → List UInt8)

/-- `emptyBytesHash`, `crypto.Keccak256(nil)`. -/
def emptyBytesHash : List UInt8 := (keccak256 []).bytes

/-- `GlobalIndex.Hash`. -/
def GlobalIndex.hash (g : GlobalIndex) : Hash := keccak256 (globalIndexBytes g)

/-- `BridgeExit.Hash`, which reads a nil amount as zero and empty metadata as `emptyBytesHash`;
it panics on a nil `TokenInfo`. -/
def BridgeExit.hash (b : BridgeExit) : Option Hash :=
  b.tokenInfo.map fun token =>
    let metaDataHash := b.metadata.getD []
    keccak256 ([b.leafType.toUInt8] ++ uint32ToBytes token.originNetwork ++
      token.originTokenAddress.bytes ++ uint32ToBytes b.destinationNetwork ++
      b.destinationAddress.bytes ++ (bigToHash (b.amount.getD 0)).bytes ++
      (if metaDataHash = [] then emptyBytesHash keccak256 else metaDataHash))

/-- `MerkleProof.Hash`. -/
def MerkleProof.hash (m : MerkleProof) : Hash :=
  keccak256 (m.root.bytes ++ (m.proof.map (·.bytes)).flatten)

/-- `L1InfoTreeLeafInner.Hash`. -/
def L1InfoTreeLeafInner.hash (l : L1InfoTreeLeafInner) : Hash :=
  keccak256 (l.globalExitRoot.bytes ++ l.blockHash.bytes ++ uint64ToBigEndianBytes l.timestamp)

/-- `L1InfoTreeLeaf.Hash`, the hash of its inner part. -/
def L1InfoTreeLeaf.hash (l : L1InfoTreeLeaf) : Option Hash := l.inner.map (·.hash keccak256)

/-- `ClaimFromMainnnet.Hash`. -/
def ClaimFromMainnnet.hash (c : ClaimFromMainnnet) : Option Hash := do
  let proofLeafMER ← c.proofLeafMER
  let proofGERToL1Root ← c.proofGERToL1Root
  let l1Leaf ← (← c.l1Leaf).hash keccak256
  pure (keccak256 ((proofLeafMER.hash keccak256).bytes ++ (proofGERToL1Root.hash keccak256).bytes ++
    l1Leaf.bytes))

/-- `ClaimFromRollup.Hash`. -/
def ClaimFromRollup.hash (c : ClaimFromRollup) : Option Hash := do
  let proofLeafLER ← c.proofLeafLER
  let proofLERToRER ← c.proofLERToRER
  let proofGERToL1Root ← c.proofGERToL1Root
  let l1Leaf ← (← c.l1Leaf).hash keccak256
  pure (keccak256 ((proofLeafLER.hash keccak256).bytes ++ (proofLERToRER.hash keccak256).bytes ++
    (proofGERToL1Root.hash keccak256).bytes ++ l1Leaf.bytes))

/-- `Claim.Hash` of the pointer the interface holds. -/
def Claim.hash : Claim → Option Hash
  | .mainnet claim => claim.bind (·.hash keccak256)
  | .rollup claim => claim.bind (·.hash keccak256)

/-- `ImportedBridgeExit.Hash`. -/
def ImportedBridgeExit.hash (i : ImportedBridgeExit) : Option Hash := do
  let bridgeExit ← (← i.bridgeExit).hash keccak256
  let claimData ← (← i.claimData).hash keccak256
  let globalIndex ← i.globalIndex
  pure (keccak256 (bridgeExit.bytes ++ claimData.bytes ++ (globalIndex.hash keccak256 globalIndexBytes).bytes))

/-- `Certificate.Hash`. -/
def Certificate.hash (c : Certificate) : Option Hash := do
  let bridgeExitsHashes ← (c.bridgeExits.getD []).mapM fun b => b.bind (·.hash keccak256)
  let importedBridgeExitsHashes ← (c.importedBridgeExits.getD []).mapM fun i =>
    i.bind (·.hash keccak256 globalIndexBytes)
  let bridgeExitsPart := (keccak256 (bridgeExitsHashes.map (·.bytes)).flatten).bytes
  let importedBridgeExitsPart := (keccak256 (importedBridgeExitsHashes.map (·.bytes)).flatten).bytes
  pure (keccak256 (uint32ToBytes c.networkID ++ uint64ToBigEndianBytes c.height ++
    c.prevLocalExitRoot.bytes ++ c.newLocalExitRoot.bytes ++ bridgeExitsPart ++
    importedBridgeExitsPart))

/-- `Certificate.PPHashToSign`. -/
def Certificate.ppHashToSign (c : Certificate) : Option Hash := do
  let globalIndexes ← (c.importedBridgeExits.getD []).mapM fun i => i.bind (·.globalIndex)
  let globalIndexHashes := globalIndexes.map fun g => (g.hash keccak256 globalIndexBytes).bytes
  pure (keccak256 (c.newLocalExitRoot.bytes ++ (keccak256 globalIndexHashes.flatten).bytes))

/-- The parameters `FEPHashToSign` signs: those of an `*AggchainDataProof`, which panics when
the pointer is nil, else `emptyBytesHash`. -/
def Certificate.fepAggchainParams (c : Certificate) : Option (List UInt8) :=
  match c.aggchainData with
  | some (.proof data) => data.map (·.aggchainParams.bytes)
  | _ => some (emptyBytesHash keccak256)

/-- `Certificate.FEPHashToSign`. -/
def Certificate.fepHashToSign (c : Certificate) : Option Hash := do
  let chunks ← (c.importedBridgeExits.getD []).mapM fun i => do
    let importedBridgeExit ← i
    let indexBytes := globalIndexBytes (← importedBridgeExit.globalIndex)
    let hashBytes := (← (← importedBridgeExit.bridgeExit).hash keccak256).bytes
    pure (indexBytes ++ hashBytes)
  let aggchainParams ← c.fepAggchainParams keccak256
  pure (keccak256 (c.newLocalExitRoot.bytes ++ (keccak256 chunks.flatten).bytes ++
    uint64ToLittleEndianBytes c.height ++ aggchainParams))

end Hashes

/-! ### Equal up to empty and nil byte slices -/

/-- The bridge exit with empty metadata made nil. -/
def BridgeExit.norm (b : BridgeExit) : BridgeExit := { b with metadata := b.metadata.norm }

/-- The imported exit with its bridge exit's empty byte slices made nil. -/
def ImportedBridgeExit.norm (i : ImportedBridgeExit) : ImportedBridgeExit :=
  { i with bridgeExit := i.bridgeExit.map BridgeExit.norm }

/-- The proof with its empty byte slices made nil, the context's values included. -/
def AggchainDataProof.norm (p : AggchainDataProof) : AggchainDataProof :=
  { p with proof := p.proof.norm, vkey := p.vkey.norm, signature := p.signature.norm,
           context := p.context.map (GoMap.mapValues Bytes.norm) }

/-- The aggchain data with its empty byte slices made nil. -/
def AggchainData.norm : AggchainData → AggchainData
  | .proof data => .proof (data.map AggchainDataProof.norm)
  | .signature data => .signature (data.map fun s => ⟨s.signature.norm⟩)

/-- The certificate with every empty byte slice made nil: two certificates are equal up to empty
and nil byte slices when their `norm`s are equal. -/
def Certificate.norm (c : Certificate) : Certificate :=
  { c with bridgeExits := c.bridgeExits.map (·.map (·.map BridgeExit.norm)),
           importedBridgeExits := c.importedBridgeExits.map (·.map (·.map ImportedBridgeExit.norm)),
           customChainData := c.customChainData.norm,
           aggchainData := c.aggchainData.map AggchainData.norm }

end Aggkit.Agglayer
