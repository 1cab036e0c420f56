import Aggkit.Agglayer.Certificate

/-! The JSON codec of the agglayer certificate: `encoding/json`'s codec for the structs without
methods, the `MarshalJSON`/`UnmarshalJSON` methods of the others, and the two selectors that
pick the variant of a `Claim` and of an `AggchainData` from the members of an object.

`Claim` and `AggchainData` declare `MarshalJSON`, so `encoding/json` calls the method of the
value an interface field holds, also when it is a nil pointer, and the method dereferences it:
`json.Marshal` panics on a typed-nil claim or aggchain data, as it does on a bridge exit of a
leaf type outside the name table (`Certificate.isSome_encodeJSON`).

`json.Unmarshal` of `json.Marshal(c)` gives back `c.roundTrip`: the certificate up to empty and
nil byte slices, except that the strings of an aggchain proof come back coerced to valid UTF-8.
None of these changes reaches `Hash`, `PPHashToSign` or `FEPHashToSign`. -/

namespace Aggkit.Agglayer

open Aggkit.Encoding JsonValue

/-! ### Structs without methods -/

/-- `TokenInfo` as `encoding/json` writes it. -/
def TokenInfo.encodeJSON (t : TokenInfo) : Members :=
  [(ascii "origin_network", .number (.ofNat t.originNetwork.toNat)),
   (ascii "origin_token_address", t.originTokenAddress.toJson)]

/-- `TokenInfo` as `encoding/json` reads it. -/
def TokenInfo.decodeJSON (members : Members) : Option TokenInfo := do
  let originNetwork ← field "origin_network" decodeUint32 0 members
  let originTokenAddress ←
    field "origin_token_address" (unmarshalFixedJSON 20) (.zero 20) members
  pure ⟨originNetwork, originTokenAddress⟩

/-- `GlobalIndex` as `encoding/json` writes it. -/
def GlobalIndex.encodeJSON (g : GlobalIndex) : Members :=
  [(ascii "mainnet_flag", .bool g.mainnetFlag),
   (ascii "rollup_index", .number (.ofNat g.rollupIndex.toNat)),
   (ascii "leaf_index", .number (.ofNat g.leafIndex.toNat))]

/-- `GlobalIndex` as `encoding/json` reads it. -/
def GlobalIndex.decodeJSON (members : Members) : Option GlobalIndex := do
  let mainnetFlag ← field "mainnet_flag" decodeBool false members
  let rollupIndex ← field "rollup_index" decodeUint32 0 members
  let leafIndex ← field "leaf_index" decodeUint32 0 members
  pure ⟨mainnetFlag, rollupIndex, leafIndex⟩

/-- `L1InfoTreeLeafInner` as `encoding/json` writes it. -/
def L1InfoTreeLeafInner.encodeJSON (l : L1InfoTreeLeafInner) : Members :=
  [(ascii "global_exit_root", l.globalExitRoot.toJson),
   (ascii "block_hash", l.blockHash.toJson),
   (ascii "timestamp", .number (.ofNat l.timestamp.toNat))]

/-- `L1InfoTreeLeafInner` as `encoding/json` reads it. -/
def L1InfoTreeLeafInner.decodeJSON (members : Members) : Option L1InfoTreeLeafInner := do
  let globalExitRoot ← field "global_exit_root" (unmarshalFixedJSON 32) (.zero 32) members
  let blockHash ← field "block_hash" (unmarshalFixedJSON 32) (.zero 32) members
  let timestamp ← field "timestamp" decodeUint64 0 members
  pure ⟨globalExitRoot, blockHash, timestamp⟩

/-- `L1InfoTreeLeaf` as `encoding/json` writes it. -/
def L1InfoTreeLeaf.encodeJSON (l : L1InfoTreeLeaf) : Members :=
  [(ascii "l1_info_tree_index", .number (.ofNat l.l1InfoTreeIndex.toNat)),
   (ascii "rer", l.rollupExitRoot.toJson),
   (ascii "mer", l.mainnetExitRoot.toJson),
   (ascii "inner", encodePtr L1InfoTreeLeafInner.encodeJSON l.inner)]

/-- `L1InfoTreeLeaf` as `encoding/json` reads it. -/
def L1InfoTreeLeaf.decodeJSON (members : Members) : Option L1InfoTreeLeaf := do
  let l1InfoTreeIndex ← field "l1_info_tree_index" decodeUint32 0 members
  let rollupExitRoot ← field "rer" (unmarshalFixedJSON 32) (.zero 32) members
  let mainnetExitRoot ← field "mer" (unmarshalFixedJSON 32) (.zero 32) members
  let inner ← field "inner" (decodePtr L1InfoTreeLeafInner.decodeJSON) none members
  pure ⟨l1InfoTreeIndex, rollupExitRoot, mainnetExitRoot, inner⟩

/-! ### Merkle proofs and claims -/

/-- `MerkleProof.MarshalJSON`: the root, and the siblings as the `siblings` entry of a map. -/
def MerkleProof.marshalJSON (m : MerkleProof) : Members :=
  [(ascii "root", m.root.toJson),
   (ascii "proof", .object [(ascii "siblings", .array (m.proof.map FixedBytes.toJson))])]

/-- The `[DefaultHeight]common.Hash` array of zero hashes. -/
def zeroSiblings : {hashes : List Hash // hashes.length = defaultHeight} :=
  ⟨List.replicate defaultHeight (.zero 32), List.length_replicate _ _⟩

/-- A `[DefaultHeight]common.Hash` array as `encoding/json` reads it: its first elements, then
zero hashes; elements past its length are not read, and null leaves the zero array. -/
def decodeSiblings : JsonValue → Option {hashes : List Hash // hashes.length = defaultHeight}
  | .null => some zeroSiblings
  | .array items =>
    ((items.take defaultHeight).mapM (unmarshalFixedJSON 32)).map fun hashes =>
      ⟨(hashes ++ zeroSiblings.1).take defaultHeight, by
        simp only [List.length_take, List.length_append, zeroSiblings.2]; omega⟩
  | _ => none

/-- `MerkleProof.UnmarshalJSON`: the siblings are the `siblings` entry of the `proof` map, and
the zero array when there is none. -/
def MerkleProof.unmarshalJSON (members : Members) : Option MerkleProof := do
  let root ← field "root" (unmarshalFixedJSON 32) (.zero 32) members
  let proof ← field "proof" (decodeMap decodeSiblings) none members
  let siblings := ((proof.bind (·.lookup (ascii "siblings"))).getD zeroSiblings)
  pure ⟨root, siblings.1, siblings.2⟩

/-- `ClaimFromMainnnet.MarshalJSON`: its fields under `Mainnet`, as a map, so in the order of
their names. -/
def ClaimFromMainnnet.marshalJSON (c : ClaimFromMainnnet) : Members :=
  [(ascii "Mainnet", .object
    [(ascii "l1_leaf", encodePtr L1InfoTreeLeaf.encodeJSON c.l1Leaf),
     (ascii "proof_ger_l1root", encodePtr MerkleProof.marshalJSON c.proofGERToL1Root),
     (ascii "proof_leaf_mer", encodePtr MerkleProof.marshalJSON c.proofLeafMER)])]

/-- The `Mainnet` member, read into the struct `Child`; null leaves it zero. -/
def ClaimFromMainnnet.decodeChild : JsonValue → Option ClaimFromMainnnet
  | .null => some ⟨none, none, none⟩
  | .object members => do
    let proofLeafMER ← field "proof_leaf_mer" (decodePtr MerkleProof.unmarshalJSON) none members
    let proofGERToL1Root ←
      field "proof_ger_l1root" (decodePtr MerkleProof.unmarshalJSON) none members
    let l1Leaf ← field "l1_leaf" (decodePtr L1InfoTreeLeaf.decodeJSON) none members
    pure ⟨proofLeafMER, proofGERToL1Root, l1Leaf⟩
  | _ => none

/-- `ClaimFromMainnnet.UnmarshalJSON`; null leaves the claim zero. -/
def ClaimFromMainnnet.unmarshalJSON : JsonValue → Option ClaimFromMainnnet
  | .null => some ⟨none, none, none⟩
  | .object members => field "Mainnet" ClaimFromMainnnet.decodeChild ⟨none, none, none⟩ members
  | _ => none

/-- `ClaimFromRollup.MarshalJSON`: its fields under `Rollup`, as a map, so in the order of
their names. -/
def ClaimFromRollup.marshalJSON (c : ClaimFromRollup) : Members :=
  [(ascii "Rollup", .object
    [(ascii "l1_leaf", encodePtr L1InfoTreeLeaf.encodeJSON c.l1Leaf),
     (ascii "proof_ger_l1root", encodePtr MerkleProof.marshalJSON c.proofGERToL1Root),
     (ascii "proof_leaf_ler", encodePtr MerkleProof.marshalJSON c.proofLeafLER),
     (ascii "proof_ler_rer", encodePtr MerkleProof.marshalJSON c.proofLERToRER)])]

/-- The `Rollup` member, read into the struct `Child`; null leaves it zero. -/
def ClaimFromRollup.decodeChild : JsonValue → Option ClaimFromRollup
  | .null => some ⟨none, none, none, none⟩
  | .object members => do
    let proofLeafLER ← field "proof_leaf_ler" (decodePtr MerkleProof.unmarshalJSON) none members
    let proofLERToRER ← field "proof_ler_rer" (decodePtr MerkleProof.unmarshalJSON) none members
    let proofGERToL1Root ←
      field "proof_ger_l1root" (decodePtr MerkleProof.unmarshalJSON) none members
    let l1Leaf ← field "l1_leaf" (decodePtr L1InfoTreeLeaf.decodeJSON) none members
    pure ⟨proofLeafLER, proofLERToRER, proofGERToL1Root, l1Leaf⟩
  | _ => none

/-- `ClaimFromRollup.UnmarshalJSON`; null leaves the claim zero. -/
def ClaimFromRollup.unmarshalJSON : JsonValue → Option ClaimFromRollup
  | .null => some ⟨none, none, none, none⟩
  | .object members => field "Rollup" ClaimFromRollup.decodeChild ⟨none, none, none, none⟩ members
  | _ => none

/-- A nil interface or a non-nil pointer: `*ClaimFromMainnnet` or `*ClaimFromRollup`. -/
def Claim.nonNil : Claim → Bool
  | .mainnet claim => claim.isSome
  | .rollup claim => claim.isSome

/-- A `Claim` interface field as `encoding/json` writes it: null for a nil interface, else the
`MarshalJSON` of the pointer it holds, which panics (`none`) on a nil one. -/
def Claim.encodeJSON : Option Claim → Option JsonValue
  | none => some .null
  | some (.mainnet claim) => claim.map fun c => .object c.marshalJSON
  | some (.rollup claim) => claim.map fun c => .object c.marshalJSON

/-- `ClaimSelector.UnmarshalJSON`: nil for null, else the variant of a `Mainnet` member, or
else of a `Rollup` member. -/
def ClaimSelector.unmarshalJSON : JsonValue → Option (Option Claim)
  | .null => some none
  | .object members =>
    if hasKey "Mainnet" members then
      (ClaimFromMainnnet.unmarshalJSON (.object members)).map fun c => some (.mainnet (some c))
    else if hasKey "Rollup" members then
      (ClaimFromRollup.unmarshalJSON (.object members)).map fun c => some (.rollup (some c))
    else none
  | _ => none

/-! ### Bridge exits -/

/-- The `leaf_type` member, read by `LeafType.UnmarshalJSON` on its text: a string's text is
its bytes between quotes, escapes aside, and a number's its literal; the text of an array or an
object starts with a bracket, which is neither a name nor a number. -/
def LeafType.decodeJSON : JsonValue → Option LeafType
  | .string s => LeafType.unmarshalJSON (0x22 :: s ++ [0x22])
  | .number literal => LeafType.unmarshalJSON literal.text
  | .bool b => LeafType.unmarshalJSON (ascii (if b then "true" else "false"))
  | .null => LeafType.unmarshalJSON (ascii "null")
  | .array _ => none
  | .object _ => none

/-- The `metadata` member `BridgeExit.MarshalJSON` writes: the hexadecimal text of non-empty
metadata, else null. -/
def BridgeExit.encodeMetadata (metadata : Bytes) : JsonValue :=
  match metadata with
  | some (b :: bs) => goString (bytes2Hex (b :: bs))
  | _ => .null

/-- The metadata `BridgeExit.UnmarshalJSON` reads from the member: a string by `Hex2Bytes`,
anything else as nil. -/
def BridgeExit.decodeMetadata : Option JsonValue → Bytes
  | some (.string s) => some (hexDecodePrefix s)
  | _ => none

/-- The amount `BridgeExit.UnmarshalJSON` reads from its text: nil when the text contains
`nil`, else the value `SetString` must find. -/
def BridgeExit.decodeAmount (text : List UInt8) : Option (Option Int) :=
  if containsNil text then some none else (setString text).map some

/-- `BridgeExit.MarshalJSON`; `none` when `LeafType.String` panics. -/
def BridgeExit.marshalJSON (b : BridgeExit) : Option Members := do
  let leafType ← b.leafType.string
  pure [(ascii "leaf_type", goString leafType),
        (ascii "token_info", encodePtr TokenInfo.encodeJSON b.tokenInfo),
        (ascii "dest_network", .number (.ofNat b.destinationNetwork.toNat)),
        (ascii "dest_address", b.destinationAddress.toJson),
        (ascii "amount", goString (bigIntString b.amount)),
        (ascii "metadata", BridgeExit.encodeMetadata b.metadata)]

/-- `BridgeExit.UnmarshalJSON`. -/
def BridgeExit.unmarshalJSON (members : Members) : Option BridgeExit := do
  let leafType ← field "leaf_type" LeafType.decodeJSON ⟨0⟩ members
  let tokenInfo ← field "token_info" (decodePtr TokenInfo.decodeJSON) none members
  let destinationNetwork ← field "dest_network" decodeUint32 0 members
  let destinationAddress ← field "dest_address" (unmarshalFixedJSON 20) (.zero 20) members
  let amount ← BridgeExit.decodeAmount (← field "amount" decodeString [] members)
  let metadata := BridgeExit.decodeMetadata (lookup (ascii "metadata") members)
  pure ⟨leafType, tokenInfo, destinationNetwork, destinationAddress, amount, metadata⟩

/-- `ImportedBridgeExit` as `encoding/json` writes it; `none` when the `MarshalJSON` of its
bridge exit or of its claim panics. -/
def ImportedBridgeExit.encodeJSON (i : ImportedBridgeExit) : Option Members := do
  let bridgeExit ← encodePtrM BridgeExit.marshalJSON i.bridgeExit
  let claimData ← Claim.encodeJSON i.claimData
  pure [(ascii "bridge_exit", bridgeExit),
        (ascii "claim_data", claimData),
        (ascii "global_index", encodePtr GlobalIndex.encodeJSON i.globalIndex)]

/-- `ImportedBridgeExit.UnmarshalJSON`; a missing `claim_data` leaves the claim nil. -/
def ImportedBridgeExit.unmarshalJSON (members : Members) : Option ImportedBridgeExit := do
  let bridgeExit ← field "bridge_exit" (decodePtr BridgeExit.unmarshalJSON) none members
  let claimData ← field "claim_data" ClaimSelector.unmarshalJSON none members
  let globalIndex ← field "global_index" (decodePtr GlobalIndex.decodeJSON) none members
  pure ⟨bridgeExit, claimData, globalIndex⟩

/-! ### Aggchain data -/

/-- `AggchainDataProof.MarshalJSON`: the byte slices in hexadecimal, the parameters as
`Hash.String`, the context as a map. -/
def AggchainDataProof.marshalJSON (p : AggchainDataProof) : Members :=
  [(ascii "proof", goString (bytes2Hex (p.proof.getD []))),
   (ascii "aggchain_params", goString p.aggchainParams.marshalText),
   (ascii "context", encodeMap encodeBytes p.context),
   (ascii "version", goString p.version),
   (ascii "vkey", goString (bytes2Hex (p.vkey.getD []))),
   (ascii "signature", goString (bytes2Hex (p.signature.getD [])))]

/-- `AggchainDataProof.UnmarshalJSON`. On null, `json.Unmarshal` sets its `aux` pointer to nil,
which is then dereferenced. -/
def AggchainDataProof.unmarshalJSON : JsonValue → Option AggchainDataProof
  | .object members => do
    let proof ← field "proof" decodeString [] members
    let aggchainParams ← field "aggchain_params" decodeString [] members
    let context ← field "context" (decodeMap decodeBytes) none members
    let version ← field "version" decodeString [] members
    let vkey ← field "vkey" decodeString [] members
    let signature ← field "signature" decodeString [] members
    pure ⟨some (hexDecodePrefix proof), version, some (hexDecodePrefix vkey),
      hexToHash aggchainParams, context, some (hexDecodePrefix signature)⟩
  | _ => none

/-- `AggchainDataSignature.MarshalJSON`. -/
def AggchainDataSignature.marshalJSON (s : AggchainDataSignature) : Members :=
  [(ascii "signature", goString (bytes2Hex (s.signature.getD [])))]

/-- `AggchainDataSignature.UnmarshalJSON`. -/
def AggchainDataSignature.unmarshalJSON : JsonValue → Option AggchainDataSignature
  | .object members => do
    let signature ← field "signature" decodeString [] members
    pure ⟨some (hexDecodePrefix signature)⟩
  | _ => none

/-- A non-nil `*AggchainDataProof` or `*AggchainDataSignature`. -/
def AggchainData.nonNil : AggchainData → Bool
  | .proof data => data.isSome
  | .signature data => data.isSome

/-- A non-nil `AggchainData` interface value as `encoding/json` writes it: the `MarshalJSON` of
the pointer it holds, which panics (`none`) on a nil one. -/
def AggchainData.encodeJSON : AggchainData → Option JsonValue
  | .proof data => data.map fun p => .object p.marshalJSON
  | .signature data => data.map fun s => .object s.marshalJSON

/-- `AggchainDataSelector.UnmarshalJSON`: nil for null, else the variant of a `proof` member, or
else of a `signature` member. -/
def AggchainDataSelector.unmarshalJSON : JsonValue → Option (Option AggchainData)
  | .null => some none
  | .object members =>
    if hasKey "proof" members then
      (AggchainDataProof.unmarshalJSON (.object members)).map fun p => some (.proof (some p))
    else if hasKey "signature" members then
      (AggchainDataSignature.unmarshalJSON (.object members)).map fun s =>
        some (.signature (some s))
    else none
  | _ => none

/-! ### Certificates -/

/-- The members of a certificate written whatever its values, given its written slices. -/
def Certificate.mandatoryMembers (c : Certificate) (bridgeExits importedBridgeExits : JsonValue) :
    Members :=
  [(ascii "network_id", .number (.ofNat c.networkID.toNat)),
   (ascii "height", .number (.ofNat c.height.toNat)),
   (ascii "prev_local_exit_root", c.prevLocalExitRoot.toJson),
   (ascii "new_local_exit_root", c.newLocalExitRoot.toJson),
   (ascii "bridge_exits", bridgeExits),
   (ascii "imported_bridge_exits", importedBridgeExits),
   (ascii "metadata", c.metadata.toJson)]

/-- The `aggchain_data` member's value; a nil interface has none, and `omitempty` leaves it out. -/
def Certificate.encodeAggchainData : Option AggchainData → Option (Option JsonValue)
  | none => some none
  | some d => d.encodeJSON.map some

/-- The `omitempty` members of a certificate, each left out when empty, nil or zero, given the
written aggchain data. -/
def Certificate.optionalMembers (c : Certificate) (aggchainData : Option JsonValue) : Members :=
  (if (c.customChainData.getD []).isEmpty then []
    else [(ascii "custom_chain_data", encodeBytes c.customChainData)]) ++
  (aggchainData.map fun d => (ascii "aggchain_data", d)).toList ++
  (if c.l1InfoTreeLeafCount = 0 then []
    else [(ascii "l1_info_tree_leaf_count", .number (.ofNat c.l1InfoTreeLeafCount.toNat))])

/-- `Certificate` as `encoding/json` writes it (it has no `MarshalJSON`), its fields in order;
`none` when a `MarshalJSON` it calls panics. -/
def Certificate.encodeJSON (c : Certificate) : Option JsonValue := do
  let bridgeExits ← encodeSlice (encodePtrM BridgeExit.marshalJSON) c.bridgeExits
  let importedBridgeExits ←
    encodeSlice (encodePtrM ImportedBridgeExit.encodeJSON) c.importedBridgeExits
  let aggchainData ← Certificate.encodeAggchainData c.aggchainData
  pure (.object (c.mandatoryMembers bridgeExits importedBridgeExits ++
    c.optionalMembers aggchainData))

/-- `Certificate.UnmarshalJSON`. On null, `json.Unmarshal` sets its `aux` pointer to nil, which
is then dereferenced. -/
def Certificate.unmarshalJSON : JsonValue → Option Certificate
  | .object members => do
    let networkID ← field "network_id" decodeUint32 0 members
    let height ← field "height" decodeUint64 0 members
    let prevLocalExitRoot ← field "prev_local_exit_root" (unmarshalFixedJSON 32) (.zero 32) members
    let newLocalExitRoot ← field "new_local_exit_root" (unmarshalFixedJSON 32) (.zero 32) members
    let bridgeExits ←
      field "bridge_exits" (decodeSlice (decodePtr BridgeExit.unmarshalJSON)) none members
    let importedBridgeExits ← field "imported_bridge_exits"
      (decodeSlice (decodePtr ImportedBridgeExit.unmarshalJSON)) none members
    let metadata ← field "metadata" (unmarshalFixedJSON 32) (.zero 32) members
    let customChainData ← field "custom_chain_data" decodeBytes none members
    let aggchainData ← field "aggchain_data" AggchainDataSelector.unmarshalJSON none members
    let l1InfoTreeLeafCount ← field "l1_info_tree_leaf_count" decodeUint32 0 members
    pure ⟨networkID, height, prevLocalExitRoot, newLocalExitRoot, bridgeExits,
      importedBridgeExits, metadata, customChainData, aggchainData, l1InfoTreeLeafCount⟩
  | _ => none

/-! ### Round trips of the parts -/

theorem TokenInfo.decodeJSON_encodeJSON (t : TokenInfo) :
    TokenInfo.decodeJSON t.encodeJSON = some t := by
  simp +decide [TokenInfo.encodeJSON, TokenInfo.decodeJSON, field, lookup, decodeUint32_toNat,
    unmarshalFixedJSON_toJson]

theorem GlobalIndex.decodeJSON_encodeJSON (g : GlobalIndex) :
    GlobalIndex.decodeJSON g.encodeJSON = some g := by
  simp +decide [GlobalIndex.encodeJSON, GlobalIndex.decodeJSON, field, lookup, decodeUint32_toNat,
    decodeBool]

theorem L1InfoTreeLeafInner.decodeJSON_encodeJSON (l : L1InfoTreeLeafInner) :
    L1InfoTreeLeafInner.decodeJSON l.encodeJSON = some l := by
  simp +decide [L1InfoTreeLeafInner.encodeJSON, L1InfoTreeLeafInner.decodeJSON, field, lookup,
    decodeUint64_toNat, unmarshalFixedJSON_toJson]

theorem L1InfoTreeLeaf.decodeJSON_encodeJSON (l : L1InfoTreeLeaf) :
    L1InfoTreeLeaf.decodeJSON l.encodeJSON = some l := by
  simp +decide [L1InfoTreeLeaf.encodeJSON, L1InfoTreeLeaf.decodeJSON, field, lookup,
    decodeUint32_toNat, unmarshalFixedJSON_toJson,
    decodePtr_encodePtr L1InfoTreeLeafInner.decodeJSON_encodeJSON]

theorem decodeSiblings_toJson (m : MerkleProof) :
    decodeSiblings (.array (m.proof.map FixedBytes.toJson)) = some ⟨m.proof, m.length_proof⟩ := by
  have whole : (m.proof.map FixedBytes.toJson).take defaultHeight = m.proof.map FixedBytes.toJson :=
    List.take_of_length_le (by rw [List.length_map, m.length_proof])
  simp only [decodeSiblings, whole, mapM_map_of_roundTrip unmarshalFixedJSON_toJson,
    Option.map_some', List.take_left' m.length_proof]

theorem MerkleProof.unmarshalJSON_marshalJSON (m : MerkleProof) :
    MerkleProof.unmarshalJSON m.marshalJSON = some m := by
  have siblings : decodeMap decodeSiblings
      (.object [(ascii "siblings", .array (m.proof.map FixedBytes.toJson))]) =
      some (some (GoMap.ofList [(ascii "siblings", ⟨m.proof, m.length_proof⟩)])) := by
    simp only [decodeMap, List.mapM_cons, List.mapM_nil, decodeSiblings_toJson, Option.map_some']
    rfl
  have found : (GoMap.ofList [(ascii "siblings", (⟨m.proof, m.length_proof⟩ :
      {hashes : List Hash // hashes.length = defaultHeight}))]).lookup (ascii "siblings") =
      some ⟨m.proof, m.length_proof⟩ := by
    simp +decide [GoMap.ofList, GoMap.insert, GoMap.insertEntry, GoMap.lookup, GoMap.empty]
  simp +decide [MerkleProof.marshalJSON, MerkleProof.unmarshalJSON, field, lookup, siblings, found,
    unmarshalFixedJSON_toJson]

theorem ClaimFromMainnnet.unmarshalJSON_marshalJSON (c : ClaimFromMainnnet) :
    ClaimFromMainnnet.unmarshalJSON (.object c.marshalJSON) = some c := by
  simp +decide [ClaimFromMainnnet.marshalJSON, ClaimFromMainnnet.unmarshalJSON,
    ClaimFromMainnnet.decodeChild, field, lookup,
    decodePtr_encodePtr MerkleProof.unmarshalJSON_marshalJSON,
    decodePtr_encodePtr L1InfoTreeLeaf.decodeJSON_encodeJSON]

theorem ClaimFromRollup.unmarshalJSON_marshalJSON (c : ClaimFromRollup) :
    ClaimFromRollup.unmarshalJSON (.object c.marshalJSON) = some c := by
  simp +decide [ClaimFromRollup.marshalJSON, ClaimFromRollup.unmarshalJSON,
    ClaimFromRollup.decodeChild, field, lookup,
    decodePtr_encodePtr MerkleProof.unmarshalJSON_marshalJSON,
    decodePtr_encodePtr L1InfoTreeLeaf.decodeJSON_encodeJSON]

theorem Claim.encodeJSON_isSome (claimData : Option Claim) :
    (Claim.encodeJSON claimData).isSome = claimData.all Claim.nonNil := by
  rcases claimData with _ | (_ | _) | (_ | _) <;> rfl

/-- `ClaimSelector` picks the variant that was written. -/
theorem ClaimSelector.unmarshalJSON_encodeJSON {claimData : Option Claim}
    (nonNil : claimData.all Claim.nonNil = true) :
    (Claim.encodeJSON claimData).bind ClaimSelector.unmarshalJSON = some claimData := by
  rcases claimData with _ | (_ | c) | (_ | c)
  · rfl
  · cases nonNil
  · simp +decide [Claim.encodeJSON, ClaimSelector.unmarshalJSON, hasKey, lookup,
      ClaimFromMainnnet.marshalJSON]
    exact ClaimFromMainnnet.unmarshalJSON_marshalJSON c
  · cases nonNil
  · simp +decide [Claim.encodeJSON, ClaimSelector.unmarshalJSON, hasKey, lookup,
      ClaimFromRollup.marshalJSON]
    exact ClaimFromRollup.unmarshalJSON_marshalJSON c

/-- A declared leaf type is written by its name, which `LeafType.UnmarshalJSON` reads back. -/
theorem LeafType.decodeJSON_string {l : LeafType} (declared : l.declared = true) :
    ∃ name, l.string = some name ∧ LeafType.decodeJSON (goString name) = some l := by
  obtain ⟨b⟩ := l
  have small : b.toNat = 0 ∨ b.toNat = 1 := by
    simp only [LeafType.declared, decide_eq_true_eq] at declared; omega
  rcases small with zero | one
  · obtain rfl : b = 0 := UInt8.toNat.inj zero
    exact ⟨_, rfl, by decide⟩
  · obtain rfl : b = 1 := UInt8.toNat.inj one
    exact ⟨_, rfl, by decide⟩

theorem BridgeExit.decodeAmount_bigIntString (amount : Option Int) :
    BridgeExit.decodeAmount (bigIntString amount) = some amount := by
  cases amount with
  | none => rfl
  | some a =>
    rw [BridgeExit.decodeAmount, containsNil_bigIntString, if_neg Bool.false_ne_true,
      setString_bigIntString]
    rfl

theorem BridgeExit.decodeMetadata_encodeMetadata (metadata : Bytes) :
    BridgeExit.decodeMetadata (some (BridgeExit.encodeMetadata metadata)) = metadata.norm := by
  rcases metadata with _ | _ | ⟨b, bs⟩
  · rfl
  · rfl
  · rw [BridgeExit.encodeMetadata, goString_of_ascii (bytes2Hex_ascii _), BridgeExit.decodeMetadata,
      hexDecodePrefix_bytes2Hex]
    rfl

/-- A bridge exit of a declared leaf type is read back with empty metadata made nil. -/
theorem BridgeExit.unmarshalJSON_marshalJSON (b : BridgeExit) (declared : b.leafType.declared = true) :
    b.marshalJSON.bind BridgeExit.unmarshalJSON = some b.norm := by
  obtain ⟨name, named, decoded⟩ := LeafType.decodeJSON_string declared
  have amount : decodeString (goString (bigIntString b.amount)) = some (bigIntString b.amount) := by
    rw [goString_of_ascii (bigIntString_ascii _)]; rfl
  simp +decide [BridgeExit.marshalJSON, BridgeExit.unmarshalJSON, named, decoded, field, lookup,
    decodePtr_encodePtr TokenInfo.decodeJSON_encodeJSON, decodeUint32_toNat,
    unmarshalFixedJSON_toJson, amount, BridgeExit.decodeAmount_bigIntString,
    BridgeExit.decodeMetadata_encodeMetadata, BridgeExit.norm]

theorem ImportedBridgeExit.unmarshalJSON_encodeJSON (i : ImportedBridgeExit)
    (declared : i.bridgeExit.all (·.leafType.declared) = true)
    (nonNil : i.claimData.all Claim.nonNil = true) :
    i.encodeJSON.bind ImportedBridgeExit.unmarshalJSON = some i.norm := by
  obtain ⟨bridgeExit, encoded, decoded⟩ := Option.bind_eq_some.mp
    (decodePtr_encodePtrM i.bridgeExit
      fun b exit => BridgeExit.unmarshalJSON_marshalJSON b (by simpa [exit] using declared))
  obtain ⟨claimData, claimEncoded, claimDecoded⟩ :=
    Option.bind_eq_some.mp (ClaimSelector.unmarshalJSON_encodeJSON nonNil)
  simp +decide [ImportedBridgeExit.encodeJSON, ImportedBridgeExit.unmarshalJSON, encoded, decoded,
    claimEncoded, claimDecoded, field, lookup,
    decodePtr_encodePtr GlobalIndex.decodeJSON_encodeJSON, ImportedBridgeExit.norm]

/-- The proof given back: its byte slices non-nil, its version and its context's keys coerced to
valid UTF-8. -/
def AggchainDataProof.roundTrip (p : AggchainDataProof) : AggchainDataProof :=
  { p with proof := some (p.proof.getD []), version := coerceUTF8 p.version,
           vkey := some (p.vkey.getD []), context := p.context.map GoMap.coerceKeys,
           signature := some (p.signature.getD []) }

/-- The aggchain data given back: its byte slices non-nil, and the strings of a proof coerced to
valid UTF-8. -/
def AggchainData.roundTrip : AggchainData → AggchainData
  | .proof data => .proof (data.map AggchainDataProof.roundTrip)
  | .signature data => .signature (data.map fun s => ⟨some (s.signature.getD [])⟩)

theorem AggchainData.encodeJSON_isSome (d : AggchainData) : d.encodeJSON.isSome = d.nonNil := by
  rcases d with (_ | _) | (_ | _) <;> rfl

theorem decodeString_hex (b : List UInt8) :
    decodeString (goString (bytes2Hex b)) = some (bytes2Hex b) := by
  rw [goString_of_ascii (bytes2Hex_ascii b)]; rfl

theorem AggchainDataProof.unmarshalJSON_marshalJSON (p : AggchainDataProof) :
    AggchainDataProof.unmarshalJSON (.object p.marshalJSON) = some p.roundTrip := by
  have params : decodeString (goString p.aggchainParams.marshalText) =
      some p.aggchainParams.marshalText := by
    rw [goString_of_ascii (marshalText_ascii _)]; rfl
  have version : decodeString (goString p.version) = some (coerceUTF8 p.version) := rfl
  simp +decide [AggchainDataProof.marshalJSON, AggchainDataProof.unmarshalJSON, field, lookup,
    decodeString_hex, params, version, decodeMap_encodeMap decodeBytes_encodeBytes,
    hexDecodePrefix_bytes2Hex, hexToHash_marshalText, AggchainDataProof.roundTrip]

/-- `AggchainDataSelector` picks the variant that was written. -/
theorem AggchainDataSelector.unmarshalJSON_encodeJSON {d : AggchainData} (nonNil : d.nonNil = true) :
    d.encodeJSON.bind AggchainDataSelector.unmarshalJSON = some (some d.roundTrip) := by
  rcases d with (_ | p) | (_ | s)
  · cases nonNil
  · simp +decide [AggchainData.encodeJSON, AggchainDataSelector.unmarshalJSON, hasKey, lookup,
      AggchainDataProof.marshalJSON, AggchainData.roundTrip]
    exact AggchainDataProof.unmarshalJSON_marshalJSON p
  · cases nonNil
  · simp +decide [AggchainData.encodeJSON, AggchainDataSelector.unmarshalJSON, hasKey, lookup,
      AggchainDataSignature.marshalJSON, AggchainDataSignature.unmarshalJSON, field,
      decodeString_hex, hexDecodePrefix_bytes2Hex, AggchainData.roundTrip]

/-! ### Round trip of a certificate -/

/-- What `json.Marshal` of a certificate needs: every non-nil bridge exit, top-level or imported,
has a declared leaf type, and every claim and the aggchain data are a nil interface or a non-nil
pointer. -/
def Certificate.marshals (c : Certificate) : Bool :=
  (c.bridgeExits.getD []).all (·.all (·.leafType.declared)) &&
    (c.importedBridgeExits.getD []).all (·.all fun i =>
      i.bridgeExit.all (·.leafType.declared) && i.claimData.all Claim.nonNil) &&
    c.aggchainData.all AggchainData.nonNil

/-- The certificate `json.Unmarshal` gives back from `json.Marshal`. -/
def Certificate.roundTrip (c : Certificate) : Certificate :=
  { c with bridgeExits := c.bridgeExits.map (·.map (·.map BridgeExit.norm)),
           importedBridgeExits :=
             c.importedBridgeExits.map (·.map (·.map ImportedBridgeExit.norm)),
           customChainData := c.customChainData.norm,
           aggchainData := c.aggchainData.map AggchainData.roundTrip }

theorem Certificate.encodeAggchainData_isSome (aggchainData : Option AggchainData) :
    (Certificate.encodeAggchainData aggchainData).isSome = aggchainData.all AggchainData.nonNil := by
  rcases aggchainData with _ | d
  · rfl
  · rw [Certificate.encodeAggchainData, Option.all_some, ← AggchainData.encodeJSON_isSome]
    cases d.encodeJSON <;> rfl

theorem Certificate.lookup_optionalMembers (c : Certificate) (aggchainData : Option JsonValue)
    {name : List UInt8} (other : name ≠ ascii "custom_chain_data" ∧ name ≠ ascii "aggchain_data" ∧
      name ≠ ascii "l1_info_tree_leaf_count") :
    lookup name (c.optionalMembers aggchainData) = none := by
  obtain ⟨custom, aggchain, count⟩ := other
  simp only [Certificate.optionalMembers, lookup_append]
  split_ifs <;> cases aggchainData <;>
    simp [lookup, Ne.symm custom, Ne.symm aggchain, Ne.symm count]

/-- The optional members are read back: the custom chain data up to nil and empty, the aggchain
data as `AggchainData.roundTrip` makes it, and the leaf count. -/
theorem Certificate.field_optionalMembers (c : Certificate)
    (nonNil : c.aggchainData.all AggchainData.nonNil = true) :
    ∃ aggchainData, Certificate.encodeAggchainData c.aggchainData = some aggchainData ∧
      field "custom_chain_data" decodeBytes none (c.optionalMembers aggchainData) =
        some c.customChainData.norm ∧
      field "aggchain_data" AggchainDataSelector.unmarshalJSON none (c.optionalMembers aggchainData) =
        some (c.aggchainData.map AggchainData.roundTrip) ∧
      field "l1_info_tree_leaf_count" decodeUint32 0 (c.optionalMembers aggchainData) =
        some c.l1InfoTreeLeafCount := by
  obtain ⟨_, _, _, _, _, _, _, custom, aggchain, count⟩ := c
  rcases aggchain with _ | d
  · refine ⟨none, rfl, ?_⟩
    rcases custom with _ | _ | ⟨x, xs⟩ <;> by_cases zero : count = 0 <;>
      simp +decide [Certificate.optionalMembers, field, lookup, zero, Bytes.norm,
        decodeBytes_encodeBytes, decodeUint32_toNat]
  · obtain ⟨json, encoded, decoded⟩ :=
      Option.bind_eq_some.mp (AggchainDataSelector.unmarshalJSON_encodeJSON nonNil)
    refine ⟨some json, by simp [Certificate.encodeAggchainData, encoded], ?_⟩
    rcases custom with _ | _ | ⟨x, xs⟩ <;> by_cases zero : count = 0 <;>
      simp +decide [Certificate.optionalMembers, field, lookup, zero, Bytes.norm,
        decodeBytes_encodeBytes, decoded, decodeUint32_toNat]

/-- `json.Unmarshal` of `json.Marshal(c)` succeeds and gives `c.roundTrip`, for every
certificate that `json.Marshal` writes. -/
theorem Certificate.unmarshalJSON_encodeJSON (c : Certificate) (marshals : c.marshals = true) :
    c.encodeJSON.bind Certificate.unmarshalJSON = some c.roundTrip := by
  simp only [Certificate.marshals, Bool.and_eq_true, List.all_eq_true] at marshals
  obtain ⟨⟨exitsDeclared, importedMarshal⟩, aggchainNonNil⟩ := marshals
  have exitBack : ∀ items, c.bridgeExits = some items → ∀ p ∈ items,
      (encodePtrM BridgeExit.marshalJSON p).bind (decodePtr BridgeExit.unmarshalJSON) =
        some (p.map BridgeExit.norm) := by
    intro items same p member
    refine decodePtr_encodePtrM p fun b exit => BridgeExit.unmarshalJSON_marshalJSON b ?_
    simpa [exit] using exitsDeclared p (by simpa [same] using member)
  have importedBack : ∀ items, c.importedBridgeExits = some items → ∀ p ∈ items,
      (encodePtrM ImportedBridgeExit.encodeJSON p).bind (decodePtr ImportedBridgeExit.unmarshalJSON) =
        some (p.map ImportedBridgeExit.norm) := by
    intro items same p member
    refine decodePtr_encodePtrM p fun i exit => ?_
    have marshal := importedMarshal p (by simpa [same] using member)
    simp only [exit, Option.all_some, Bool.and_eq_true] at marshal
    exact ImportedBridgeExit.unmarshalJSON_encodeJSON i marshal.1 marshal.2
  obtain ⟨exits, encodedExits, decodedExits⟩ :=
    Option.bind_eq_some.mp (decodeSlice_encodeSlice c.bridgeExits exitBack)
  obtain ⟨imported, encodedImported, decodedImported⟩ :=
    Option.bind_eq_some.mp (decodeSlice_encodeSlice c.importedBridgeExits importedBack)
  obtain ⟨written, encodedAggchain, custom, aggchain, count⟩ := c.field_optionalMembers aggchainNonNil
  have mandatory : ∀ {α : Type} (name : String) (decode : JsonValue → Option α) (zero : α),
      ascii name ≠ ascii "custom_chain_data" ∧ ascii name ≠ ascii "aggchain_data" ∧
        ascii name ≠ ascii "l1_info_tree_leaf_count" →
      field name decode zero (c.mandatoryMembers exits imported ++ c.optionalMembers written) =
        field name decode zero (c.mandatoryMembers exits imported) := fun name _ _ other =>
    field_append_of_absent name _ _ _ _ (c.lookup_optionalMembers written other)
  have optional : ∀ {α : Type} (name : String) (decode : JsonValue → Option α) (zero : α),
      lookup (ascii name) (c.mandatoryMembers exits imported) = none →
      field name decode zero (c.mandatoryMembers exits imported ++ c.optionalMembers written) =
        field name decode zero (c.optionalMembers written) := fun name _ _ absent =>
    field_append_of_absent_first name _ _ _ _ absent
  have keys : (c.mandatoryMembers exits imported).map Prod.fst =
      [ascii "network_id", ascii "height", ascii "prev_local_exit_root",
        ascii "new_local_exit_root", ascii "bridge_exits", ascii "imported_bridge_exits",
        ascii "metadata"] := rfl
  have absent : ∀ name, ascii name ∉ (c.mandatoryMembers exits imported).map Prod.fst →
      lookup (ascii name) (c.mandatoryMembers exits imported) = none := fun name notKey =>
    lookup_eq_none_of_not_mem notKey
  simp only [Certificate.encodeJSON, encodedExits, encodedImported, encodedAggchain,
    Option.some_bind, Option.bind_eq_bind, Option.pure_def]
  rw [Certificate.unmarshalJSON,
    mandatory "network_id" decodeUint32 0 (by decide),
    mandatory "height" decodeUint64 0 (by decide),
    mandatory "prev_local_exit_root" (unmarshalFixedJSON 32) (.zero 32) (by decide),
    mandatory "new_local_exit_root" (unmarshalFixedJSON 32) (.zero 32) (by decide),
    mandatory "bridge_exits" (decodeSlice (decodePtr BridgeExit.unmarshalJSON)) none (by decide),
    mandatory "imported_bridge_exits" (decodeSlice (decodePtr ImportedBridgeExit.unmarshalJSON))
      none (by decide),
    mandatory "metadata" (unmarshalFixedJSON 32) (.zero 32) (by decide),
    optional "custom_chain_data" decodeBytes none (absent _ (by rw [keys]; decide)),
    optional "aggchain_data" AggchainDataSelector.unmarshalJSON none
      (absent _ (by rw [keys]; decide)),
    optional "l1_info_tree_leaf_count" decodeUint32 0 (absent _ (by rw [keys]; decide)),
    custom, aggchain, count]
  simp +decide [Certificate.mandatoryMembers, field, lookup, decodeUint32_toNat, decodeUint64_toNat,
    unmarshalFixedJSON_toJson, decodedExits, decodedImported, Certificate.roundTrip]

/-! ### When `json.Marshal` panics -/

theorem LeafType.string_isSome (l : LeafType) : l.string.isSome = l.declared := by
  obtain ⟨b⟩ := l
  simp only [LeafType.string, LeafType.declared]
  generalize b.toNat = n
  rcases n with _ | _ | n <;> simp

theorem BridgeExit.marshalJSON_isSome (b : BridgeExit) :
    b.marshalJSON.isSome = b.leafType.declared := by
  rw [← LeafType.string_isSome, BridgeExit.marshalJSON]
  cases b.leafType.string <;> rfl

theorem ImportedBridgeExit.encodeJSON_isSome (i : ImportedBridgeExit) :
    i.encodeJSON.isSome = (i.bridgeExit.all (·.leafType.declared) && i.claimData.all Claim.nonNil) := by
  rw [ImportedBridgeExit.encodeJSON, ← Claim.encodeJSON_isSome]
  have exit : (encodePtrM BridgeExit.marshalJSON i.bridgeExit).isSome =
      i.bridgeExit.all (·.leafType.declared) := by
    simp only [encodePtrM_isSome, BridgeExit.marshalJSON_isSome]
  rw [← exit]
  cases encodePtrM BridgeExit.marshalJSON i.bridgeExit <;> cases Claim.encodeJSON i.claimData <;> rfl

/-- `json.Marshal` of a certificate returns exactly when every non-nil bridge exit, top-level or
imported, has a declared leaf type, and every claim and the aggchain data are a nil interface or
a non-nil pointer. On another leaf type `LeafType.String` indexes past its two names; on a
typed-nil claim or aggchain data `encoding/json` calls the pointer's `MarshalJSON`, which
dereferences it. -/
theorem Certificate.isSome_encodeJSON (c : Certificate) : c.encodeJSON.isSome = c.marshals := by
  have exits : (encodeSlice (encodePtrM BridgeExit.marshalJSON) c.bridgeExits).isSome =
      (c.bridgeExits.getD []).all (·.all (·.leafType.declared)) := by
    simp only [encodeSlice_isSome, encodePtrM_isSome, BridgeExit.marshalJSON_isSome]
  have imported : (encodeSlice (encodePtrM ImportedBridgeExit.encodeJSON)
      c.importedBridgeExits).isSome = (c.importedBridgeExits.getD []).all (·.all fun i =>
        i.bridgeExit.all (·.leafType.declared) && i.claimData.all Claim.nonNil) := by
    simp only [encodeSlice_isSome, encodePtrM_isSome, ImportedBridgeExit.encodeJSON_isSome]
  rw [Certificate.marshals, ← exits, ← imported, ← Certificate.encodeAggchainData_isSome,
    Certificate.encodeJSON]
  cases encodeSlice (encodePtrM BridgeExit.marshalJSON) c.bridgeExits <;>
    cases encodeSlice (encodePtrM ImportedBridgeExit.encodeJSON) c.importedBridgeExits <;>
    cases Certificate.encodeAggchainData c.aggchainData <;> rfl

end Aggkit.Agglayer
