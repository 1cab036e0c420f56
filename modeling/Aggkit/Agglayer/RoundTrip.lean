import Aggkit.Agglayer.CertificateJson

/-! What the JSON round trip of a certificate keeps. The certificate given back,
`c.roundTrip`, has the hashes of `c`: `Hash`, `PPHashToSign` and `FEPHashToSign`. It equals `c`
up to empty and nil byte slices when the strings of the aggchain proof are valid UTF-8; a string
that is not comes back with U+FFFD in place of its invalid bytes. -/

namespace Aggkit.Agglayer

open Aggkit.Encoding

/-- The certificates of the round trip: non-nil bridge exits of declared leaf types, top-level
and imported, and claims and aggchain data that are nil or non-nil pointers. -/
def Certificate.wellFormed (c : Certificate) : Bool :=
  (c.bridgeExits.getD []).all (·.any (·.leafType.declared)) &&
    (c.importedBridgeExits.getD []).all (·.all fun i =>
      i.bridgeExit.any (·.leafType.declared) && i.claimData.all Claim.nonNil) &&
    c.aggchainData.all AggchainData.nonNil

/-- The strings of an aggchain proof are valid UTF-8: its version and its context's keys. -/
def AggchainDataProof.validStrings (p : AggchainDataProof) : Bool :=
  validString p.version && p.context.all fun m => m.entries.all fun entry => validString entry.1

/-- The strings of the certificate are valid UTF-8: those of an aggchain proof. -/
def Certificate.validStrings (c : Certificate) : Bool :=
  match c.aggchainData with
  | some (.proof (some p)) => p.validStrings
  | _ => true

theorem Certificate.marshals_of_wellFormed {c : Certificate} (wellFormed : c.wellFormed = true) :
    c.marshals = true := by
  simp only [Certificate.wellFormed, Certificate.marshals, Bool.and_eq_true,
    List.all_eq_true] at wellFormed ⊢
  refine ⟨⟨fun b member => ?_, fun i member => ?_⟩, wellFormed.2⟩
  · have shape := wellFormed.1.1 b member
    rcases b with _ | b
    · rfl
    · simpa using shape
  · have shape := wellFormed.1.2 i member
    rcases i with _ | ⟨_ | b, _, _⟩
    · rfl
    · simp at shape
    · simpa using shape

/-! ### The hashes of the certificate given back -/

theorem Bytes.getD_norm (b : Bytes) : b.norm.getD [] = b.getD [] := by
  rcases b with _ | _ | _ <;> rfl

private theorem mapM_map_congr {α β γ : Type} {g : α → β} {h : β → Option γ} {h' : α → Option γ}
    (l : List α) (same : ∀ a ∈ l, h (g a) = h' a) : (l.map g).mapM h = l.mapM h' := by
  induction l with
  | nil => rfl
  | cons a rest ih =>
    rw [List.map_cons, List.mapM_cons, List.mapM_cons, same a (List.mem_cons_self a rest),
      ih fun b member => same b (List.mem_cons_of_mem a member)]

section Hashes

variable (keccak256 : List UInt8 → Hash) (globalIndexBytes : GlobalIndex → List UInt8)

theorem BridgeExit.hash_norm (b : BridgeExit) : b.norm.hash keccak256 = b.hash keccak256 := by
  simp only [BridgeExit.hash, BridgeExit.norm, Bytes.getD_norm]

theorem ImportedBridgeExit.hash_norm (i : ImportedBridgeExit) :
    i.norm.hash keccak256 globalIndexBytes = i.hash keccak256 globalIndexBytes := by
  obtain ⟨bridgeExit, claimData, globalIndex⟩ := i
  rcases bridgeExit with _ | b
  · rfl
  · simp [ImportedBridgeExit.hash, ImportedBridgeExit.norm, BridgeExit.hash_norm]

/-- What an imported exit gives, `ImportedBridgeExit.norm` keeps, the certificate's list of
imported exits gives too. -/
private theorem mapM_bind_norm {γ : Type} {h : ImportedBridgeExit → Option γ}
    (items : Option (List (Option ImportedBridgeExit))) (same : ∀ i, h i.norm = h i) :
    ((items.map (·.map (·.map ImportedBridgeExit.norm))).getD []).mapM (·.bind h) =
      (items.getD []).mapM (·.bind h) := by
  rcases items with _ | items
  · rfl
  · exact mapM_map_congr items fun i _ => by
      cases i with
      | none => rfl
      | some i => exact same i

/-- `Hash` of the certificate given back is that of the certificate. -/
theorem Certificate.hash_roundTrip (c : Certificate) :
    c.roundTrip.hash keccak256 globalIndexBytes = c.hash keccak256 globalIndexBytes := by
  have exits : ((c.bridgeExits.map (·.map (·.map BridgeExit.norm))).getD []).mapM
      (fun b => b.bind (·.hash keccak256)) =
      (c.bridgeExits.getD []).mapM fun b => b.bind (·.hash keccak256) := by
    rcases c.bridgeExits with _ | items
    · rfl
    · exact mapM_map_congr items fun b _ => by
        cases b with
        | none => rfl
        | some b => exact BridgeExit.hash_norm keccak256 b
  simp only [Certificate.hash, Certificate.roundTrip]
  rw [exits, mapM_bind_norm _ (ImportedBridgeExit.hash_norm keccak256 globalIndexBytes)]

/-- `PPHashToSign` of the certificate given back is that of the certificate. -/
theorem Certificate.ppHashToSign_roundTrip (c : Certificate) :
    c.roundTrip.ppHashToSign keccak256 globalIndexBytes =
      c.ppHashToSign keccak256 globalIndexBytes := by
  simp only [Certificate.ppHashToSign, Certificate.roundTrip]
  rw [mapM_bind_norm (h := (·.globalIndex)) _ fun _ => rfl]

/-- `FEPHashToSign` of the certificate given back is that of the certificate. -/
theorem Certificate.fepHashToSign_roundTrip (c : Certificate) :
    c.roundTrip.fepHashToSign keccak256 globalIndexBytes =
      c.fepHashToSign keccak256 globalIndexBytes := by
  have params : c.roundTrip.fepAggchainParams keccak256 = c.fepAggchainParams keccak256 := by
    rcases hd : c.aggchainData with _ | (_ | p) | (_ | s) <;>
      simp [Certificate.fepAggchainParams, Certificate.roundTrip, hd, AggchainData.roundTrip,
        AggchainDataProof.roundTrip]
  simp only [Certificate.fepHashToSign, params]
  simp only [Certificate.roundTrip]
  erw [mapM_bind_norm _ ?_]
  · rfl
  · rintro ⟨_ | b, _, _ | _⟩ <;> simp [ImportedBridgeExit.norm, BridgeExit.hash_norm]

end Hashes

/-! ### Equal up to empty and nil byte slices -/

theorem Bytes.norm_norm (b : Bytes) : b.norm.norm = b.norm := by
  rcases b with _ | _ | _ <;> rfl

theorem Bytes.norm_some_getD (b : Bytes) : Bytes.norm (some (b.getD [])) = b.norm := by
  rcases b with _ | _ | _ <;> rfl

theorem BridgeExit.norm_norm (b : BridgeExit) : b.norm.norm = b.norm := by
  simp only [BridgeExit.norm, Bytes.norm_norm]

theorem ImportedBridgeExit.norm_norm (i : ImportedBridgeExit) : i.norm.norm = i.norm := by
  rcases i with ⟨_ | b, _, _⟩ <;> simp [ImportedBridgeExit.norm, BridgeExit.norm_norm]

theorem AggchainDataProof.roundTrip_norm (p : AggchainDataProof) (valid : p.validStrings = true) :
    p.roundTrip.norm = p.norm := by
  simp only [AggchainDataProof.validStrings, Bool.and_eq_true] at valid
  obtain ⟨version, context⟩ := valid
  have keys : p.context.map GoMap.coerceKeys = p.context := by
    rcases hc : p.context with _ | m
    · rfl
    · rw [hc] at context
      simp only [Option.all_some, List.all_eq_true] at context
      exact congrArg some (GoMap.coerceKeys_of_valid m fun key member => by
        obtain ⟨entry, mem, rfl⟩ := List.mem_map.mp member
        exact context entry mem)
  simp only [AggchainDataProof.roundTrip, AggchainDataProof.norm, Bytes.norm_some_getD,
    coerceUTF8_of_valid version, keys]

/-- Normalising the elements of a list of pointers after a map `f` that normalisation undoes on
them is normalising the list. -/
private theorem map_map_of_norm {α : Type} {f g : α → α} (items : Option (List (Option α)))
    (undone : ∀ a, g (f a) = g a) :
    (items.map (·.map (·.map f))).map (·.map (·.map g)) = items.map (·.map (·.map g)) := by
  rcases items with _ | l
  · rfl
  · simp only [Option.map_some', List.map_map, Option.some.injEq]
    refine List.map_congr_left fun p _ => ?_
    cases p with
    | none => rfl
    | some a => simp [undone a]

/-- With valid UTF-8 strings, the certificate given back is the certificate, up to empty and nil
byte slices. -/
theorem Certificate.roundTrip_norm (c : Certificate) (valid : c.validStrings = true) :
    c.roundTrip.norm = c.norm := by
  obtain ⟨networkID, height, prev, new, bridgeExits, importedBridgeExits, metadata, custom,
    aggchain, count⟩ := c
  have exits := map_map_of_norm (f := BridgeExit.norm) (g := BridgeExit.norm) bridgeExits
    BridgeExit.norm_norm
  have importedNorm := map_map_of_norm (f := ImportedBridgeExit.norm) (g := ImportedBridgeExit.norm)
    importedBridgeExits ImportedBridgeExit.norm_norm
  have aggchainNorm : (aggchain.map AggchainData.roundTrip).map AggchainData.norm =
      aggchain.map AggchainData.norm := by
    rcases aggchain with _ | (_ | p) | (_ | s)
    · rfl
    · rfl
    · have proofValid : p.validStrings = true := valid
      simp [AggchainData.roundTrip, AggchainData.norm,
        AggchainDataProof.roundTrip_norm p proofValid]
    · rfl
    · simp [AggchainData.roundTrip, AggchainData.norm, Bytes.norm_some_getD]
  simp only [Certificate.roundTrip, Certificate.norm, Bytes.norm_norm, exits, importedNorm,
    aggchainNorm]

/-! ### The round trip -/

/-- For every certificate whose bridge exits, top-level and imported, are non-nil with a
declared leaf type, and whose claims and aggchain data are nil or non-nil pointers,
`json.Unmarshal` of `json.Marshal(c)` succeeds. The certificate it gives has the `Hash`,
`PPHashToSign` and `FEPHashToSign` of `c`, for every keccak and global index packing; and when
the strings of its aggchain proof are valid UTF-8, it equals `c` up to empty and nil byte
slices. -/
theorem certificate_json_round_trip (keccak256 : List UInt8 → Hash)
    (globalIndexBytes : GlobalIndex → List UInt8) (c : Certificate)
    (wellFormed : c.wellFormed = true) :
    ∃ json decoded, c.encodeJSON = some json ∧ Certificate.unmarshalJSON json = some decoded ∧
      decoded.hash keccak256 globalIndexBytes = c.hash keccak256 globalIndexBytes ∧
      decoded.ppHashToSign keccak256 globalIndexBytes = c.ppHashToSign keccak256 globalIndexBytes ∧
      decoded.fepHashToSign keccak256 globalIndexBytes =
        c.fepHashToSign keccak256 globalIndexBytes ∧
      (c.validStrings = true → decoded.norm = c.norm) := by
  obtain ⟨json, encoded, decoded⟩ := Option.bind_eq_some.mp
    (c.unmarshalJSON_encodeJSON (Certificate.marshals_of_wellFormed wellFormed))
  exact ⟨json, c.roundTrip, encoded, decoded, c.hash_roundTrip keccak256 globalIndexBytes,
    c.ppHashToSign_roundTrip keccak256 globalIndexBytes,
    c.fepHashToSign_roundTrip keccak256 globalIndexBytes, c.roundTrip_norm⟩

/-- A certificate with one bridge exit, one exit imported from mainnet, custom chain data and an
aggchain proof with a context. -/
def sampleCertificate : Certificate where
  networkID := 1
  height := 7
  prevLocalExitRoot := .zero 32
  newLocalExitRoot := .zero 32
  bridgeExits := some [some ⟨leafTypeAsset, some ⟨0, .zero 20⟩, 2, .zero 20, some 5, some [1, 2]⟩]
  importedBridgeExits := some [some
    { bridgeExit := some ⟨leafTypeMessage, some ⟨0, .zero 20⟩, 1, .zero 20, none, some []⟩
      claimData := some (.mainnet (some
        ⟨some ⟨.zero 32, List.replicate defaultHeight (.zero 32), List.length_replicate _ _⟩, none,
          some ⟨3, .zero 32, .zero 32, some ⟨.zero 32, .zero 32, 9⟩⟩⟩))
      globalIndex := some ⟨true, 0, 4⟩ }]
  metadata := .zero 32
  customChainData := some [7]
  aggchainData := some (.proof (some ⟨some [1], ascii "v1", none, .zero 32,
    some ⟨[(ascii "key", some [])], List.pairwise_singleton _ _⟩, some []⟩))
  l1InfoTreeLeafCount := 3

theorem certificate_json_round_trip_sample :
    ∃ json decoded, sampleCertificate.encodeJSON = some json ∧
      Certificate.unmarshalJSON json = some decoded ∧
      decoded.hash (fun _ => .zero 32) (fun _ => []) =
        sampleCertificate.hash (fun _ => .zero 32) (fun _ => []) ∧
      decoded.ppHashToSign (fun _ => .zero 32) (fun _ => []) =
        sampleCertificate.ppHashToSign (fun _ => .zero 32) (fun _ => []) ∧
      decoded.fepHashToSign (fun _ => .zero 32) (fun _ => []) =
        sampleCertificate.fepHashToSign (fun _ => .zero 32) (fun _ => []) ∧
      decoded.norm = sampleCertificate.norm := by
  obtain ⟨json, decoded, encoded, read, hash, pp, fep, same⟩ :=
    certificate_json_round_trip (fun _ => .zero 32) (fun _ => []) sampleCertificate (by decide)
  exact ⟨json, decoded, encoded, read, hash, pp, fep, same (by decide)⟩

/-- A certificate whose aggchain proof has the version `0xFF`, a byte that starts no UTF-8 rune. -/
def lossyCertificate : Certificate where
  networkID := 1
  height := 0
  prevLocalExitRoot := .zero 32
  newLocalExitRoot := .zero 32
  bridgeExits := some []
  importedBridgeExits := some []
  metadata := .zero 32
  customChainData := none
  aggchainData := some (.proof (some ⟨none, [0xFF], none, .zero 32, none, none⟩))
  l1InfoTreeLeafCount := 0

/-- A certificate whose imported bridge exit claims with a nil `*ClaimFromMainnnet`. -/
def nilClaimCertificate : Certificate :=
  { lossyCertificate with
    importedBridgeExits := some [some
      { bridgeExit := some ⟨leafTypeAsset, none, 0, .zero 20, some 1, none⟩
        claimData := some (.mainnet none)
        globalIndex := some ⟨true, 0, 0⟩ }]
    aggchainData := none }

/-- The version of the aggchain proof, when there is one. -/
def Certificate.proofVersion (c : Certificate) : Option (List UInt8) :=
  match c.aggchainData with
  | some (.proof (some p)) => some p.version
  | _ => none

theorem Certificate.proofVersion_norm (c : Certificate) : c.norm.proofVersion = c.proofVersion := by
  rcases c with ⟨_, _, _, _, _, _, _, _, _ | (_ | _) | (_ | _), _⟩ <;> rfl

/-- The round trip gives a version `0xFF` back as U+FFFD, so the certificate read back is not the
one written, even up to empty and nil byte slices. A typed-nil `*ClaimFromMainnnet` makes
`json.Marshal` panic. -/
theorem certificate_json_changes_version :
    lossyCertificate.wellFormed = true ∧
    (∃ json decoded, lossyCertificate.encodeJSON = some json ∧
      Certificate.unmarshalJSON json = some decoded ∧
      decoded.proofVersion = some [0xEF, 0xBF, 0xBD] ∧ decoded.norm ≠ lossyCertificate.norm) ∧
    nilClaimCertificate.encodeJSON = none := by
  obtain ⟨json, encoded, decoded⟩ := Option.bind_eq_some.mp
    (lossyCertificate.unmarshalJSON_encodeJSON (by decide))
  have version : lossyCertificate.roundTrip.proofVersion = some (coerceUTF8 [0xFF]) := rfl
  rw [coerceUTF8_invalid_byte] at version
  refine ⟨by decide, ⟨json, _, encoded, decoded, version, fun same => ?_⟩, rfl⟩
  have versions := congrArg Certificate.proofVersion same
  rw [Certificate.proofVersion_norm, Certificate.proofVersion_norm, version] at versions
  exact absurd versions (by decide)

end Aggkit.Agglayer
