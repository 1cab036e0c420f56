import Aggkit.Common.Word

/-! The block range of an aggchain proof: `AggchainProverFlow.getLastProvenBlock`, and the
call `GetCertificateBuildParams` makes to `GenerateAggchainProof` through
`verifyBuildParamsAndGenerateProof`.

`getLastProvenBlock` depends on the last certificate only through its `ToBlock` (or its
absence), and applied to the block after its own result it gives that result back; so the
new-certificate path, which moves `FromBlock` to the block after the last proven one, proves
exactly from `FromBlock`. `ProverFlow` models the whole flow, with every error it returns, and
proves that each proof request it makes is the call computed here on the block range of its
build params (`BuildParams.blockRange`). -/
namespace Aggkit.Aggsender

/-- The aggsender's `types.CertificateType`, with the values the flow produces. -/
inductive CertificateType where
  | unknown
  | fep
  | optimistic
deriving DecidableEq, Repr

/-- The fields of the aggsender's `types.CertificateHeader` the flow reads; `isInError` is
`Status.IsInError()`. -/
structure CertificateHeader where
  fromBlock : Nat
  toBlock : Nat
  isInError : Bool
  certType : CertificateType
deriving DecidableEq, Repr

/-- The fields of `types.CertificateBuildParams` the block range reads. -/
structure CertificateBuildParams where
  fromBlock : Nat
  toBlock : Nat
  lastSentCertificate : Option CertificateHeader
deriving DecidableEq, Repr

/-- What `AggchainProverFlow` reads for the block range: `baseFlow.StartL2Block()`. -/
structure AggchainProverFlow where
  startL2Block : Nat
deriving DecidableEq, Repr

/-- What `GetCertificateBuildParams` learns from storage, the certificate-type query, the base
flow, the optional `MaxL2Block` feature and `VerifyBuildParams`. An error of any of them ends the
call without a proof request and is not told apart here. -/
structure BuildReplies where
  /-- `GetLastSentCertificateHeaderWithProofIfInError`: the header. -/
  lastSentCert : Option CertificateHeader
  /-- The aggchain proof it returns with an `InError` header is non-nil. -/
  proofStored : Bool
  /-- `getCertificateTypeToGenerate`. -/
  typeCert : CertificateType
  /-- `GetCertificateBuildParamsInternal`; `none` for `errNoNewBlocks`. -/
  buildParamsInternal : Option CertificateBuildParams
  /-- `featureMaxL2Block.AdaptCertificate`, the identity when the feature is off. -/
  adaptCertificate : CertificateBuildParams → CertificateBuildParams
  /-- `baseFlow.VerifyBuildParams` succeeds. -/
  verifyBuildParams : CertificateBuildParams → Bool

/-- A field set only when it differs from the new value is set. -/
theorem ite_ne_set {α β : Type} [DecidableEq α] {current new : α} (unset : β) (set : α → β)
    (unchanged : set current = unset) : (if current ≠ new then set new else unset) = set new := by
  split_ifs with differs
  · rfl
  · rw [← unchanged, not_not.mp differs]

namespace AggchainProverFlow

variable (a : AggchainProverFlow)

/-- `getLastProvenBlock`. `fromBlock - 1` is only reached with `fromBlock ≠ 0`. -/
def getLastProvenBlock (fromBlock : Nat) (lastCertificate : Option CertificateHeader) : Nat :=
  if fromBlock = 0 then a.startL2Block
  else if lastCertificate.any (·.toBlock < a.startL2Block) then a.startL2Block
  else if fromBlock - 1 < a.startL2Block then a.startL2Block
  else fromBlock - 1

/-- `verifyBuildParamsAndGenerateProof` up to its call of `GenerateAggchainProof`: the last
proven block it passes, and the build params. -/
def verifyBuildParamsAndGenerateProof (verifyBuildParams : CertificateBuildParams → Bool)
    (buildParams : CertificateBuildParams) : Option (Nat × CertificateBuildParams) :=
  if verifyBuildParams buildParams then
    some (a.getLastProvenBlock buildParams.fromBlock buildParams.lastSentCertificate, buildParams)
  else none

/-- The new-certificate path of `GetCertificateBuildParams`: the base flow's build params,
adapted, with `FromBlock` set to the block after the last proven one. -/
def newCertificateCall (r : BuildReplies) : Option (Nat × CertificateBuildParams) :=
  match r.buildParamsInternal with
  | none => none
  | some built =>
    let buildParams := r.adaptCertificate built
    let lastProvenBlock := a.getLastProvenBlock buildParams.fromBlock r.lastSentCert
    let buildParams := if buildParams.fromBlock ≠ add64 lastProvenBlock 1
      then { buildParams with fromBlock := add64 lastProvenBlock 1 } else buildParams
    a.verifyBuildParamsAndGenerateProof r.verifyBuildParams buildParams

/-- The call `GetCertificateBuildParams` makes to `GenerateAggchainProof`, if any. An `InError`
certificate of the current type is sent again with its own range, and proven again only when no
proof was stored with it; otherwise a new certificate is built. -/
def generateAggchainProofCall (r : BuildReplies) : Option (Nat × CertificateBuildParams) :=
  match r.lastSentCert with
  | some last =>
    if last.isInError && last.certType == r.typeCert then
      if r.proofStored then none
      else a.verifyBuildParamsAndGenerateProof r.verifyBuildParams
        (r.adaptCertificate ⟨last.fromBlock, last.toBlock, some last⟩)
    else a.newCertificateCall r
  | none => a.newCertificateCall r

/-! ### The last proven block -/

/-- `getLastProvenBlock` reads the last certificate only through its `ToBlock`. -/
theorem getLastProvenBlock_congr (fromBlock : Nat) {first second : Option CertificateHeader}
    (same : first.map (·.toBlock) = second.map (·.toBlock)) :
    a.getLastProvenBlock fromBlock first = a.getLastProvenBlock fromBlock second := by
  cases first <;> cases second <;> simp_all [getLastProvenBlock]

/-- The last proven block is the start block, or the block before `fromBlock`. -/
theorem getLastProvenBlock_cases (fromBlock : Nat) (lastCertificate : Option CertificateHeader) :
    a.getLastProvenBlock fromBlock lastCertificate = a.startL2Block ∨
      (fromBlock ≠ 0 ∧ a.getLastProvenBlock fromBlock lastCertificate = fromBlock - 1) := by
  unfold getLastProvenBlock
  split_ifs with zero
  · exact .inl rfl
  · exact .inl rfl
  · exact .inl rfl
  · exact .inr ⟨zero, rfl⟩

/-- From the block after the start block, in uint64, the last proven block is the start block,
also when that block wraps to 0. -/
theorem getLastProvenBlock_after_start (lastCertificate : Option CertificateHeader) :
    a.getLastProvenBlock (add64 a.startL2Block 1) lastCertificate = a.startL2Block := by
  unfold getLastProvenBlock add64
  split_ifs <;> omega

/-- The last proven block from the block after a last proven block is that block. -/
theorem getLastProvenBlock_next (fromBlock : Nat) (lastCertificate : Option CertificateHeader)
    (small : fromBlock < 2 ^ 64) :
    a.getLastProvenBlock (add64 (a.getLastProvenBlock fromBlock lastCertificate) 1)
      lastCertificate = a.getLastProvenBlock fromBlock lastCertificate := by
  rcases a.getLastProvenBlock_cases fromBlock lastCertificate with start | ⟨nonzero, previous⟩
  · rw [start, getLastProvenBlock_after_start]
  · rw [previous, add64_of_lt (by omega), Nat.sub_add_cancel (Nat.pos_of_ne_zero nonzero)]
    exact previous

/-! ### The proof request -/

/-- An `InError` certificate of the current type stored without its proof is proven again with
the adapted build params of its own range. -/
theorem generateAggchainProofCall_resend (r : BuildReplies) (last : CertificateHeader)
    (stored : r.lastSentCert = some last)
    (resend : (last.isInError && last.certType == r.typeCert) = true)
    (noProof : r.proofStored = false) :
    a.generateAggchainProofCall r = a.verifyBuildParamsAndGenerateProof r.verifyBuildParams
      (r.adaptCertificate ⟨last.fromBlock, last.toBlock, some last⟩) := by
  simp [generateAggchainProofCall, stored, resend, noProof]

/-- Without an `InError` certificate of the current type, a new certificate is built. -/
theorem generateAggchainProofCall_fresh (r : BuildReplies)
    (fresh : ¬ r.lastSentCert.any (fun last => last.isInError && last.certType == r.typeCert)) :
    a.generateAggchainProofCall r = a.newCertificateCall r := by
  unfold generateAggchainProofCall
  cases stored : r.lastSentCert with
  | none => rfl
  | some last => simp_all

/-- The new-certificate call proves the adapted build params with `FromBlock` set to the block
after the last proven block: the check before the assignment does not change them. -/
theorem newCertificateCall_of_built (r : BuildReplies) (built : CertificateBuildParams)
    (internal : r.buildParamsInternal = some built) :
    a.newCertificateCall r = a.verifyBuildParamsAndGenerateProof r.verifyBuildParams
      { r.adaptCertificate built with fromBlock := add64 (a.getLastProvenBlock
        (r.adaptCertificate built).fromBlock r.lastSentCert) 1 } := by
  rw [newCertificateCall, internal]
  dsimp only
  exact congrArg _ (ite_ne_set (r.adaptCertificate built)
    (fun fromBlock : Nat => { r.adaptCertificate built with fromBlock }) rfl)

/-- On the new-certificate path the `FromBlock` of the build params is the block after the last
proven block computed from the stored header. -/
theorem newCertificateCall_fromBlock (r : BuildReplies) (built : CertificateBuildParams)
    (internal : r.buildParamsInternal = some built) {lastProvenBlock : Nat}
    {proved : CertificateBuildParams}
    (called : a.newCertificateCall r = some (lastProvenBlock, proved)) :
    proved = { r.adaptCertificate built with fromBlock := add64 (a.getLastProvenBlock
        (r.adaptCertificate built).fromBlock r.lastSentCert) 1 } ∧
      lastProvenBlock = a.getLastProvenBlock proved.fromBlock proved.lastSentCertificate := by
  rw [a.newCertificateCall_of_built r built internal, verifyBuildParamsAndGenerateProof] at called
  split_ifs at called
  simp only [Option.some.injEq, Prod.mk.injEq] at called
  exact ⟨called.2.symm, called.1.symm ▸ called.2 ▸ rfl⟩

/-- `getLastProvenBlock` gives its own result back from the block after it, in uint64; so on
the new-certificate path of `GetCertificateBuildParams`, when the build params carry a last sent
certificate with the `ToBlock` (or absence) of the stored one, the last proven block passed to
`GenerateAggchainProof` is the block before the `FromBlock` of the build params proven. -/
theorem getLastProvenBlock_from_next_block :
    (∀ (fromBlock : Nat) (lastCertificate : Option CertificateHeader), fromBlock < 2 ^ 64 →
      a.getLastProvenBlock (add64 (a.getLastProvenBlock fromBlock lastCertificate) 1)
        lastCertificate = a.getLastProvenBlock fromBlock lastCertificate) ∧
    ∀ (r : BuildReplies) (built : CertificateBuildParams) (lastProvenBlock : Nat)
      (proved : CertificateBuildParams),
      ¬ r.lastSentCert.any (fun last => last.isInError && last.certType == r.typeCert) →
      r.buildParamsInternal = some built →
      (r.adaptCertificate built).fromBlock < 2 ^ 64 →
      (r.adaptCertificate built).lastSentCertificate.map (·.toBlock) =
        r.lastSentCert.map (·.toBlock) →
      a.generateAggchainProofCall r = some (lastProvenBlock, proved) →
      add64 lastProvenBlock 1 = proved.fromBlock := by
  refine ⟨a.getLastProvenBlock_next, fun r built lastProvenBlock proved fresh internal small
    agree called => ?_⟩
  rw [a.generateAggchainProofCall_fresh r fresh] at called
  obtain ⟨rfl, rfl⟩ := a.newCertificateCall_fromBlock r built internal called
  simp only
  rw [a.getLastProvenBlock_congr _ agree, a.getLastProvenBlock_next _ _ small]

/-- Replies with no certificate sent yet and base-flow build params over blocks 3 to 10. -/
def freshReplies : BuildReplies := ⟨none, false, .fep, some ⟨3, 10, none⟩, id, fun _ => true⟩

theorem getLastProvenBlock_from_next_block_samples :
    (⟨2 ^ 64 - 1⟩ : AggchainProverFlow).getLastProvenBlock
        (add64 ((⟨2 ^ 64 - 1⟩ : AggchainProverFlow).getLastProvenBlock 5 none) 1) none =
      (⟨2 ^ 64 - 1⟩ : AggchainProverFlow).getLastProvenBlock 5 none ∧
    (⟨7⟩ : AggchainProverFlow).generateAggchainProofCall freshReplies = some (7, ⟨8, 10, none⟩) ∧
    add64 7 1 = 8 :=
  ⟨(getLastProvenBlock_from_next_block ⟨2 ^ 64 - 1⟩).1 5 none (by decide), by decide,
    (getLastProvenBlock_from_next_block ⟨7⟩).2 freshReplies ⟨3, 10, none⟩ 7 ⟨8, 10, none⟩
      (by decide) rfl (by decide) rfl (by decide)⟩

/-! ### Resending a certificate in error -/

end AggchainProverFlow

end Aggkit.Aggsender
