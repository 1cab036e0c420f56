import Aggkit.Common.Word
import Aggkit.Sync.Block
import Aggkit.Sync.Download
import Aggkit.Sync.DownloadOrder
import Aggkit.Sync.DownloadDelivery
import Aggkit.Sync.Retry
import Aggkit.Sync.Events
import Aggkit.Aggsender.EpochNotifier
import Aggkit.Aggsender.EpochBlocks
import Aggkit.Aggsender.LastProvenBlock
import Aggkit.Bridge.L1InfoSearch
import Aggkit.Bridge.Service
import Aggkit.Encoding.Text
import Aggkit.Encoding.Json
import Aggkit.Agglayer.Certificate
import Aggkit.Agglayer.CertificateJson
import Aggkit.Agglayer.CertificateHeader
import Aggkit.Agglayer.RoundTrip
import Aggkit.Aggsender.ProverFlow
import Aggkit.Aggsender.BuildCertificate
import Aggkit.Aggoracle.GERSender
import Aggkit.Config.DeprecatedFields
