import Ecdsa.Description
import Ecdsa.Proofs.KeyGeneration
import Ecdsa.Proofs.Curve.Secp256k1
import Ecdsa.Proofs.Curve.GroupAction
import Ecdsa.Proofs.Candidates
import Ecdsa.Proofs.SubgroupTest
import Ecdsa.Proofs.Framing
import Ecdsa.Proofs.LeadingBytes
import Ecdsa.Proofs.KeyWriter
import Ecdsa.Proofs.Negation
import Ecdsa.Proofs.PublicKey
import Ecdsa.Proofs.RecoveredSigner
import Ecdsa.Proofs.DegenerateNonce
import Ecdsa.Proofs.ArgumentErrors
import Ecdsa.Proofs.RangeRejections
import Ecdsa.Proofs.Modular.Invertibility
import Ecdsa.Proofs.Curve.Decompression
import Ecdsa.Proofs.FixedWidth
import Ecdsa.Proofs.ExactWidths
import Ecdsa.Proofs.Hexadecimal
import Ecdsa.Proofs.IntegerText
