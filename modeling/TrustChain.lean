import TrustChain.Certificate.Description
import TrustChain.Main
import TrustChain.Source.FileTree
import TrustChain.Proofs.Name.Matching
import TrustChain.Proofs.Path.Climb
import TrustChain.Proofs.Path.DeadEnds
import TrustChain.Proofs.Path.Building
import TrustChain.Proofs.Path.Reachability
import TrustChain.Proofs.Path.Constraints
import TrustChain.Proofs.Path.Validation
import TrustChain.Proofs.Verification.Soundness
import TrustChain.Proofs.Verification.Blame
import TrustChain.Proofs.Der.Decoder
import TrustChain.Proofs.Certificate.SignedPortion
import TrustChain.Proofs.Certificate.Reencoding
import TrustChain.Proofs.Text.Base64
import TrustChain.Proofs.Text.Blank
import TrustChain.Proofs.Text.Lowercase
import TrustChain.Proofs.Text.Pem
import TrustChain.Proofs.Certificate.Bundle
import TrustChain.Proofs.Verification.Agreement
import TrustChain.Proofs.Verification.PoolOrder
import TrustChain.Proofs.Verification.Strictness
import TrustChain.Proofs.Path.Restriction
import TrustChain.Proofs.Pool.Insertion
import TrustChain.Proofs.Verification.IrrelevantMembers
import TrustChain.Proofs.Name.Spelling
import TrustChain.Proofs.Name.Equivalence
import TrustChain.Proofs.Path.PathLength
import TrustChain.Proofs.Path.ViolationOrder
import TrustChain.Proofs.Path.SearchCost
import TrustChain.Proofs.Name.Refusal
import TrustChain.Proofs.Name.SetOrder
import TrustChain.Proofs.Pool.Partition
import TrustChain.Proofs.Crypto.Evaluability
import TrustChain.Proofs.Verification.Leftovers
import TrustChain.Proofs.Certificate.PortionBounds
import TrustChain.Proofs.Certificate.ExtensionCache
import TrustChain.Proofs.Name.Escaping
import TrustChain.Proofs.Pool.Loading
