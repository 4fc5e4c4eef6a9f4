import EdwardsSignature.Plain
import EdwardsSignature.Sha512.Hasher
import EdwardsSignature.Proofs.Scheme.Admission
import EdwardsSignature.Proofs.Scheme.Completeness
import EdwardsSignature.Proofs.Scheme.Separation
import EdwardsSignature.Proofs.Scheme.Binding
import EdwardsSignature.Proofs.Scheme.Halves
import EdwardsSignature.Proofs.Scheme.Extraction
import EdwardsSignature.Proofs.Scheme.Replay
import EdwardsSignature.Proofs.Scheme.Torsion
import EdwardsSignature.Proofs.Curve.Grammar
import EdwardsSignature.Proofs.Curve.Laws
import EdwardsSignature.Proofs.Curve.Equality
import EdwardsSignature.Proofs.Scheme.Identity
import EdwardsSignature.Proofs.Scheme.Wiped
import EdwardsSignature.Proofs.History
import EdwardsSignature.Proofs.Sha512.Hasher
import EdwardsSignature.Proofs.Text.Number
import EdwardsSignature.Proofs.Text.Quoted
import EdwardsSignature.Proofs.Failure
import EdwardsSignature.Proofs.Failure.Rewriting
import EdwardsSignature.Proofs.Plain
import EdwardsSignature.Proofs.Key.Origin
