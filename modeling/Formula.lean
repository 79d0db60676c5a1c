import Formula.Main
import Formula.Proofs.Canonical
import Formula.Proofs.Disclosure
import Formula.Proofs.Exactness
import Formula.Proofs.Extremes
import Formula.Proofs.Grouping
import Formula.Proofs.Links
import Formula.Proofs.Normal
import Formula.Proofs.Outlines
import Formula.Proofs.Parenthesized
import Formula.Proofs.Parsing
import Formula.Proofs.Pointing
import Formula.Proofs.Signs
import Formula.Proofs.Sources
import Formula.Proofs.Spacing
import Formula.Proofs.Termination
import Formula.Proofs.Transcripts
import Formula.Proofs.Unlimited
