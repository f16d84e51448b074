import NodeSelection.Main
import NodeSelection.Proofs.Canonical
import NodeSelection.Proofs.Exclusion
import NodeSelection.Proofs.Meaning
import NodeSelection.Proofs.Position
import NodeSelection.Proofs.LookupOrder
import NodeSelection.Proofs.Grouping
import NodeSelection.Proofs.Rejoining
import NodeSelection.Proofs.Growth
import NodeSelection.Proofs.RecordRoundTrip
import NodeSelection.Proofs.Verdict
import NodeSelection.Proofs.FormatsApart
import NodeSelection.Proofs.ManifestMeaning
import NodeSelection.Proofs.Overriding
import NodeSelection.Proofs.Expressions
import NodeSelection.Proofs.Renaming
import NodeSelection.Proofs.Matching
import NodeSelection.Proofs.Modifiers
import NodeSelection.Proofs.Narrowing
import NodeSelection.Proofs.Regrouping
import NodeSelection.Proofs.PlainRules
import NodeSelection.Proofs.Collecting
import NodeSelection.Proofs.Interaction
import NodeSelection.Proofs.Spacing
import NodeSelection.Proofs.RunLog
import NodeSelection.Proofs.RecordReading
import NodeSelection.Proofs.ConfigReading
import NodeSelection.Proofs.Spelling
