import WifiSelection.Json.Reader
import WifiSelection.Samples
import WifiSelection.Selector
import WifiSelection.Settings.JsonForm
import WifiSelection.Settings.Toml
import WifiSelection.Proofs.Binary64.Rounding
import WifiSelection.Proofs.Binary64.Whole
import WifiSelection.Proofs.Flags
import WifiSelection.Proofs.Json.Models
import WifiSelection.Proofs.LastSelection.Decay
import WifiSelection.Proofs.MacAddress
import WifiSelection.Proofs.Pass.Connection
import WifiSelection.Proofs.Pass.Failures
import WifiSelection.Proofs.Pass.FaultPolicies
import WifiSelection.Proofs.Pass.Installers
import WifiSelection.Proofs.Pass.Irrelevance
import WifiSelection.Proofs.Pass.Keeping
import WifiSelection.Proofs.Pass.Meaning
import WifiSelection.Proofs.Pass.Permutation
import WifiSelection.Proofs.Pass.Recognition
import WifiSelection.Proofs.Pass.Registration
import WifiSelection.Proofs.Pass.Repetition
import WifiSelection.Proofs.Pass.Requests
import WifiSelection.Proofs.Pass.Runs
import WifiSelection.Proofs.Pass.Separation
import WifiSelection.Proofs.Pass.Suggestions
import WifiSelection.Proofs.Pass.Tiers
import WifiSelection.Proofs.Pass.Validity
import WifiSelection.Proofs.Pass.Winners
import WifiSelection.Proofs.Registry.Basic
import WifiSelection.Proofs.Registry.Instances
import WifiSelection.Proofs.Registry.Logged
import WifiSelection.Proofs.Registry.Partition
import WifiSelection.Proofs.Registry.Survivors
import WifiSelection.Proofs.Scoring.Agreement
import WifiSelection.Proofs.Scoring.Checked
import WifiSelection.Proofs.Scoring.Choice
import WifiSelection.Proofs.Scoring.Conditions
import WifiSelection.Proofs.Scoring.Exact
import WifiSelection.Proofs.Scoring.Grouping
import WifiSelection.Proofs.Scoring.Range
import WifiSelection.Proofs.Scoring.TieBreak
import WifiSelection.Proofs.Scoring.Winner
import WifiSelection.Proofs.Settings.Acceptance
import WifiSelection.Proofs.Settings.RoundTrip
import WifiSelection.Proofs.Store.Asking
import WifiSelection.Proofs.Store.Batches
import WifiSelection.Proofs.Store.Enabled
import WifiSelection.Proofs.Store.Filing
import WifiSelection.Proofs.Store.Lookup
import WifiSelection.Proofs.Store.Numbering
import WifiSelection.Proofs.Store.Outcomes
import WifiSelection.Proofs.Store.Readiness
import WifiSelection.Proofs.Store.Rousing
import WifiSelection.Proofs.StoreKeys
