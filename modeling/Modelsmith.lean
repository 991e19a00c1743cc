import Modelsmith.Text.CaseStyle
import Modelsmith.Text.Special
import Modelsmith.Text.Lines
import Modelsmith.Text.Quoted
import Modelsmith.Json.Writer
import Modelsmith.Json.Reader
import Modelsmith.Naming.Convention
import Modelsmith.Linking.Statement
import Modelsmith.Schema.Split
import Modelsmith.Schema.Samples
import Modelsmith.Blueprint.Typing
import Modelsmith.Blueprint.Derive
import Modelsmith.Render.Block
import Modelsmith.Target.Basic
import Modelsmith.Target.Sketch
import Modelsmith.Target.Configured
import Modelsmith.Proofs.Walk.Path
import Modelsmith.Proofs.Lowering
import Modelsmith.Proofs.Edges
import Modelsmith.Proofs.Typing.Step
import Modelsmith.Proofs.Typing.Cut
import Modelsmith.Proofs.Naming.Candidate
import Modelsmith.Proofs.Naming.Clash
import Modelsmith.Proofs.Names
import Modelsmith.Proofs.Correspondence
import Modelsmith.Proofs.References
import Modelsmith.Proofs.Trail
import Modelsmith.Proofs.Typing.Progress
import Modelsmith.Proofs.Typing.Local
import Modelsmith.Proofs.Typing.Resolve
import Modelsmith.Proofs.Typing.Agreement
import Modelsmith.Proofs.TypeConsistency
import Modelsmith.Proofs.Typing.Acyclic
import Modelsmith.Proofs.Split.Basic
import Modelsmith.Proofs.Split.Several
import Modelsmith.Proofs.Success
import Modelsmith.Proofs.Generation
import Modelsmith.Proofs.Walk.Insert
import Modelsmith.Proofs.Split.Insertion
import Modelsmith.Proofs.Split.Types
import Modelsmith.Proofs.Split.Batch
import Modelsmith.Proofs.Links
import Modelsmith.Proofs.Outputs
import Modelsmith.Proofs.Dependencies
import Modelsmith.Proofs.Derives
import Modelsmith.Proofs.Imports.Lines
import Modelsmith.Proofs.Imports.Distinct
import Modelsmith.Proofs.Imports.Sufficient
import Modelsmith.Proofs.Substitutes
import Modelsmith.Proofs.Walk.Leave
import Modelsmith.Proofs.Typing.Kept
import Modelsmith.Proofs.Discriminators
import Modelsmith.Proofs.ByValue
import Modelsmith.Proofs.Sources
import Modelsmith.Proofs.Renaming
import Modelsmith.Proofs.Split.Wiring
import Modelsmith.Proofs.RootOrder
import Modelsmith.Proofs.Constants
import Modelsmith.Proofs.Identifiers
import Modelsmith.Proofs.Capture
import Modelsmith.Proofs.Walk.Meeting
import Modelsmith.Proofs.Split.InPlace
import Modelsmith.Proofs.DependencyOrder
import Modelsmith.Proofs.Derivability
import Modelsmith.Proofs.Effort
import Modelsmith.Proofs.DocComments
import Modelsmith.Proofs.Prepending
import Modelsmith.Proofs.Typing.Tree
import Modelsmith.Proofs.Typing.Unambiguous
import Modelsmith.Proofs.WireNames
import Modelsmith.Proofs.Resolution
import Modelsmith.Proofs.WordScan
import Modelsmith.Proofs.Linking.Reading
import Modelsmith.Proofs.Linking.Running
import Modelsmith.Proofs.Respelling
import Modelsmith.Proofs.Nesting
