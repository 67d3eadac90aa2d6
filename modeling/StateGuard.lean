import StateGuard.Ci.Gate
import StateGuard.Graph.Contracts
import StateGuard.Library.Dict
import StateGuard.Runtime.Contracts
import StateGuard.FailureLab.Contracts
import StateGuard.FailureLab.Reducers
import StateGuard.FailureLab.Results
import StateGuard.FailureLab.Agreement
import StateGuard.FailureLab.Deliveries
import StateGuard.FailureLab.MutationAgreement
import StateGuard.Applicability.Contracts
import StateGuard.Applicability.Policy
import StateGuard.Applicability.Absence
import StateGuard.Applicability.Regression
import StateGuard.FailureLab.StateRegression
import StateGuard.Library.EarlyReturn
import StateGuard.Application.Worker
import StateGuard.Application.CustomerExecutors
import StateGuard.Application.TrustExecutors
import StateGuard.Applicability.Instances
import StateGuard.Application.Verification
import StateGuard.Application.EarlyResults
import StateGuard.Application.Admission
import StateGuard.Application.Completion
import StateGuard.Application.RunResults
import StateGuard.Library.Extent
import StateGuard.Python.Decisions
import StateGuard.Python.Execution
import StateGuard.Discovery.Contracts
import StateGuard.Graph.ControlFlow
import StateGuard.Python.Certainty
import StateGuard.Graph.FunctionModel
import StateGuard.Graph.CallPaths
import StateGuard.Graph.RouteAnalysis
import StateGuard.Graph.Service
import StateGuard.Graph.TrustGuards
import StateGuard.Graph.BranchStates
import StateGuard.Graph.Reachability
import StateGuard.Graph.Construction
import StateGuard.Graph.SemanticProjection
import StateGuard.Graph.Coverage
import StateGuard.Graph.ValueBranches
import StateGuard.Runtime.Planning
import StateGuard.Runtime.EvidenceRoutes
import StateGuard.Runtime.PlanTotality
import StateGuard.Evidence.Catalog
import StateGuard.Evidence.Contracts
import StateGuard.Evidence.Normalization
import StateGuard.Evidence.RunValidity
import StateGuard.Graph.DistinctFacts
import StateGuard.Graph.ConstructionTotality
import StateGuard.Contracts.Records
import StateGuard.Semantics.Contracts
import StateGuard.Application.Semantics
import StateGuard.Remediation.Contracts
import StateGuard.Remediation.Generator
import StateGuard.Evidence.CheckKeys
import StateGuard.Evidence.KeyStability
import StateGuard.Evidence.GroundingTruth
import StateGuard.Runtime.Instrumentation
import StateGuard.Runtime.TraceCounts
import StateGuard.Semantics.ContextBuilder
import StateGuard.Applicability.PolicyLocality
import StateGuard.Workspace.ConfigRuns
import StateGuard.Workspace.RunStore
import StateGuard.Graph.BlockEnds
import StateGuard.Graph.Dominance
import StateGuard.Graph.Propagation
import StateGuard.Graph.AckOrder
import StateGuard.Graph.EventGuards
import StateGuard.Graph.ArgumentForwarding
import StateGuard.Graph.ValueOrigins
import StateGuard.Discovery.LookupCycles
import StateGuard.Graph.CallPathIdentity
import StateGuard.Graph.Reprojection
import StateGuard.Graph.RouteComposition
import StateGuard.Runtime.TraceDescriptors
import StateGuard.Graph.DirectExecution
import StateGuard.Graph.CheckoutRequests
import StateGuard.Graph.SdkBindings
import StateGuard.Discovery.InstanceBindings
import StateGuard.Discovery.NameMeanings
import StateGuard.Library.FirstOccurrence
import StateGuard.Semantics.ResolutionOrder
import StateGuard.Runtime.TranscriptAdmission
import StateGuard.Runtime.CorrelationHeaders
import StateGuard.Runtime.ResponseObservation
import StateGuard.Runtime.RouteAttachment
import StateGuard.Grounding.RazorpayTest
import StateGuard.Semantics.MappingInput
import StateGuard.Library.Lines
import StateGuard.Remediation.SymbolRegions
import StateGuard.Evidence.SourceSpans
import StateGuard.Python.Difflib
import StateGuard.Remediation.DiffApplication
import StateGuard.Remediation.DiffRoundTrip
import StateGuard.Remediation.ShownLines
import StateGuard.Remediation.PatchRendering
import StateGuard.Python.LogicalLines
import StateGuard.Python.Blocks
import StateGuard.Python.BlockEdits
import StateGuard.Remediation.EditReach
import StateGuard.Python.Str
import StateGuard.Library.JsonText
import StateGuard.Library.KeyOrder
import StateGuard.Library.Checks
import StateGuard.Library.BreadthFirst
import StateGuard.Contracts.CanonicalJson
import StateGuard.Graph.Words
import StateGuard.Graph.Fingerprint
import StateGuard.Graph.ProjectionLocality
import StateGuard.Library.RecordLog
import StateGuard.Runtime.EventJson
import StateGuard.Runtime.ManagedSession
import StateGuard.Runtime.SessionInvariant
import StateGuard.Runtime.SessionCompletion
import StateGuard.Runtime.TranscriptAgreement
import StateGuard.Runtime.RequestHeaders
import StateGuard.Runtime.Capability
import StateGuard.Runtime.CapabilityAgreement
import StateGuard.Library.Glob
import StateGuard.Library.Worklist
import StateGuard.Python.Fnmatch
import StateGuard.Discovery.Files
import StateGuard.Discovery.FilesFound
