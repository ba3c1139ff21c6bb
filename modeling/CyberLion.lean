import CyberLion.ActionRuntimeBinding
import CyberLion.AdmittedEffects
import CyberLion.AgentRegistry
import CyberLion.AgentRegistryHistory
import CyberLion.AgentRegistryRuns
import CyberLion.AgentRegistrySteps
import CyberLion.AtomicProgram
import CyberLion.AuthorityAttenuation
import CyberLion.AuthorityGrant
import CyberLion.AuthorityLineage
import CyberLion.AuthorityRevocation
import CyberLion.AuthoritySource
import CyberLion.AuthorityStateRefinement
import CyberLion.AuthorityTokens
import CyberLion.AuthorityVerification
import CyberLion.BranchClassifier
import CyberLion.BreadthFirstSearch
import CyberLion.CanonicalFields
import CyberLion.CanonicalProcessIR
import CyberLion.ControlPlane
import CyberLion.DualResultJoin
import CyberLion.DualResultJoinRuns
import CyberLion.EnterpriseGraph
import CyberLion.EnterpriseGraphPaths
import CyberLion.EnterpriseModels
import CyberLion.ExecutorProvisioning
import CyberLion.FleetCoordination
import CyberLion.FleetCoordinationCycles
import CyberLion.FleetCoordinationHistory
import CyberLion.FleetCoordinationLeases
import CyberLion.FleetCoordinationLifecycle
import CyberLion.FleetCoordinationOpen
import CyberLion.FleetCoordinationPlan
import CyberLion.FleetCoordinationReads
import CyberLion.FleetCoordinationRecords
import CyberLion.FleetCoordinationReopen
import CyberLion.FleetCoordinationReplay
import CyberLion.FleetCoordinationRun
import CyberLion.FleetCoordinationSnapshots
import CyberLion.FleetCoordinationState
import CyberLion.FleetCoordinationVerify
import CyberLion.FleetMission
import CyberLion.FleetMissionCanonical
import CyberLion.FleetMissionCodec
import CyberLion.FleetMissionErrors
import CyberLion.FleetMissionRoundTrip
import CyberLion.FleetReconciliation
import CyberLion.FleetReconciliationReports
import CyberLion.FleetStatusCalls
import CyberLion.FleetStatusContracts
import CyberLion.FleetStatusDecoding
import CyberLion.FleetStatusHistory
import CyberLion.FleetStatusJournal
import CyberLion.FleetStatusLeases
import CyberLion.FleetStatusSourceJournal
import CyberLion.FleetStatusSources
import CyberLion.FleetStatusState
import CyberLion.FleetStatusVerification
import CyberLion.GraphCycles
import CyberLion.HashShapes
import CyberLion.JoinedText
import CyberLion.JsonAlike
import CyberLion.JsonAscii
import CyberLion.JsonCanonical
import CyberLion.JsonFloat
import CyberLion.JsonGrammar
import CyberLion.JsonLines
import CyberLion.JsonNumber
import CyberLion.JsonQuotes
import CyberLion.JsonReading
import CyberLion.JsonRoundTrip
import CyberLion.JsonSameValue
import CyberLion.JsonScan
import CyberLion.JsonSpelling
import CyberLion.JsonStrict
import CyberLion.JsonText
import CyberLion.JsonValue
import CyberLion.JsonWritable
import CyberLion.LiveAdmission
import CyberLion.LiveAuthorityAdmission
import CyberLion.LiveBindingFinalization
import CyberLion.Lpcl
import CyberLion.LpclBreaks
import CyberLion.LpclGrammar
import CyberLion.LpclRoundTrip
import CyberLion.MergeAdmission
import CyberLion.MergeAdmissionAgreement
import CyberLion.MergeAdmissionErrors
import CyberLion.MergeAdmissionRuns
import CyberLion.MissionDeletion
import CyberLion.MissionDeletionFrame
import CyberLion.MissionDeletionOrphans
import CyberLion.ModelCallRuns
import CyberLion.ModelCalls
import CyberLion.OperatorAnswers
import CyberLion.OperatorApplication
import CyberLion.OperatorAuthorization
import CyberLion.OperatorCommands
import CyberLion.OperatorControl
import CyberLion.OperatorCursors
import CyberLion.OperatorDeliveries
import CyberLion.OperatorEffects
import CyberLion.OperatorExactlyOnce
import CyberLion.OperatorIntervention
import CyberLion.OperatorIsolation
import CyberLion.OperatorMessageStates
import CyberLion.OperatorMessages
import CyberLion.OperatorTables
import CyberLion.OrderedSelection
import CyberLion.PersistentAuthorityState
import CyberLion.PhaseContractPreflight
import CyberLion.PhaseExecutionContract
import CyberLion.PolicyGate
import CyberLion.PolicyGateCeilings
import CyberLion.PolicyGateContracts
import CyberLion.PolicyGateReplay
import CyberLion.PolicyGateRuns
import CyberLion.PolicyGateSurvey
import CyberLion.PosixPath
import CyberLion.ProcessAction
import CyberLion.ProcessCanonicalForm
import CyberLion.ProcessCompletion
import CyberLion.ProcessContext
import CyberLion.ProcessContextFacts
import CyberLion.ProcessIR
import CyberLion.ProcessIRShape
import CyberLion.ProcessKeyOrder
import CyberLion.ProcessOutcomeTargets
import CyberLion.ProcessParallel
import CyberLion.ProcessParallelAgreement
import CyberLion.ProcessParallelSafety
import CyberLion.ProcessRun
import CyberLion.ProcessSeals
import CyberLion.ProcessSelectability
import CyberLion.ProcessSelection
import CyberLion.ProcessSemantics
import CyberLion.ProcessStep
import CyberLion.ProgramGaps
import CyberLion.ProgramPool
import CyberLion.ProgramRely
import CyberLion.ProgramSteps
import CyberLion.PyConvert
import CyberLion.PyDateTime
import CyberLion.PyDict
import CyberLion.PyError
import CyberLion.PyFloatRounding
import CyberLion.PyInt
import CyberLion.PyIsoFormat
import CyberLion.PyIsoRoundTrip
import CyberLion.PyLines
import CyberLion.PyObject
import CyberLion.PyText
import CyberLion.PyUtcText
import CyberLion.ReadThenWrite
import CyberLion.RegistryPrefilter
import CyberLion.RegistryProjection
import CyberLion.RegistryReadback
import CyberLion.ReplayPreimages
import CyberLion.RepositoryRefAuthority
import CyberLion.RuntimeAdmissionRuns
import CyberLion.RuntimeContracts
import CyberLion.RuntimeEnforcement
import CyberLion.RuntimeReconciler
import CyberLion.RuntimeReconciliation
import CyberLion.SaasBroker
import CyberLion.SaasBrokerCalls
import CyberLion.SaasBrokerFencing
import CyberLion.SaasBrokerHistory
import CyberLion.SaasBrokerOutcomes
import CyberLion.SaasBrokerRuns
import CyberLion.SaasBrokerTransactions
import CyberLion.SchedulerAdvertisements
import CyberLion.SchedulerArtifacts
import CyberLion.SchedulerAssignments
import CyberLion.SchedulerEffects
import CyberLion.SchedulerFences
import CyberLion.SchedulerPlans
import CyberLion.SchedulerReceipts
import CyberLion.SchedulerRevocations
import CyberLion.Sha256
import CyberLion.Sha256Evaluation
import CyberLion.SqlConnection
import CyberLion.SqlInvariants
import CyberLion.SqlStore
import CyberLion.SqlTable
import CyberLion.SwarmGovernor
import CyberLion.SwarmGovernorFencing
import CyberLion.SwarmPlanner
import CyberLion.SwarmPlans
import CyberLion.SwarmSeparation
import CyberLion.SwarmStatus
import CyberLion.SwarmStatusFaithful
import CyberLion.SwarmStatusLifecycle
import CyberLion.SwarmStatusRecovery
import CyberLion.SwarmStatusReplay
import CyberLion.SwarmStatusRun
import CyberLion.WorkerCrew
