import ResumeIr.SearchRuntime.AnsweredQueries
import ResumeIr.MetaStore.Publication.Retention
import ResumeIr.Daemon.SearchService.GenerationHandoff
import ResumeIr.ImportPipeline.VectorHistory
import ResumeIr.ImportPipeline.CommitPlan
import ResumeIr.Daemon.WriterBarrier
import ResumeIr.MetaStore.Imports.StrandedJobs
import ResumeIr.MetaStore.Sources.OcrAttempts
import ResumeIr.Desktop.LifecycleSnapshot
import ResumeIr.MetaStore.Repairs.BoundedRepair
import ResumeIr.Embedder.SupervisorRuns
import ResumeIr.Embedder.Framing
import ResumeIr.Daemon.SearchService.TokenLiveness
import ResumeIr.Daemon.SearchService.Batch
import ResumeIr.Privacy.Signals
import ResumeIr.ImportPipeline.DocumentDelta
import ResumeIr.ImportPipeline.ParallelRun
import ResumeIr.IndexVector.Updates
import ResumeIr.SearchRuntime.SemanticCandidates
import ResumeIr.MetaStore.Publication.Fingerprints
import ResumeIr.Daemon.IpcProtocol
import ResumeIr.Daemon.SourcePreview
