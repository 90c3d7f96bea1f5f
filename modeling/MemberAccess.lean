import MemberAccess.Declaration.Declare
import MemberAccess.Engine.Compile
import MemberAccess.Member.Resolve
import MemberAccess.Benchmark.Affinity
import MemberAccess.Benchmark.Cases
import MemberAccess.Benchmark.Run
import MemberAccess.Proofs.EqualShapes
import MemberAccess.Proofs.EqualDescriptors
import MemberAccess.Proofs.CacheRuns
import MemberAccess.Proofs.DirectUse
import MemberAccess.Proofs.TypedReceivers
import MemberAccess.Proofs.PinnedValues
import MemberAccess.Proofs.KeptValues
import MemberAccess.Proofs.UnionVerdicts
import MemberAccess.Proofs.ClosedAccessors
import MemberAccess.Proofs.FaithfulDescriptions
import MemberAccess.Proofs.ArgumentSequences
import MemberAccess.Proofs.SetFields
import MemberAccess.Proofs.PropertyTypes
import MemberAccess.Proofs.DefaultAccessors
import MemberAccess.Proofs.AnsweredQuestions
import MemberAccess.Proofs.UnionSources
import MemberAccess.Proofs.ChainedAssignability
import MemberAccess.Proofs.GenericAncestry
import MemberAccess.Proofs.StaticFields
import MemberAccess.Proofs.AdaptiveSampling
import MemberAccess.Proofs.WrittenProcessors
import MemberAccess.Proofs.NormalForms
