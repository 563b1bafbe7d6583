import DistinctCount.Aggregate
import DistinctCount.Item
import DistinctCount.Proofs.MatrixCells
import DistinctCount.Proofs.SlotSearch
import DistinctCount.Proofs.TableSet
import DistinctCount.Proofs.TableCalls
import DistinctCount.Proofs.Layout
import DistinctCount.Proofs.LayingOut
import DistinctCount.Proofs.Collecting
import DistinctCount.Proofs.CouponSet
import DistinctCount.Proofs.Folding
import DistinctCount.Proofs.HistoricalCharge
import DistinctCount.Proofs.FromMatrix
import DistinctCount.Proofs.Merging
import DistinctCount.Proofs.BitStreams
import DistinctCount.Proofs.PrefixCodes
import DistinctCount.Proofs.TakenBits
import DistinctCount.Proofs.PairCodec
import DistinctCount.Proofs.CanonicalPairs
import DistinctCount.Proofs.WindowCodec
import DistinctCount.Proofs.FieldReaders
import DistinctCount.Proofs.HeadCodec
import DistinctCount.Proofs.ImagePairs
import DistinctCount.Proofs.Decoding
import DistinctCount.Proofs.RoundTrip
import DistinctCount.Proofs.MergedImage
import DistinctCount.Proofs.Accepted
import DistinctCount.Proofs.DecodeFaults
import DistinctCount.Proofs.Capacity
import DistinctCount.Proofs.MergeClosure
import DistinctCount.Proofs.ChunkedHash
import DistinctCount.Proofs.Invariance
import DistinctCount.Proofs.CanonicalLayout
import DistinctCount.Proofs.DistributedBuild
import DistinctCount.Proofs.SelfDelimiting
import DistinctCount.Proofs.MatrixInverse
import DistinctCount.Proofs.UpdateLimits
import DistinctCount.Proofs.ForwardBuild
import DistinctCount.Proofs.Downsampling
import DistinctCount.Proofs.DecimalRounding
import DistinctCount.Proofs.DecimalNumerals
import DistinctCount.Proofs.SignificantDigits
import DistinctCount.Proofs.StreamCalls
import DistinctCount.Proofs.HeadAnswers
import DistinctCount.Proofs.SortedItems
import DistinctCount.Proofs.StridedWalk
