import Tidebook.Proof.Priority
import Tidebook.Proof.Uncrossed
import Tidebook.Proof.Finality
import Tidebook.Proof.EventCodec
import Tidebook.Proof.Extraction
import Tidebook.Proof.GapWalk
import Tidebook.Proof.Checkpoints
import Tidebook.Proof.Replay
import Tidebook.Proof.Fragments
import Tidebook.Proof.TakerLaws
import Tidebook.Proof.EngineRefinement
import Tidebook.Proof.Ingestion
import Tidebook.Indexer.Decoder
import Tidebook.Indexer.Runtime
import Tidebook.Program.Events
import Tidebook.Library.Text
import Tidebook.Proof.Amounts
import Tidebook.Proof.Portfolio
import Tidebook.Proof.TransportFreshness
import Tidebook.Proof.SpotAccept
import Tidebook.Proof.Placement
import Tidebook.Proof.Cancellation
import Tidebook.Proof.SpotLeave
import Tidebook.Proof.PredictionPlan
import Tidebook.Proof.Lifecycle
import Tidebook.Proof.SpotTicket
import Tidebook.Proof.SpotReopening
import Tidebook.Proof.Stranded
import Tidebook.Proof.Journal
import Tidebook.Proof.Depth
import Tidebook.Proof.RpcProxy
import Tidebook.Proof.Outgrown
