import Gleaner.Cache.Crowd
import Gleaner.Engine
import Gleaner.Log
import Gleaner.SharedEngine
import Gleaner.Proofs.Engine.Requests
import Gleaner.Proofs.Cache.Attempts
import Gleaner.Proofs.Engine.History
import Gleaner.Proofs.Engine.Transparency
import Gleaner.Proofs.Crowd.Locks
import Gleaner.Proofs.Crowd.SingleParse
import Gleaner.Proofs.Crowd.Serial
import Gleaner.Proofs.Cache.Recency
import Gleaner.Proofs.Cache.Bounds
import Gleaner.Proofs.Cache.Accesses
import Gleaner.Proofs.Cache.FirstStore
import Gleaner.Proofs.Cache.Counters
import Gleaner.Proofs.Cache.Ahead
import Gleaner.Proofs.Cache.Flattening
import Gleaner.Proofs.Cache.Replay
import Gleaner.Proofs.Crowd.Alone
import Gleaner.Proofs.Cache.Failures
import Gleaner.Proofs.Url.Cuts
import Gleaner.Proofs.Engine.Escapes
import Gleaner.Proofs.Engine.Precedence
import Gleaner.Proofs.Engine.Extensions
import Gleaner.Proofs.Engine.Sharing
import Gleaner.Proofs.Json.Grammar
import Gleaner.Proofs.Json.Numerals
import Gleaner.Proofs.Json.Strings
import Gleaner.Proofs.Json.Scalars
import Gleaner.Proofs.Json.Compounds
import Gleaner.Proofs.Json.Values
import Gleaner.Proofs.Json.Reading
import Gleaner.Proofs.Url.Outline
import Gleaner.Proofs.Url.Hosts
import Gleaner.Proofs.Url.Assembly
import Gleaner.Proofs.Settings.Loading
import Gleaner.Proofs.Registry.History
import Gleaner.Proofs.Path.Walks
