import CacheSim.Main
import CacheSim.Proofs.RankTree.Multiset
import CacheSim.Proofs.Tables
import CacheSim.Proofs.VictimQueue
import CacheSim.Proofs.VictimCalls
import CacheSim.Proofs.GhostChain
import CacheSim.Proofs.GhostLog
import CacheSim.Proofs.Scoring
import CacheSim.Proofs.Tally
import CacheSim.Proofs.Roster.Transitions
import CacheSim.Proofs.Roster.Consistency
import CacheSim.Proofs.Cache.Calls
import CacheSim.Proofs.Cache.Lockstep
import CacheSim.Proofs.Cache.Progress
import CacheSim.Proofs.Cache.Chronicle
import CacheSim.Proofs.Cache.Events
import CacheSim.Proofs.Cache.Conservation
import CacheSim.Proofs.Cache.Coverage
import CacheSim.Proofs.Cache.Bounds
import CacheSim.Proofs.Cache.Victims
import CacheSim.Proofs.Cache.Frozen
import CacheSim.Proofs.Textbook.Precedence
import CacheSim.Proofs.Textbook.ListCache
import CacheSim.Proofs.Textbook.Simulation
import CacheSim.Proofs.Textbook.Inclusion
import CacheSim.Trace.Cursor
import CacheSim.Proofs.Text.Pieces
import CacheSim.Proofs.Trace.Iteration
import CacheSim.Proofs.Trace.Records
import CacheSim.Proofs.Text.Utf8
import CacheSim.Proofs.Text.Unsigned
import CacheSim.Proofs.Trace.Listing
import CacheSim.Proofs.Trace.Lines
import CacheSim.Proofs.Metrics
import CacheSim.Proofs.Simulation
import CacheSim.Proofs.Sweep.Schedule
import CacheSim.Proofs.Sweep.Report
import CacheSim.Proofs.Config
import CacheSim.Proofs.Trace.Options
import CacheSim.Proofs.Text.Lossy
import CacheSim.Proofs.Trace.Endings
import CacheSim.Proofs.RankTree.Ranks
import CacheSim.Proofs.RankTree.Calls
import CacheSim.Proofs.Ages
import CacheSim.Proofs.Priorities
import CacheSim.Proofs.Roster.Stays
import CacheSim.Proofs.Roster.Draining
import CacheSim.Proofs.Matching
import CacheSim.Proofs.Ends
import CacheSim.Proofs.GhostList
import CacheSim.Proofs.GhostCalls
import CacheSim.Proofs.GhostRoom
import CacheSim.Proofs.GhostWindow
import CacheSim.Proofs.GhostBudgets
import CacheSim.Proofs.TimeOrder
import CacheSim.Proofs.Roster.Alike
import CacheSim.Proofs.Cache.Gains
import CacheSim.Proofs.Cache.Alike
import CacheSim.Proofs.Cache.Clearing
import CacheSim.Proofs.Cache.Bypassing
import CacheSim.Proofs.Cache.Renaming
import CacheSim.Proofs.Cache.Summary
import CacheSim.Proofs.Cache.Service
import CacheSim.Proofs.Units
import CacheSim.Proofs.Cache.Scaled
import CacheSim.Proofs.Cache.OtherUnits
import CacheSim.Proofs.Cache.Collapse
import CacheSim.Proofs.Cache.ZeroPercentile
import CacheSim.Proofs.Text.Numerals
import CacheSim.Proofs.Trace.Grammar
import CacheSim.Proofs.Size
import CacheSim.Proofs.RankTree.FreeSlots
import CacheSim.Proofs.RankTree.HeapOrder
import CacheSim.Proofs.RankTree.History
import CacheSim.Proofs.Hashing
