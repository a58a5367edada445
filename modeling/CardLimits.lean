import CardLimits.Files.Tree
import CardLimits.Main
import CardLimits.Proofs.Serving
import CardLimits.Session
import CardLimits.Proofs.Cutoff
import CardLimits.Proofs.Quota
import CardLimits.Proofs.FixtureRuns
import CardLimits.Proofs.Agreement
import CardLimits.Proofs.LimitHistory
import CardLimits.Proofs.InterleavedPushes
import CardLimits.Proofs.RaisedLimit
import CardLimits.Proofs.FullQuota
import CardLimits.Proofs.DeletedCards
import CardLimits.Proofs.UpgradeRequests
import CardLimits.Proofs.Batches
import CardLimits.Proofs.LimitedViews
import CardLimits.Proofs.Activity
import CardLimits.Proofs.Workspaces
import CardLimits.Proofs.SkippedReadings
import CardLimits.Proofs.FixtureRoundTrips
import CardLimits.Proofs.Ranking
import CardLimits.Proofs.Fetches
import CardLimits.Proofs.FixtureReaders
import CardLimits.Proofs.AppliedAgain
import CardLimits.Proofs.CheckFetches
import CardLimits.Proofs.ClosedDatabase
import CardLimits.Proofs.PageOffsets
import CardLimits.Proofs.CauseChains
import CardLimits.Proofs.Configurations
import CardLimits.Proofs.KnownMembers
import CardLimits.Proofs.StoredRows
import CardLimits.Proofs.Roles
