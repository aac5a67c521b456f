import StorageDriver.Fleet
import StorageDriver.Kubernetes
import StorageDriver.Main
import StorageDriver.Search.Listing
import StorageDriver.Proofs.SearchMoves
import StorageDriver.Proofs.SearchReports
import StorageDriver.Proofs.SearchCover
import StorageDriver.Proofs.Connections
import StorageDriver.Proofs.Standing
import StorageDriver.Proofs.SearchOutcome
import StorageDriver.Proofs.Crowd
import StorageDriver.Proofs.NodeErrands
import StorageDriver.Proofs.NodeTurns
import StorageDriver.Proofs.NodeLocks
import StorageDriver.Proofs.NodeOrder
import StorageDriver.Proofs.NodeLedger
import StorageDriver.Proofs.NodeAtomicity
import StorageDriver.Proofs.Documents
import StorageDriver.Proofs.MachineEdits
import StorageDriver.Proofs.MachineFrame
import StorageDriver.Proofs.Attachments
import StorageDriver.Proofs.TaskWatch
import StorageDriver.Proofs.VolumeWork
import StorageDriver.Proofs.NodeEffects
import StorageDriver.Proofs.NodeLearning
import StorageDriver.Proofs.NodeCache
import StorageDriver.Proofs.NodeNeighbours
import StorageDriver.Proofs.Conduct
import StorageDriver.Proofs.NodeCallers
import StorageDriver.Proofs.NodeHistory
import StorageDriver.Proofs.NodeAbsence
import StorageDriver.Proofs.SearchEnd
import StorageDriver.Proofs.SearchLedger
import StorageDriver.Proofs.SearchThorough
import StorageDriver.Proofs.Contents
import StorageDriver.Proofs.Records
import StorageDriver.Proofs.DocumentRewrites
import StorageDriver.Proofs.SessionRenewal
import StorageDriver.Proofs.Wiretap
import StorageDriver.Proofs.Enquiries
import StorageDriver.Proofs.Runs
import StorageDriver.Proofs.Operations
import StorageDriver.Proofs.SingleCommand
import StorageDriver.Proofs.Estates
import StorageDriver.Proofs.Orders
import StorageDriver.Proofs.MachineWork
import StorageDriver.Proofs.Histories
import StorageDriver.Proofs.RepeatedPublications
import StorageDriver.Proofs.Resolutions
import StorageDriver.Proofs.Unpublications
import StorageDriver.Proofs.WholeDoubles
import StorageDriver.Proofs.CreatedVolumes
import StorageDriver.Proofs.CenterVisits
import StorageDriver.Proofs.Enumeration
import StorageDriver.Proofs.UsedWorlds
import StorageDriver.Proofs.SearchRuns
import StorageDriver.Proofs.NodeFreshness
import StorageDriver.Proofs.Failures
import StorageDriver.Proofs.HarmlessFailures
import StorageDriver.Proofs.SteadyCalls
import StorageDriver.Proofs.SteadySearches
import StorageDriver.Proofs.SteadyDrivers
import StorageDriver.Proofs.NodeCommands
import StorageDriver.Proofs.Configurations
import StorageDriver.Proofs.Expansions
import StorageDriver.Proofs.RoundTrips
import StorageDriver.Proofs.ExchangedTypes
import StorageDriver.Proofs.Discretion
import StorageDriver.Proofs.TwinSearches
import StorageDriver.Proofs.DiscreetProcedures
import StorageDriver.Proofs.DiscreetClients
import StorageDriver.Proofs.Dialogues
import StorageDriver.Proofs.Capacities
import StorageDriver.Proofs.Handles
import StorageDriver.Proofs.Overhearing
import StorageDriver.Proofs.Sweeps
import StorageDriver.Proofs.CountedCalls
import StorageDriver.Proofs.SearchNews
import StorageDriver.Proofs.LoneSearches
import StorageDriver.Proofs.AllowLists
import StorageDriver.Proofs.PlaneNumbers
import StorageDriver.Proofs.Escapes
import StorageDriver.Proofs.Segments
import StorageDriver.Proofs.Targets
import StorageDriver.Proofs.Addresses
