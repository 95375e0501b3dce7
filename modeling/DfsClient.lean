import DfsClient.Client.Call
import DfsClient.Client.Program
import DfsClient.Engine.Choice
import DfsClient.Engine.Embedder
import DfsClient.Engine.Memory.Session
import DfsClient.Engine.Scripted
import DfsClient.Formats.Standard
import DfsClient.Proofs.ErrorSlots
import DfsClient.Proofs.Layering
import DfsClient.Proofs.OpenFiles
import DfsClient.Proofs.Sentinels
import DfsClient.Proofs.Services
import DfsClient.Proofs.Notices
import DfsClient.Proofs.Unobserved
import DfsClient.Proofs.FaultInjection
import DfsClient.Proofs.Lifetimes
import DfsClient.Proofs.Announcements
import DfsClient.Proofs.Attachment
import DfsClient.Proofs.Isolation
import DfsClient.Proofs.Clusters
import DfsClient.Proofs.Confinement
import DfsClient.Proofs.Numerals
import DfsClient.Proofs.Interleaving
import DfsClient.Proofs.Accounting
import DfsClient.Proofs.Overrides
import DfsClient.Proofs.LogFilter
import DfsClient.Proofs.ConnectVariants
import DfsClient.Proofs.ConnectProtocol
import DfsClient.Proofs.Guards
import DfsClient.Proofs.StaleErrors
import DfsClient.Proofs.BoundSessions
import DfsClient.Proofs.Containment
import DfsClient.Proofs.Leaves
import DfsClient.Proofs.IntegerLookup
import DfsClient.Proofs.TypedLeaves
import DfsClient.Proofs.Settings
import DfsClient.Proofs.SnapshotLayers
import DfsClient.Proofs.OptionFields
import DfsClient.Proofs.Endpoints
import DfsClient.Proofs.LastMessage
import DfsClient.Proofs.FilterRequests
import DfsClient.Proofs.DefaultPath
import DfsClient.Proofs.Reconnects
import DfsClient.Proofs.Seeking
import DfsClient.Proofs.DirectoryLists
