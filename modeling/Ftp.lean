import Ftp.Panic
import Ftp.Text
import Ftp.Text.Blank
import Ftp.Text.Decimal
import Ftp.Text.Visible
import Ftp.Text.Quoted
import Ftp.Text.Shortest
import Ftp.Text.Utf8
import Ftp.Entries
import Ftp.Address
import Ftp.Calendar
import Ftp.FileInfo
import Ftp.Account.Rights
import Ftp.Account
import Ftp.Path
import Ftp.Reply
import Ftp.LineBuffer
import Ftp.Request
import Ftp.Program
import Ftp.Config
import Ftp.Toml.Moment
import Ftp.Toml.Value
import Ftp.Toml.Expression
import Ftp.Toml.Block
import Ftp.Toml.Number
import Ftp.Toml.Quoted
import Ftp.Toml.Document
import Ftp.Config.Tree
import Ftp.Config.KeyPath
import Ftp.Config.Field
import Ftp.Config.Load
import Ftp.Session
import Ftp.Setting
import Ftp.DataChannel
import Ftp.Transfer
import Ftp.Listing.Line
import Ftp.Listing
import Ftp.SessionTable
import Ftp.Command
import Ftp.Command.Port
import Ftp.Action
import Ftp.Dispatch
import Ftp.Server
import Ftp.Hooks
import Ftp.LocalDisk.Handles
import Ftp.LocalDisk
import Ftp.Simulation.Failure
import Ftp.Simulation.Network
import Ftp.Simulation.Disk
import Ftp.Simulation.World
import Ftp.Main
import Ftp.Proofs.LineSplit
import Ftp.Proofs.Monitor
import Ftp.Proofs.Form
import Ftp.Proofs.Change
import Ftp.Proofs.Reachable
import Ftp.Proofs.Footprint
import Ftp.Proofs.Confinement
import Ftp.Proofs.Mediation
import Ftp.Proofs.Provenance
import Ftp.Proofs.Ownership
import Ftp.Proofs.Handles
import Ftp.Proofs.Lifetime
import Ftp.Proofs.Login
import Ftp.Proofs.Transcript
import Ftp.Proofs.Replies
import Ftp.Proofs.Tally
import Ftp.Proofs.Isolation
import Ftp.Proofs.Opening
import Ftp.Proofs.Conduit
import Ftp.Proofs.Course
import Ftp.Proofs.Flow
import Ftp.Proofs.Download
import Ftp.Proofs.Upload
import Ftp.Proofs.Conduct
import Ftp.Proofs.Exclusion
import Ftp.Proofs.Platform
import Ftp.Proofs.Admission
import Ftp.Proofs.Separation
import Ftp.Proofs.Target
import Ftp.Proofs.Peers
import Ftp.Proofs.Encoding
import Ftp.Proofs.Wire
import Ftp.Proofs.Legible
import Ftp.Proofs.Stream
import Ftp.Proofs.Passive
import Ftp.Proofs.Forwarding
import Ftp.Proofs.Pass
import Ftp.Proofs.Hearing
import Ftp.Proofs.HangUp
import Ftp.Proofs.Workload
import Ftp.Proofs.Navigation
import Ftp.Proofs.Failure
import Ftp.Proofs.Availability
import Ftp.Proofs.Activity
import Ftp.Proofs.Expiry
import Ftp.Proofs.Registration
import Ftp.Proofs.Validity
import Ftp.Proofs.Keepalive
import Ftp.Proofs.Directory
import Ftp.Proofs.PortArgument
import Ftp.Proofs.EntryLine
import Ftp.Proofs.Lookup
import Ftp.Proofs.Delivery
import Ftp.Proofs.Provision
import Ftp.Proofs.Occupancy
import Ftp.Proofs.OpenFiles
