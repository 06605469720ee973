import ShellGateway.Auth.Accounts
import ShellGateway.Auth.AuthorizedKeys
import ShellGateway.Auth.Record
import ShellGateway.CommandLine.Grammar
import ShellGateway.CommandLine.Invocation
import ShellGateway.CommandLine.Startup
import ShellGateway.CommandLine.UserSpec
import ShellGateway.Daemon.Channel
import ShellGateway.Daemon.Closer
import ShellGateway.Daemon.Delivery
import ShellGateway.Daemon.Login
import ShellGateway.Daemon.Options
import ShellGateway.Daemon.Service
import ShellGateway.Dictionary
import ShellGateway.Failure
import ShellGateway.Files.FileSystem
import ShellGateway.Files.Path
import ShellGateway.HostKey.Der
import ShellGateway.HostKey.Digest
import ShellGateway.HostKey.Keystream
import ShellGateway.HostKey.Pem
import ShellGateway.HostKey.Prime
import ShellGateway.HostKey.Rsa
import ShellGateway.HostKey.Source
import ShellGateway.Json.Printer
import ShellGateway.Json.Reader
import ShellGateway.Json.Value
import ShellGateway.Main
import ShellGateway.Net.Address
import ShellGateway.Net.Admission
import ShellGateway.Net.HostName
import ShellGateway.Net.Numeric
import ShellGateway.Net.Target
import ShellGateway.Programs.Program
import ShellGateway.Programs.Task
import ShellGateway.Remote.Message
import ShellGateway.Remote.Network
import ShellGateway.Remote.OneShot
import ShellGateway.Remote.Transfer
import ShellGateway.Session.Basic
import ShellGateway.Session.Call
import ShellGateway.Session.Control
import ShellGateway.Session.Hub
import ShellGateway.Session.Login
import ShellGateway.Session.Rehearsal
import ShellGateway.Session.Schedule
import ShellGateway.Session.Sweeper
import ShellGateway.Settings
import ShellGateway.Sftp.Breadcrumb
import ShellGateway.Sftp.Server
import ShellGateway.Terminal.Relay
import ShellGateway.Text.Base64
import ShellGateway.Text.Blank
import ShellGateway.Text.Bytes
import ShellGateway.Text.Description
import ShellGateway.Text.Digit
import ShellGateway.Text.Quoted
import ShellGateway.Text.Unprintable
import ShellGateway.Time.Calendar
import ShellGateway.Time.Duration
import ShellGateway.Time.Instant
import ShellGateway.Proofs.Secrecy
import ShellGateway.Proofs.Json.Grammar
import ShellGateway.Proofs.Json.Reading
import ShellGateway.Proofs.Json.Tokens
import ShellGateway.Proofs.Web.QueryDecision
import ShellGateway.Web.Pump
import ShellGateway.Web.TerminalQuery
import ShellGateway.Window
import ShellGateway.Proofs.Session.Frame
import ShellGateway.Proofs.Session.Life
import ShellGateway.Proofs.Session.Place
import ShellGateway.Proofs.Session.Conservation
import ShellGateway.Proofs.Session.Ledger
import ShellGateway.Proofs.Daemon.Activity
import ShellGateway.Proofs.Auth.Comparing
import ShellGateway.Proofs.Auth.PasswordDecision
import ShellGateway.Proofs.Auth.LoginAttempts
import ShellGateway.Proofs.HostKey.KeystreamLaw
import ShellGateway.Proofs.HostKey.Filling
import ShellGateway.Proofs.Auth.KeyGrammar
import ShellGateway.Proofs.Auth.KeyDocument
import ShellGateway.Proofs.Session.Grip
import ShellGateway.Proofs.Session.Release
import ShellGateway.Proofs.Session.Attached
import ShellGateway.Proofs.Session.Eviction
import ShellGateway.Proofs.Daemon.Verdicts
import ShellGateway.Proofs.Sftp.Table
import ShellGateway.Proofs.Sftp.Exchange
import ShellGateway.Proofs.Sftp.Handles
import ShellGateway.Proofs.Files.Contents
import ShellGateway.Proofs.Sftp.Writing
import ShellGateway.Proofs.Sftp.RoundTrip
import ShellGateway.Proofs.Sftp.Acknowledged
import ShellGateway.Proofs.Session.Traffic
import ShellGateway.Proofs.Terminal.Windows
import ShellGateway.Proofs.Session.Queues
import ShellGateway.Proofs.Session.Resizing
import ShellGateway.Proofs.Session.WindowRequests
import ShellGateway.Proofs.Terminal.Transparency
import ShellGateway.Proofs.Daemon.Parting
import ShellGateway.Proofs.Session.Solitude
import ShellGateway.Proofs.Session.Containment
import ShellGateway.Proofs.Session.Bounds
import ShellGateway.Proofs.HostKey.Encoding
import ShellGateway.Proofs.HostKey.Armour
import ShellGateway.Proofs.HostKey.Factors
import ShellGateway.Proofs.HostKey.SeededKey
import ShellGateway.Proofs.Session.Conduct
import ShellGateway.Proofs.Session.Touching
import ShellGateway.Proofs.Session.Streaming
import ShellGateway.Proofs.Session.LateAttachment
import ShellGateway.Proofs.Session.GivingUp
import ShellGateway.Proofs.Terminal.Tickets
import ShellGateway.Proofs.Session.Parties
import ShellGateway.Proofs.Session.Shares
import ShellGateway.Proofs.Session.Lockstep
import ShellGateway.Proofs.Session.Independence
import ShellGateway.Proofs.Text.Utf8
import ShellGateway.Proofs.Programs.Environment
import ShellGateway.Proofs.Daemon.Closing
import ShellGateway.Proofs.Daemon.History
import ShellGateway.Proofs.Daemon.Launched
import ShellGateway.Proofs.Daemon.ShellWindows
import ShellGateway.Proofs.Session.Senders
import ShellGateway.Proofs.Session.Staffing
import ShellGateway.Proofs.Session.OneQueue
import ShellGateway.Proofs.Session.Listening
import ShellGateway.Proofs.Session.LastWord
import ShellGateway.Proofs.Json.Printing
import ShellGateway.Proofs.Json.Records
import ShellGateway.Proofs.StoredForms
import ShellGateway.Web.Connection
import ShellGateway.Proofs.Web.Delivery
import ShellGateway.Proofs.Auth.KeyAccumulation
import ShellGateway.Proofs.Remote.OneShot
import ShellGateway.Proofs.Terminal.Opening
import ShellGateway.Proofs.Remote.Listing
import ShellGateway.Proofs.Sftp.Failing
import ShellGateway.Proofs.Auth.QuotedOptions
import ShellGateway.Proofs.Files.Paths
import ShellGateway.Proofs.Files.Walking
import ShellGateway.Proofs.Files.Operations
import ShellGateway.Proofs.Sftp.Soundness
import ShellGateway.Proofs.Sftp.RealPath
import ShellGateway.Proofs.Sftp.Breadcrumbs
import ShellGateway.Proofs.Daemon.StoredTerminal
import ShellGateway.Proofs.Daemon.GrantedVariables
import ShellGateway.Proofs.Files.Removal
import ShellGateway.Proofs.Remote.Deleting
import ShellGateway.Proofs.Session.OneSweeper
import ShellGateway.Proofs.CommandLine.UserSpecs
import ShellGateway.Proofs.Daemon.ListenAddress
