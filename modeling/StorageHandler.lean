import StorageHandler.Cli.Program
import StorageHandler.Client.Connect
import StorageHandler.Conf.Address
import StorageHandler.Conf.File
import StorageHandler.Conf.ListValue
import StorageHandler.Conf.Masters
import StorageHandler.Conf.Overlay
import StorageHandler.Conf.Setting
import StorageHandler.Event
import StorageHandler.Main
import StorageHandler.Schema.Mapping
import StorageHandler.Ship.Shipment
import StorageHandler.Text.Capital
import StorageHandler.Token.File
import StorageHandler.Proofs.OrderedMap
import StorageHandler.Proofs.Token.Reader
import StorageHandler.Proofs.Token.RoundTrip
import StorageHandler.Proofs.Token.Layout
import StorageHandler.Proofs.Token.Refusal
import StorageHandler.Proofs.Conf.Masters
import StorageHandler.Proofs.Client.Connect
import StorageHandler.Proofs.Cli.Masters
import StorageHandler.Proofs.Client.Handle
import StorageHandler.Proofs.Token.Truncation
import StorageHandler.Proofs.Token.Minimal
import StorageHandler.Proofs.Token.Canonical
import StorageHandler.Proofs.Conf.Entries
import StorageHandler.Proofs.Conf.Held
import StorageHandler.Proofs.Client.Build
import StorageHandler.Proofs.Client.Session
import StorageHandler.Proofs.Client.Confinement
import StorageHandler.Proofs.Distinct
import StorageHandler.Proofs.Results
import StorageHandler.Proofs.Token.Grammar
import StorageHandler.Proofs.Conf.Precedence
import StorageHandler.Proofs.Files.Resolve
import StorageHandler.Proofs.Files.Uri
import StorageHandler.Proofs.Ship.Union
import StorageHandler.Proofs.Conf.Operations
import StorageHandler.Proofs.Conf.Settings
import StorageHandler.Proofs.Conf.Dictionary
import StorageHandler.Proofs.Conf.Runs
import StorageHandler.Proofs.Client.Selection
import StorageHandler.Proofs.Ship.Origin
import StorageHandler.Proofs.Ship.Sequence
import StorageHandler.Proofs.Token.Series
import StorageHandler.Proofs.Ship.Steps
import StorageHandler.Proofs.Text.Numeral
import StorageHandler.Proofs.Conf.AddressList
import StorageHandler.Proofs.Conf.AddressGrammar
import StorageHandler.Proofs.Conf.Overlay
import StorageHandler.Proofs.Schema.Columns
import StorageHandler.Proofs.Text.Capital
import StorageHandler.Proofs.Schema.Names
import StorageHandler.Proofs.Conf.File
import StorageHandler.Proofs.Conf.ListValue
import StorageHandler.Proofs.Cli.KeyValue
import StorageHandler.Proofs.Conf.Contents
import StorageHandler.Proofs.Cli.TokenList
import StorageHandler.Proofs.Cli.Rows
import StorageHandler.Proofs.Cli.Console
import StorageHandler.Proofs.Client.Library
import StorageHandler.Proofs.Conf.Collections
import StorageHandler.Proofs.Token.Turns
