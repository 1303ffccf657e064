import CanDecoder.Bus
import CanDecoder.Channel
import CanDecoder.Conversion
import CanDecoder.Disk
import CanDecoder.Ecu
import CanDecoder.Error
import CanDecoder.Failure
import CanDecoder.Fallback
import CanDecoder.Frame
import CanDecoder.FrameId
import CanDecoder.Grid
import CanDecoder.Hex
import CanDecoder.Listing
import CanDecoder.Payload
import CanDecoder.PowerModule
import CanDecoder.Program
import CanDecoder.Settings
import CanDecoder.Tabular
import CanDecoder.Args.Help
import CanDecoder.Args.Parse
import CanDecoder.Args.Refusal
import CanDecoder.Args.Spec
import CanDecoder.Decimal.Binary
import CanDecoder.Decimal.Literal
import CanDecoder.Decimal.Natural
import CanDecoder.Decimal.Nearest
import CanDecoder.Decimal.Shortest
import CanDecoder.Decimal.Text
import CanDecoder.Json.Reader
import CanDecoder.Json.Value
import CanDecoder.Log.Line
import CanDecoder.Log.Report
import CanDecoder.Schema.Entry
import CanDecoder.Schema.Load
import CanDecoder.Schema.Yaml
import CanDecoder.Term.Similar
import CanDecoder.Term.Style
import CanDecoder.Term.Wrap
import CanDecoder.Text.Blank
import CanDecoder.Text.Letter
import CanDecoder.Text.Lower
import CanDecoder.Text.Quoted
import CanDecoder.Text.Ranges
import CanDecoder.Text.Width
import CanDecoder.Toml.Document
import CanDecoder.Toml.Lexical
import CanDecoder.Toml.Parse
import CanDecoder.Toml.Rule
import CanDecoder.Yaml.Document
import CanDecoder.Yaml.Error
import CanDecoder.Yaml.Event
import CanDecoder.Yaml.Read
import CanDecoder.Yaml.Scanner
import CanDecoder.Yaml.Token
import CanDecoder.Yaml.Value
import CanDecoder.Main
import CanDecoder.Proofs.FrameDecode
import CanDecoder.Proofs.EcuState
import CanDecoder.Proofs.SortedTable
import CanDecoder.Proofs.SchemaLoad
import CanDecoder.Proofs.ChannelItems
import CanDecoder.Proofs.PayloadDecoding
import CanDecoder.Proofs.Registration
import CanDecoder.Proofs.LogLines
import CanDecoder.Proofs.LogReport
import CanDecoder.Proofs.FrameIdText
import CanDecoder.Proofs.LogLayouts
import CanDecoder.Proofs.PowerModuleLayouts
import CanDecoder.Proofs.EcuHandles
import CanDecoder.Proofs.CsvReading
import CanDecoder.Proofs.SchemaListing
import CanDecoder.Proofs.ExtractorChannels
import CanDecoder.Proofs.LowerCase
import CanDecoder.Proofs.CamelKey
import CanDecoder.Proofs.FormulaNormalForm
import CanDecoder.Proofs.PayloadReaders
