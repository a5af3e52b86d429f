import ConsulLookup.Call
import ConsulLookup.Cli.Arguments
import ConsulLookup.Cli.Command
import ConsulLookup.Cli.Program
import ConsulLookup.Config.Load
import ConsulLookup.Config.Model
import ConsulLookup.Config.Uri
import ConsulLookup.Directive
import ConsulLookup.Expression
import ConsulLookup.Json.Reader
import ConsulLookup.Json.Writer
import ConsulLookup.Number.Binary64
import ConsulLookup.Number.Layout
import ConsulLookup.Number.Shortest
import ConsulLookup.Number.Text
import ConsulLookup.Number.Seconds
import ConsulLookup.Operation.Catalogue
import ConsulLookup.Operation.Descriptor
import ConsulLookup.Operation.Registry
import ConsulLookup.Options.Coerce
import ConsulLookup.Options.Issue
import ConsulLookup.Options.Schema
import ConsulLookup.Query
import ConsulLookup.Request
import ConsulLookup.State
import ConsulLookup.Text.Alphanumeric
import ConsulLookup.Text.Blank
import ConsulLookup.Text.Case
import ConsulLookup.Text.Cased
import ConsulLookup.Text.Digit
import ConsulLookup.Text.Hex
import ConsulLookup.Text.LoneUnit
import ConsulLookup.Text.Printable
import ConsulLookup.Text.Quoted
import ConsulLookup.Text.Similarity
import ConsulLookup.Text.Utf8
import ConsulLookup.Url.Address
import ConsulLookup.Url.Split
import ConsulLookup.Value.Basic
import ConsulLookup.Value.Display
import ConsulLookup.Value.Mapping
import ConsulLookup.Value.Order
import ConsulLookup.Watch
import ConsulLookup.Watch.Iterator
import ConsulLookup.Yaml.Binary
import ConsulLookup.Yaml.Compose
import ConsulLookup.Yaml.Construct
import ConsulLookup.Yaml.Data
import ConsulLookup.Yaml.Load
import ConsulLookup.Yaml.Parser
import ConsulLookup.Yaml.Scanner
import ConsulLookup.Yaml.SetOrder
import ConsulLookup.Yaml.Time
import ConsulLookup.Yaml.Token
import ConsulLookup.Main
import ConsulLookup.Proofs.Call.Keys
import ConsulLookup.Proofs.Call.Consistency
import ConsulLookup.Proofs.Call.Layers
import ConsulLookup.Proofs.Options.Validation
import ConsulLookup.Proofs.Watch.Reference
import ConsulLookup.Proofs.State.Steps
import ConsulLookup.Proofs.State.LastSuccess
import ConsulLookup.Proofs.Directive.Handling
import ConsulLookup.Proofs.Directive.Reference
import ConsulLookup.Proofs.Watch.Recovery
import ConsulLookup.Proofs.Watch.Ending
import ConsulLookup.Proofs.Number.Doubling
import ConsulLookup.Proofs.Number.Seconds
import ConsulLookup.Proofs.Watch.Backoff
import ConsulLookup.Proofs.State.Lifecycle
import ConsulLookup.Proofs.State.Listeners
import ConsulLookup.Proofs.Expression.Split
import ConsulLookup.Proofs.Value.Override
import ConsulLookup.Proofs.Query.Decoding
import ConsulLookup.Proofs.Operation.Names
import ConsulLookup.Proofs.Config.Failures
import ConsulLookup.Proofs.Yaml.Values
import ConsulLookup.Proofs.Config.Reading
import ConsulLookup.Proofs.Config.NormalForm
