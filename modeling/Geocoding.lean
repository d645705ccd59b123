import Geocoding.Text.Blank
import Geocoding.Text.Lowercase
import Geocoding.Text.Numeral
import Geocoding.Text.Quoted
import Geocoding.Decimal.Fixed
import Geocoding.Decimal.Plain
import Geocoding.Decimal.Reading
import Geocoding.Json.Reader
import Geocoding.Json.Writer
import Geocoding.Search
import Geocoding.Ring
import Geocoding.Nearest
import Geocoding.Radii
import Geocoding.Template
import Geocoding.Records
import Geocoding.Toml.Reader
import Geocoding.Url.Address
import Geocoding.TemplateFile
import Geocoding.Deadline
import Geocoding.Database.Credentials
import Geocoding.Database.Row
import Geocoding.Database.Session
import Geocoding.Attempt
import Geocoding.Pool
import Geocoding.Traffic
import Geocoding.Store
import Geocoding.Splitter
import Geocoding.Service
import Geocoding.Geocoder
import Geocoding.CommandLine.Invocation
import Geocoding.Connect
import Geocoding.CommandLine.Run
import Geocoding.Main
import Geocoding.FileTree
import Geocoding.Pool.Named
import Geocoding.Proofs.Pool.Statements
import Geocoding.Proofs.Traffic.Checkouts
import Geocoding.Proofs.Pool.Closing
import Geocoding.Proofs.Geocoder.Punctuality
import Geocoding.Proofs.Search.Independence
import Geocoding.Proofs.Search.Harmless
import Geocoding.Proofs.Service.Answer
import Geocoding.Proofs.Checking
import Geocoding.Proofs.Settings.Checks
import Geocoding.Proofs.CommandLine.Deadline
import Geocoding.Proofs.Database.Openings
import Geocoding.Proofs.Database.Sessions
import Geocoding.Proofs.Connect
import Geocoding.Proofs.Geocoder.Calls
import Geocoding.Proofs.Traffic.Quiet
import Geocoding.Proofs.CommandLine.Status
import Geocoding.Proofs.Nearest.Ranking
import Geocoding.Proofs.Nearest.Reordering
import Geocoding.Proofs.CommandLine.Globe
import Geocoding.Proofs.Database.Rows
import Geocoding.Proofs.Search.Query
import Geocoding.Proofs.Template.Lines
import Geocoding.Proofs.Url.Parts
import Geocoding.Proofs.Service.Endpoint
import Geocoding.Proofs.Template.Literal
import Geocoding.Proofs.Sql.Assembly
import Geocoding.Proofs.Radii
import Geocoding.Proofs.Projection
import Geocoding.Proofs.Address
import Geocoding.Proofs.TemplateFile
import Geocoding.Proofs.Records
