import Meteo.Axis.Basic
import Meteo.Cells.Store
import Meteo.Decimal.Text
import Meteo.Grid.Adapt
import Meteo.Log.Logger
import Meteo.Response.Delivery
import Meteo.Session
import Meteo.Station.Loading
import Meteo.Text.Utf8
import Meteo.Proofs.Axis.Cells
import Meteo.Proofs.Axis.Lookup
import Meteo.Proofs.Number.Double
import Meteo.Proofs.Response.Delivery
import Meteo.Proofs.Station.Loading
import Meteo.Proofs.Axis.Monotone
import Meteo.Proofs.Axis.Nearest
import Meteo.Proofs.Response.Csv
import Meteo.Proofs.Station.Times
import Meteo.Proofs.Response.Calls
import Meteo.Proofs.Station.Selection
import Meteo.Proofs.Response.Content
import Meteo.Proofs.Response.Agreement
import Meteo.Proofs.Response.Columns
import Meteo.Proofs.Response.Units
import Meteo.Proofs.Response.Kinds
import Meteo.Proofs.Classes
import Meteo.Proofs.Grid.Gridsets
import Meteo.Response.Xml.Reading
import Meteo.Proofs.Response.Xml.Characters
import Meteo.Proofs.Response.Xml.Reading
import Meteo.Proofs.Response.Xml.Figures
import Meteo.Proofs.Response.Document
import Meteo.Proofs.Grid.Coverages
import Meteo.Proofs.Grid.Firsts
import Meteo.Proofs.Grid.Names
import Meteo.Proofs.Grid.References
import Meteo.Proofs.Slice
import Meteo.Proofs.Grid.Levels
import Meteo.Proofs.Axis.Samples
import Meteo.Proofs.Station.Precedence
import Meteo.Proofs.Station.Names
import Meteo.Proofs.Grid.Failures
import Meteo.Proofs.Station.Acceptance
import Meteo.Proofs.Station.Storage
import Meteo.Proofs.Axis.Drift
import Meteo.Proofs.Number.Rounding
import Meteo.Proofs.Number.Value
import Meteo.Proofs.Session
import Meteo.Proofs.Number.Overflow
import Meteo.Proofs.Axis.Failures
import Meteo.Proofs.Number.Differences
import Meteo.Proofs.Axis.Edges
import Meteo.Proofs.Axis.Origin
import Meteo.Proofs.Response.Reading
import Meteo.Proofs.Number.Remainder
import Meteo.Proofs.Globe.Boxes
import Meteo.Proofs.Globe.Turns
import Meteo.Proofs.Grid.Lookup
import Meteo.Proofs.Station.Revision
import Meteo.Proofs.Station.Texts
import Meteo.Proofs.Least
import Meteo.Proofs.Number.Squares
import Meteo.Proofs.Station.Nearest
import Meteo.Proofs.Time.Instant
import Meteo.Proofs.Time.Range
import Meteo.Proofs.Station.Closest
import Meteo.Proofs.Station.Reduction
import Meteo.Proofs.Station.Untimed
import Meteo.Proofs.Axis.Midpoints
import Meteo.Proofs.Axis.Kept
import Meteo.Proofs.Number.Extended
import Meteo.Proofs.Axis.Missing
import Meteo.Proofs.Time.Calendar
import Meteo.Proofs.Time.RequestText
import Meteo.Proofs.Time.StoredText
import Meteo.Proofs.Time.Spellings
import Meteo.Proofs.Time.Written
