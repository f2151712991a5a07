import MetricsView.Host.World
import MetricsView.Main
import MetricsView.Service
import MetricsView.Proofs.Catalog.Commutation
import MetricsView.Proofs.Catalog.Persistence
import MetricsView.Proofs.Catalog.Listing
import MetricsView.Proofs.Service.Guard
import MetricsView.Proofs.Query.Arguments
import MetricsView.Proofs.Query.Meaning
import MetricsView.Proofs.Query.Shape
import MetricsView.Proofs.Settings.Limit
import MetricsView.Proofs.Row.Exact
import MetricsView.Proofs.Row.Shaping
import MetricsView.Proofs.Row.Conversion
import MetricsView.Proofs.Service.Response
import MetricsView.Proofs.Query.Faithful
import MetricsView.Proofs.Query.RoundTrip
import MetricsView.Proofs.Catalog.Revision
import MetricsView.Proofs.Row.Range
import MetricsView.Proofs.Query.Faults
import MetricsView.Proofs.Query.Edits
import MetricsView.Proofs.Query.Assembly
import MetricsView.Proofs.Settings.Segmentation
import MetricsView.Proofs.Command.Session

