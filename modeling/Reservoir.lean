import Reservoir.Grid.Given
import Reservoir.Grid.HeightMap
import Reservoir.Proofs.Control.Trace
import Reservoir.Proofs.Grid.Chains
import Reservoir.Proofs.Grid.BoxConnections
import Reservoir.Proofs.Session.Checked
import Reservoir.Proofs.Session.FirstState
import Reservoir.Proofs.Session.Renewal
import Reservoir.Proofs.Session.AddedWells
import Reservoir.Proofs.Session.Layout
import Reservoir.Proofs.Session.Address
import Reservoir.Proofs.Grid.Refused
import Reservoir.Proofs.Grid.Renumbering
import Reservoir.Proofs.Grid.VerticalRuns
import Reservoir.Proofs.Session.References
import Reservoir.Proofs.Grid.DrawnColumns
import Reservoir.Proofs.State.ShareRates
import Reservoir.Proofs.Session.GivenCells
import Reservoir.Proofs.Session.Unhandled
import Reservoir.Proofs.Session.Shown
import Reservoir.Proofs.Grid.Multiplicity
import Reservoir.Proofs.State.Table
import Reservoir.Proofs.Session.Table
import Reservoir.Proofs.Number.Sign
import Reservoir.Proofs.Session.SmallRate
