import Glasswyrm.Library.Run
import Glasswyrm.Library.KeyMap
import Glasswyrm.Lifecycle.Types
import Glasswyrm.Lifecycle.Fields
import Glasswyrm.Lifecycle.Rebase
import Glasswyrm.Lifecycle.Coordinator
import Glasswyrm.Lifecycle.Protocol
import Glasswyrm.Lifecycle.Simulation
import Glasswyrm.Lifecycle.Safety
import Glasswyrm.Output.Types
import Glasswyrm.Wm.Types
import Glasswyrm.Wm.Validation
import Glasswyrm.Lifecycle.Projection
import Glasswyrm.Wm.Removal
import Glasswyrm.Lifecycle.Evaluation
import Glasswyrm.Lifecycle.LostUpdate
import Glasswyrm.Lifecycle.Producers
import Glasswyrm.Compositor.DamageRegion
import Glasswyrm.Compositor.Types
import Glasswyrm.Compositor.SceneValidation
import Glasswyrm.Render.Incremental
import Glasswyrm.Compositor.OutputDamage
import Glasswyrm.Render.MultiOutput
import Glasswyrm.Compositor.Stacking
import Glasswyrm.Compositor.DamageCoverage
import Glasswyrm.Render.MultiRefinement
import Glasswyrm.Compositor.SceneRun
import Glasswyrm.Drm.DisplayRun
import Glasswyrm.Gwcomp.SnapshotUndo
import Glasswyrm.Gwcomp.Atomicity
import Glasswyrm.Gwcomp.BufferLifetime
import Glasswyrm.Library.Propagation
import Glasswyrm.Wm.Transaction
import Glasswyrm.Wm.Stability
import Glasswyrm.Wm.MiddlePixel
import Glasswyrm.Gwm.HashAgreement
import Glasswyrm.Server.ControlRun
import Glasswyrm.Server.Installation
import Glasswyrm.Server.ProjectedScene
import Glasswyrm.Server.ClientOutput
import Glasswyrm.Server.StreamRun
import Glasswyrm.Ipc.Utf8
import Glasswyrm.Output.PixelCenter
import Glasswyrm.Wm.ForestOrder
import Glasswyrm.Wm.Reach
import Glasswyrm.Server.InteractiveWm
import Glasswyrm.Render.FullFrame
import Glasswyrm.Server.ServerStateRun
import Glasswyrm.Server.SelectionStore
import Glasswyrm.Server.PolygonFill
import Glasswyrm.Server.EllipseFill
import Glasswyrm.Server.RasterOps
import Glasswyrm.Server.DamageRun
import Glasswyrm.Server.LineDraw
import Glasswyrm.Server.RandRRun
import Glasswyrm.Server.GrabInvariant
import Glasswyrm.Server.PropertyPieces
import Glasswyrm.Server.RenderFill
import Glasswyrm.Session.SessionHistory
import Glasswyrm.Geometry.Region
import Glasswyrm.Compositor.DamageBound
import Glasswyrm.Input.HitTest
import Glasswyrm.Input.EventRouting
import Glasswyrm.Server.CleanupExact
import Glasswyrm.Server.InvariantCheck
