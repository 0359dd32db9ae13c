import GeoChain.Job
import GeoChain.Main
import GeoChain.Proofs.Backend.Discovery
import GeoChain.Proofs.Backend.Endpoint
import GeoChain.Proofs.Catalog.Projection
import GeoChain.Proofs.Catalog.Requirement
import GeoChain.Proofs.Catalog.Wire
import GeoChain.Proofs.Chain.Wire
import GeoChain.Proofs.Compile.Anonymous
import GeoChain.Proofs.Compile.Depth
import GeoChain.Proofs.Compile.Line
import GeoChain.Proofs.Compile.Listed
import GeoChain.Proofs.Compile.Mapset
import GeoChain.Proofs.Compile.Part
import GeoChain.Proofs.Compile.Pruned
import GeoChain.Proofs.Compile.Respelled
import GeoChain.Proofs.Dataset.Reference
import GeoChain.Proofs.Graph.GraphId
import GeoChain.Proofs.Graph.Pattern
import GeoChain.Proofs.Graph.Shadowed
import GeoChain.Proofs.Process.Context
import GeoChain.Proofs.Process.DateRange
import GeoChain.Proofs.Process.Region
