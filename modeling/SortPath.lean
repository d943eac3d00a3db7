import SortPath.Catalog
import SortPath.Clause
import SortPath.Demo
import SortPath.Endpoint
import SortPath.Entity
import SortPath.Event
import SortPath.Fields
import SortPath.Main
import SortPath.Marker
import SortPath.Model
import SortPath.Model.Alias
import SortPath.Number.Binary64
import SortPath.Number.Shortest
import SortPath.PropertyPath
import SortPath.Registry
import SortPath.Render.Elasticsearch
import SortPath.Render.Mongo
import SortPath.Repositories
import SortPath.Request
import SortPath.Request.Query
import SortPath.Resolution
import SortPath.Route
import SortPath.Sample
import SortPath.Serialization
import SortPath.Service
import SortPath.Settings
import SortPath.Settings.EnvFile
import SortPath.SortParameter
import SortPath.Table
import SortPath.Text.Blank
import SortPath.Text.Case
import SortPath.Text.Case.Mappings
import SortPath.Text.Case.Sigma
import SortPath.Text.Printable
import SortPath.Text.Quoted
import SortPath.Text.Runs
import SortPath.Text.Split
import SortPath.Text.Utf8
import SortPath.TypeExpr
import SortPath.TypeExpr.Pool
import SortPath.TypeExpr.Printer
import SortPath.TypeExpr.Resolve
import SortPath.Url
import SortPath.Url.Address
import SortPath.Proofs.Decomposition
import SortPath.Proofs.Annotations
import SortPath.Proofs.Clauses
import SortPath.Proofs.Unwrapping
import SortPath.Proofs.Exposure
import SortPath.Proofs.Registration
import SortPath.Proofs.Reachability
import SortPath.Proofs.RepositoryRuns
import SortPath.Proofs.HiddenFields
import SortPath.Proofs.Composition
import SortPath.Proofs.Shortcuts
import SortPath.Proofs.Descent
import SortPath.Proofs.RequestUrls
import SortPath.Proofs.Answers
import SortPath.Proofs.Dispatch
import SortPath.Proofs.LetterCase
import SortPath.Proofs.MatchableNames
import SortPath.Proofs.Atomicity
import SortPath.Proofs.ParameterRoundTrip
import SortPath.Proofs.ParameterValues
import SortPath.Proofs.TrailingBlanks
import SortPath.Proofs.CanonicalPaths
import SortPath.Proofs.ResolutionFailures
import SortPath.Proofs.FieldNames
import SortPath.Proofs.DocumentOrder
import SortPath.Proofs.Lookups
import SortPath.Proofs.Wrappers
import SortPath.Proofs.MarkerLayers
import SortPath.Proofs.Keywords
import SortPath.Proofs.UnwrapDepth
import SortPath.Proofs.Renderings
import SortPath.Proofs.ExposedPaths
