import AtlasManifests.Assoc
import AtlasManifests.ControlPlane.Basic
import AtlasManifests.ControlPlane.Http
import AtlasManifests.ControlPlane.Page
import AtlasManifests.Definition.Basic
import AtlasManifests.Definition.Catalogue
import AtlasManifests.Definition.Curated
import AtlasManifests.Definition.Embedded
import AtlasManifests.Definition.Schema
import AtlasManifests.Digest.Sha256
import AtlasManifests.Encoding.Base64
import AtlasManifests.Error
import AtlasManifests.Export.CommandLine
import AtlasManifests.Export.Config
import AtlasManifests.Export.Run
import AtlasManifests.Inventory.AccessEntry
import AtlasManifests.Inventory.Cluster
import AtlasManifests.Inventory.DatabaseUser
import AtlasManifests.Inventory.Federation
import AtlasManifests.Inventory.Integration
import AtlasManifests.Inventory.Network
import AtlasManifests.Inventory.Project
import AtlasManifests.Inventory.Tag
import AtlasManifests.Inventory.Topology
import AtlasManifests.Json.Basic
import AtlasManifests.Json.Equality
import AtlasManifests.Json.Pointer
import AtlasManifests.Json.Reader
import AtlasManifests.Json.Record
import AtlasManifests.Json.Temporal
import AtlasManifests.Json.Writer
import AtlasManifests.Kind
import AtlasManifests.Label.Basic
import AtlasManifests.Label.Claims
import AtlasManifests.Main
import AtlasManifests.Manifest.AccessList
import AtlasManifests.Manifest.Basic
import AtlasManifests.Manifest.Context
import AtlasManifests.Manifest.DatabaseUser
import AtlasManifests.Manifest.Deployment
import AtlasManifests.Manifest.Federation
import AtlasManifests.Manifest.Generated
import AtlasManifests.Manifest.Integration
import AtlasManifests.Manifest.Linkage
import AtlasManifests.Manifest.Metadata
import AtlasManifests.Manifest.Network
import AtlasManifests.Manifest.Project
import AtlasManifests.Manifest.Resource
import AtlasManifests.Manifest.Secret
import AtlasManifests.Manifest.Tag
import AtlasManifests.Manifest.Topology
import AtlasManifests.Mapping.Listing
import AtlasManifests.Mapping.Mapper
import AtlasManifests.Mapping.Prune
import AtlasManifests.Mapping.References
import AtlasManifests.Number.Binary64
import AtlasManifests.Proofs.AdmittedManifests
import AtlasManifests.Proofs.Authentication
import AtlasManifests.Proofs.CatalogueLayouts
import AtlasManifests.Proofs.ClaimedNames
import AtlasManifests.Proofs.ClusterLinks
import AtlasManifests.Proofs.CommandLineRuns
import AtlasManifests.Proofs.DeclaredMembers
import AtlasManifests.Proofs.DeclaredTags
import AtlasManifests.Proofs.DefinitionLookup
import AtlasManifests.Proofs.DeploymentContents
import AtlasManifests.Proofs.DisambiguatedNames
import AtlasManifests.Proofs.DistinctNames
import AtlasManifests.Proofs.DocumentStreams
import AtlasManifests.Proofs.FailureCauses
import AtlasManifests.Proofs.FederationContents
import AtlasManifests.Proofs.Findings
import AtlasManifests.Proofs.FirstFailure
import AtlasManifests.Proofs.FreeCandidates
import AtlasManifests.Proofs.GreatestParts
import AtlasManifests.Proofs.GroupReferences
import AtlasManifests.Proofs.Instants
import AtlasManifests.Proofs.IntegrationLayouts
import AtlasManifests.Proofs.JoinedLabels
import AtlasManifests.Proofs.KindSelection
import AtlasManifests.Proofs.Labels
import AtlasManifests.Proofs.LinkModes
import AtlasManifests.Proofs.ListedVersions
import AtlasManifests.Proofs.Listings
import AtlasManifests.Proofs.ManifestRoundTrips
import AtlasManifests.Proofs.ManifestStreams
import AtlasManifests.Proofs.MappingInverse
import AtlasManifests.Proofs.MatchingNames
import AtlasManifests.Proofs.NearestIntegers
import AtlasManifests.Proofs.OmittedFields
import AtlasManifests.Proofs.OpenMaps
import AtlasManifests.Proofs.PairedRuns
import AtlasManifests.Proofs.ProviderBlocks
import AtlasManifests.Proofs.Pruning
import AtlasManifests.Proofs.ReadingByValue
import AtlasManifests.Proofs.Records
import AtlasManifests.Proofs.ReferentialIntegrity
import AtlasManifests.Proofs.SchemaAdmission
import AtlasManifests.Proofs.ScopedNames
import AtlasManifests.Proofs.ScriptedPages
import AtlasManifests.Proofs.SecretMaterial
import AtlasManifests.Proofs.SecretValues
import AtlasManifests.Proofs.SortedMaps
import AtlasManifests.Proofs.SourceRoundTrips
import AtlasManifests.Proofs.StageOrder
import AtlasManifests.Proofs.TypedForms
import AtlasManifests.Proofs.WellFormed
import AtlasManifests.Proofs.WrittenFields
import AtlasManifests.Proofs.WrittenLines
import AtlasManifests.Provider
import AtlasManifests.Shape.Basic
import AtlasManifests.Shape.Datum
import AtlasManifests.Shape.Objects
import AtlasManifests.Text.Blank
import AtlasManifests.Text.Casing
import AtlasManifests.Text.CasingTable
import AtlasManifests.Time.Instant
import AtlasManifests.Traced
import AtlasManifests.Yaml.Block
import AtlasManifests.Yaml.Glyph
import AtlasManifests.Yaml.Node
import AtlasManifests.Yaml.Passage
import AtlasManifests.Yaml.Plain
import AtlasManifests.Yaml.Resolve
import AtlasManifests.Yaml.Scalar
import AtlasManifests.Yaml.Stream
import AtlasManifests.Yaml.Token
import AtlasManifests.Yaml.TokenList
import AtlasManifests.Yaml.Writer
