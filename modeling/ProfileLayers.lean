import ProfileLayers.Environment
import ProfileLayers.Profile.Shared
import ProfileLayers.Proofs.Discovery
import ProfileLayers.Proofs.Selection
import ProfileLayers.Proofs.Walk
import ProfileLayers.Proofs.Layers
import ProfileLayers.Proofs.Precedence
import ProfileLayers.Proofs.ActiveList
import ProfileLayers.Proofs.SourceName
import ProfileLayers.Proofs.Veto
import ProfileLayers.Proofs.LoadedSource
import ProfileLayers.Proofs.OutsideProfiles
import ProfileLayers.Proofs.FailedLoad
import ProfileLayers.Proofs.Reload
import ProfileLayers.Proofs.SourceTree
import ProfileLayers.Proofs.Agreement
import ProfileLayers.Proofs.Hiding
import ProfileLayers.Proofs.Visibility
import ProfileLayers.Proofs.IndexedList
import ProfileLayers.Proofs.ReservedKeys
import ProfileLayers.Proofs.JsonRoundTrip
import ProfileLayers.Proofs.FirstDefect
import ProfileLayers.Proofs.PlainKeys
import ProfileLayers.Proofs.PassCount
import ProfileLayers.Proofs.LeafMerge
import ProfileLayers.Proofs.ListedKeys
import ProfileLayers.Proofs.CommaList
import ProfileLayers.Proofs.Surroundings
import ProfileLayers.Proofs.ListForms
import ProfileLayers.Proofs.ExpressionText
import ProfileLayers.Proofs.LoadFailure
import ProfileLayers.Proofs.SetSemantics
import ProfileLayers.Proofs.LoneScalar
import ProfileLayers.Proofs.WrittenPlaces
import ProfileLayers.Proofs.IntegerScalars
import ProfileLayers.Proofs.MapHistory
import ProfileLayers.Proofs.SharedProfiles
import ProfileLayers.Proofs.IndexScan
import ProfileLayers.Proofs.Collisions
import ProfileLayers.Proofs.NameRepeats
