import AddonPackager.Archive.Zip
import AddonPackager.Bootstrap.Generation
import AddonPackager.Build.Output
import AddonPackager.CommandLine.Basic
import AddonPackager.InstallManifest.Basic
import AddonPackager.Locale.Fallback
import AddonPackager.Main
import AddonPackager.Metadata.Layers
import AddonPackager.Proofs.Bootstrap.Resolution
import AddonPackager.Proofs.Bootstrap.VisitedModules
import AddonPackager.Proofs.Build.Creation
import AddonPackager.Proofs.Build.Sealing
import AddonPackager.Proofs.Catalog.RoundTrip
import AddonPackager.Proofs.Locale.Completion
import AddonPackager.Proofs.Metadata.Layering
import AddonPackager.Proofs.Signature.Listing
import AddonPackager.Signature.Signing
import AddonPackager.Template.Render
import AddonPackager.Proofs.FileTree.Siblings
import AddonPackager.Proofs.Metadata.Inheritance
import AddonPackager.Proofs.Build.LocaleScope
import AddonPackager.Proofs.Build.LocaleIndependence
import AddonPackager.Proofs.DiskPath.FileNames
import AddonPackager.Proofs.Build.IgnoredNames
import AddonPackager.Proofs.Package.FlatWalk
import AddonPackager.Proofs.Bundle.Messages
import AddonPackager.Proofs.InstallManifest.Markup
import AddonPackager.Proofs.Build.MemberPaths
import AddonPackager.Proofs.Catalog.DtdGrammar
import AddonPackager.Proofs.Locale.MalformedTargets
import AddonPackager.Proofs.Build.ReferenceFiles
import AddonPackager.Proofs.Locale.PlaceholderLines
import AddonPackager.Proofs.Contributor.LiteralOrder
import AddonPackager.Proofs.Script.RequireCalls
import AddonPackager.Proofs.Contributor.NamedTags
import AddonPackager.Proofs.Catalog.OrderedMap
import AddonPackager.Proofs.Build.Params
