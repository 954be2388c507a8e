import DeclBundle.Main
import DeclBundle.Proofs.Build.Exactness
import DeclBundle.Proofs.Build.FileSystem
import DeclBundle.Proofs.Build.Inputs
import DeclBundle.Proofs.Build.Order
import DeclBundle.Proofs.Build.Overwriting
import DeclBundle.Proofs.Build.Placement
import DeclBundle.Proofs.Build.Presentation
import DeclBundle.Proofs.Build.Spelling
import DeclBundle.Proofs.Component.Erasure
import DeclBundle.Proofs.Component.Language
import DeclBundle.Proofs.Component.Quoting
import DeclBundle.Proofs.Component.Specifier
import DeclBundle.Proofs.Config.Layering
import DeclBundle.Proofs.Config.Loading
import DeclBundle.Proofs.Engine.Failure
import DeclBundle.Proofs.Engine.Reported
import DeclBundle.Proofs.Engine.Tsconfig
import DeclBundle.Proofs.Filter.Below
import DeclBundle.Proofs.Filter.Written
import DeclBundle.Proofs.Options.Merging
import DeclBundle.Proofs.Path.Ancestor
