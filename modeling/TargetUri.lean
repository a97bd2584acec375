import TargetUri.Fetch
import TargetUri.Proofs.Config.Documented
import TargetUri.Proofs.Config.Edits
import TargetUri.Proofs.Config.Store
import TargetUri.Proofs.Http.Elision
import TargetUri.Proofs.Http.FieldLookup
import TargetUri.Proofs.Http.Noninterference
import TargetUri.Proofs.Http.Resolution
import TargetUri.Proofs.Http.TargetForms
import TargetUri.Proofs.Net.LocalAddress
import TargetUri.Proofs.Net.SocketPath
import TargetUri.Proofs.Path.Root
import TargetUri.Proofs.Resource.Kinds
import TargetUri.Proofs.Server.Acceptance
import TargetUri.Proofs.Server.AccessLog
import TargetUri.Proofs.Server.Disposal
import TargetUri.Proofs.Server.Hostless
import TargetUri.Proofs.Server.Shutdown
import TargetUri.Server.Session
