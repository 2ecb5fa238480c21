import ProxyFilter.Main
import ProxyFilter.Proofs.Config.DomainMapText
import ProxyFilter.Proofs.Config.Recaptcha
import ProxyFilter.Proofs.Html.Chunks
import ProxyFilter.Proofs.Html.Completion
import ProxyFilter.Proofs.Html.Cursor
import ProxyFilter.Proofs.Html.Faults
import ProxyFilter.Proofs.Html.LocalEdits
import ProxyFilter.Proofs.Html.Placement
import ProxyFilter.Proofs.Html.RawTextEnd
import ProxyFilter.Proofs.Html.ReplacedValues
import ProxyFilter.Proofs.Html.Restored
import ProxyFilter.Proofs.Html.Retained
import ProxyFilter.Proofs.Http.Cookie
import ProxyFilter.Proofs.Http.Device
import ProxyFilter.Proofs.Http.MappedLink
import ProxyFilter.Proofs.Http.Parameters
import ProxyFilter.Proofs.Http.Trace
import ProxyFilter.Proofs.Plugin.BodyLength
import ProxyFilter.Proofs.Plugin.Calls
import ProxyFilter.Proofs.Plugin.Denylist
import ProxyFilter.Proofs.Plugin.FailClosed
import ProxyFilter.Proofs.Plugin.HeaderChanges
import ProxyFilter.Proofs.Plugin.Injection
import ProxyFilter.Proofs.Plugin.Place
import ProxyFilter.Proofs.Plugin.Redirect
import ProxyFilter.Proofs.Token.Ageing
import ProxyFilter.Proofs.Token.Binding
import ProxyFilter.Proofs.Token.Extract
import ProxyFilter.Proofs.Token.WebToken
