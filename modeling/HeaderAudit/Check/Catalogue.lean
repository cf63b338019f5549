import HeaderAudit.Check.CacheControl
import HeaderAudit.Check.ContentType
import HeaderAudit.Check.Cookie
import HeaderAudit.Check.TransportSecurity
import HeaderAudit.Check.ContentTypeOptions

/-!
# The catalogue of checks

The built-in checks, and further kinds of checks registered behind them. A kind is registered once.
-/

namespace HeaderAudit.Check

def builtins : List Check :=
  [CacheControl.check, ContentType.check, Cookie.check, TransportSecurity.check,
    ContentTypeOptions.check]

abbrev Catalogue := List Check

def Catalogue.register (check : Check) (catalogue : Catalogue) : Catalogue :=
  if catalogue.any (·.className = check.className) then catalogue else catalogue ++ [check]

def Catalogue.classNames (catalogue : Catalogue) : List Text := catalogue.map (·.className)

end HeaderAudit.Check
