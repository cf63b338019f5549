import HeaderAudit.Check.Basic

/-!
# Cache-Control

Sensitive answers should not be cached: four directives together with `Pragma: no-cache`. The check is
advisory.
-/

namespace HeaderAudit.CacheControl

def requiredDirectives : List Text := ["private", "no-store", "no-cache", "must-revalidate"]

def hasDirectives (value : Text) : Bool := requiredDirectives.all (Text.includes · value)

def hasNoCache (pragma : Option Text) : Bool :=
  pragma.any fun value => Text.includes "no-cache" (Text.lower value)

def verdict (cacheControl pragma : Option Text) : Verdict :=
  let value := Text.strip (cacheControl.getD [])
  match value, pragma with
  | [], none => .ok "No Cache-Control or Pragma" []
  | [], some pragma => .warn ("Pragma: " ++ pragma ++ " without Cache-Control") []
  | _, _ =>
    if hasDirectives value then
      if hasNoCache pragma then .ok value value
      else .warn (value ++ " (no Pragma: no-cache)") value
    else .warn value value

def check : Check where
  className := "CacheControlCheck"
  name := "Cache-Control"
  column := "Cache-Control"
  missing := "Cache-Control is not configured for sensitive data protection"
  header := "Cache-Control"
  affects := false
  patterns := ⟨[], ["public", "max-age"], requiredDirectives⟩
  judge headers context :=
    (context, .ok (verdict (headers.get? "Cache-Control") (headers.get? "Pragma")))

end HeaderAudit.CacheControl
