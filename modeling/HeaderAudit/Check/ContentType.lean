import HeaderAudit.Check.Basic

/-!
# Content-Type

A page in HTML has to name its character set.
-/

namespace HeaderAudit.ContentType

def verdict (contentType : Option Text) : Verdict :=
  let value := contentType.getD []
  if Text.blank value then .ok "No Content-Type" value
  else if Text.includes "text/html" (Text.lower value) && !Text.includes "charset=" value then
    .fail "No charset" value
  else .ok value value

def check : Check where
  className := "ContentTypeCheck"
  name := "Content-Type"
  column := "Content-Type"
  missing := "Content-Type header is missing charset for text/html"
  header := "Content-Type"
  affects := true
  patterns := ⟨[], ["text/html"], ["charset="]⟩
  judge headers context := (context, .ok (verdict (headers.get? "Content-Type")))

end HeaderAudit.ContentType
