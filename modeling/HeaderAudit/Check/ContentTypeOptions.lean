import HeaderAudit.Check.Basic

/-!
# X-Content-Type-Options

The header has to forbid guessing the type of the content.
-/

namespace HeaderAudit.ContentTypeOptions

def verdict (value : Option Text) : Verdict :=
  match value with
  | none => .fail "Missing" []
  | some given =>
    if Text.lower (Text.strip given) = "nosniff".toList then .ok given given
    else .fail (if given.isEmpty then "Empty" else given) given

def check : Check where
  className := "XContentTypeOptionsCheck"
  name := "X-Content-Type-Options"
  column := "XCTO"
  missing := "X-Content-Type-Options is not set to nosniff"
  header := "X-Content-Type-Options"
  affects := true
  patterns := ⟨[], [], ["nosniff"]⟩
  judge headers context := (context, .ok (verdict (headers.get? "X-Content-Type-Options")))

end HeaderAudit.ContentTypeOptions
