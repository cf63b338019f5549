import HeaderAudit.Check.Basic

/-!
# Cookies

Every cookie has to carry the Secure attribute. All cookie values are noted in the context.
-/

namespace HeaderAudit.Cookie

def contextKey : Text := "set_cookies"

def displayLimit : Nat := 100

/-- The attribute counts anywhere behind a blank, in any letter case. -/
def hasSecureFlag (cookie : Text) : Bool := Text.includes " secure" (Text.lower cookie)

/-- A text that is longer than a limit, cut there and marked as cut. -/
def truncate (limit : Int) (value : Text) : Text :=
  if (value.length : Int) ≤ limit then value else Text.firstChars limit value ++ "..."

def verdict (cookies : List Text) : Verdict :=
  let raw := Text.join ['\n'] cookies
  match cookies, cookies.find? (!hasSecureFlag ·) with
  | [], _ => .ok "No cookies" []
  | _, some insecure => .fail (truncate displayLimit insecure) raw
  | _, none => .ok (truncate displayLimit (Text.join " | " cookies)) raw

def check : Check where
  className := "CookieCheck"
  name := "Cookies"
  column := "Cookies"
  missing := "Cookies are set without the Secure flag"
  header := "Set-Cookie"
  affects := true
  patterns := ⟨[], [], ["secure"]⟩
  judge headers context :=
    let cookies := headers.getAll "Set-Cookie"
    (Json.setField contextKey (.list (cookies.map .text)) context, .ok (verdict cookies))

end HeaderAudit.Cookie
