import HeaderAudit.Console.Emoji

/-!
# What markups may name

A markup names emoji, and its handlers have parameters in a language of their own. What pictures there
are and which parameters cannot be read is up to the library that shows the markup.
-/

namespace HeaderAudit.Console

structure Library where
  pictures : Emoji.Pictures
  /-- The complaint about parameters that cannot be read. -/
  complaint? : Text → Option Text

end HeaderAudit.Console
