/-!
# Errors of a markup stream

Why a stream of markup cannot be edited, and the message for each cause.
-/

namespace ProxyFilter.Html

/-- Why a stream of markup cannot be edited. -/
inductive StreamError
  /-- A tag, comment or declaration is longer than the limit. -/
  | tagTooLong (limit : Nat)
  /-- The value of an attribute to be changed is not UTF-8. -/
  | invalidUtf8 (name : String)
  /-- The stream has come to its end before. -/
  | alreadyFinished
  deriving DecidableEq, Repr

/-- The message for an error. -/
def StreamError.message : StreamError → String
  | .tagTooLong limit => "markup construct exceeds " ++ toString limit ++ " bytes"
  | .invalidUtf8 name => "attribute '" ++ name ++ "' is not valid utf-8"
  | .alreadyFinished => "stream already finished"

end ProxyFilter.Html
