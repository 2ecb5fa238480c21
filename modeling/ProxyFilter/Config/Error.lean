/-!
# Errors of a configuration

Why a configuration is refused, and the message for each cause. A configuration that cannot be
read, a key that cannot be loaded and a pattern that cannot be compiled are told apart, but why
they fail is not recorded.
-/

namespace ProxyFilter

/-- Why a configuration is refused. -/
inductive ConfigError
  /-- The text is not a configuration. -/
  | malformed
  /-- A line of a domain map is wrong; lines are counted from one. -/
  | domainMapping (line : Nat) (reason : String)
  /-- A challenge key is of no known type. -/
  | unknownKeyType (type : String)
  /-- A public key cannot be loaded. -/
  | publicKey
  /-- A pattern cannot be compiled. -/
  | pattern (pattern : String)
  /-- An element selector cannot be read. -/
  | selector (selector : String)
  /-- A required field is missing or empty. -/
  | missingField (field : String)
  /-- The value of a field makes no sense. -/
  | invalidValue (field details : String)
  deriving DecidableEq, Repr

namespace ConfigError

/-- The message for an error, where it has one. -/
def message? : ConfigError → Option String
  | malformed | publicKey | pattern _ => none
  | domainMapping line reason => some ("domain mapping line " ++ toString line ++ ": " ++ reason)
  | unknownKeyType type => some ("unknown key type '" ++ type ++ "' (expected SESSION or ACTION)")
  | selector text => some ("invalid selector '" ++ text ++ "'")
  | missingField field => some ("missing required field: " ++ field)
  | invalidValue field details => some ("invalid value for " ++ field ++ ": " ++ details)

end ConfigError

end ProxyFilter
