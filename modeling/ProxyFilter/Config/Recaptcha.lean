import ProxyFilter.Config.Error
import ProxyFilter.Document.Json
import ProxyFilter.Text.Blank
import ProxyFilter.Text.Percent

/-!
# Challenge keys

A page can load a reCAPTCHA script for a site key. `RecaptchaSettings` is the key as it is
configured, `RecaptchaKey` the key once it is checked (`RecaptchaSettings.resolve`), and
`RecaptchaKey.scriptTag` the markup that loads the script.
-/

namespace ProxyFilter

/-- What a key is for. -/
inductive KeyType
  /-- Tokens of a session, which the script attaches by itself. -/
  | session
  /-- Tokens of one action. -/
  | action
  deriving DecidableEq, Repr

/-- A key as it is configured. -/
structure RecaptchaSettings where
  keyType : String
  key : String
  deriving DecidableEq, Repr

/-- A key that has been checked. -/
structure RecaptchaKey where
  keyType : KeyType
  /-- The site key, which is not blank. -/
  key : String
  deriving DecidableEq, Repr

namespace RecaptchaSettings

/-- Reads the settings from a document. -/
def ofDocument? (form : RecordForm) (d : Document) : Option RecaptchaSettings := do
  let [keyType, key] ← d.fields? form ["key_type", "key"] | none
  return { keyType := ← Field.required Document.text? keyType,
           key := ← Field.required Document.text? key }

/-- The key type of a word, in capitals. -/
def keyTypes : List (String × KeyType) := [("SESSION", .session), ("ACTION", .action)]

/-- Checks a key. -/
def resolve (s : RecaptchaSettings) : Except ConfigError RecaptchaKey :=
  match keyTypes.lookup s.keyType with
  | none => .error (.unknownKeyType s.keyType)
  | some keyType =>
    if (Text.trim s.key).isEmpty then .error (.missingField "recaptcha.key")
    else .ok ⟨keyType, s.key⟩

end RecaptchaSettings

namespace RecaptchaKey

/-- Reads and checks a key that stands alone in a JSON text. -/
def parse (blob : Bytes) : Except ConfigError RecaptchaKey :=
  match (Document.ofJson? blob).bind (RecaptchaSettings.ofDocument? .namedOrListed) with
  | some settings => settings.resolve
  | none => .error .malformed

/-- The address of the script. -/
def scriptAddress (k : RecaptchaKey) : String :=
  "https://www.google.com/recaptcha/enterprise.js?render=" ++ Percent.encode k.key
    ++ (match k.keyType with
      | .session => "&waf=session"
      | .action => "")

/-- The markup that loads the script. -/
def scriptTag (k : RecaptchaKey) : String :=
  "<script src=\"" ++ k.scriptAddress ++ "\" async defer></script>"

end RecaptchaKey

end ProxyFilter
