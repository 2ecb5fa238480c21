import ProxyFilter.Http.Header

/-!
# Device classes

A request comes from a robot, a phone, a tablet or a desktop. `Device.classify` decides in a fixed
order: robot keywords in the user agent, the client's own hint, tablet keywords, phone keywords.
Keywords are found anywhere in the user agent, letter case ignored.
-/

namespace ProxyFilter

/-- A coarse class of clients. -/
inductive Device
  /-- Crawlers and other programs. -/
  | bot
  /-- Handsets. -/
  | phone
  /-- Tablets. -/
  | tablet
  /-- All the rest. -/
  | desktop
  deriving DecidableEq, Repr

namespace Device

/-- The header value for a class. -/
def text : Device → String
  | .bot => "bot"
  | .phone => "phone"
  | .tablet => "tablet"
  | .desktop => "desktop"

/-- The client hint: `?1` on a phone, `?0` elsewhere. -/
def mobileHint : String := "sec-ch-ua-mobile"

/-- The keywords of robots, where no others are given. -/
def defaultBotKeywords : List String :=
  ["bot", "crawler", "spider", "slurp", "bingpreview", "facebookexternalhit",
   "mediapartners-google", "headlesschrome"]

/-- The keywords of tablets. -/
def tabletKeywords : List String := ["ipad", "tablet", "kindle", "silk/", "playbook"]

/-- The keywords of phones. -/
def phoneKeywords : List String :=
  ["mobi", "iphone", "ipod", "windows phone", "blackberry", "opera mini"]

/-- `keyword` occurs somewhere in `cs`. -/
def occursIn (keyword : List Char) : List Char → Bool
  | [] => keyword.isEmpty
  | c :: cs => keyword.isPrefixOf (c :: cs) || occursIn keyword cs

/-- `keyword` occurs in `s`, letter case ignored. -/
def mentions (s keyword : String) : Bool :=
  occursIn (Ascii.lower keyword).toList (Ascii.lower s).toList

/-- The class of the client that sent a request. -/
def classify (botKeywords : List String) (headers : HeaderSet) : Device :=
  let agent := (headers.get? Header.userAgent).getD ""
  if botKeywords.any (mentions agent) then .bot
  else
    match (headers.get? mobileHint).map Text.trim with
    | some "?1" => .phone
    | some "?0" => .desktop
    | _ =>
      if tabletKeywords.any (mentions agent) then .tablet
      else if phoneKeywords.any (mentions agent) then .phone
      else if mentions agent "android" then .tablet
      else .desktop

end Device

end ProxyFilter
