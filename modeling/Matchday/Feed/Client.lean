import Matchday.Config.Basic
import Matchday.Feed.Envelope
import Matchday.Feed.Status
import Matchday.Fixture.Client
import Matchday.Text.Blank
import Matchday.Url.Parse

/-!
# Fetching fixtures from the provider

A request becomes a URL, the URL is sent with the key of the user, and the response is judged: its
status first, then its body, then the errors inside.

## Main definitions

* `Feed.Exchange`: what a transport makes of a request.
* `Feed.requestUrl`: the URL of a request.
* `Feed.judge`: the fixtures in a response.
* `Feed.client`: the client over a transport.
-/

namespace Matchday.Feed

/-- What is sent to the provider. -/
structure Call where
  url : Url
  apiKey : String

/-- What a transport makes of a call. -/
inductive Exchange where
  | unreachable
  | response (status : Nat) (body : String)

/-- Whether a key can be sent: it holds no control characters but tabs. -/
def isSendable (apiKey : String) : Bool :=
  apiKey.toList.all fun c => c == '\t' || !Url.isControl c

/-- The address that is asked for fixtures. -/
def address (baseUrl : String) : String :=
  Text.trimEndOf '/' baseUrl ++ "/fixtures"

/-- The URL of a request. -/
def requestUrl [UrlReader] (baseUrl : String) (r : FixtureRequest) : Except String Url :=
  (UrlReader.parse (address baseUrl)).map
    (·.addQuery [("league", r.leagueId), ("season", r.season)])

/-- What is sent for a request, or why nothing can be sent. -/
def prepare [UrlReader] (api : ApiSettings) (r : FixtureRequest) : Except SiteError Call :=
  match requestUrl api.baseUrl r with
  | .error _ => .error (.transport "builder error")
  | .ok url =>
    if !isSendable api.apiKey then .error (.transport "builder error")
    else if !url.hostIsUsable then .error (.transport s!"builder error for url ({url.text})")
    else .ok { url, apiKey := api.apiKey }

/-- The items in a response. -/
def judge (r : FixtureRequest) (status : Nat) (body : String) : Except SiteError (List Item) :=
  if !isSuccess status then .error (.api r.text s!"HTTP {statusText status}")
  else
    match Envelope.ofText body with
    | .error e => .error (.api r.text s!"unexpected response body: {e.message}")
    | .ok envelope =>
      if envelope.hasErrors then .error (.api r.text envelope.errors.compact)
      else .ok envelope.items

/-- What is logged about a response. -/
def judgeLog (r : FixtureRequest) (status : Nat) (items : Except SiteError (List Item)) :
    List LogLine :=
  ⟨.debug, s!"API response status: {statusText status}"⟩ ::
    match items with
    | .ok items => [⟨.debug, s!"📊 {items.length} fixture(s) for {r.text}"⟩]
    | .error _ => []

/-- What becomes of a call. -/
def conclude (api : ApiSettings) (r : FixtureRequest) (call : Call) : Exchange → FixtureAnswer
  | .unreachable =>
    { result := .error (.transport s!"error sending request for url ({call.url.text})") }
  | .response status body =>
    let items := judge r status body
    { result := items.map fun items => items.map (Item.fixture api.teamCities)
      log := judgeLog r status items }

/-- The client over a transport. -/
def client [UrlReader] {m : Type → Type} [Monad m] (send : Call → m Exchange) (api : ApiSettings) :
    FixtureClient m := fun r => do
  let start : LogLine := ⟨.debug, s!"📡 GET {address api.baseUrl} for {r.text}"⟩
  match prepare api r with
  | .error e => return { result := .error e, log := [start] }
  | .ok call =>
    let answer := conclude api r call (← send call)
    return { answer with log := start :: answer.log }

end Matchday.Feed
