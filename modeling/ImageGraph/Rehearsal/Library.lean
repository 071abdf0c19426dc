import ImageGraph.Client.Http
import ImageGraph.Rehearsal.Web.MediaType
import ImageGraph.Rehearsal.Web.Url

/-!
A stand-in for the libraries of the client, for rehearsals without a network. It knows which
addresses, keys and media types can be sent, and reaches no peer.
-/

namespace ImageGraph.Rehearsal

open Client

/-- A header may hold tabs, but no other control characters. -/
def fitsHeader (text : String) : Bool :=
  text.toList.all fun c => c = '\t' || 32 ≤ c.toNat && c.toNat ≠ 127

/-- The URL that a request to an address is sent to, or what is said if it cannot be sent. A fault
of the scheme or the host names the URL. -/
def url (endpoint : String) (bearer : Option String) : Except String Web.Url :=
  match Web.Url.read? endpoint with
  | none => .error "builder error"
  | some url =>
    if url.host?.isNone then .error ("builder error for url (" ++ url.text ++ ")")
    else if bearer.any fun key => !fitsHeader key then .error "builder error"
    else
      let url := url.withoutUser
      if url.isSendable then .ok url
      else .error ("builder error for url (" ++ url.text ++ ")")

def library : Library where
  decoderFault _ := "Invalid symbol"
  mediaType text :=
    if Web.MediaType.wellFormed text then .ok (Text.lower text) else .error "builder error"
  refusal? endpoint bearer :=
    match url endpoint bearer with
    | .error reason => some reason
    | .ok _ => none
  text _ body := (String.fromUTF8? body).getD ""
  jsonFault _ := "error decoding response body"

/-- A network without peers. -/
def network (r : HttpRequest) : Delivery :=
  match url r.endpoint r.bearer with
  | .ok url => .unreachable ("error sending request for url (" ++ url.text ++ ")")
  | .error reason => .unreachable reason

end ImageGraph.Rehearsal
