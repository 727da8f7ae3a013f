import LoginGateway.Gateway.ApiTokens

namespace LoginGateway.Gateway

open Http

variable {σ : Type} [TokenStore σ]

def verify (settings : Settings) (now : Instant) (headers : Headers) (store : σ) (wire : Wire) : Served σ :=
  match authorize settings now headers store wire with
  | (.error .crash, store, wire) => ⟨none, store, wire, none⟩
  | (.error (.error _), store, wire) => ⟨some (.text 401 "Unauthorized"), store, wire, none⟩
  | (.ok _, store, wire) => ⟨some (.text 200 "Authorized"), store, wire, none⟩

def withQuery (request : Incoming) (names : List String) (store : σ) (wire : Wire)
    (serve : Params → Served σ) : Served σ :=
  let params := request.target.params
  if unambiguous params names then serve params else ⟨some .ambiguousQuery, store, wire, none⟩

def nameIn (request : Incoming) (query : Params) : String :=
  requestedName query (request.form?.filter fun form => unambiguous form ["name"])

def serveTokens (settings : Settings) (moment : Moment) (request : Incoming) (store : σ) (wire : Wire) :
    Served σ :=
  match request.method with
  | "GET" | "HEAD" => ⟨some (listTokens store), store, wire, none⟩
  | "POST" => withQuery request ["name"] store wire fun query =>
      createToken settings moment request.headers (nameIn request query) store wire
  | "DELETE" => withQuery request ["name"] store wire fun query =>
      let (reply, store) := deleteToken settings (nameIn request query) store
      ⟨some reply, store, wire, none⟩
  | _ => ⟨some (.methodNotAllowed "GET,HEAD,POST,DELETE"), store, wire, none⟩

def serveGet (request : Incoming) (store : σ) (wire : Wire) (serve : Served σ) : Served σ :=
  if request.method = "GET" ∨ request.method = "HEAD" then serve
  else ⟨some (.methodNotAllowed "GET,HEAD"), store, wire, none⟩

def route (settings : Settings) (moment : Moment) (request : Incoming) (store : σ) (wire : Wire) : Served σ :=
  match request.target.path with
  | "/login" => serveGet request store wire <| withQuery request loginNames store wire fun params =>
      ⟨login settings moment.now params, store, wire, none⟩
  | "/callback" => serveGet request store wire <| withQuery request callbackNames store wire fun params =>
      callback settings moment params store wire
  | "/api-token" => serveTokens settings moment request store wire
  | _ => verify settings moment.now request.headers store wire

/-- Serves a request; the reply to a request for the head alone has no body. -/
def serve (settings : Settings) (moment : Moment) (request : Incoming) (store : σ) (wire : Wire) : Served σ :=
  let served := route settings moment request store wire
  if request.method = "HEAD" then { served with reply := served.reply.map fun reply => { reply with body := none } }
  else served

end LoginGateway.Gateway
