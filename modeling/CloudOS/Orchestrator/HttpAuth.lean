import CloudOS.Lib.HttpHandlers
import CloudOS.Orchestrator.RateLimiting

/-!
# Tokens and the authentication middleware

`module2-orchestrator/pkg/auth/jwt.go` and `middleware.go`, with what the two
servers of the orchestrator read of a request.  Parsing and verifying a token is
the JWT library's: `parseWithClaims` gets the time, the token and the function
that gives the key.  Log lines are left out.
-/

set_option autoImplicit false

namespace CloudOS.Orchestrator.HttpAuth

open CloudOS.Lib.HttpHandlers
open CloudOS.Orchestrator.RateLimiting

/-! ## Requests -/

structure Claims where
  tenantID : String
  userID : String
  email : String
  roles : List String
  deriving DecidableEq, Repr

/-- A request with the readings of the clock while it is served: `nanos` for its
id, `now` when its token is checked, and those of the rate limiter, with how
Redis answers it.  `path` is the cleaned path between its slashes, and
`authorization` is empty without the header. -/
structure HttpRequest where
  method : String
  path : List String
  query : List (String × String)
  authorization : String
  body : Except String String
  nanos : Nat
  now : Nat
  limiter : AllowEnv

/-- `URL.Query().Get`. -/
def HttpRequest.queryGet (req : HttpRequest) (name : String) : String :=
  (req.query.lookup name).getD ""

structure Context where
  requestID : Option String
  claims : Option Claims

def Context.background : Context := ⟨none, none⟩

abbrev HttpHandler (World : Type) : Type := Handler HttpRequest Context World

abbrev HttpMiddleware (World : Type) : Type := Middleware HttpRequest Context World

/-! ## Tokens -/

inductive SigningMethod where
  | hmac
  | rsa
  | other
  deriving DecidableEq, Repr

structure TokenHeader where
  method : SigningMethod
  alg : String

inductive Key where
  | secret (bytes : String)
  | publicKey (key : Option String)

structure JWTManager where
  secretKey : String
  publicKey : Option String
  algorithm : String

/-- An error of the JWT library; `expired` when it wraps `jwt.ErrTokenExpired`. -/
structure ParseError where
  expired : Bool
  text : String

structure ParsedToken where
  claims : Claims
  valid : Bool

abbrev Parser : Type :=
  Nat → String → (TokenHeader → Except String Key) → Except ParseError ParsedToken

/-- The errors of `ValidateToken`.  A wrapped error is not the one it wraps when
compared with `==`. -/
inductive TokenError where
  | missing
  | expired
  | invalid
  | wrapsInvalid (text : String)
  deriving DecidableEq, Repr

def JWTManager.keyFunc (jm : JWTManager) (header : TokenHeader) : Except String Key :=
  if jm.algorithm = "HS256" then
    if header.method = .hmac then .ok (.secret jm.secretKey)
    else .error ("unexpected signing method: " ++ header.alg)
  else if jm.algorithm = "RS256" then
    if header.method = .rsa then .ok (.publicKey jm.publicKey)
    else .error ("unexpected signing method: " ++ header.alg)
  else .error "unsupported signing algorithm"

def JWTManager.validateToken (parseWithClaims : Parser) (jm : JWTManager) (now : Nat)
    (tokenString : String) : Except TokenError Claims :=
  if tokenString = "" then .error .missing
  else
    match parseWithClaims now tokenString jm.keyFunc with
    | .error err =>
        if err.expired then .error .expired
        else .error (.wrapsInvalid ("token is invalid or malformed: " ++ err.text))
    | .ok token =>
        if !token.valid then .error .invalid
        else if token.claims.tenantID = "" ∨ token.claims.userID = "" then
          .error (.wrapsInvalid
            "missing required claims (tenant_id, user_id): token is invalid or malformed")
        else .ok token.claims

/-- A library to which one token is good, signed with HMAC and a user's of the
tenant. -/
def parseTokenOf (tenantID : String) : Parser := fun _ tokenString keyFunc =>
  match keyFunc ⟨.hmac, "HS256"⟩ with
  | .error text => .error ⟨false, text⟩
  | .ok _ =>
      if tokenString = "token-a" then .ok ⟨⟨tenantID, "user", "", []⟩, true⟩
      else .error ⟨false, "signature is invalid"⟩

/-! ## The middleware -/

def errorBody (message : String) (code : Nat) : Body :=
  .json (.object [("error", .text message), ("status", .number code)])

def refuse {World : Type} (code : Nat) (message : String) (w : World) : Served World :=
  answer [.header "Content-Type" "application/json", .status code,
    .body (errorBody message code)] w

@[simp] theorem refuse_world {World : Type} (code : Nat) (message : String) (w : World) :
    (refuse code message w).world = w := rfl

/-- `strings.SplitN(text, " ", 2)`, when it has two parts. -/
def splitAtSpace (text : String) : Option (String × String) :=
  match text.toList.dropWhile (· ≠ ' ') with
  | [] => none
  | _ :: rest => some (String.ofList (text.toList.takeWhile (· ≠ ' ')), String.ofList rest)

def extractBearerToken (req : HttpRequest) : String :=
  match splitAtSpace req.authorization with
  | none => ""
  | some (scheme, token) => if scheme.toLower = "bearer" then token else ""

def authErrorMessage : TokenError → String
  | .expired => "Token has expired"
  | .invalid => "Token is invalid or malformed"
  | .missing => "Invalid token"
  | .wrapsInvalid _ => "Invalid token"

/-- The check of a token, which both servers write out with their own way to
find it and their own texts. -/
def requireToken {World : Type} (extract : HttpRequest → String) (missing : String)
    (message : TokenError → String) (parseWithClaims : Parser) (jm : JWTManager) :
    HttpMiddleware World := fun next req ctx w =>
  let tokenString := extract req
  if tokenString = "" then refuse 401 missing w
  else
    match jm.validateToken parseWithClaims req.now tokenString with
    | .error err => refuse 403 (message err) w
    | .ok claims => next req { ctx with claims := some claims } w

def authMiddleware {World : Type} (parseWithClaims : Parser) (jm : JWTManager) :
    HttpMiddleware World :=
  requireToken extractBearerToken
    "Missing or invalid Authorization header (expected: Authorization: Bearer <token>)"
    authErrorMessage parseWithClaims jm

def getTenantIDFromContext (ctx : Context) : Except String String :=
  match ctx.claims with
  | none => .error "claims not found in context"
  | some claims => .ok claims.tenantID

/-- The claims a request is served with: those of its token, when it is accepted. -/
def acceptedClaims (parseWithClaims : Parser) (jm : JWTManager) (now : Nat)
    (tokenString : String) : Option Claims :=
  (jm.validateToken parseWithClaims now tokenString).toOption

theorem acceptedClaims_empty (parseWithClaims : Parser) (jm : JWTManager) (now : Nat) :
    acceptedClaims parseWithClaims jm now "" = none := rfl

theorem requireToken_world {World : Type} (extract : HttpRequest → String) (missing : String)
    (message : TokenError → String) (parseWithClaims : Parser) (jm : JWTManager)
    (next : HttpHandler World) (req : HttpRequest) (ctx : Context) (w : World) :
    (requireToken extract missing message parseWithClaims jm next req ctx w).world =
      (acceptedClaims parseWithClaims jm req.now (extract req)).elim w fun claims =>
        (next req { ctx with claims := some claims } w).world := by
  unfold requireToken
  by_cases blank : extract req = ""
  · simp [blank, acceptedClaims_empty]
  · simp only [if_neg blank, acceptedClaims]
    cases jm.validateToken parseWithClaims req.now (extract req) with
    | error err => rfl
    | ok claims => rfl

theorem requireToken_cases {World : Type} (extract : HttpRequest → String) (missing : String)
    (message : TokenError → String) (parseWithClaims : Parser) (jm : JWTManager)
    (next : HttpHandler World) (req : HttpRequest) (ctx : Context) (w : World) :
    (acceptedClaims parseWithClaims jm req.now (extract req) = none ∧
        ∃ code text, requireToken extract missing message parseWithClaims jm next req ctx w =
          refuse code text w) ∨
      ∃ claims, acceptedClaims parseWithClaims jm req.now (extract req) = some claims ∧
        requireToken extract missing message parseWithClaims jm next req ctx w =
          next req { ctx with claims := some claims } w := by
  unfold requireToken
  by_cases blank : extract req = ""
  · left
    simp only [blank, if_true]
    exact ⟨acceptedClaims_empty parseWithClaims jm req.now, _, _, rfl⟩
  · simp only [if_neg blank, acceptedClaims]
    cases jm.validateToken parseWithClaims req.now (extract req) with
    | error err => exact .inl ⟨rfl, _, _, rfl⟩
    | ok claims => exact .inr ⟨claims, rfl, rfl⟩

end CloudOS.Orchestrator.HttpAuth
