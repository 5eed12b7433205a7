import Mathlib.Data.String.Basic

namespace SvixClient

/-- std::time::Duration: whole seconds and the nanoseconds below one second. -/
structure Duration where
  secs : UInt64
  nanos : Fin 1000000000
  deriving DecidableEq, Repr

def Duration.fromSecs (secs : UInt64) : Duration := ⟨secs,0⟩

structure SvixOptions where
  debug : Bool
  serverUrl : Option String
  /-- Applied from connecting until the body is read; none never times out. -/
  timeout : Option Duration
  deriving DecidableEq, Repr

def SvixOptions.default : SvixOptions := ⟨false,none,some (Duration.fromSecs 15)⟩

instance : Inhabited SvixOptions := ⟨SvixOptions.default⟩

/-- The generated crate::Configuration, with exactly the fields api.rs fills.
The hyper client is the transport handle; its clones share one pool. -/
structure Configuration (Client : Type) where
  userAgent : Option String
  client : Client
  timeout : Option Duration
  basePath : String
  bearerAccessToken : Option String
  deriving DecidableEq, Repr

/-- Svix API client. The Arc around the configuration is dropped: no
function of api.rs writes through it, so sharing is invisible. -/
structure Svix (Client : Type) where
  cfg : Configuration Client
  serverUrl : Option String
  deriving DecidableEq, Repr

/-- The fallback of with_token: the host named by the token's last
'.'-separated piece, read as str::split followed by Iterator::last. -/
def regionBasePath (token : String) : String :=
  match (token.split (· == '.')).getLast? with
  | some "us" => "https://api.us.svix.com"
  | some "eu" => "https://api.eu.svix.com"
  | some "in" => "https://api.in.svix.com"
  | _ => "https://api.svix.com"

namespace Svix

variable {Client : Type}

/-- A client with a different token that re-uses every setting and the hyper
client of self, so no TLS set-up is repeated. -/
def withToken (self : Svix Client) (token : String) : Svix Client :=
  let basePath := self.serverUrl.getD (regionBasePath token)
  ⟨{ basePath,userAgent := self.cfg.userAgent,bearerAccessToken := some token,
      client := self.cfg.client,timeout := self.cfg.timeout },self.serverUrl⟩

/-- Svix::new. The crate version (env! of CARGO_PKG_VERSION) and the hyper
client built over default_connector() come from outside api.rs. -/
def new (crateVersion : String) (client : Client) (token : String)
    (options : Option SvixOptions) : Svix Client :=
  let options := options.getD SvixOptions.default
  let cfg : Configuration Client :=
    { userAgent := some ("svix-libs/"++crateVersion++"/rust"),client,
      timeout := options.timeout,basePath := "",bearerAccessToken := none }
  let svix : Svix Client := ⟨cfg,options.serverUrl⟩
  svix.withToken token

variable (s : Svix Client) (t : String)

@[simp] theorem withToken_serverUrl : (s.withToken t).serverUrl=s.serverUrl := rfl
@[simp] theorem withToken_basePath :
    (s.withToken t).cfg.basePath=s.serverUrl.getD (regionBasePath t) := rfl
@[simp] theorem withToken_userAgent : (s.withToken t).cfg.userAgent=s.cfg.userAgent := rfl
@[simp] theorem withToken_bearerAccessToken :
    (s.withToken t).cfg.bearerAccessToken=some t := rfl
@[simp] theorem withToken_client : (s.withToken t).cfg.client=s.cfg.client := rfl
@[simp] theorem withToken_timeout : (s.withToken t).cfg.timeout=s.cfg.timeout := rfl

end Svix

end SvixClient
