import SvixClient.Config

namespace SvixClient

/-- What a client stands for: the settings Svix::new fixed and the current
token. Every client value api.rs hands out is the realisation of one. -/
structure Session (Client : Type) where
  serverUrl : Option String
  userAgent : Option String
  client : Client
  timeout : Option Duration
  token : String
  deriving DecidableEq, Repr

/-- What a caller does to a client value short of dispatching a request. -/
inductive Op
  | withToken (token : String)
  | clone
  deriving DecidableEq, Repr

/-- The token a run of re-tokenings ends with, t when there is none. -/
def lastToken (t : String) : List Op → String
  | [] => t
  | .withToken t'::ops => lastToken t' ops
  | .clone::ops => lastToken t ops

namespace Session

variable {Client : Type}

def start (crateVersion : String) (client : Client) (token : String)
    (options : SvixOptions) : Session Client :=
  ⟨options.serverUrl,some ("svix-libs/"++crateVersion++"/rust"),client,options.timeout,token⟩

def retoken (σ : Session Client) (t : String) : Session Client := {σ with token := t}

def step (σ : Session Client) : Op → Session Client
  | .withToken t => σ.retoken t
  | .clone => σ

def run (σ : Session Client) (ops : List Op) : Session Client := ops.foldl step σ

/-- The Svix value that realises a session: the base path is resolved from
the token unless the server URL overrides it. -/
def toSvix (σ : Session Client) : Svix Client :=
  ⟨{ userAgent := σ.userAgent,client := σ.client,timeout := σ.timeout,
      basePath := σ.serverUrl.getD (regionBasePath σ.token),
      bearerAccessToken := some σ.token },σ.serverUrl⟩

@[simp] theorem retoken_retoken (σ : Session Client) (t t' : String) :
    (σ.retoken t).retoken t'=σ.retoken t' := rfl
@[simp] theorem retoken_token (σ : Session Client) : σ.retoken σ.token=σ := rfl
@[simp] theorem retoken_token' (σ : Session Client) (t : String) : (σ.retoken t).token=t := rfl

/-- Only the last token of a run matters. -/
theorem run_eq_retoken (σ : Session Client) (ops : List Op) :
    σ.run ops=σ.retoken (lastToken σ.token ops) := by
  induction ops generalizing σ with
  | nil => rfl
  | cons op ops ih =>
    cases op with
    | withToken t => simp only [run,List.foldl_cons,step] at ih ⊢; simp [ih,lastToken]
    | clone => exact ih σ

end Session

namespace Svix

variable {Client : Type}

/-- derive(Clone) clones the Arc and the server URL: the same value. -/
def step (s : Svix Client) : Op → Svix Client
  | .withToken t => s.withToken t
  | .clone => s

def run (s : Svix Client) (ops : List Op) : Svix Client := ops.foldl step s

theorem new_eq_toSvix (crateVersion : String) (client : Client) (token : String)
    (options : Option SvixOptions) :
    Svix.new crateVersion client token options=
      (Session.start crateVersion client token (options.getD SvixOptions.default)).toSvix := rfl

theorem step_toSvix (σ : Session Client) (op : Op) : σ.toSvix.step op=(σ.step op).toSvix := by
  cases op <;> rfl

theorem run_toSvix (σ : Session Client) (ops : List Op) : σ.toSvix.run ops=(σ.run ops).toSvix := by
  induction ops generalizing σ with
  | nil => rfl
  | cons op ops ih => exact (congrArg (run · ops) (step_toSvix σ op)).trans (ih _)

/-- Re-tokening a fresh client any number of times, with clones between,
gives the fresh client of the last token over the same hyper client. -/
theorem new_run (crateVersion : String) (client : Client) (t0 : String)
    (options : Option SvixOptions) (ops : List Op) :
    (Svix.new crateVersion client t0 options).run ops=
      Svix.new crateVersion client (lastToken t0 ops) options := by
  rw [new_eq_toSvix,run_toSvix,Session.run_eq_retoken]
  rfl

theorem new_run_settings (crateVersion : String) (client : Client) (o : SvixOptions) (t0 : String)
    (ops : List Op) :
    ((Svix.new crateVersion client t0 (some o)).run ops).serverUrl=o.serverUrl ∧
    ((Svix.new crateVersion client t0 (some o)).run ops).cfg.timeout=o.timeout ∧
    ((Svix.new crateVersion client t0 (some o)).run ops).cfg.userAgent=
      some ("svix-libs/"++crateVersion++"/rust") ∧
    ((Svix.new crateVersion client t0 (some o)).run ops).cfg.bearerAccessToken=
      some (lastToken t0 ops) ∧
    ((Svix.new crateVersion client t0 (some o)).run ops).cfg.client=client ∧
    ∀ client' : Client, ((Svix.new crateVersion client t0 (some o)).run ops).cfg.basePath=
      (Svix.new crateVersion client' (lastToken t0 ops) (some o)).cfg.basePath := by
  rw [new_run]
  exact ⟨rfl,rfl,rfl,rfl,rfl,fun _ => rfl⟩

end Svix

end SvixClient
