import SvixClient.Session

namespace SvixClient

/-- The types of crate::models that api.rs hands on to the catalog without
reading them: the request bodies and the enumerations of list filters. -/
structure Models where
  (Ordering MessageStatus StatusCodeClass BackgroundTaskStatus BackgroundTaskType : Type)
  (AppPortalAccessIn ApplicationIn ApplicationPatch : Type)
  (EndpointIn EndpointUpdate EndpointPatch EndpointSecretRotateIn RecoverIn EndpointHeadersIn
    EndpointHeadersPatchIn ReplayIn EndpointTransformationIn EventExampleIn : Type)
  (IntegrationIn IntegrationUpdate : Type)
  (EventTypeIn EventTypeUpdate EventTypePatch EventTypeImportOpenApiIn MessageIn : Type)
  (OperationalWebhookEndpointIn OperationalWebhookEndpointUpdate
    OperationalWebhookEndpointSecretIn : Type)

/-- The models with every type the one-point type, for calls whose bodies do
not matter. -/
def Models.unit : Models :=
  ⟨Unit,Unit,Unit,Unit,Unit,Unit,Unit,Unit,Unit,Unit,Unit,Unit,Unit,Unit,
    Unit,Unit,Unit,Unit,Unit,Unit,Unit,Unit,Unit,Unit,Unit,Unit,Unit,Unit⟩

/-- The wire name of an optional parameter, when the call sends it. -/
def sentAs {α : Type} (name : String) : Option α → List String
  | some _ => [name]
  | none => []

structure PostOptions where
  idempotencyKey : Option String := none
  deriving DecidableEq, Repr

/-- The wire names of the option fields set, each field under its own name. -/
def PostOptions.names (o : PostOptions) : List String := sentAs "idempotency_key" o.idempotencyKey

/-- Pagination of the list calls; limit is an i32. -/
structure ListOptions where
  iterator : Option String := none
  limit : Option (BitVec 32) := none
  deriving DecidableEq, Repr

def ListOptions.names (o : ListOptions) : List String :=
  sentAs "iterator" o.iterator++sentAs "limit" o.limit

/-- How a method hands back the catalog's answer: as it is, or, for
`.await?; Ok(())`, with the body dropped and any error kept. -/
inductive Reply
  | answer
  | unit
  deriving DecidableEq, Repr

def Reply.Out : Reply → Type → Type
  | .answer,α => α
  | .unit,_ => Unit

def Reply.apply {E α : Type} : (r : Reply) → Except E α → Except E (r.Out α)
  | .answer,x => x
  | .unit,x => do let _ ← x; pure ()

/-- One call of a generated catalog function as a method of api.rs makes it:
the configuration it borrows and the parameter record it fills. -/
structure Call (Client P : Type) where
  cfg : Configuration Client
  params : P
  reply : Reply
  deriving DecidableEq, Repr

namespace Call

variable {Client P Q E α : Type}

def map (f : P → Q) (c : Call Client P) : Call Client Q := ⟨c.cfg,f c.params,c.reply⟩

/-- What the caller gets when the catalog function f answers the call. -/
def result (f : Configuration Client → P → Except E α) (c : Call Client P) :
    Except E (c.reply.Out α) :=
  c.reply.apply (f c.cfg c.params)

@[simp] theorem map_cfg (f : P → Q) (c : Call Client P) : (c.map f).cfg=c.cfg := rfl
@[simp] theorem map_params (f : P → Q) (c : Call Client P) : (c.map f).params=f c.params := rfl
@[simp] theorem map_reply (f : P → Q) (c : Call Client P) : (c.map f).reply=c.reply := rfl

/-- An answering call gives the catalog's answer itself. -/
theorem result_answer (f : Configuration Client → P → Except E α) (c : Call Client P)
    (h : c.reply=.answer) : HEq (c.result f) (f c.cfg c.params) := by
  obtain ⟨cfg,p,r⟩ := c
  subst h
  rfl

/-- A call ending .await?; Ok(()) keeps the catalog's error and drops its value. -/
theorem result_unit (f : Configuration Client → P → Except E α) (c : Call Client P)
    (h : c.reply=.unit) : HEq (c.result f) ((f c.cfg c.params).map fun _ => ()) := by
  obtain ⟨cfg,p,r⟩ := c
  subst h
  apply heq_of_eq
  simp only [result,Reply.apply]
  cases f cfg p <;> rfl

end Call

end SvixClient
