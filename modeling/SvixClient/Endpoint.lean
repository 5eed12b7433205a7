import SvixClient.Call

namespace SvixClient

variable {M : Models} {Client : Type}

structure Endpoint (Client : Type) where
  cfg : Configuration Client

structure Integration (Client : Type) where
  cfg : Configuration Client

def Svix.endpoint (s : Svix Client) : Endpoint Client := ⟨s.cfg⟩
def Svix.integration (s : Svix Client) : Integration Client := ⟨s.cfg⟩

structure EndpointListOptions (M : Models) where
  iterator : Option String := none
  limit : Option (BitVec 32) := none
  order : Option M.Ordering := none

def EndpointListOptions.names (o : EndpointListOptions M) : List String :=
  sentAs "iterator" o.iterator++sentAs "limit" o.limit++sentAs "order" o.order

/-- RFC3339 date strings, passed on unparsed. -/
structure EndpointStatsOptions where
  since : Option String := none
  «until» : Option String := none

def EndpointStatsOptions.names (o : EndpointStatsOptions) : List String :=
  sentAs "since" o.since++sentAs "until" o.«until»

structure V1PeriodEndpointPeriodListParams (M : Models) where
  (appId : String) (order : Option M.Ordering) (iterator : Option String)
  (limit : Option (BitVec 32))
structure V1PeriodEndpointPeriodCreateParams (M : Models) where
  (appId : String) (endpointIn : M.EndpointIn) (idempotencyKey : Option String)
structure V1PeriodEndpointPeriodGetParams where
  (appId endpointId : String)
structure V1PeriodEndpointPeriodUpdateParams (M : Models) where
  (appId endpointId : String) (endpointUpdate : M.EndpointUpdate)
structure V1PeriodEndpointPeriodPatchParams (M : Models) where
  (appId endpointId : String) (endpointPatch : M.EndpointPatch)
structure V1PeriodEndpointPeriodDeleteParams where
  (appId endpointId : String)
structure V1PeriodEndpointPeriodGetSecretParams where
  (appId endpointId : String)
structure V1PeriodEndpointPeriodRotateSecretParams (M : Models) where
  (appId endpointId : String) (endpointSecretRotateIn : M.EndpointSecretRotateIn)
  (idempotencyKey : Option String)
structure V1PeriodEndpointPeriodRecoverParams (M : Models) where
  (appId endpointId : String) (recoverIn : M.RecoverIn) (idempotencyKey : Option String)
structure V1PeriodEndpointPeriodGetHeadersParams where
  (appId endpointId : String)
structure V1PeriodEndpointPeriodUpdateHeadersParams (M : Models) where
  (appId endpointId : String) (endpointHeadersIn : M.EndpointHeadersIn)
structure V1PeriodEndpointPeriodPatchHeadersParams (M : Models) where
  (appId endpointId : String) (endpointHeadersPatchIn : M.EndpointHeadersPatchIn)
structure V1PeriodEndpointPeriodGetStatsParams where
  (appId endpointId : String) (since «until» : Option String)
structure V1PeriodEndpointPeriodReplayParams (M : Models) where
  (appId endpointId : String) (replayIn : M.ReplayIn) (idempotencyKey : Option String)
structure V1PeriodEndpointPeriodTransformationGetParams where
  (appId endpointId : String)
structure V1PeriodEndpointPeriodTransformationPartialUpdateParams (M : Models) where
  (appId endpointId : String) (endpointTransformationIn : M.EndpointTransformationIn)
structure V1PeriodEndpointPeriodSendExampleParams (M : Models) where
  (appId endpointId : String) (eventExampleIn : M.EventExampleIn)
  (idempotencyKey : Option String)

/-- The optional fields of the parameters that are set, by wire name. -/
def V1PeriodEndpointPeriodListParams.present (p : V1PeriodEndpointPeriodListParams M) :
    List String :=
  sentAs "order" p.order++sentAs "iterator" p.iterator++sentAs "limit" p.limit
def V1PeriodEndpointPeriodGetStatsParams.present (p : V1PeriodEndpointPeriodGetStatsParams) :
    List String :=
  sentAs "since" p.since++sentAs "until" p.«until»

namespace Endpoint

def list (self : Endpoint Client) (appId : String) (options : Option (EndpointListOptions M)) :
    Call Client (V1PeriodEndpointPeriodListParams M) :=
  let { iterator,limit,order } := options.getD {}
  ⟨self.cfg,{ appId,order,iterator,limit },.answer⟩

def create (self : Endpoint Client) (appId : String) (endpointIn : M.EndpointIn)
    (options : Option PostOptions) : Call Client (V1PeriodEndpointPeriodCreateParams M) :=
  let { idempotencyKey } := options.getD {}
  ⟨self.cfg,{ appId,endpointIn,idempotencyKey },.answer⟩

def get (self : Endpoint Client) (appId endpointId : String) :
    Call Client V1PeriodEndpointPeriodGetParams :=
  ⟨self.cfg,{ appId,endpointId },.answer⟩

def update (self : Endpoint Client) (appId endpointId : String) (endpointUpdate : M.EndpointUpdate)
    (_ : Option PostOptions) : Call Client (V1PeriodEndpointPeriodUpdateParams M) :=
  ⟨self.cfg,{ appId,endpointId,endpointUpdate },.answer⟩

def patch (self : Endpoint Client) (appId endpointId : String) (endpointPatch : M.EndpointPatch)
    (_ : Option PostOptions) : Call Client (V1PeriodEndpointPeriodPatchParams M) :=
  ⟨self.cfg,{ appId,endpointId,endpointPatch },.answer⟩

def delete (self : Endpoint Client) (appId endpointId : String) :
    Call Client V1PeriodEndpointPeriodDeleteParams :=
  ⟨self.cfg,{ appId,endpointId },.answer⟩

def getSecret (self : Endpoint Client) (appId endpointId : String) :
    Call Client V1PeriodEndpointPeriodGetSecretParams :=
  ⟨self.cfg,{ appId,endpointId },.answer⟩

def rotateSecret (self : Endpoint Client) (appId endpointId : String)
    (endpointSecretRotateIn : M.EndpointSecretRotateIn) :
    Call Client (V1PeriodEndpointPeriodRotateSecretParams M) :=
  ⟨self.cfg,{ appId,endpointId,endpointSecretRotateIn,idempotencyKey := none },.answer⟩

def recover (self : Endpoint Client) (appId endpointId : String) (recoverIn : M.RecoverIn) :
    Call Client (V1PeriodEndpointPeriodRecoverParams M) :=
  ⟨self.cfg,{ appId,endpointId,recoverIn,idempotencyKey := none },.unit⟩

def getHeaders (self : Endpoint Client) (appId endpointId : String) :
    Call Client V1PeriodEndpointPeriodGetHeadersParams :=
  ⟨self.cfg,{ appId,endpointId },.answer⟩

def updateHeaders (self : Endpoint Client) (appId endpointId : String)
    (endpointHeadersIn : M.EndpointHeadersIn) :
    Call Client (V1PeriodEndpointPeriodUpdateHeadersParams M) :=
  ⟨self.cfg,{ appId,endpointId,endpointHeadersIn },.answer⟩

def patchHeaders (self : Endpoint Client) (appId endpointId : String)
    (endpointHeadersPatchIn : M.EndpointHeadersPatchIn) :
    Call Client (V1PeriodEndpointPeriodPatchHeadersParams M) :=
  ⟨self.cfg,{ appId,endpointId,endpointHeadersPatchIn },.answer⟩

def getStats (self : Endpoint Client) (appId endpointId : String)
    (options : Option EndpointStatsOptions) : Call Client V1PeriodEndpointPeriodGetStatsParams :=
  let { since,«until» } := options.getD {}
  ⟨self.cfg,{ appId,endpointId,since,«until» },.answer⟩

def replayMissing (self : Endpoint Client) (appId endpointId : String) (replayIn : M.ReplayIn)
    (options : Option PostOptions) : Call Client (V1PeriodEndpointPeriodReplayParams M) :=
  let { idempotencyKey } := options.getD {}
  ⟨self.cfg,{ appId,endpointId,replayIn,idempotencyKey },.unit⟩

def transformationGet (self : Endpoint Client) (appId endpointId : String) :
    Call Client V1PeriodEndpointPeriodTransformationGetParams :=
  ⟨self.cfg,{ appId,endpointId },.answer⟩

def transformationPartialUpdate (self : Endpoint Client) (appId endpointId : String)
    (endpointTransformationIn : M.EndpointTransformationIn) :
    Call Client (V1PeriodEndpointPeriodTransformationPartialUpdateParams M) :=
  ⟨self.cfg,{ appId,endpointId,endpointTransformationIn },.unit⟩

def sendExample (self : Endpoint Client) (appId endpointId : String)
    (eventExampleIn : M.EventExampleIn) (options : Option PostOptions) :
    Call Client (V1PeriodEndpointPeriodSendExampleParams M) :=
  let { idempotencyKey } := options.getD {}
  ⟨self.cfg,{ appId,endpointId,eventExampleIn,idempotencyKey },.answer⟩

/-- list puts order first on the wire; what it sends is still exactly the
option fields set. -/
theorem list_present (self : Endpoint Client) (appId : String)
    (options : Option (EndpointListOptions M)) :
    (self.list appId options).params.present.Perm (options.getD {}).names := by
  rw [List.perm_iff_count]
  intro n
  simp only [list,V1PeriodEndpointPeriodListParams.present,EndpointListOptions.names,
    List.count_append]
  omega

end Endpoint

structure IntegrationListOptions (M : Models) where
  iterator : Option String := none
  limit : Option (BitVec 32) := none
  order : Option M.Ordering := none

def IntegrationListOptions.names (o : IntegrationListOptions M) : List String :=
  sentAs "iterator" o.iterator++sentAs "limit" o.limit++sentAs "order" o.order

structure V1PeriodIntegrationPeriodListParams (M : Models) where
  (appId : String) (iterator : Option String) (limit : Option (BitVec 32))
  (order : Option M.Ordering)
structure V1PeriodIntegrationPeriodCreateParams (M : Models) where
  (appId : String) (integrationIn : M.IntegrationIn) (idempotencyKey : Option String)
structure V1PeriodIntegrationPeriodGetParams where
  (appId integId : String)
structure V1PeriodIntegrationPeriodUpdateParams (M : Models) where
  (appId integId : String) (integrationUpdate : M.IntegrationUpdate)
structure V1PeriodIntegrationPeriodDeleteParams where
  (appId integId : String)
structure V1PeriodIntegrationPeriodGetKeyParams where
  (appId integId : String)
structure V1PeriodIntegrationPeriodRotateKeyParams where
  (appId integId : String) (idempotencyKey : Option String)

def V1PeriodIntegrationPeriodListParams.present (p : V1PeriodIntegrationPeriodListParams M) :
    List String :=
  sentAs "iterator" p.iterator++sentAs "limit" p.limit++sentAs "order" p.order

namespace Integration

def list (self : Integration Client) (appId : String) (options : Option (IntegrationListOptions M)) :
    Call Client (V1PeriodIntegrationPeriodListParams M) :=
  let { iterator,limit,order } := options.getD {}
  ⟨self.cfg,{ appId,iterator,limit,order },.answer⟩

def create (self : Integration Client) (appId : String) (integrationIn : M.IntegrationIn)
    (options : Option PostOptions) : Call Client (V1PeriodIntegrationPeriodCreateParams M) :=
  let { idempotencyKey } := options.getD {}
  ⟨self.cfg,{ appId,integrationIn,idempotencyKey },.answer⟩

def get (self : Integration Client) (appId integId : String) :
    Call Client V1PeriodIntegrationPeriodGetParams :=
  ⟨self.cfg,{ appId,integId },.answer⟩

def update (self : Integration Client) (appId integId : String)
    (integrationUpdate : M.IntegrationUpdate) (_ : Option PostOptions) :
    Call Client (V1PeriodIntegrationPeriodUpdateParams M) :=
  ⟨self.cfg,{ appId,integId,integrationUpdate },.answer⟩

def delete (self : Integration Client) (appId integId : String) :
    Call Client V1PeriodIntegrationPeriodDeleteParams :=
  ⟨self.cfg,{ appId,integId },.answer⟩

def getKey (self : Integration Client) (appId integId : String) :
    Call Client V1PeriodIntegrationPeriodGetKeyParams :=
  ⟨self.cfg,{ appId,integId },.answer⟩

def rotateKey (self : Integration Client) (appId integId : String) :
    Call Client V1PeriodIntegrationPeriodRotateKeyParams :=
  ⟨self.cfg,{ appId,integId,idempotencyKey := none },.answer⟩

end Integration

end SvixClient
