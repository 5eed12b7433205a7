import SvixClient.Call

namespace SvixClient

variable {M : Models} {Client : Type}

structure Authentication (Client : Type) where
  cfg : Configuration Client

structure Application (Client : Type) where
  cfg : Configuration Client

def Svix.authentication (s : Svix Client) : Authentication Client := ⟨s.cfg⟩
def Svix.application (s : Svix Client) : Application Client := ⟨s.cfg⟩

structure V1PeriodAuthenticationPeriodDashboardAccessParams where
  (appId : String) (idempotencyKey : Option String)
structure V1PeriodAuthenticationPeriodAppPortalAccessParams (M : Models) where
  (appId : String) (appPortalAccessIn : M.AppPortalAccessIn) (idempotencyKey : Option String)
structure V1PeriodAuthenticationPeriodLogoutParams where
  (idempotencyKey : Option String)

namespace Authentication

def dashboardAccess (self : Authentication Client) (appId : String) (options : Option PostOptions) :
    Call Client V1PeriodAuthenticationPeriodDashboardAccessParams :=
  let options := options.getD {}
  ⟨self.cfg,{ appId,idempotencyKey := options.idempotencyKey },.answer⟩

def appPortalAccess (self : Authentication Client) (appId : String)
    (appPortalAccessIn : M.AppPortalAccessIn) (options : Option PostOptions) :
    Call Client (V1PeriodAuthenticationPeriodAppPortalAccessParams M) :=
  let options := options.getD {}
  ⟨self.cfg,{ appId,appPortalAccessIn,idempotencyKey := options.idempotencyKey },.answer⟩

def logout (self : Authentication Client) (options : Option PostOptions) :
    Call Client V1PeriodAuthenticationPeriodLogoutParams :=
  let { idempotencyKey } := options.getD {}
  ⟨self.cfg,{ idempotencyKey },.answer⟩

end Authentication

structure ApplicationListOptions (M : Models) where
  iterator : Option String := none
  limit : Option (BitVec 32) := none
  order : Option M.Ordering := none

def ApplicationListOptions.names (o : ApplicationListOptions M) : List String :=
  sentAs "iterator" o.iterator++sentAs "limit" o.limit++sentAs "order" o.order

structure V1PeriodApplicationPeriodListParams (M : Models) where
  (iterator : Option String) (limit : Option (BitVec 32)) (order : Option M.Ordering)
/-- Shared by create and get_or_create, which differ in getIfExists only. -/
structure V1PeriodApplicationPeriodCreateParams (M : Models) where
  (applicationIn : M.ApplicationIn) (idempotencyKey : Option String) (getIfExists : Option Bool)
structure V1PeriodApplicationPeriodGetParams where
  (appId : String)
structure V1PeriodApplicationPeriodUpdateParams (M : Models) where
  (appId : String) (applicationIn : M.ApplicationIn)
structure V1PeriodApplicationPeriodPatchParams (M : Models) where
  (appId : String) (applicationPatch : M.ApplicationPatch)
structure V1PeriodApplicationPeriodDeleteParams where
  (appId : String)

/-- The optional fields of the parameters that are set, by wire name. -/
def V1PeriodApplicationPeriodListParams.present (p : V1PeriodApplicationPeriodListParams M) :
    List String :=
  sentAs "iterator" p.iterator++sentAs "limit" p.limit++sentAs "order" p.order
def V1PeriodApplicationPeriodCreateParams.present (p : V1PeriodApplicationPeriodCreateParams M) :
    List String :=
  sentAs "idempotency_key" p.idempotencyKey++sentAs "get_if_exists" p.getIfExists

namespace Application

def list (self : Application Client) (options : Option (ApplicationListOptions M)) :
    Call Client (V1PeriodApplicationPeriodListParams M) :=
  let { iterator,limit,order } := options.getD {}
  ⟨self.cfg,{ iterator,limit,order },.answer⟩

def create (self : Application Client) (applicationIn : M.ApplicationIn)
    (options : Option PostOptions) : Call Client (V1PeriodApplicationPeriodCreateParams M) :=
  let { idempotencyKey } := options.getD {}
  ⟨self.cfg,{ applicationIn,idempotencyKey,getIfExists := none },.answer⟩

def getOrCreate (self : Application Client) (applicationIn : M.ApplicationIn)
    (options : Option PostOptions) : Call Client (V1PeriodApplicationPeriodCreateParams M) :=
  let { idempotencyKey } := options.getD {}
  ⟨self.cfg,{ applicationIn,idempotencyKey,getIfExists := some true },.answer⟩

def get (self : Application Client) (appId : String) :
    Call Client V1PeriodApplicationPeriodGetParams :=
  ⟨self.cfg,{ appId },.answer⟩

/-- The PostOptions are accepted and not read. -/
def update (self : Application Client) (appId : String) (applicationIn : M.ApplicationIn)
    (_ : Option PostOptions) : Call Client (V1PeriodApplicationPeriodUpdateParams M) :=
  ⟨self.cfg,{ appId,applicationIn },.answer⟩

def patch (self : Application Client) (appId : String) (applicationPatch : M.ApplicationPatch)
    (_ : Option PostOptions) : Call Client (V1PeriodApplicationPeriodPatchParams M) :=
  ⟨self.cfg,{ appId,applicationPatch },.answer⟩

def delete (self : Application Client) (appId : String) :
    Call Client V1PeriodApplicationPeriodDeleteParams :=
  ⟨self.cfg,{ appId },.answer⟩

/-- create and get_or_create make one and the same catalog call but for the
get_if_exists flag, unset for create and true for get_or_create: the client
checks for nothing itself. -/
theorem getOrCreate_create (self : Application Client) (applicationIn : M.ApplicationIn)
    (options : Option PostOptions) :
    (self.create applicationIn options).params.getIfExists=none ∧
      self.getOrCreate applicationIn options=
        { self.create applicationIn options with
          params :=
            { (self.create applicationIn options).params with getIfExists := some true } } :=
  ⟨rfl,rfl⟩

end Application

end SvixClient
