import SvixClient.Call

namespace SvixClient

variable {M : Models} {Client : Type}

structure OperationalWebhookEndpoint (Client : Type) where
  cfg : Configuration Client

structure BackgroundTask (Client : Type) where
  cfg : Configuration Client

structure Statistics (Client : Type) where
  cfg : Configuration Client

def Svix.operationalWebhookEndpoint (s : Svix Client) : OperationalWebhookEndpoint Client :=
  ⟨s.cfg⟩
def Svix.backgroundTask (s : Svix Client) : BackgroundTask Client := ⟨s.cfg⟩
def Svix.statistics (s : Svix Client) : Statistics Client := ⟨s.cfg⟩

structure OperationalWebhookEndpointListOptions (M : Models) where
  iterator : Option String := none
  limit : Option (BitVec 32) := none
  order : Option M.Ordering := none

def OperationalWebhookEndpointListOptions.names (o : OperationalWebhookEndpointListOptions M) :
    List String :=
  sentAs "iterator" o.iterator++sentAs "limit" o.limit++sentAs "order" o.order

structure ListOperationalWebhookEndpointsParams (M : Models) where
  (order : Option M.Ordering) (iterator : Option String) (limit : Option (BitVec 32))
structure CreateOperationalWebhookEndpointParams (M : Models) where
  (operationalWebhookEndpointIn : M.OperationalWebhookEndpointIn) (idempotencyKey : Option String)
structure GetOperationalWebhookEndpointParams where
  (endpointId : String)
structure UpdateOperationalWebhookEndpointParams (M : Models) where
  (endpointId : String) (operationalWebhookEndpointUpdate : M.OperationalWebhookEndpointUpdate)
structure DeleteOperationalWebhookEndpointParams where
  (endpointId : String)
structure GetOperationalWebhookEndpointSecretParams where
  (endpointId : String)
structure RotateOperationalWebhookEndpointSecretParams (M : Models) where
  (endpointId : String) (operationalWebhookEndpointSecretIn : M.OperationalWebhookEndpointSecretIn)
  (idempotencyKey : Option String)

/-- The optional fields of the parameters that are set, by wire name. -/
def ListOperationalWebhookEndpointsParams.present (p : ListOperationalWebhookEndpointsParams M) :
    List String :=
  sentAs "order" p.order++sentAs "iterator" p.iterator++sentAs "limit" p.limit

namespace OperationalWebhookEndpoint

def list (self : OperationalWebhookEndpoint Client)
    (options : Option (OperationalWebhookEndpointListOptions M)) :
    Call Client (ListOperationalWebhookEndpointsParams M) :=
  let { iterator,limit,order } := options.getD {}
  ⟨self.cfg,{ order,iterator,limit },.answer⟩

def create (self : OperationalWebhookEndpoint Client) (endpointIn : M.OperationalWebhookEndpointIn)
    (options : Option PostOptions) : Call Client (CreateOperationalWebhookEndpointParams M) :=
  let { idempotencyKey } := options.getD {}
  ⟨self.cfg,{ operationalWebhookEndpointIn := endpointIn,idempotencyKey },.answer⟩

def get (self : OperationalWebhookEndpoint Client) (endpointId : String) :
    Call Client GetOperationalWebhookEndpointParams :=
  ⟨self.cfg,{ endpointId },.answer⟩

def update (self : OperationalWebhookEndpoint Client) (endpointId : String)
    (endpointUpdate : M.OperationalWebhookEndpointUpdate) (_ : Option PostOptions) :
    Call Client (UpdateOperationalWebhookEndpointParams M) :=
  ⟨self.cfg,{ endpointId,operationalWebhookEndpointUpdate := endpointUpdate },.answer⟩

def delete (self : OperationalWebhookEndpoint Client) (endpointId : String) :
    Call Client DeleteOperationalWebhookEndpointParams :=
  ⟨self.cfg,{ endpointId },.answer⟩

def getSecret (self : OperationalWebhookEndpoint Client) (endpointId : String) :
    Call Client GetOperationalWebhookEndpointSecretParams :=
  ⟨self.cfg,{ endpointId },.answer⟩

def rotateSecret (self : OperationalWebhookEndpoint Client) (endpointId : String)
    (endpointSecretRotateIn : M.OperationalWebhookEndpointSecretIn) :
    Call Client (RotateOperationalWebhookEndpointSecretParams M) :=
  let params : RotateOperationalWebhookEndpointSecretParams M :=
    { endpointId,operationalWebhookEndpointSecretIn := endpointSecretRotateIn,
      idempotencyKey := none }
  ⟨self.cfg,params,.answer⟩

/-- list puts order first on the wire; what it sends is still exactly the
option fields set. -/
theorem list_present (self : OperationalWebhookEndpoint Client)
    (options : Option (OperationalWebhookEndpointListOptions M)) :
    (self.list options).params.present.Perm (options.getD {}).names := by
  rw [List.perm_iff_count]
  intro n
  simp only [list,ListOperationalWebhookEndpointsParams.present,
    OperationalWebhookEndpointListOptions.names,List.count_append]
  omega

end OperationalWebhookEndpoint

structure BackgroundTaskListOptions (M : Models) where
  iterator : Option String := none
  limit : Option (BitVec 32) := none
  order : Option M.Ordering := none
  status : Option M.BackgroundTaskStatus := none
  task : Option M.BackgroundTaskType := none

def BackgroundTaskListOptions.names (o : BackgroundTaskListOptions M) : List String :=
  sentAs "iterator" o.iterator++sentAs "limit" o.limit++sentAs "order" o.order++
    sentAs "status" o.status++sentAs "task" o.task

structure ListBackgroundTasksParams (M : Models) where
  (status : Option M.BackgroundTaskStatus) (task : Option M.BackgroundTaskType)
  (limit : Option (BitVec 32)) (iterator : Option String) (order : Option M.Ordering)
structure GetBackgroundTaskParams where
  (taskId : String)

def ListBackgroundTasksParams.present (p : ListBackgroundTasksParams M) : List String :=
  sentAs "status" p.status++sentAs "task" p.task++sentAs "limit" p.limit++
    sentAs "iterator" p.iterator++sentAs "order" p.order

namespace BackgroundTask

def list (self : BackgroundTask Client) (options : Option (BackgroundTaskListOptions M)) :
    Call Client (ListBackgroundTasksParams M) :=
  let { iterator,limit,order,status,task } := options.getD {}
  ⟨self.cfg,{ status,task,limit,iterator,order },.answer⟩

def get (self : BackgroundTask Client) (taskId : String) : Call Client GetBackgroundTaskParams :=
  ⟨self.cfg,{ taskId },.answer⟩

/-- list sends status and task first; what it sends is still exactly the option
fields set. -/
theorem list_present (self : BackgroundTask Client)
    (options : Option (BackgroundTaskListOptions M)) :
    (self.list options).params.present.Perm (options.getD {}).names := by
  rw [List.perm_iff_count]
  intro n
  simp only [list,ListBackgroundTasksParams.present,BackgroundTaskListOptions.names,
    List.count_append]
  omega

end BackgroundTask

/-- The one call with required fields: since and until must be given. -/
structure AggregateAppStatsOptions where
  appIds : Option (List String)
  since : String
  «until» : String

/-- The models' AppUsageStatsIn, the one body api.rs builds itself. -/
structure AppUsageStatsIn where
  (appIds : Option (List String)) (since «until» : String)

structure V1PeriodStatisticsPeriodAggregateAppStatsParams where
  (appUsageStatsIn : AppUsageStatsIn) (idempotencyKey : Option String)

namespace Statistics

def aggregateAppStats (self : Statistics Client) (aggregate : AggregateAppStatsOptions)
    (options : Option PostOptions) : Call Client V1PeriodStatisticsPeriodAggregateAppStatsParams :=
  let { appIds,since,«until» } := aggregate
  let options := options.getD {}
  let params : V1PeriodStatisticsPeriodAggregateAppStatsParams :=
    { appUsageStatsIn := { appIds,since,«until» },idempotencyKey := options.idempotencyKey }
  ⟨self.cfg,params,.answer⟩

/-- The catalog function takes the configuration alone. -/
def aggregateEventTypes (self : Statistics Client) : Call Client Unit :=
  ⟨self.cfg,(),.answer⟩

end Statistics

end SvixClient
