import SvixClient.Call

namespace SvixClient

variable {M : Models} {Client : Type}

structure EventType (Client : Type) where
  cfg : Configuration Client

structure Message (Client : Type) where
  cfg : Configuration Client

structure MessageAttempt (Client : Type) where
  cfg : Configuration Client

def Svix.eventType (s : Svix Client) : EventType Client := ⟨s.cfg⟩
def Svix.message (s : Svix Client) : Message Client := ⟨s.cfg⟩
def Svix.messageAttempt (s : Svix Client) : MessageAttempt Client := ⟨s.cfg⟩

structure EventTypeListOptions where
  iterator : Option String := none
  limit : Option (BitVec 32) := none
  withContent : Option Bool := none
  includeArchived : Option Bool := none

def EventTypeListOptions.names (o : EventTypeListOptions) : List String :=
  sentAs "iterator" o.iterator++sentAs "limit" o.limit++sentAs "with_content" o.withContent++
    sentAs "include_archived" o.includeArchived

structure V1PeriodEventTypePeriodListParams (M : Models) where
  (iterator : Option String) (limit : Option (BitVec 32)) (withContent includeArchived : Option Bool)
  (order : Option M.Ordering)
structure V1PeriodEventTypePeriodCreateParams (M : Models) where
  (eventTypeIn : M.EventTypeIn) (idempotencyKey : Option String)
structure V1PeriodEventTypePeriodGetParams where
  (eventTypeName : String)
structure V1PeriodEventTypePeriodUpdateParams (M : Models) where
  (eventTypeName : String) (eventTypeUpdate : M.EventTypeUpdate)
structure V1PeriodEventTypePeriodPatchParams (M : Models) where
  (eventTypeName : String) (eventTypePatch : M.EventTypePatch)
structure V1PeriodEventTypePeriodDeleteParams where
  (eventTypeName : String) (expunge : Option Bool)
structure V1PeriodEventTypePeriodImportOpenapiParams (M : Models) where
  (eventTypeImportOpenApiIn : M.EventTypeImportOpenApiIn) (idempotencyKey : Option String)

/-- The optional fields of the parameters that are set, by wire name. -/
def V1PeriodEventTypePeriodListParams.present (p : V1PeriodEventTypePeriodListParams M) :
    List String :=
  sentAs "iterator" p.iterator++sentAs "limit" p.limit++sentAs "with_content" p.withContent++
    sentAs "include_archived" p.includeArchived++sentAs "order" p.order

namespace EventType

/-- The options carry no order; the call always sends none. -/
def list (self : EventType Client) (options : Option EventTypeListOptions) :
    Call Client (V1PeriodEventTypePeriodListParams M) :=
  let { iterator,limit,withContent,includeArchived } := options.getD {}
  ⟨self.cfg,{ iterator,limit,withContent,includeArchived,order := none },.answer⟩

def create (self : EventType Client) (eventTypeIn : M.EventTypeIn) (options : Option PostOptions) :
    Call Client (V1PeriodEventTypePeriodCreateParams M) :=
  let { idempotencyKey } := options.getD {}
  ⟨self.cfg,{ eventTypeIn,idempotencyKey },.answer⟩

def get (self : EventType Client) (eventTypeName : String) :
    Call Client V1PeriodEventTypePeriodGetParams :=
  ⟨self.cfg,{ eventTypeName },.answer⟩

def update (self : EventType Client) (eventTypeName : String) (eventTypeUpdate : M.EventTypeUpdate)
    (_ : Option PostOptions) : Call Client (V1PeriodEventTypePeriodUpdateParams M) :=
  ⟨self.cfg,{ eventTypeName,eventTypeUpdate },.answer⟩

def patch (self : EventType Client) (eventTypeName : String) (eventTypePatch : M.EventTypePatch)
    (_ : Option PostOptions) : Call Client (V1PeriodEventTypePeriodPatchParams M) :=
  ⟨self.cfg,{ eventTypeName,eventTypePatch },.answer⟩

def delete (self : EventType Client) (eventTypeName : String) :
    Call Client V1PeriodEventTypePeriodDeleteParams :=
  ⟨self.cfg,{ eventTypeName,expunge := none },.answer⟩

def importOpenapi (self : EventType Client) (eventTypeImportOpenApiIn : M.EventTypeImportOpenApiIn)
    (options : Option PostOptions) : Call Client (V1PeriodEventTypePeriodImportOpenapiParams M) :=
  let { idempotencyKey } := options.getD {}
  ⟨self.cfg,{ eventTypeImportOpenApiIn,idempotencyKey },.answer⟩

end EventType

/-- before and after are RFC3339 date strings, passed on unparsed. -/
structure MessageListOptions where
  iterator : Option String := none
  limit : Option (BitVec 32) := none
  eventTypes : Option (List String) := none
  before : Option String := none
  after : Option String := none
  channel : Option String := none
  withContent : Option Bool := none
  tag : Option String := none

def MessageListOptions.names (o : MessageListOptions) : List String :=
  sentAs "iterator" o.iterator++sentAs "limit" o.limit++sentAs "event_types" o.eventTypes++
    sentAs "before" o.before++sentAs "after" o.after++sentAs "channel" o.channel++
    sentAs "with_content" o.withContent++sentAs "tag" o.tag

structure V1PeriodMessagePeriodListParams where
  (appId : String) (iterator : Option String) (limit : Option (BitVec 32))
  (eventTypes : Option (List String)) (before after channel : Option String)
  (withContent : Option Bool) (tag : Option String)
structure V1PeriodMessagePeriodCreateParams (M : Models) where
  (appId : String) (messageIn : M.MessageIn) (idempotencyKey : Option String)
  (withContent : Option Bool)
structure V1PeriodMessagePeriodGetParams where
  (appId msgId : String) (withContent : Option Bool)
structure V1PeriodMessagePeriodExpungeContentParams where
  (msgId appId : String)

def V1PeriodMessagePeriodListParams.present (p : V1PeriodMessagePeriodListParams) : List String :=
  sentAs "iterator" p.iterator++sentAs "limit" p.limit++sentAs "event_types" p.eventTypes++
    sentAs "before" p.before++sentAs "after" p.after++sentAs "channel" p.channel++
    sentAs "with_content" p.withContent++sentAs "tag" p.tag
def V1PeriodMessagePeriodCreateParams.present (p : V1PeriodMessagePeriodCreateParams M) :
    List String :=
  sentAs "idempotency_key" p.idempotencyKey++sentAs "with_content" p.withContent

namespace Message

def list (self : Message Client) (appId : String) (options : Option MessageListOptions) :
    Call Client V1PeriodMessagePeriodListParams :=
  let { iterator,limit,eventTypes,before,after,channel,withContent,tag } := options.getD {}
  ⟨self.cfg,{ appId,iterator,limit,eventTypes,before,after,channel,withContent,tag },.answer⟩

def create (self : Message Client) (appId : String) (messageIn : M.MessageIn)
    (options : Option PostOptions) : Call Client (V1PeriodMessagePeriodCreateParams M) :=
  let { idempotencyKey } := options.getD {}
  ⟨self.cfg,{ appId,messageIn,idempotencyKey,withContent := none },.answer⟩

def get (self : Message Client) (appId msgId : String) :
    Call Client V1PeriodMessagePeriodGetParams :=
  ⟨self.cfg,{ appId,msgId,withContent := none },.answer⟩

def expungeContent (self : Message Client) (appId msgId : String) :
    Call Client V1PeriodMessagePeriodExpungeContentParams :=
  ⟨self.cfg,{ msgId,appId },.answer⟩

end Message

structure MessageAttemptListOptions (M : Models) where
  iterator : Option String := none
  limit : Option (BitVec 32) := none
  eventTypes : Option (List String) := none
  before : Option String := none
  after : Option String := none
  channel : Option String := none
  tag : Option String := none
  status : Option M.MessageStatus := none
  statusCodeClass : Option M.StatusCodeClass := none
  withContent : Option Bool := none
  endpointId : Option String := none

structure MessageAttemptListByEndpointOptions (M : Models) where
  iterator : Option String := none
  limit : Option (BitVec 32) := none
  eventTypes : Option (List String) := none
  before : Option String := none
  after : Option String := none
  channel : Option String := none
  tag : Option String := none
  status : Option M.MessageStatus := none
  statusCodeClass : Option M.StatusCodeClass := none
  withContent : Option Bool := none
  withMsg : Option Bool := none
  endpointId : Option String := none

def MessageAttemptListOptions.names (o : MessageAttemptListOptions M) : List String :=
  sentAs "iterator" o.iterator++sentAs "limit" o.limit++sentAs "event_types" o.eventTypes++
    sentAs "before" o.before++sentAs "after" o.after++sentAs "channel" o.channel++
    sentAs "tag" o.tag++sentAs "status" o.status++sentAs "status_code_class" o.statusCodeClass++
    sentAs "with_content" o.withContent++sentAs "endpoint_id" o.endpointId
def MessageAttemptListByEndpointOptions.names (o : MessageAttemptListByEndpointOptions M) :
    List String :=
  sentAs "iterator" o.iterator++sentAs "limit" o.limit++sentAs "event_types" o.eventTypes++
    sentAs "before" o.before++sentAs "after" o.after++sentAs "channel" o.channel++
    sentAs "tag" o.tag++sentAs "status" o.status++sentAs "status_code_class" o.statusCodeClass++
    sentAs "with_content" o.withContent++sentAs "with_msg" o.withMsg++
    sentAs "endpoint_id" o.endpointId

structure V1PeriodMessageAttemptPeriodListByMsgParams (M : Models) where
  (appId msgId : String) (iterator : Option String) (limit : Option (BitVec 32))
  (eventTypes : Option (List String)) (before after channel tag : Option String)
  (status : Option M.MessageStatus) (statusCodeClass : Option M.StatusCodeClass)
  (endpointId : Option String) (withContent : Option Bool)
structure V1PeriodMessageAttemptPeriodListByEndpointParams (M : Models) where
  (appId endpointId : String) (iterator : Option String) (limit : Option (BitVec 32))
  (eventTypes : Option (List String)) (before after channel tag : Option String)
  (status : Option M.MessageStatus) (statusCodeClass : Option M.StatusCodeClass)
  (withContent withMsg : Option Bool)
structure V1PeriodMessageAttemptPeriodListAttemptedMessagesParams (M : Models) where
  (appId endpointId : String) (iterator : Option String) (limit : Option (BitVec 32))
  (before after channel tag : Option String) (status : Option M.MessageStatus)
  (withContent : Option Bool) (eventTypes : Option (List String))
structure V1PeriodMessageAttemptPeriodListAttemptedDestinationsParams where
  (appId msgId : String) (iterator : Option String) (limit : Option (BitVec 32))
structure V1PeriodMessageAttemptPeriodListByEndpointDeprecatedParams (M : Models) where
  (appId endpointId msgId : String) (iterator : Option String) (limit : Option (BitVec 32))
  (eventTypes : Option (List String)) (before after channel tag : Option String)
  (status : Option M.MessageStatus)
structure V1PeriodMessageAttemptPeriodGetParams where
  (appId msgId attemptId : String)
structure V1PeriodMessageAttemptPeriodResendParams where
  (appId msgId endpointId : String) (idempotencyKey : Option String)
structure V1PeriodMessageAttemptPeriodExpungeContentParams where
  (appId msgId attemptId : String)

def V1PeriodMessageAttemptPeriodListByMsgParams.present
    (p : V1PeriodMessageAttemptPeriodListByMsgParams M) : List String :=
  sentAs "iterator" p.iterator++sentAs "limit" p.limit++sentAs "event_types" p.eventTypes++
    sentAs "before" p.before++sentAs "after" p.after++sentAs "channel" p.channel++
    sentAs "tag" p.tag++sentAs "status" p.status++sentAs "status_code_class" p.statusCodeClass++
    sentAs "endpoint_id" p.endpointId++sentAs "with_content" p.withContent
def V1PeriodMessageAttemptPeriodListByEndpointParams.present
    (p : V1PeriodMessageAttemptPeriodListByEndpointParams M) : List String :=
  sentAs "iterator" p.iterator++sentAs "limit" p.limit++sentAs "event_types" p.eventTypes++
    sentAs "before" p.before++sentAs "after" p.after++sentAs "channel" p.channel++
    sentAs "tag" p.tag++sentAs "status" p.status++sentAs "status_code_class" p.statusCodeClass++
    sentAs "with_content" p.withContent++sentAs "with_msg" p.withMsg
def V1PeriodMessageAttemptPeriodListAttemptedMessagesParams.present
    (p : V1PeriodMessageAttemptPeriodListAttemptedMessagesParams M) : List String :=
  sentAs "iterator" p.iterator++sentAs "limit" p.limit++sentAs "before" p.before++
    sentAs "after" p.after++sentAs "channel" p.channel++sentAs "tag" p.tag++
    sentAs "status" p.status++sentAs "with_content" p.withContent++
    sentAs "event_types" p.eventTypes
def V1PeriodMessageAttemptPeriodListAttemptedDestinationsParams.present
    (p : V1PeriodMessageAttemptPeriodListAttemptedDestinationsParams) : List String :=
  sentAs "iterator" p.iterator++sentAs "limit" p.limit
def V1PeriodMessageAttemptPeriodListByEndpointDeprecatedParams.present
    (p : V1PeriodMessageAttemptPeriodListByEndpointDeprecatedParams M) : List String :=
  sentAs "iterator" p.iterator++sentAs "limit" p.limit++sentAs "event_types" p.eventTypes++
    sentAs "before" p.before++sentAs "after" p.after++sentAs "channel" p.channel++
    sentAs "tag" p.tag++sentAs "status" p.status

namespace MessageAttempt

def listByMsg (self : MessageAttempt Client) (appId msgId : String)
    (options : Option (MessageAttemptListOptions M)) :
    Call Client (V1PeriodMessageAttemptPeriodListByMsgParams M) :=
  let { iterator,limit,eventTypes,before,after,channel,status,tag,statusCodeClass,endpointId,
        withContent } := options.getD {}
  let params : V1PeriodMessageAttemptPeriodListByMsgParams M :=
    { appId,msgId,iterator,limit,eventTypes,before,after,channel,tag,status,
      statusCodeClass,endpointId,withContent }
  ⟨self.cfg,params,.answer⟩

/-- The endpoint is the positional one; the options' endpointId is dropped. -/
def listByEndpoint (self : MessageAttempt Client) (appId endpointId : String)
    (options : Option (MessageAttemptListByEndpointOptions M)) :
    Call Client (V1PeriodMessageAttemptPeriodListByEndpointParams M) :=
  let { iterator,limit,eventTypes,before,after,channel,tag,status,statusCodeClass,
        endpointId := _,withContent,withMsg } := options.getD {}
  let params : V1PeriodMessageAttemptPeriodListByEndpointParams M :=
    { appId,endpointId,iterator,limit,eventTypes,before,after,channel,tag,status,
      statusCodeClass,withContent,withMsg }
  ⟨self.cfg,params,.answer⟩

/-- Drops the options' statusCodeClass and endpointId. -/
def listAttemptedMessages (self : MessageAttempt Client) (appId endpointId : String)
    (options : Option (MessageAttemptListOptions M)) :
    Call Client (V1PeriodMessageAttemptPeriodListAttemptedMessagesParams M) :=
  let { iterator,limit,eventTypes,before,after,channel,tag,status,statusCodeClass := _,
        withContent,endpointId := _ } := options.getD {}
  let params : V1PeriodMessageAttemptPeriodListAttemptedMessagesParams M :=
    { appId,endpointId,iterator,limit,before,after,channel,tag,status,withContent,
      eventTypes }
  ⟨self.cfg,params,.answer⟩

def listAttemptedDestinations (self : MessageAttempt Client) (appId msgId : String)
    (options : Option ListOptions) :
    Call Client V1PeriodMessageAttemptPeriodListAttemptedDestinationsParams :=
  let { iterator,limit } := options.getD {}
  ⟨self.cfg,{ appId,msgId,iterator,limit },.answer⟩

/-- Drops the options' statusCodeClass, endpointId and withContent. -/
def listAttemptsForEndpoint (self : MessageAttempt Client) (appId msgId endpointId : String)
    (options : Option (MessageAttemptListOptions M)) :
    Call Client (V1PeriodMessageAttemptPeriodListByEndpointDeprecatedParams M) :=
  let { iterator,limit,eventTypes,before,after,channel,tag,status,statusCodeClass := _,
        endpointId := _,withContent := _ } := options.getD {}
  let params : V1PeriodMessageAttemptPeriodListByEndpointDeprecatedParams M :=
    { appId,endpointId,msgId,iterator,limit,eventTypes,before,after,channel,tag,status }
  ⟨self.cfg,params,.answer⟩

def get (self : MessageAttempt Client) (appId msgId attemptId : String) :
    Call Client V1PeriodMessageAttemptPeriodGetParams :=
  ⟨self.cfg,{ appId,msgId,attemptId },.answer⟩

def resend (self : MessageAttempt Client) (appId msgId endpointId : String) :
    Call Client V1PeriodMessageAttemptPeriodResendParams :=
  ⟨self.cfg,{ appId,msgId,endpointId,idempotencyKey := none },.answer⟩

def expungeContent (self : MessageAttempt Client) (appId msgId attemptId : String) :
    Call Client V1PeriodMessageAttemptPeriodExpungeContentParams :=
  ⟨self.cfg,{ appId,msgId,attemptId },.answer⟩

/-- list_by_msg puts endpoint_id before with_content on the wire; what it sends
is still exactly the option fields set. -/
theorem listByMsg_present (self : MessageAttempt Client) (appId msgId : String)
    (options : Option (MessageAttemptListOptions M)) :
    (self.listByMsg appId msgId options).params.present.Perm (options.getD {}).names := by
  rw [List.perm_iff_count]
  intro n
  simp only [listByMsg,V1PeriodMessageAttemptPeriodListByMsgParams.present,
    MessageAttemptListOptions.names,List.count_append]
  omega

/-- What list_by_endpoint sends is exactly the option fields set but endpointId. -/
theorem listByEndpoint_present (self : MessageAttempt Client) (appId endpointId : String)
    (options : Option (MessageAttemptListByEndpointOptions M)) :
    (self.listByEndpoint appId endpointId options).params.present.Perm
      { options.getD {} with endpointId := none }.names := by
  rw [List.perm_iff_count]
  intro n
  simp only [listByEndpoint,V1PeriodMessageAttemptPeriodListByEndpointParams.present,
    MessageAttemptListByEndpointOptions.names,sentAs,List.count_append,List.append_nil]

/-- What list_attempted_messages sends is exactly the option fields set but
statusCodeClass and endpointId. -/
theorem listAttemptedMessages_present (self : MessageAttempt Client) (appId endpointId : String)
    (options : Option (MessageAttemptListOptions M)) :
    (self.listAttemptedMessages appId endpointId options).params.present.Perm
      { options.getD {} with statusCodeClass := none,endpointId := none }.names := by
  rw [List.perm_iff_count]
  intro n
  simp only [listAttemptedMessages,V1PeriodMessageAttemptPeriodListAttemptedMessagesParams.present,
    MessageAttemptListOptions.names,sentAs,List.count_append,List.count_nil]
  omega

/-- What list_attempts_for_endpoint sends is exactly the option fields set but
statusCodeClass, endpointId and withContent. -/
theorem listAttemptsForEndpoint_present (self : MessageAttempt Client)
    (appId msgId endpointId : String) (options : Option (MessageAttemptListOptions M)) :
    (self.listAttemptsForEndpoint appId msgId endpointId options).params.present.Perm
      { options.getD {} with
        statusCodeClass := none,endpointId := none,withContent := none }.names := by
  rw [List.perm_iff_count]
  intro n
  simp only [listAttemptsForEndpoint,
    V1PeriodMessageAttemptPeriodListByEndpointDeprecatedParams.present,
    MessageAttemptListOptions.names,sentAs,List.count_append,List.count_nil]
  omega

/-- list_by_endpoint sends the appId and endpointId of its path whatever the
options say, and drops exactly the options' endpointId. -/
theorem listByEndpoint_eq_iff (self : MessageAttempt Client) (appId endpointId : String)
    (o₁ o₂ : MessageAttemptListByEndpointOptions M) :
    (∀ o : Option (MessageAttemptListByEndpointOptions M),
      (self.listByEndpoint appId endpointId o).params.appId=appId ∧
      (self.listByEndpoint appId endpointId o).params.endpointId=endpointId) ∧
    (self.listByEndpoint appId endpointId (some o₁)=self.listByEndpoint appId endpointId (some o₂) ↔
      { o₁ with endpointId := none }={ o₂ with endpointId := none }) := by
  refine ⟨fun _ => ⟨rfl,rfl⟩,?_⟩
  cases o₁; cases o₂
  simp only [listByEndpoint,Option.getD_some,Call.mk.injEq,
    V1PeriodMessageAttemptPeriodListByEndpointParams.mk.injEq,
    MessageAttemptListByEndpointOptions.mk.injEq,true_and,and_true]

/-- list_attempted_messages drops exactly statusCodeClass and endpointId. -/
theorem listAttemptedMessages_eq_iff (self : MessageAttempt Client) (appId endpointId : String)
    (o₁ o₂ : MessageAttemptListOptions M) :
    self.listAttemptedMessages appId endpointId (some o₁)=
        self.listAttemptedMessages appId endpointId (some o₂) ↔
      { o₁ with statusCodeClass := none,endpointId := none }=
        { o₂ with statusCodeClass := none,endpointId := none } := by
  cases o₁; cases o₂
  simp only [listAttemptedMessages,Option.getD_some,Call.mk.injEq,
    V1PeriodMessageAttemptPeriodListAttemptedMessagesParams.mk.injEq,
    MessageAttemptListOptions.mk.injEq,true_and,and_true]
  tauto

/-- list_attempts_for_endpoint drops exactly statusCodeClass, endpointId and withContent. -/
theorem listAttemptsForEndpoint_eq_iff (self : MessageAttempt Client)
    (appId msgId endpointId : String) (o₁ o₂ : MessageAttemptListOptions M) :
    self.listAttemptsForEndpoint appId msgId endpointId (some o₁)=
        self.listAttemptsForEndpoint appId msgId endpointId (some o₂) ↔
      { o₁ with statusCodeClass := none,endpointId := none,withContent := none }=
        { o₂ with statusCodeClass := none,endpointId := none,withContent := none } := by
  cases o₁; cases o₂
  simp only [listAttemptsForEndpoint,Option.getD_some,Call.mk.injEq,
    V1PeriodMessageAttemptPeriodListByEndpointDeprecatedParams.mk.injEq,
    MessageAttemptListOptions.mk.injEq,true_and,and_true]

end MessageAttempt

end SvixClient
