import SvixClient.Conventions

namespace SvixClient

variable {M : Models} {Client : Type}

namespace Method

/-- The method as far as its call can tell: options left out are the all-defaults
options (unwrap_or_default), and what a method never reads is cleared: the
PostOptions of the update and patch methods and the option fields the message
attempt lists bind to _. -/
def normalize : Method M → Method M
  | .authenticationDashboardAccess a o => .authenticationDashboardAccess a (some (o.getD {}))
  | .authenticationAppPortalAccess a b o => .authenticationAppPortalAccess a b (some (o.getD {}))
  | .authenticationLogout o => .authenticationLogout (some (o.getD {}))
  | .applicationList o => .applicationList (some (o.getD {}))
  | .applicationCreate b o => .applicationCreate b (some (o.getD {}))
  | .applicationGetOrCreate b o => .applicationGetOrCreate b (some (o.getD {}))
  | .applicationUpdate a b _ => .applicationUpdate a b none
  | .applicationPatch a b _ => .applicationPatch a b none
  | .endpointList a o => .endpointList a (some (o.getD {}))
  | .endpointCreate a b o => .endpointCreate a b (some (o.getD {}))
  | .endpointUpdate a e b _ => .endpointUpdate a e b none
  | .endpointPatch a e b _ => .endpointPatch a e b none
  | .endpointGetStats a e o => .endpointGetStats a e (some (o.getD {}))
  | .endpointReplayMissing a e b o => .endpointReplayMissing a e b (some (o.getD {}))
  | .endpointSendExample a e b o => .endpointSendExample a e b (some (o.getD {}))
  | .integrationList a o => .integrationList a (some (o.getD {}))
  | .integrationCreate a b o => .integrationCreate a b (some (o.getD {}))
  | .integrationUpdate a i b _ => .integrationUpdate a i b none
  | .eventTypeList o => .eventTypeList (some (o.getD {}))
  | .eventTypeCreate b o => .eventTypeCreate b (some (o.getD {}))
  | .eventTypeUpdate n b _ => .eventTypeUpdate n b none
  | .eventTypePatch n b _ => .eventTypePatch n b none
  | .eventTypeImportOpenapi b o => .eventTypeImportOpenapi b (some (o.getD {}))
  | .messageList a o => .messageList a (some (o.getD {}))
  | .messageCreate a b o => .messageCreate a b (some (o.getD {}))
  | .messageAttemptListByMsg a m o => .messageAttemptListByMsg a m (some (o.getD {}))
  | .messageAttemptListByEndpoint a e o =>
    .messageAttemptListByEndpoint a e (some { o.getD {} with endpointId := none })
  | .messageAttemptListAttemptedMessages a e o =>
    .messageAttemptListAttemptedMessages a e
      (some { o.getD {} with statusCodeClass := none,endpointId := none })
  | .messageAttemptListAttemptedDestinations a m o =>
    .messageAttemptListAttemptedDestinations a m (some (o.getD {}))
  | .messageAttemptListAttemptsForEndpoint a m e o =>
    .messageAttemptListAttemptsForEndpoint a m e
      (some { o.getD {} with statusCodeClass := none,endpointId := none,withContent := none })
  | .operationalWebhookEndpointList o => .operationalWebhookEndpointList (some (o.getD {}))
  | .operationalWebhookEndpointCreate b o =>
    .operationalWebhookEndpointCreate b (some (o.getD {}))
  | .operationalWebhookEndpointUpdate e b _ => .operationalWebhookEndpointUpdate e b none
  | .backgroundTaskList o => .backgroundTaskList (some (o.getD {}))
  | .statisticsAggregateAppStats a o => .statisticsAggregateAppStats a (some (o.getD {}))
  | m => m

end Method

namespace Request

/-- The method call a catalog call comes from, read back from its parameters;
get_if_exists tells create from get_or_create. -/
def toMethod : Request M → Method M
  | .v1PeriodAuthenticationPeriodDashboardAccess p =>
    .authenticationDashboardAccess p.appId (some ⟨p.idempotencyKey⟩)
  | .v1PeriodAuthenticationPeriodAppPortalAccess p =>
    .authenticationAppPortalAccess p.appId p.appPortalAccessIn (some ⟨p.idempotencyKey⟩)
  | .v1PeriodAuthenticationPeriodLogout p => .authenticationLogout (some ⟨p.idempotencyKey⟩)
  | .v1PeriodApplicationPeriodList p => .applicationList (some ⟨p.iterator,p.limit,p.order⟩)
  | .v1PeriodApplicationPeriodCreate p =>
    match p.getIfExists with
    | some true => .applicationGetOrCreate p.applicationIn (some ⟨p.idempotencyKey⟩)
    | _ => .applicationCreate p.applicationIn (some ⟨p.idempotencyKey⟩)
  | .v1PeriodApplicationPeriodGet p => .applicationGet p.appId
  | .v1PeriodApplicationPeriodUpdate p => .applicationUpdate p.appId p.applicationIn none
  | .v1PeriodApplicationPeriodPatch p => .applicationPatch p.appId p.applicationPatch none
  | .v1PeriodApplicationPeriodDelete p => .applicationDelete p.appId
  | .v1PeriodEndpointPeriodList p => .endpointList p.appId (some ⟨p.iterator,p.limit,p.order⟩)
  | .v1PeriodEndpointPeriodCreate p =>
    .endpointCreate p.appId p.endpointIn (some ⟨p.idempotencyKey⟩)
  | .v1PeriodEndpointPeriodGet p => .endpointGet p.appId p.endpointId
  | .v1PeriodEndpointPeriodUpdate p => .endpointUpdate p.appId p.endpointId p.endpointUpdate none
  | .v1PeriodEndpointPeriodPatch p => .endpointPatch p.appId p.endpointId p.endpointPatch none
  | .v1PeriodEndpointPeriodDelete p => .endpointDelete p.appId p.endpointId
  | .v1PeriodEndpointPeriodGetSecret p => .endpointGetSecret p.appId p.endpointId
  | .v1PeriodEndpointPeriodRotateSecret p =>
    .endpointRotateSecret p.appId p.endpointId p.endpointSecretRotateIn
  | .v1PeriodEndpointPeriodRecover p => .endpointRecover p.appId p.endpointId p.recoverIn
  | .v1PeriodEndpointPeriodGetHeaders p => .endpointGetHeaders p.appId p.endpointId
  | .v1PeriodEndpointPeriodUpdateHeaders p =>
    .endpointUpdateHeaders p.appId p.endpointId p.endpointHeadersIn
  | .v1PeriodEndpointPeriodPatchHeaders p =>
    .endpointPatchHeaders p.appId p.endpointId p.endpointHeadersPatchIn
  | .v1PeriodEndpointPeriodGetStats p =>
    .endpointGetStats p.appId p.endpointId (some ⟨p.since,p.«until»⟩)
  | .v1PeriodEndpointPeriodReplay p =>
    .endpointReplayMissing p.appId p.endpointId p.replayIn (some ⟨p.idempotencyKey⟩)
  | .v1PeriodEndpointPeriodTransformationGet p => .endpointTransformationGet p.appId p.endpointId
  | .v1PeriodEndpointPeriodTransformationPartialUpdate p =>
    .endpointTransformationPartialUpdate p.appId p.endpointId p.endpointTransformationIn
  | .v1PeriodEndpointPeriodSendExample p =>
    .endpointSendExample p.appId p.endpointId p.eventExampleIn (some ⟨p.idempotencyKey⟩)
  | .v1PeriodIntegrationPeriodList p =>
    .integrationList p.appId (some ⟨p.iterator,p.limit,p.order⟩)
  | .v1PeriodIntegrationPeriodCreate p =>
    .integrationCreate p.appId p.integrationIn (some ⟨p.idempotencyKey⟩)
  | .v1PeriodIntegrationPeriodGet p => .integrationGet p.appId p.integId
  | .v1PeriodIntegrationPeriodUpdate p =>
    .integrationUpdate p.appId p.integId p.integrationUpdate none
  | .v1PeriodIntegrationPeriodDelete p => .integrationDelete p.appId p.integId
  | .v1PeriodIntegrationPeriodGetKey p => .integrationGetKey p.appId p.integId
  | .v1PeriodIntegrationPeriodRotateKey p => .integrationRotateKey p.appId p.integId
  | .v1PeriodEventTypePeriodList p =>
    .eventTypeList (some ⟨p.iterator,p.limit,p.withContent,p.includeArchived⟩)
  | .v1PeriodEventTypePeriodCreate p => .eventTypeCreate p.eventTypeIn (some ⟨p.idempotencyKey⟩)
  | .v1PeriodEventTypePeriodGet p => .eventTypeGet p.eventTypeName
  | .v1PeriodEventTypePeriodUpdate p => .eventTypeUpdate p.eventTypeName p.eventTypeUpdate none
  | .v1PeriodEventTypePeriodPatch p => .eventTypePatch p.eventTypeName p.eventTypePatch none
  | .v1PeriodEventTypePeriodDelete p => .eventTypeDelete p.eventTypeName
  | .v1PeriodEventTypePeriodImportOpenapi p =>
    .eventTypeImportOpenapi p.eventTypeImportOpenApiIn (some ⟨p.idempotencyKey⟩)
  | .v1PeriodMessagePeriodList p =>
    .messageList p.appId
      (some ⟨p.iterator,p.limit,p.eventTypes,p.before,p.after,p.channel,p.withContent,p.tag⟩)
  | .v1PeriodMessagePeriodCreate p => .messageCreate p.appId p.messageIn (some ⟨p.idempotencyKey⟩)
  | .v1PeriodMessagePeriodGet p => .messageGet p.appId p.msgId
  | .v1PeriodMessagePeriodExpungeContent p => .messageExpungeContent p.appId p.msgId
  | .v1PeriodMessageAttemptPeriodListByMsg p =>
    .messageAttemptListByMsg p.appId p.msgId
      (some ⟨p.iterator,p.limit,p.eventTypes,p.before,p.after,p.channel,p.tag,p.status,
        p.statusCodeClass,p.withContent,p.endpointId⟩)
  | .v1PeriodMessageAttemptPeriodListByEndpoint p =>
    .messageAttemptListByEndpoint p.appId p.endpointId
      (some ⟨p.iterator,p.limit,p.eventTypes,p.before,p.after,p.channel,p.tag,p.status,
        p.statusCodeClass,p.withContent,p.withMsg,none⟩)
  | .v1PeriodMessageAttemptPeriodListAttemptedMessages p =>
    .messageAttemptListAttemptedMessages p.appId p.endpointId
      (some ⟨p.iterator,p.limit,p.eventTypes,p.before,p.after,p.channel,p.tag,p.status,
        none,p.withContent,none⟩)
  | .v1PeriodMessageAttemptPeriodListAttemptedDestinations p =>
    .messageAttemptListAttemptedDestinations p.appId p.msgId (some ⟨p.iterator,p.limit⟩)
  | .v1PeriodMessageAttemptPeriodListByEndpointDeprecated p =>
    .messageAttemptListAttemptsForEndpoint p.appId p.msgId p.endpointId
      (some ⟨p.iterator,p.limit,p.eventTypes,p.before,p.after,p.channel,p.tag,p.status,
        none,none,none⟩)
  | .v1PeriodMessageAttemptPeriodGet p => .messageAttemptGet p.appId p.msgId p.attemptId
  | .v1PeriodMessageAttemptPeriodResend p => .messageAttemptResend p.appId p.msgId p.endpointId
  | .v1PeriodMessageAttemptPeriodExpungeContent p =>
    .messageAttemptExpungeContent p.appId p.msgId p.attemptId
  | .listOperationalWebhookEndpoints p =>
    .operationalWebhookEndpointList (some ⟨p.iterator,p.limit,p.order⟩)
  | .createOperationalWebhookEndpoint p =>
    .operationalWebhookEndpointCreate p.operationalWebhookEndpointIn (some ⟨p.idempotencyKey⟩)
  | .getOperationalWebhookEndpoint p => .operationalWebhookEndpointGet p.endpointId
  | .updateOperationalWebhookEndpoint p =>
    .operationalWebhookEndpointUpdate p.endpointId p.operationalWebhookEndpointUpdate none
  | .deleteOperationalWebhookEndpoint p => .operationalWebhookEndpointDelete p.endpointId
  | .getOperationalWebhookEndpointSecret p => .operationalWebhookEndpointGetSecret p.endpointId
  | .rotateOperationalWebhookEndpointSecret p =>
    .operationalWebhookEndpointRotateSecret p.endpointId p.operationalWebhookEndpointSecretIn
  | .listBackgroundTasks p => .backgroundTaskList (some ⟨p.iterator,p.limit,p.order,p.status,p.task⟩)
  | .getBackgroundTask p => .backgroundTaskGet p.taskId
  | .v1PeriodStatisticsPeriodAggregateAppStats p =>
    .statisticsAggregateAppStats
      ⟨p.appUsageStatsIn.appIds,p.appUsageStatsIn.since,p.appUsageStatsIn.«until»⟩
      (some ⟨p.idempotencyKey⟩)
  | .v1PeriodStatisticsPeriodAggregateEventTypes => .statisticsAggregateEventTypes

end Request

namespace Method

/-- The wire names of the option fields the caller set, whether or not the
method reads them. -/
def given : Method M → List String
  | .applicationList o => (o.getD {}).names
  | .endpointList _ o => (o.getD {}).names
  | .endpointGetStats _ _ o => (o.getD {}).names
  | .integrationList _ o => (o.getD {}).names
  | .eventTypeList o => (o.getD {}).names
  | .messageList _ o => (o.getD {}).names
  | .messageAttemptListByMsg _ _ o | .messageAttemptListAttemptedMessages _ _ o
  | .messageAttemptListAttemptsForEndpoint _ _ _ o => (o.getD {}).names
  | .messageAttemptListByEndpoint _ _ o => (o.getD {}).names
  | .messageAttemptListAttemptedDestinations _ _ o => (o.getD {}).names
  | .operationalWebhookEndpointList o => (o.getD {}).names
  | .backgroundTaskList o => (o.getD {}).names
  | m => ((m.postOptions.getD none).getD {}).names

end Method

namespace Svix

/-- A call's parameters give back the method that made it, up to what the method
never reads. -/
theorem toMethod_invoke (s : Svix Client) (m : Method M) :
    (s.invoke m).params.toMethod=m.normalize := by
  cases m <;> rfl

/-- Filling in the defaults and clearing what is never read changes no call. -/
theorem invoke_normalize (s : Svix Client) (m : Method M) : s.invoke m.normalize=s.invoke m := by
  cases m <;> rfl

/-- A call depends on the client through its configuration only. -/
theorem invoke_eq_of_cfg {s₁ s₂ : Svix Client} (h : s₁.cfg=s₂.cfg) (m : Method M) :
    s₁.invoke m=s₂.invoke m := by
  obtain ⟨c,u₁⟩ := s₁
  obtain ⟨c',u₂⟩ := s₂
  obtain rfl : c=c' := h
  cases m <;> rfl

/-- The dispatch layer forwards everything it reads: two method calls make the
same catalog call exactly when they go through the same configuration and agree
on all but what the methods never read. -/
theorem invoke_eq_iff (s₁ s₂ : Svix Client) (m₁ m₂ : Method M) :
    s₁.invoke m₁=s₂.invoke m₂ ↔ s₁.cfg=s₂.cfg ∧ m₁.normalize=m₂.normalize := by
  constructor
  · intro h
    exact ⟨by rw [← invoke_cfg s₁ m₁,h,invoke_cfg],
      by rw [← toMethod_invoke s₁ m₁,h,toMethod_invoke]⟩
  · rintro ⟨hc,hn⟩
    calc s₁.invoke m₁=s₁.invoke m₂.normalize := by rw [← hn,invoke_normalize]
      _=s₂.invoke m₂ := by rw [invoke_normalize,invoke_eq_of_cfg hc]

/-- The dispatch layer forwards every value a method reads: a call's parameters
give back the method up to the defaults it fills in and the fields it never
reads, and replaying the method read back makes the very same call. -/
theorem invoke_readBack (s : Svix Client) (m : Method M) :
    (s.invoke m).params.toMethod=m.normalize ∧
      s.invoke (s.invoke m).params.toMethod=s.invoke m := by
  refine ⟨toMethod_invoke s m,?_⟩
  rw [toMethod_invoke,invoke_normalize]

/-- Every optional wire parameter of every call is an option field the caller
set, sent under its own name, and every field the caller set is sent unless the
method never reads it: None fields stay off the wire, no field is sent under
another's name, and get_or_create alone adds get_if_exists. A method that puts
its fields on the wire in another order than its options, or drops some, has its
own lemma; every other one sends them as its options list them. -/
theorem invoke_present (s : Svix Client) (m : Method M) :
    (s.invoke m).params.present.Perm
      (m.normalize.given++if m.isGetOrCreate then ["get_if_exists"] else []) := by
  have nil : ∀ l : List String, l.Perm (l++[]) := fun l => .of_eq (List.append_nil l).symm
  cases m
  case endpointList a o => exact (Endpoint.list_present _ a o).trans (nil _)
  case messageAttemptListByMsg a i o =>
    exact (MessageAttempt.listByMsg_present _ a i o).trans (nil _)
  case messageAttemptListByEndpoint a e o =>
    exact (MessageAttempt.listByEndpoint_present _ a e o).trans (nil _)
  case messageAttemptListAttemptedMessages a e o =>
    exact (MessageAttempt.listAttemptedMessages_present _ a e o).trans (nil _)
  case messageAttemptListAttemptsForEndpoint a i e o =>
    exact (MessageAttempt.listAttemptsForEndpoint_present _ a i e o).trans (nil _)
  case operationalWebhookEndpointList o =>
    exact (OperationalWebhookEndpoint.list_present _ o).trans (nil _)
  case backgroundTaskList o => exact (BackgroundTask.list_present _ o).trans (nil _)
  all_goals first | exact nil _ | exact List.Perm.refl _

end Svix

end SvixClient
