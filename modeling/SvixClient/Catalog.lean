import SvixClient.Application
import SvixClient.Endpoint
import SvixClient.Message
import SvixClient.Operational

namespace SvixClient

/-- The generated catalog functions api.rs calls, each with its parameter record. -/
inductive Request (M : Models)
  | v1PeriodAuthenticationPeriodDashboardAccess (p : V1PeriodAuthenticationPeriodDashboardAccessParams)
  | v1PeriodAuthenticationPeriodAppPortalAccess (p : V1PeriodAuthenticationPeriodAppPortalAccessParams M)
  | v1PeriodAuthenticationPeriodLogout (p : V1PeriodAuthenticationPeriodLogoutParams)
  | v1PeriodApplicationPeriodList (p : V1PeriodApplicationPeriodListParams M)
  | v1PeriodApplicationPeriodCreate (p : V1PeriodApplicationPeriodCreateParams M)
  | v1PeriodApplicationPeriodGet (p : V1PeriodApplicationPeriodGetParams)
  | v1PeriodApplicationPeriodUpdate (p : V1PeriodApplicationPeriodUpdateParams M)
  | v1PeriodApplicationPeriodPatch (p : V1PeriodApplicationPeriodPatchParams M)
  | v1PeriodApplicationPeriodDelete (p : V1PeriodApplicationPeriodDeleteParams)
  | v1PeriodEndpointPeriodList (p : V1PeriodEndpointPeriodListParams M)
  | v1PeriodEndpointPeriodCreate (p : V1PeriodEndpointPeriodCreateParams M)
  | v1PeriodEndpointPeriodGet (p : V1PeriodEndpointPeriodGetParams)
  | v1PeriodEndpointPeriodUpdate (p : V1PeriodEndpointPeriodUpdateParams M)
  | v1PeriodEndpointPeriodPatch (p : V1PeriodEndpointPeriodPatchParams M)
  | v1PeriodEndpointPeriodDelete (p : V1PeriodEndpointPeriodDeleteParams)
  | v1PeriodEndpointPeriodGetSecret (p : V1PeriodEndpointPeriodGetSecretParams)
  | v1PeriodEndpointPeriodRotateSecret (p : V1PeriodEndpointPeriodRotateSecretParams M)
  | v1PeriodEndpointPeriodRecover (p : V1PeriodEndpointPeriodRecoverParams M)
  | v1PeriodEndpointPeriodGetHeaders (p : V1PeriodEndpointPeriodGetHeadersParams)
  | v1PeriodEndpointPeriodUpdateHeaders (p : V1PeriodEndpointPeriodUpdateHeadersParams M)
  | v1PeriodEndpointPeriodPatchHeaders (p : V1PeriodEndpointPeriodPatchHeadersParams M)
  | v1PeriodEndpointPeriodGetStats (p : V1PeriodEndpointPeriodGetStatsParams)
  | v1PeriodEndpointPeriodReplay (p : V1PeriodEndpointPeriodReplayParams M)
  | v1PeriodEndpointPeriodTransformationGet (p : V1PeriodEndpointPeriodTransformationGetParams)
  | v1PeriodEndpointPeriodTransformationPartialUpdate
      (p : V1PeriodEndpointPeriodTransformationPartialUpdateParams M)
  | v1PeriodEndpointPeriodSendExample (p : V1PeriodEndpointPeriodSendExampleParams M)
  | v1PeriodIntegrationPeriodList (p : V1PeriodIntegrationPeriodListParams M)
  | v1PeriodIntegrationPeriodCreate (p : V1PeriodIntegrationPeriodCreateParams M)
  | v1PeriodIntegrationPeriodGet (p : V1PeriodIntegrationPeriodGetParams)
  | v1PeriodIntegrationPeriodUpdate (p : V1PeriodIntegrationPeriodUpdateParams M)
  | v1PeriodIntegrationPeriodDelete (p : V1PeriodIntegrationPeriodDeleteParams)
  | v1PeriodIntegrationPeriodGetKey (p : V1PeriodIntegrationPeriodGetKeyParams)
  | v1PeriodIntegrationPeriodRotateKey (p : V1PeriodIntegrationPeriodRotateKeyParams)
  | v1PeriodEventTypePeriodList (p : V1PeriodEventTypePeriodListParams M)
  | v1PeriodEventTypePeriodCreate (p : V1PeriodEventTypePeriodCreateParams M)
  | v1PeriodEventTypePeriodGet (p : V1PeriodEventTypePeriodGetParams)
  | v1PeriodEventTypePeriodUpdate (p : V1PeriodEventTypePeriodUpdateParams M)
  | v1PeriodEventTypePeriodPatch (p : V1PeriodEventTypePeriodPatchParams M)
  | v1PeriodEventTypePeriodDelete (p : V1PeriodEventTypePeriodDeleteParams)
  | v1PeriodEventTypePeriodImportOpenapi (p : V1PeriodEventTypePeriodImportOpenapiParams M)
  | v1PeriodMessagePeriodList (p : V1PeriodMessagePeriodListParams)
  | v1PeriodMessagePeriodCreate (p : V1PeriodMessagePeriodCreateParams M)
  | v1PeriodMessagePeriodGet (p : V1PeriodMessagePeriodGetParams)
  | v1PeriodMessagePeriodExpungeContent (p : V1PeriodMessagePeriodExpungeContentParams)
  | v1PeriodMessageAttemptPeriodListByMsg (p : V1PeriodMessageAttemptPeriodListByMsgParams M)
  | v1PeriodMessageAttemptPeriodListByEndpoint
      (p : V1PeriodMessageAttemptPeriodListByEndpointParams M)
  | v1PeriodMessageAttemptPeriodListAttemptedMessages
      (p : V1PeriodMessageAttemptPeriodListAttemptedMessagesParams M)
  | v1PeriodMessageAttemptPeriodListAttemptedDestinations
      (p : V1PeriodMessageAttemptPeriodListAttemptedDestinationsParams)
  | v1PeriodMessageAttemptPeriodListByEndpointDeprecated
      (p : V1PeriodMessageAttemptPeriodListByEndpointDeprecatedParams M)
  | v1PeriodMessageAttemptPeriodGet (p : V1PeriodMessageAttemptPeriodGetParams)
  | v1PeriodMessageAttemptPeriodResend (p : V1PeriodMessageAttemptPeriodResendParams)
  | v1PeriodMessageAttemptPeriodExpungeContent (p : V1PeriodMessageAttemptPeriodExpungeContentParams)
  | listOperationalWebhookEndpoints (p : ListOperationalWebhookEndpointsParams M)
  | createOperationalWebhookEndpoint (p : CreateOperationalWebhookEndpointParams M)
  | getOperationalWebhookEndpoint (p : GetOperationalWebhookEndpointParams)
  | updateOperationalWebhookEndpoint (p : UpdateOperationalWebhookEndpointParams M)
  | deleteOperationalWebhookEndpoint (p : DeleteOperationalWebhookEndpointParams)
  | getOperationalWebhookEndpointSecret (p : GetOperationalWebhookEndpointSecretParams)
  | rotateOperationalWebhookEndpointSecret (p : RotateOperationalWebhookEndpointSecretParams M)
  | listBackgroundTasks (p : ListBackgroundTasksParams M)
  | getBackgroundTask (p : GetBackgroundTaskParams)
  | v1PeriodStatisticsPeriodAggregateAppStats (p : V1PeriodStatisticsPeriodAggregateAppStatsParams)
  | v1PeriodStatisticsPeriodAggregateEventTypes

/-- Every public method of the sub-clients, with the arguments it takes. -/
inductive Method (M : Models)
  | authenticationDashboardAccess (appId : String) (options : Option PostOptions)
  | authenticationAppPortalAccess (appId : String) (appPortalAccessIn : M.AppPortalAccessIn)
      (options : Option PostOptions)
  | authenticationLogout (options : Option PostOptions)
  | applicationList (options : Option (ApplicationListOptions M))
  | applicationCreate (applicationIn : M.ApplicationIn) (options : Option PostOptions)
  | applicationGetOrCreate (applicationIn : M.ApplicationIn) (options : Option PostOptions)
  | applicationGet (appId : String)
  | applicationUpdate (appId : String) (applicationIn : M.ApplicationIn)
      (options : Option PostOptions)
  | applicationPatch (appId : String) (applicationPatch : M.ApplicationPatch)
      (options : Option PostOptions)
  | applicationDelete (appId : String)
  | endpointList (appId : String) (options : Option (EndpointListOptions M))
  | endpointCreate (appId : String) (endpointIn : M.EndpointIn) (options : Option PostOptions)
  | endpointGet (appId endpointId : String)
  | endpointUpdate (appId endpointId : String) (endpointUpdate : M.EndpointUpdate)
      (options : Option PostOptions)
  | endpointPatch (appId endpointId : String) (endpointPatch : M.EndpointPatch)
      (options : Option PostOptions)
  | endpointDelete (appId endpointId : String)
  | endpointGetSecret (appId endpointId : String)
  | endpointRotateSecret (appId endpointId : String) (endpointSecretRotateIn : M.EndpointSecretRotateIn)
  | endpointRecover (appId endpointId : String) (recoverIn : M.RecoverIn)
  | endpointGetHeaders (appId endpointId : String)
  | endpointUpdateHeaders (appId endpointId : String) (endpointHeadersIn : M.EndpointHeadersIn)
  | endpointPatchHeaders (appId endpointId : String)
      (endpointHeadersPatchIn : M.EndpointHeadersPatchIn)
  | endpointGetStats (appId endpointId : String) (options : Option EndpointStatsOptions)
  | endpointReplayMissing (appId endpointId : String) (replayIn : M.ReplayIn)
      (options : Option PostOptions)
  | endpointTransformationGet (appId endpointId : String)
  | endpointTransformationPartialUpdate (appId endpointId : String)
      (endpointTransformationIn : M.EndpointTransformationIn)
  | endpointSendExample (appId endpointId : String) (eventExampleIn : M.EventExampleIn)
      (options : Option PostOptions)
  | integrationList (appId : String) (options : Option (IntegrationListOptions M))
  | integrationCreate (appId : String) (integrationIn : M.IntegrationIn)
      (options : Option PostOptions)
  | integrationGet (appId integId : String)
  | integrationUpdate (appId integId : String) (integrationUpdate : M.IntegrationUpdate)
      (options : Option PostOptions)
  | integrationDelete (appId integId : String)
  | integrationGetKey (appId integId : String)
  | integrationRotateKey (appId integId : String)
  | eventTypeList (options : Option EventTypeListOptions)
  | eventTypeCreate (eventTypeIn : M.EventTypeIn) (options : Option PostOptions)
  | eventTypeGet (eventTypeName : String)
  | eventTypeUpdate (eventTypeName : String) (eventTypeUpdate : M.EventTypeUpdate)
      (options : Option PostOptions)
  | eventTypePatch (eventTypeName : String) (eventTypePatch : M.EventTypePatch)
      (options : Option PostOptions)
  | eventTypeDelete (eventTypeName : String)
  | eventTypeImportOpenapi (eventTypeImportOpenApiIn : M.EventTypeImportOpenApiIn)
      (options : Option PostOptions)
  | messageList (appId : String) (options : Option MessageListOptions)
  | messageCreate (appId : String) (messageIn : M.MessageIn) (options : Option PostOptions)
  | messageGet (appId msgId : String)
  | messageExpungeContent (appId msgId : String)
  | messageAttemptListByMsg (appId msgId : String) (options : Option (MessageAttemptListOptions M))
  | messageAttemptListByEndpoint (appId endpointId : String)
      (options : Option (MessageAttemptListByEndpointOptions M))
  | messageAttemptListAttemptedMessages (appId endpointId : String)
      (options : Option (MessageAttemptListOptions M))
  | messageAttemptListAttemptedDestinations (appId msgId : String) (options : Option ListOptions)
  | messageAttemptListAttemptsForEndpoint (appId msgId endpointId : String)
      (options : Option (MessageAttemptListOptions M))
  | messageAttemptGet (appId msgId attemptId : String)
  | messageAttemptResend (appId msgId endpointId : String)
  | messageAttemptExpungeContent (appId msgId attemptId : String)
  | operationalWebhookEndpointList (options : Option (OperationalWebhookEndpointListOptions M))
  | operationalWebhookEndpointCreate (endpointIn : M.OperationalWebhookEndpointIn)
      (options : Option PostOptions)
  | operationalWebhookEndpointGet (endpointId : String)
  | operationalWebhookEndpointUpdate (endpointId : String)
      (endpointUpdate : M.OperationalWebhookEndpointUpdate) (options : Option PostOptions)
  | operationalWebhookEndpointDelete (endpointId : String)
  | operationalWebhookEndpointGetSecret (endpointId : String)
  | operationalWebhookEndpointRotateSecret (endpointId : String)
      (endpointSecretRotateIn : M.OperationalWebhookEndpointSecretIn)
  | backgroundTaskList (options : Option (BackgroundTaskListOptions M))
  | backgroundTaskGet (taskId : String)
  | statisticsAggregateAppStats (aggregate : AggregateAppStatsOptions) (options : Option PostOptions)
  | statisticsAggregateEventTypes

namespace Svix

variable {M : Models} {Client : Type}

/-- The call a method makes, through the accessor that lends it the configuration. -/
def invoke (s : Svix Client) : Method M → Call Client (Request M)
  | .authenticationDashboardAccess a o =>
    (s.authentication.dashboardAccess a o).map .v1PeriodAuthenticationPeriodDashboardAccess
  | .authenticationAppPortalAccess a b o =>
    (s.authentication.appPortalAccess a b o).map .v1PeriodAuthenticationPeriodAppPortalAccess
  | .authenticationLogout o => (s.authentication.logout o).map .v1PeriodAuthenticationPeriodLogout
  | .applicationList o => (s.application.list o).map .v1PeriodApplicationPeriodList
  | .applicationCreate b o => (s.application.create b o).map .v1PeriodApplicationPeriodCreate
  | .applicationGetOrCreate b o =>
    (s.application.getOrCreate b o).map .v1PeriodApplicationPeriodCreate
  | .applicationGet a => (s.application.get a).map .v1PeriodApplicationPeriodGet
  | .applicationUpdate a b o => (s.application.update a b o).map .v1PeriodApplicationPeriodUpdate
  | .applicationPatch a b o => (s.application.patch a b o).map .v1PeriodApplicationPeriodPatch
  | .applicationDelete a => (s.application.delete a).map .v1PeriodApplicationPeriodDelete
  | .endpointList a o => (s.endpoint.list a o).map .v1PeriodEndpointPeriodList
  | .endpointCreate a b o => (s.endpoint.create a b o).map .v1PeriodEndpointPeriodCreate
  | .endpointGet a e => (s.endpoint.get a e).map .v1PeriodEndpointPeriodGet
  | .endpointUpdate a e b o => (s.endpoint.update a e b o).map .v1PeriodEndpointPeriodUpdate
  | .endpointPatch a e b o => (s.endpoint.patch a e b o).map .v1PeriodEndpointPeriodPatch
  | .endpointDelete a e => (s.endpoint.delete a e).map .v1PeriodEndpointPeriodDelete
  | .endpointGetSecret a e => (s.endpoint.getSecret a e).map .v1PeriodEndpointPeriodGetSecret
  | .endpointRotateSecret a e b =>
    (s.endpoint.rotateSecret a e b).map .v1PeriodEndpointPeriodRotateSecret
  | .endpointRecover a e b => (s.endpoint.recover a e b).map .v1PeriodEndpointPeriodRecover
  | .endpointGetHeaders a e => (s.endpoint.getHeaders a e).map .v1PeriodEndpointPeriodGetHeaders
  | .endpointUpdateHeaders a e b =>
    (s.endpoint.updateHeaders a e b).map .v1PeriodEndpointPeriodUpdateHeaders
  | .endpointPatchHeaders a e b =>
    (s.endpoint.patchHeaders a e b).map .v1PeriodEndpointPeriodPatchHeaders
  | .endpointGetStats a e o => (s.endpoint.getStats a e o).map .v1PeriodEndpointPeriodGetStats
  | .endpointReplayMissing a e b o =>
    (s.endpoint.replayMissing a e b o).map .v1PeriodEndpointPeriodReplay
  | .endpointTransformationGet a e =>
    (s.endpoint.transformationGet a e).map .v1PeriodEndpointPeriodTransformationGet
  | .endpointTransformationPartialUpdate a e b =>
    (s.endpoint.transformationPartialUpdate a e b).map
      .v1PeriodEndpointPeriodTransformationPartialUpdate
  | .endpointSendExample a e b o =>
    (s.endpoint.sendExample a e b o).map .v1PeriodEndpointPeriodSendExample
  | .integrationList a o => (s.integration.list a o).map .v1PeriodIntegrationPeriodList
  | .integrationCreate a b o => (s.integration.create a b o).map .v1PeriodIntegrationPeriodCreate
  | .integrationGet a i => (s.integration.get a i).map .v1PeriodIntegrationPeriodGet
  | .integrationUpdate a i b o =>
    (s.integration.update a i b o).map .v1PeriodIntegrationPeriodUpdate
  | .integrationDelete a i => (s.integration.delete a i).map .v1PeriodIntegrationPeriodDelete
  | .integrationGetKey a i => (s.integration.getKey a i).map .v1PeriodIntegrationPeriodGetKey
  | .integrationRotateKey a i =>
    (s.integration.rotateKey a i).map .v1PeriodIntegrationPeriodRotateKey
  | .eventTypeList o => (s.eventType.list o).map .v1PeriodEventTypePeriodList
  | .eventTypeCreate b o => (s.eventType.create b o).map .v1PeriodEventTypePeriodCreate
  | .eventTypeGet n => (s.eventType.get n).map .v1PeriodEventTypePeriodGet
  | .eventTypeUpdate n b o => (s.eventType.update n b o).map .v1PeriodEventTypePeriodUpdate
  | .eventTypePatch n b o => (s.eventType.patch n b o).map .v1PeriodEventTypePeriodPatch
  | .eventTypeDelete n => (s.eventType.delete n).map .v1PeriodEventTypePeriodDelete
  | .eventTypeImportOpenapi b o =>
    (s.eventType.importOpenapi b o).map .v1PeriodEventTypePeriodImportOpenapi
  | .messageList a o => (s.message.list a o).map .v1PeriodMessagePeriodList
  | .messageCreate a b o => (s.message.create a b o).map .v1PeriodMessagePeriodCreate
  | .messageGet a m => (s.message.get a m).map .v1PeriodMessagePeriodGet
  | .messageExpungeContent a m =>
    (s.message.expungeContent a m).map .v1PeriodMessagePeriodExpungeContent
  | .messageAttemptListByMsg a m o =>
    (s.messageAttempt.listByMsg a m o).map .v1PeriodMessageAttemptPeriodListByMsg
  | .messageAttemptListByEndpoint a e o =>
    (s.messageAttempt.listByEndpoint a e o).map .v1PeriodMessageAttemptPeriodListByEndpoint
  | .messageAttemptListAttemptedMessages a e o =>
    (s.messageAttempt.listAttemptedMessages a e o).map
      .v1PeriodMessageAttemptPeriodListAttemptedMessages
  | .messageAttemptListAttemptedDestinations a m o =>
    (s.messageAttempt.listAttemptedDestinations a m o).map
      .v1PeriodMessageAttemptPeriodListAttemptedDestinations
  | .messageAttemptListAttemptsForEndpoint a m e o =>
    (s.messageAttempt.listAttemptsForEndpoint a m e o).map
      .v1PeriodMessageAttemptPeriodListByEndpointDeprecated
  | .messageAttemptGet a m t => (s.messageAttempt.get a m t).map .v1PeriodMessageAttemptPeriodGet
  | .messageAttemptResend a m e =>
    (s.messageAttempt.resend a m e).map .v1PeriodMessageAttemptPeriodResend
  | .messageAttemptExpungeContent a m t =>
    (s.messageAttempt.expungeContent a m t).map .v1PeriodMessageAttemptPeriodExpungeContent
  | .operationalWebhookEndpointList o =>
    (s.operationalWebhookEndpoint.list o).map .listOperationalWebhookEndpoints
  | .operationalWebhookEndpointCreate b o =>
    (s.operationalWebhookEndpoint.create b o).map .createOperationalWebhookEndpoint
  | .operationalWebhookEndpointGet e =>
    (s.operationalWebhookEndpoint.get e).map .getOperationalWebhookEndpoint
  | .operationalWebhookEndpointUpdate e b o =>
    (s.operationalWebhookEndpoint.update e b o).map .updateOperationalWebhookEndpoint
  | .operationalWebhookEndpointDelete e =>
    (s.operationalWebhookEndpoint.delete e).map .deleteOperationalWebhookEndpoint
  | .operationalWebhookEndpointGetSecret e =>
    (s.operationalWebhookEndpoint.getSecret e).map .getOperationalWebhookEndpointSecret
  | .operationalWebhookEndpointRotateSecret e b =>
    (s.operationalWebhookEndpoint.rotateSecret e b).map .rotateOperationalWebhookEndpointSecret
  | .backgroundTaskList o => (s.backgroundTask.list o).map .listBackgroundTasks
  | .backgroundTaskGet t => (s.backgroundTask.get t).map .getBackgroundTask
  | .statisticsAggregateAppStats a o =>
    (s.statistics.aggregateAppStats a o).map .v1PeriodStatisticsPeriodAggregateAppStats
  | .statisticsAggregateEventTypes =>
    (s.statistics.aggregateEventTypes).map fun _ => .v1PeriodStatisticsPeriodAggregateEventTypes

end Svix

end SvixClient
