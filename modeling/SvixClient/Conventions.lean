import SvixClient.Catalog

namespace SvixClient

variable {M : Models} {Client : Type}

namespace Request

/-- The optional fields of a call's parameter record that are set, by wire name:
a field left none is not sent. A record with several optional fields lists its
own; the others have one, or none at all. -/
def present : Request M → List String
  | .v1PeriodAuthenticationPeriodDashboardAccess p => sentAs "idempotency_key" p.idempotencyKey
  | .v1PeriodAuthenticationPeriodAppPortalAccess p => sentAs "idempotency_key" p.idempotencyKey
  | .v1PeriodAuthenticationPeriodLogout p => sentAs "idempotency_key" p.idempotencyKey
  | .v1PeriodApplicationPeriodList p => p.present
  | .v1PeriodApplicationPeriodCreate p => p.present
  | .v1PeriodEndpointPeriodList p => p.present
  | .v1PeriodEndpointPeriodCreate p => sentAs "idempotency_key" p.idempotencyKey
  | .v1PeriodEndpointPeriodRotateSecret p => sentAs "idempotency_key" p.idempotencyKey
  | .v1PeriodEndpointPeriodRecover p => sentAs "idempotency_key" p.idempotencyKey
  | .v1PeriodEndpointPeriodGetStats p => p.present
  | .v1PeriodEndpointPeriodReplay p => sentAs "idempotency_key" p.idempotencyKey
  | .v1PeriodEndpointPeriodSendExample p => sentAs "idempotency_key" p.idempotencyKey
  | .v1PeriodIntegrationPeriodList p => p.present
  | .v1PeriodIntegrationPeriodCreate p => sentAs "idempotency_key" p.idempotencyKey
  | .v1PeriodIntegrationPeriodRotateKey p => sentAs "idempotency_key" p.idempotencyKey
  | .v1PeriodEventTypePeriodList p => p.present
  | .v1PeriodEventTypePeriodCreate p => sentAs "idempotency_key" p.idempotencyKey
  | .v1PeriodEventTypePeriodDelete p => sentAs "expunge" p.expunge
  | .v1PeriodEventTypePeriodImportOpenapi p => sentAs "idempotency_key" p.idempotencyKey
  | .v1PeriodMessagePeriodList p => p.present
  | .v1PeriodMessagePeriodCreate p => p.present
  | .v1PeriodMessagePeriodGet p => sentAs "with_content" p.withContent
  | .v1PeriodMessageAttemptPeriodListByMsg p => p.present
  | .v1PeriodMessageAttemptPeriodListByEndpoint p => p.present
  | .v1PeriodMessageAttemptPeriodListAttemptedMessages p => p.present
  | .v1PeriodMessageAttemptPeriodListAttemptedDestinations p => p.present
  | .v1PeriodMessageAttemptPeriodListByEndpointDeprecated p => p.present
  | .v1PeriodMessageAttemptPeriodResend p => sentAs "idempotency_key" p.idempotencyKey
  | .listOperationalWebhookEndpoints p => p.present
  | .createOperationalWebhookEndpoint p => sentAs "idempotency_key" p.idempotencyKey
  | .rotateOperationalWebhookEndpointSecret p => sentAs "idempotency_key" p.idempotencyKey
  | .listBackgroundTasks p => p.present
  | .v1PeriodStatisticsPeriodAggregateAppStats p => sentAs "idempotency_key" p.idempotencyKey
  | _ => []

/-- The idempotency key of a call, for the catalog functions that take one. -/
def idempotencyKey : Request M → Option (Option String)
  | .v1PeriodAuthenticationPeriodDashboardAccess p => some p.idempotencyKey
  | .v1PeriodAuthenticationPeriodAppPortalAccess p => some p.idempotencyKey
  | .v1PeriodAuthenticationPeriodLogout p => some p.idempotencyKey
  | .v1PeriodApplicationPeriodCreate p => some p.idempotencyKey
  | .v1PeriodEndpointPeriodCreate p => some p.idempotencyKey
  | .v1PeriodEndpointPeriodRotateSecret p => some p.idempotencyKey
  | .v1PeriodEndpointPeriodRecover p => some p.idempotencyKey
  | .v1PeriodEndpointPeriodReplay p => some p.idempotencyKey
  | .v1PeriodEndpointPeriodSendExample p => some p.idempotencyKey
  | .v1PeriodIntegrationPeriodCreate p => some p.idempotencyKey
  | .v1PeriodIntegrationPeriodRotateKey p => some p.idempotencyKey
  | .v1PeriodEventTypePeriodCreate p => some p.idempotencyKey
  | .v1PeriodEventTypePeriodImportOpenapi p => some p.idempotencyKey
  | .v1PeriodMessagePeriodCreate p => some p.idempotencyKey
  | .v1PeriodMessageAttemptPeriodResend p => some p.idempotencyKey
  | .createOperationalWebhookEndpoint p => some p.idempotencyKey
  | .rotateOperationalWebhookEndpointSecret p => some p.idempotencyKey
  | .v1PeriodStatisticsPeriodAggregateAppStats p => some p.idempotencyKey
  | _ => none

end Request

namespace Method

/-- The PostOptions argument, for the methods that take one. -/
def postOptions : Method M → Option (Option PostOptions)
  | .authenticationDashboardAccess _ o | .authenticationAppPortalAccess _ _ o
  | .authenticationLogout o | .applicationCreate _ o | .applicationGetOrCreate _ o
  | .applicationUpdate _ _ o | .applicationPatch _ _ o | .endpointCreate _ _ o
  | .endpointUpdate _ _ _ o | .endpointPatch _ _ _ o | .endpointReplayMissing _ _ _ o
  | .endpointSendExample _ _ _ o | .integrationCreate _ _ o | .integrationUpdate _ _ _ o
  | .eventTypeCreate _ o | .eventTypeUpdate _ _ o | .eventTypePatch _ _ o
  | .eventTypeImportOpenapi _ o | .messageCreate _ _ o | .operationalWebhookEndpointCreate _ o
  | .operationalWebhookEndpointUpdate _ _ o | .statisticsAggregateAppStats _ o => some o
  | _ => none

/-- The update and patch methods: they take PostOptions and bind them to _. -/
def isUpdate : Method M → Bool
  | .applicationUpdate .. | .applicationPatch .. | .endpointUpdate .. | .endpointPatch ..
  | .integrationUpdate .. | .eventTypeUpdate .. | .eventTypePatch ..
  | .operationalWebhookEndpointUpdate .. => true
  | _ => false

/-- The fire-and-act methods that end .await?; Ok(()). -/
def dropsBody : Method M → Bool
  | .endpointRecover .. | .endpointReplayMissing ..
  | .endpointTransformationPartialUpdate .. => true
  | _ => false

def isGetOrCreate : Method M → Bool
  | .applicationGetOrCreate _ _ => true
  | _ => false

end Method

namespace Svix

/-- Every call of every method carries the client's own configuration. -/
theorem invoke_cfg (s : Svix Client) (m : Method M) : (s.invoke m).cfg=s.cfg := by
  cases m <;> rfl

/-- The three fire-and-act methods (recover, replay_missing and
transformation_partial_update) end .await?; Ok(()): the caller gets () in place
of the catalog's answer and every error as it is. Every other method hands the
catalog's answer back unchanged. -/
theorem invoke_result {E α : Type} (s : Svix Client) (m : Method M)
    (f : Configuration Client → Request M → Except E α) :
    (s.invoke m).reply=(if m.dropsBody then .unit else .answer) ∧
    (m.dropsBody=false → HEq ((s.invoke m).result f) (f s.cfg (s.invoke m).params)) ∧
    (m.dropsBody=true →
      HEq ((s.invoke m).result f) ((f s.cfg (s.invoke m).params).map fun _ => ())) := by
  have hr : (s.invoke m).reply=(if m.dropsBody then .unit else .answer) := by cases m <;> rfl
  rw [← invoke_cfg s m]
  exact ⟨hr,fun h => Call.result_answer f _ (by rw [hr,h]; rfl),
    fun h => Call.result_unit f _ (by rw [hr,h]; rfl)⟩

/-- A method that takes PostOptions sends their idempotency key as it is,
unless it is an update or patch method: those make a catalog call with no key. -/
theorem invoke_postOptions (s : Svix Client) (m : Method M) (o : Option PostOptions)
    (h : m.postOptions=some o) :
    (s.invoke m).params.idempotencyKey=
      if m.isUpdate then none else some (o.getD {}).idempotencyKey := by
  cases m <;> cases h <;> rfl

theorem invoke_postOptions_update :
    (Method.applicationUpdate "app" () (some ⟨some "k"⟩) : Method Models.unit).postOptions=
        some (some ⟨some "k"⟩) ∧
      ((Svix.new "1" () "sk" none).invoke
          (.applicationUpdate "app" () (some ⟨some "k"⟩) : Method Models.unit)
        ).params.idempotencyKey=
        if (Method.applicationUpdate "app" () (some ⟨some "k"⟩) : Method Models.unit).isUpdate
        then none else some ((some ⟨some "k"⟩ : Option PostOptions).getD {}).idempotencyKey :=
  ⟨rfl,invoke_postOptions _ _ _ rfl⟩

/-- Every idempotency key a call sends is one the caller gave in the PostOptions
of a method other than update and patch. -/
theorem invoke_idempotencyKey_some (s : Svix Client) (m : Method M) (k : String)
    (h : (s.invoke m).params.idempotencyKey=some (some k)) :
    ∃ o, m.postOptions=some o ∧ m.isUpdate=false ∧ (o.getD {}).idempotencyKey=some k := by
  cases m <;> first | exact ⟨_,rfl,rfl,Option.some.inj h⟩ | cases h

end Svix

end SvixClient
