import SvixClient.Conventions
import SvixClient.Region

namespace SvixClient

variable {M : Models} {Client : Type}

/-- A program's use of the facade: the clients it holds and every call their
sub-clients have handed to the catalog. starts is ghost state: the session of
each Svix::new so far, whose hyper client was built there. -/
structure World (M : Models) (Client : Type) where
  clients : List (Svix Client)
  starts : List (Session Client)
  sent : List (Call Client (Request M))

/-- What the program does next; a client is named by its place in clients. -/
inductive Event (M : Models) (Client : Type)
  | new (crateVersion : String) (client : Client) (token : String) (options : Option SvixOptions)
  | withToken (i : Nat) (token : String)
  | clone (i : Nat)
  | call (i : Nat) (m : Method M)

/-- The session an event starts: only Svix::new builds a hyper client. -/
def Event.started : Event M Client → Option (Session Client)
  | .new v c t o => some (Session.start v c t (o.getD SvixOptions.default))
  | _ => none

/-- The token an event hands to the facade. -/
def Event.token : Event M Client → Option String
  | .new _ _ t _ | .withToken _ t => some t
  | _ => none

namespace World

def init : World M Client := ⟨[],[],[]⟩

/-- An event naming no held client changes nothing. -/
def step (w : World M Client) : Event M Client → World M Client
  | .new v c t o =>
    { w with clients := w.clients++[Svix.new v c t o],
             starts := w.starts++[Session.start v c t (o.getD SvixOptions.default)] }
  | .withToken i t =>
    match w.clients[i]? with
    | some s => { w with clients := w.clients++[s.withToken t] }
    | none => w
  | .clone i =>
    match w.clients[i]? with
    | some s => { w with clients := w.clients++[s] }
    | none => w
  | .call i m =>
    match w.clients[i]? with
    | some s => { w with sent := w.sent++[s.invoke m] }
    | none => w

def run (w : World M Client) (es : List (Event M Client)) : World M Client := es.foldl step w

/-- Every client held, and the configuration of every call sent, is that of a
session some Svix::new started, re-tokened. -/
structure Inv (w : World M Client) : Prop where
  clients : ∀ s∈w.clients, ∃ σ∈w.starts, ∃ t, (σ.retoken t).toSvix=s
  sent : ∀ c∈w.sent, ∃ σ∈w.starts, ∃ t, c.cfg=(σ.retoken t).toSvix.cfg

theorem inv_init : (init : World M Client).Inv := ⟨by simp [init],by simp [init]⟩

/-- All a step can do: append clients, each fresh from an appended session or
derived from a held one by with_token or clone, with the event's token when it
has a new one, and append the calls a call event makes through a held client. -/
theorem step_appends (w : World M Client) (e : Event M Client) :
    ∃ cs ss ms, w.step e=⟨w.clients++cs,w.starts++ss,w.sent++ms⟩ ∧
      (∀ s∈cs, (∃ σ∈ss, σ.token∈e.token ∧ σ.toSvix=s) ∨
        ∃ s₀∈w.clients, s=s₀ ∨ ∃ t∈e.token, s=s₀.withToken t) ∧
      ∀ c∈ms, ∃ i m, e=.call i m ∧ ∃ s₀∈w.clients, c=s₀.invoke m := by
  cases e with
  | new v c t o =>
    exact ⟨[Svix.new v c t o],[Session.start v c t (o.getD SvixOptions.default)],[],by simp [step],
      by simp [Svix.new_eq_toSvix,Event.token,Session.start],by simp⟩
  | withToken i t =>
    simp only [step]
    split
    · next s hi =>
      exact ⟨[s.withToken t],[],[],by simp,
        fun x hx => .inr ⟨s,List.getElem?_mem hi,.inr ⟨t,rfl,List.mem_singleton.mp hx⟩⟩,by simp⟩
    · exact ⟨[],[],[],by simp,by simp,by simp⟩
  | clone i =>
    simp only [step]
    split
    · next s hi =>
      exact ⟨[s],[],[],by simp,
        fun x hx => .inr ⟨s,List.getElem?_mem hi,.inl (List.mem_singleton.mp hx)⟩,by simp⟩
    · exact ⟨[],[],[],by simp,by simp,by simp⟩
  | call i m =>
    simp only [step]
    split
    · next s hi =>
      exact ⟨[],[],[s.invoke m],by simp,by simp,
        fun c hc => ⟨i,m,rfl,s,List.getElem?_mem hi,List.mem_singleton.mp hc⟩⟩
    · exact ⟨[],[],[],by simp,by simp,by simp⟩

/-- A client a step adds is a held one, or carries the token the step gave. -/
theorem step_clients (w : World M Client) (e : Event M Client) :
    ∀ s∈(w.step e).clients, s∈w.clients ∨ ∃ t∈e.token, s.cfg.bearerAccessToken=some t := by
  obtain ⟨cs,ss,ms,he,hcs,-⟩ := step_appends w e
  rw [he]
  intro s hs
  rcases List.mem_append.mp hs with hs|hs
  · exact .inl hs
  · rcases hcs s hs with ⟨σ,-,ht,rfl⟩|⟨s₀,h₀,rfl|⟨t,ht,rfl⟩⟩
    · exact .inr ⟨σ.token,ht,rfl⟩
    · exact .inl h₀
    · exact .inr ⟨t,ht,rfl⟩

/-- A call a step adds is the call event's own, made through a held client. -/
theorem step_sent (w : World M Client) (e : Event M Client) :
    ∀ c∈(w.step e).sent, c∈w.sent ∨ ∃ i m, e=.call i m ∧ ∃ s∈w.clients, c=s.invoke m := by
  obtain ⟨cs,ss,ms,he,-,hms⟩ := step_appends w e
  rw [he]
  intro c hc
  exact (List.mem_append.mp hc).imp_right (hms c)

theorem inv_step (w : World M Client) (e : Event M Client) (h : w.Inv) : (w.step e).Inv := by
  obtain ⟨cs,ss,ms,he,hcs,hms⟩ := step_appends w e
  have old : ∀ s∈w.clients, ∃ σ∈w.starts++ss, ∃ t, (σ.retoken t).toSvix=s := fun s hs =>
    let ⟨σ,hσ,t,ht⟩ := h.clients s hs
    ⟨σ,List.mem_append_left _ hσ,t,ht⟩
  rw [he]
  constructor
  · intro s hs
    rcases List.mem_append.mp hs with hs|hs
    · exact old s hs
    · rcases hcs s hs with ⟨σ,hσ,-,rfl⟩|⟨s₀,h₀,rfl|⟨t',-,rfl⟩⟩
      · exact ⟨σ,List.mem_append_right _ hσ,σ.token,rfl⟩
      · exact old _ h₀
      · obtain ⟨σ,hσ,t,rfl⟩ := old s₀ h₀
        exact ⟨σ,hσ,t',rfl⟩
  · intro c hc
    rcases List.mem_append.mp hc with hc|hc
    · obtain ⟨σ,hσ,t,ht⟩ := h.sent c hc
      exact ⟨σ,List.mem_append_left _ hσ,t,ht⟩
    · obtain ⟨-,m,-,s₀,h₀,rfl⟩ := hms c hc
      obtain ⟨σ,hσ,t,rfl⟩ := old s₀ h₀
      exact ⟨σ,hσ,t,Svix.invoke_cfg _ m⟩

theorem inv_run (w : World M Client) (es : List (Event M Client)) (h : w.Inv) : (w.run es).Inv := by
  induction es generalizing w with
  | nil => exact h
  | cons e es ih => exact ih _ (inv_step w e h)

/-- Only Svix::new starts a session, so only it builds a hyper client. -/
theorem step_starts (w : World M Client) (e : Event M Client) :
    (w.step e).starts=w.starts++e.started.toList := by
  cases e <;> simp only [step,Event.started,Option.toList] <;> (try split) <;> simp

theorem run_starts (w : World M Client) (es : List (Event M Client)) :
    (w.run es).starts=w.starts++es.filterMap Event.started := by
  induction es generalizing w with
  | nil => simp [run]
  | cons e es ih =>
    simp only [run,List.foldl_cons] at ih ⊢
    rw [ih,step_starts]
    cases e <;> simp [Event.started]

/-- From any state, every client a run adds carries a token given in the run. -/
theorem run_clients (w : World M Client) (es : List (Event M Client)) :
    ∀ s∈(w.run es).clients, s∈w.clients ∨ ∃ e∈es, ∃ t∈e.token, s.cfg.bearerAccessToken=some t := by
  induction es generalizing w with
  | nil => exact fun s hs => .inl hs
  | cons e es ih =>
    intro s hs
    rcases ih (w.step e) s hs with hs|⟨e',he',t,ht,hb⟩
    · rcases step_clients w e s hs with hs|⟨t,ht,hb⟩
      · exact .inl hs
      · exact .inr ⟨e,.head _,t,ht,hb⟩
    · exact .inr ⟨e',.tail _ he',t,ht,hb⟩

/-- From any state, every call a run adds was made by one of its call events,
through a client held before the run or carrying a token given in the run. -/
theorem run_sent (w : World M Client) (es : List (Event M Client)) :
    ∀ c∈(w.run es).sent, c∈w.sent ∨ ∃ i m, Event.call i m∈es ∧ ∃ s, c=s.invoke m ∧
      (s∈w.clients ∨ ∃ e∈es, ∃ t∈e.token, s.cfg.bearerAccessToken=some t) := by
  induction es generalizing w with
  | nil => exact fun c hc => .inl hc
  | cons e es ih =>
    intro c hc
    rcases ih (w.step e) c hc with hc|⟨i,m,hm,s,rfl,hs|⟨e',he',t,ht,hb⟩⟩
    · -- sent by e itself
      rcases step_sent w e c hc with hc|⟨i,m,rfl,s,hs,rfl⟩
      · exact .inl hc
      · exact .inr ⟨i,m,.head _,s,rfl,.inl hs⟩
    · -- sent later through a client held after e
      rcases step_clients w e s hs with hs|⟨t,ht,hb⟩
      · exact .inr ⟨i,m,.tail _ hm,s,rfl,.inl hs⟩
      · exact .inr ⟨i,m,.tail _ hm,s,rfl,.inr ⟨e,.head _,t,ht,hb⟩⟩
    · exact .inr ⟨i,m,.tail _ hm,s,rfl,.inr ⟨e',.tail _ he',t,ht,hb⟩⟩

/-- Over every run, every call sent has a bearer token, the settings and the
hyper client of one Svix::new of the run, and the base path the region law
gives for that token under that Svix::new's server URL. -/
theorem run_sent_cfg (es : List (Event M Client)) (c : Call Client (Request M))
    (hc : c∈(init.run es).sent) :
    ∃ v h t₀ o, Event.new v h t₀ o∈es ∧ ∃ t, c.cfg.bearerAccessToken=some t ∧
      RegionLaw (o.getD SvixOptions.default).serverUrl t c.cfg.basePath ∧
      c.cfg.timeout=(o.getD SvixOptions.default).timeout ∧
      c.cfg.userAgent=some ("svix-libs/"++v++"/rust") ∧ c.cfg.client=h := by
  obtain ⟨σ,hσ,t,hcfg⟩ := (inv_run init es inv_init).sent c hc
  rw [run_starts] at hσ
  obtain ⟨e,he,hs⟩ := List.mem_filterMap.mp (by simpa [init] using hσ)
  cases e with
  | new v h t₀ o =>
    obtain rfl := Option.some.inj hs
    refine ⟨v,h,t₀,o,he,t,?_⟩
    rw [hcfg]
    exact ⟨rfl,regionLaw_getD _ t,rfl,rfl,rfl⟩
  | _ => cases hs

theorem run_sent_cfg_eu :
    (((Svix.new "1" () "sk" none).withToken "sk.eu").invoke .statisticsAggregateEventTypes :
        Call Unit (Request Models.unit))∈
      (init.run [.new "1" () "sk" none,.withToken 0 "sk.eu",
        .call 1 .statisticsAggregateEventTypes]).sent ∧
    ∃ v h t₀ o, Event.new v h t₀ o∈([.new "1" () "sk" none,.withToken 0 "sk.eu",
        .call 1 .statisticsAggregateEventTypes] : List (Event Models.unit Unit)) ∧
      ∃ t, (((Svix.new "1" () "sk" none).withToken "sk.eu").invoke
          .statisticsAggregateEventTypes : Call Unit (Request Models.unit)).cfg.bearerAccessToken=
          some t ∧
        RegionLaw (o.getD SvixOptions.default).serverUrl t
          (((Svix.new "1" () "sk" none).withToken "sk.eu").invoke
            .statisticsAggregateEventTypes : Call Unit (Request Models.unit)).cfg.basePath ∧
        (((Svix.new "1" () "sk" none).withToken "sk.eu").invoke
            .statisticsAggregateEventTypes : Call Unit (Request Models.unit)).cfg.timeout=
          (o.getD SvixOptions.default).timeout ∧
        (((Svix.new "1" () "sk" none).withToken "sk.eu").invoke
            .statisticsAggregateEventTypes : Call Unit (Request Models.unit)).cfg.userAgent=
          some ("svix-libs/"++v++"/rust") ∧
        (((Svix.new "1" () "sk" none).withToken "sk.eu").invoke
            .statisticsAggregateEventTypes : Call Unit (Request Models.unit)).cfg.client=h :=
  have hc : (((Svix.new "1" () "sk" none).withToken "sk.eu").invoke
      .statisticsAggregateEventTypes : Call Unit (Request Models.unit))∈
      (init.run [.new "1" () "sk" none,.withToken 0 "sk.eu",
        .call 1 .statisticsAggregateEventTypes]).sent :=
    List.mem_singleton.mpr rfl
  ⟨hc,run_sent_cfg _ _ hc⟩

/-- Over every run, every client the program holds is exactly what Svix::new
builds over the hyper client of one of the run's Svix::new, with that call's
options and a token the program gave: with_token and clone never make a client
Svix::new could not, and never build a hyper client of their own. -/
theorem run_clients_new (es : List (Event M Client)) (s : Svix Client)
    (hs : s∈(init.run es).clients) :
    ∃ v h t₀ o, Event.new v h t₀ o∈es ∧ ∃ e∈es, ∃ t∈e.token, s=Svix.new v h t o := by
  obtain ⟨σ,hσ,t,rfl⟩ := (inv_run init es inv_init).clients s hs
  rw [run_starts] at hσ
  obtain ⟨e,he,hse⟩ := List.mem_filterMap.mp (by simpa [init] using hσ)
  cases e with
  | new v h t₀ o =>
    obtain rfl := Option.some.inj hse
    rcases run_clients init es _ hs with hs|⟨e',he',t',ht',hb⟩
    · cases hs
    · obtain rfl : t=t' := Option.some.inj hb
      exact ⟨v,h,t₀,o,he,e',he',t,ht',rfl⟩
  | _ => cases hse

theorem run_clients_new_retoken :
    (Svix.new "1" () "sk" none).withToken "sk.eu"∈
      (init.run [.new "1" () "sk" none,.withToken 0 "sk.eu"] : World Models.unit Unit).clients ∧
    ∃ v h t₀ o, Event.new v h t₀ o∈([.new "1" () "sk" none,.withToken 0 "sk.eu"] :
        List (Event Models.unit Unit)) ∧
      ∃ e∈([.new "1" () "sk" none,.withToken 0 "sk.eu"] : List (Event Models.unit Unit)),
        ∃ t∈e.token, (Svix.new "1" () "sk" none).withToken "sk.eu"=Svix.new v h t o :=
  have hs : (Svix.new "1" () "sk" none).withToken "sk.eu"∈
      (init.run [.new "1" () "sk" none,.withToken 0 "sk.eu"] : World Models.unit Unit).clients :=
    .tail _ (.head _)
  ⟨hs,run_clients_new _ _ hs⟩

/-- Over every run, every call is authenticated with a token the program gave
to Svix::new or with_token in that run. -/
theorem run_sent_token (es : List (Event M Client)) (c : Call Client (Request M))
    (hc : c∈(init.run es).sent) : ∃ e∈es, ∃ t∈e.token, c.cfg.bearerAccessToken=some t := by
  rcases run_sent init es c hc with hc|⟨i,m,-,s,rfl,hs|h⟩
  · cases hc
  · cases hs
  · rwa [Svix.invoke_cfg]

theorem run_sent_token_eu :
    (((Svix.new "1" () "sk" none).withToken "sk.eu").invoke .statisticsAggregateEventTypes :
        Call Unit (Request Models.unit))∈
      (init.run [.new "1" () "sk" none,.withToken 0 "sk.eu",
        .call 1 .statisticsAggregateEventTypes]).sent ∧
    ∃ e∈([.new "1" () "sk" none,.withToken 0 "sk.eu",
        .call 1 .statisticsAggregateEventTypes] : List (Event Models.unit Unit)), ∃ t∈e.token,
      (((Svix.new "1" () "sk" none).withToken "sk.eu").invoke
        .statisticsAggregateEventTypes : Call Unit (Request Models.unit)).cfg.bearerAccessToken=
        some t :=
  have hc : (((Svix.new "1" () "sk" none).withToken "sk.eu").invoke
      .statisticsAggregateEventTypes : Call Unit (Request Models.unit))∈
      (init.run [.new "1" () "sk" none,.withToken 0 "sk.eu",
        .call 1 .statisticsAggregateEventTypes]).sent :=
    List.mem_singleton.mpr rfl
  ⟨hc,run_sent_token _ _ hc⟩

/-- Over every run, every idempotency key sent is one the program passed in the
PostOptions of one of the run's calls, a call of a method other than update and
patch, which make their catalog call with no key. -/
theorem run_sent_idempotencyKey (es : List (Event M Client)) (c : Call Client (Request M))
    (hc : c∈(init.run es).sent) (k : String) (hk : c.params.idempotencyKey=some (some k)) :
    ∃ i m o, Event.call i m∈es ∧ (∃ s, c=Svix.invoke s m) ∧ m.postOptions=some o ∧
      m.isUpdate=false ∧ (o.getD {}).idempotencyKey=some k := by
  obtain hc|⟨i,m,hm,s,rfl,-⟩ := run_sent init es c hc
  · cases hc
  · obtain ⟨o,ho,hu,hk⟩ := Svix.invoke_idempotencyKey_some s m k hk
    exact ⟨i,m,o,hm,⟨s,rfl⟩,ho,hu,hk⟩

theorem run_sent_idempotencyKey_logout :
    ((Svix.new "1" () "sk" none).invoke (.authenticationLogout (some ⟨some "k"⟩)) :
        Call Unit (Request Models.unit))∈
      (init.run [.new "1" () "sk" none,.call 0 (.authenticationLogout (some ⟨some "k"⟩))]).sent ∧
    ((Svix.new "1" () "sk" none).invoke (.authenticationLogout (some ⟨some "k"⟩)) :
        Call Unit (Request Models.unit)).params.idempotencyKey=some (some "k") ∧
    ∃ i m o, Event.call i m∈([.new "1" () "sk" none,
        .call 0 (.authenticationLogout (some ⟨some "k"⟩))] : List (Event Models.unit Unit)) ∧
      (∃ s, ((Svix.new "1" () "sk" none).invoke (.authenticationLogout (some ⟨some "k"⟩)) :
        Call Unit (Request Models.unit))=Svix.invoke s m) ∧
      m.postOptions=some o ∧ m.isUpdate=false ∧ (o.getD {}).idempotencyKey=some "k" :=
  have hc : ((Svix.new "1" () "sk" none).invoke (.authenticationLogout (some ⟨some "k"⟩)) :
      Call Unit (Request Models.unit))∈
      (init.run [.new "1" () "sk" none,.call 0 (.authenticationLogout (some ⟨some "k"⟩))]).sent :=
    List.mem_singleton.mpr rfl
  ⟨hc,rfl,run_sent_idempotencyKey _ _ hc "k" rfl⟩

end World

end SvixClient
