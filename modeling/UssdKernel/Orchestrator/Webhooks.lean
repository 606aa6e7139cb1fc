import UssdKernel.Core.Data

/-!
# Webhook deliveries

`DispatchEvent` stores a delivery for every subscription that listens to the
event.  Its subscriptions are decoded from a column that the code takes to hold
JSON and the schema declares as an array, and which the driver gives as a text
in braces.
-/

namespace UssdKernel.Webhooks

structure Subscription where
  id : Uuid
  tenantId : Uuid
  events : List String
  active : Bool

inductive Status
  | pending
  | retrying
  | delivered
  | failed
  deriving DecidableEq

/-- A row of `events.webhook_deliveries`, with times in seconds. -/
structure Delivery (Payload : Type) where
  id : Uuid
  subscriptionId : Uuid
  eventType : String
  payload : Payload
  status : Status
  attemptCount : ℕ
  httpStatus : Option ℤ
  nextRetryAt : Option ℤ
  createdAt : ℤ
  deriving DecidableEq

/-- What the events of a subscription pass through: the text that the driver
gives for the column, and what `json.Unmarshal` leaves of it in an empty
`[]string`.  Its error is dropped. -/
structure Decoding where
  columnText : List String → String
  unmarshal : String → List String

variable {Payload : Type} {subscriptions : List Subscription} {now : ℤ}
  {newIds : ℕ → Uuid} {eventType : String} {payload : Payload}

section Model

variable (subscriptions now)

/-- An upsert that keeps the event and the creation time of a row. -/
def saveDelivery (rows : List (Delivery Payload))
    (delivery : Delivery Payload) : List (Delivery Payload) :=
  if ∃ row ∈ rows, row.id = delivery.id then
    rows.map fun row =>
      if row.id = delivery.id then
        { row with
          status := delivery.status
          attemptCount := delivery.attemptCount
          httpStatus := delivery.httpStatus
          nextRetryAt := delivery.nextRetryAt }
      else row
  else rows ++ [delivery]

/-! ### New deliveries -/

def Decoding.scan (decoding : Decoding) (subscription : Subscription) :
    Subscription :=
  { subscription with
    events := decoding.unmarshal (decoding.columnText subscription.events) }

/-- The rows of `ListSubscriptions`, in some order. -/
def listSubscriptions (decoding : Decoding) (tenantId : Uuid) :
    List Subscription :=
  (subscriptions.filter fun subscription => subscription.active ∧
    (tenantId = 0 ∨ subscription.tenantId = tenantId)).map decoding.scan

def Subscription.listens (eventType : String) (subscription : Subscription) :
    Bool :=
  subscription.active &&
    subscription.events.any fun e => e = eventType || e = "ALL_EVENTS"

variable (newIds eventType payload)

def newDelivery (subscriptionId id : Uuid) : Delivery Payload where
  id
  subscriptionId
  eventType
  payload
  status := .pending
  attemptCount := 0
  httpStatus := some 0
  nextRetryAt := none
  createdAt := now

/-- The loop of `DispatchEvent` from the given number of new identifiers on. -/
def dispatchLoop : ℕ → List Subscription → List (Delivery Payload) →
    List (Delivery Payload)
  | _, [], rows => rows
  | count, subscription :: rest, rows =>
      if subscription.listens eventType then
        dispatchLoop (count + 1) rest (saveDelivery rows
          (newDelivery now eventType payload subscription.id (newIds count)))
      else dispatchLoop count rest rows

/-- `listed` is what the query returns for a tenant. -/
def dispatchEvent (parse : String → Except String Uuid)
    (listed : Uuid → List Subscription) (tenantId : String)
    (rows : List (Delivery Payload)) :
    Except String (List (Delivery Payload)) := do
  let tenant ← if tenantId = "" then .ok 0 else parse tenantId
  .ok (dispatchLoop now newIds eventType payload 0 (listed tenant) rows)

/-- The deliveries for subscriptions in their order. -/
def newDeliveries (subscriptionIds : List Uuid) : List (Delivery Payload) :=
  subscriptionIds.mapIdx fun count subscriptionId =>
    newDelivery now eventType payload subscriptionId (newIds count)

end Model

/-! ## One delivery for every listener -/

section Dispatch

variable {rows : List (Delivery Payload)} {decoding : Decoding}
  {tenant : Uuid}

theorem dispatchLoop_eq {bound count : ℕ}
    (hids : Set.InjOn newIds (Set.Iio bound))
    (hfresh : ∀ later < bound, count ≤ later →
      newIds later ∉ rows.map Delivery.id)
    {listed : List Subscription} (hbound : count + listed.length ≤ bound) :
    dispatchLoop now newIds eventType payload count listed rows =
      rows ++ newDeliveries now (fun later => newIds (count + later)) eventType
        payload ((listed.filter (·.listens eventType)).map
          Subscription.id) := by
  induction listed generalizing count rows with
  | nil => simp [dispatchLoop, newDeliveries]
  | cons subscription rest ih =>
      rw [List.length_cons] at hbound
      rw [dispatchLoop]
      by_cases hlistens : subscription.listens eventType = true
      · let delivery :=
          newDelivery now eventType payload subscription.id (newIds count)
        have hsaved : saveDelivery rows delivery = rows ++ [delivery] :=
          if_neg (mt List.mem_map.mpr (hfresh count (by omega) le_rfl))
        have hlater : ∀ later < bound, count + 1 ≤ later →
            newIds later ∉ (rows ++ [delivery]).map Delivery.id := by
          intro later hlater hcount
          have hne : newIds later ≠ newIds count := by
            intro heq
            have := hids hlater (show count < bound by omega) heq
            omega
          simpa [delivery, newDelivery, hne] using
            hfresh later hlater (by omega)
        rw [if_pos hlistens, hsaved, ih hlater (by omega),
          List.filter_cons_of_pos hlistens, List.append_assoc]
        simp [newDeliveries, List.mapIdx_cons, delivery, Nat.add_assoc,
          Nat.add_comm 1]
      · rw [if_neg hlistens, ih hfresh (by omega),
          List.filter_cons_of_neg hlistens]

theorem newDeliveries_inj {first second : List Uuid} :
    newDeliveries now newIds eventType payload first =
        newDeliveries now newIds eventType payload second ↔
      first = second := by
  constructor
  · intro hsame
    apply List.ext_getElem?
    intro count
    have hids := congrArg (fun deliveries =>
      deliveries[count]?.map Delivery.subscriptionId) hsame
    simpa [newDeliveries, newDelivery, Function.comp_def] using hids
  · intro hsame
    rw [hsame]

/-- With distinct ids, two choices of subscriptions have the same ids exactly if
they are the same. -/
theorem perm_ids_iff {first second : Subscription → Bool}
    {listed : List Subscription}
    (hkeys : (listed.map Subscription.id).Nodup) :
    ((listed.filter first).map Subscription.id).Perm
        ((listed.filter second).map Subscription.id) ↔
      ∀ subscription ∈ listed, first subscription = second subscription := by
  have hmem : ∀ choice : Subscription → Bool, ∀ subscription ∈ listed,
      subscription.id ∈ (listed.filter choice).map Subscription.id ↔
        choice subscription = true := by
    intro choice subscription hlisted
    rw [List.mem_map]
    constructor
    · rintro ⟨other, hother, hsame⟩
      obtain ⟨hmem, hchosen⟩ := List.mem_filter.mp hother
      rwa [← List.inj_on_of_nodup_map hkeys hmem hlisted hsame]
    · intro hchosen
      exact ⟨subscription, List.mem_filter.mpr ⟨hlisted, hchosen⟩, rfl⟩
  constructor
  · intro hperm subscription hlisted
    rw [Bool.eq_iff_iff, ← hmem first subscription hlisted,
      ← hmem second subscription hlisted]
    exact hperm.mem_iff
  · intro hsame
    rw [List.filter_congr hsame]

/-- `DispatchEvent` adds one pending delivery for every active subscription of
the tenant that listens, and nothing else, exactly if each of them is read as
listening to the event whenever it is stored so, and only then. -/
theorem dispatchEvent_adds_iff {parse : String → Except String Uuid}
    {listed : Uuid → List Subscription} {tenantId : String}
    (htenantId : tenantId ≠ "") (hparse : parse tenantId = .ok tenant)
    (htenant : tenant ≠ 0)
    (hkeys : (subscriptions.map Subscription.id).Nodup)
    (hlisted : (listed tenant).Perm
      (listSubscriptions subscriptions decoding tenant))
    (hids : Set.InjOn newIds (Set.Iio (listed tenant).length))
    (hfresh : ∀ count < (listed tenant).length,
      newIds count ∉ rows.map Delivery.id) :
    (∃ listeners : List Uuid,
      listeners.Perm ((subscriptions.filter fun subscription =>
        subscription.listens eventType ∧ subscription.active ∧
          subscription.tenantId = tenant).map Subscription.id) ∧
      dispatchEvent now newIds eventType payload parse listed tenantId rows =
        .ok (rows ++ newDeliveries now newIds eventType payload listeners)) ↔
      ∀ subscription ∈ subscriptions, subscription.active →
        subscription.tenantId = tenant →
          (decoding.scan subscription).listens eventType =
            subscription.listens eventType := by
  have hdispatch : dispatchEvent now newIds eventType payload parse listed
      tenantId rows = .ok (rows ++ newDeliveries now newIds eventType payload
        (((listed tenant).filter (·.listens eventType)).map
          Subscription.id)) := by
    rw [dispatchEvent, if_neg htenantId, hparse]
    show Except.ok (dispatchLoop _ _ _ _ 0 (listed tenant) rows) = _
    rw [dispatchLoop_eq hids (fun count hlt _ => hfresh count hlt)
      (Nat.zero_add _).le]
    simp only [Nat.zero_add]
  -- the subscriptions of the tenant, as they are stored
  let own := subscriptions.filter fun subscription =>
    subscription.active ∧ subscription.tenantId = tenant
  have hown : (own.map Subscription.id).Nodup :=
    hkeys.sublist (List.filter_sublist.map _)
  have hread : (((listed tenant).filter (·.listens eventType)).map
      Subscription.id).Perm ((own.filter fun subscription =>
        (decoding.scan subscription).listens eventType).map
          Subscription.id) := by
    have hperm := (hlisted.filter (·.listens eventType)).map Subscription.id
    simp only [listSubscriptions, htenant, false_or, List.filter_map,
      List.map_map] at hperm
    exact hperm
  have hstored : (subscriptions.filter fun subscription =>
      subscription.listens eventType ∧ subscription.active ∧
        subscription.tenantId = tenant) =
      own.filter (·.listens eventType) := by
    simp [own, List.filter_filter]
  rw [hdispatch, hstored]
  calc (∃ listeners : List Uuid, listeners.Perm _ ∧ _ = _)
      ↔ (((listed tenant).filter (·.listens eventType)).map
          Subscription.id).Perm ((own.filter (·.listens eventType)).map
            Subscription.id) := by
        simp only [Except.ok.injEq, List.append_cancel_left_eq,
          newDeliveries_inj, exists_eq_right']
    _ ↔ ∀ subscription ∈ own, (decoding.scan subscription).listens eventType =
          subscription.listens eventType := by
        rw [← perm_ids_iff hown]
        exact ⟨hread.symm.trans, hread.trans⟩
    _ ↔ _ := by
        simp only [own, List.mem_filter, decide_eq_true_eq, and_imp]

end Dispatch

/-- A subscription of tenant 7 to the default event of the schema. -/
def completed : Subscription :=
  ⟨1, 7, ["transaction.completed"], true⟩

/-- `json.Unmarshal` on the texts of the samples. -/
def unmarshalSample (text : String) : List String :=
  if text = "[\"transaction.completed\"]" then ["transaction.completed"]
  else []

/-- A column with the JSON text that `SaveSubscription` writes. -/
def jsonColumn : Decoding :=
  ⟨fun _ => "[\"transaction.completed\"]", unmarshalSample⟩

/-- PostgreSQL gives a `TEXT[]` as a text in braces, which is not the JSON of a
list. -/
def textArrayColumn : Decoding :=
  ⟨fun events => "\x7b" ++ ",".intercalate events ++ "\x7d", unmarshalSample⟩

/-- The event of the sample for tenant 7, with no delivery before it. -/
def dispatchCompleted (decoding : Decoding) :
    Except String (List (Delivery Unit)) :=
  dispatchEvent 0 (BitVec.ofNat 128) "transaction.completed" ()
    (fun _ => .ok 7) (listSubscriptions [completed] decoding) "7" []

theorem dispatchCompleted_adds : ∃ listeners : List Uuid,
    listeners.Perm (([completed].filter fun subscription =>
      subscription.listens "transaction.completed" ∧ subscription.active ∧
        subscription.tenantId = 7).map Subscription.id) ∧
    dispatchCompleted jsonColumn = .ok ([] ++ newDeliveries 0
      (BitVec.ofNat 128) "transaction.completed" () listeners) := by
  have hids : Set.InjOn (BitVec.ofNat 128) (Set.Iio 1) := by
    simp [Set.InjOn]
  exact (dispatchEvent_adds_iff (by decide) rfl (by decide) (by decide)
    (.refl _) hids (by simp)).mpr (by decide)

theorem text_array_adds_nothing :
    completed.listens "transaction.completed" ∧
      dispatchCompleted textArrayColumn = .ok [] := by
  decide +kernel

end UssdKernel.Webhooks
