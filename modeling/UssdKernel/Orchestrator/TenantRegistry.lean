import UssdKernel.Core.Data
import UssdKernel.Core.KeyedTables
import UssdKernel.Core.Runs
import UssdKernel.Core.Text

/-!
# The tenant registry

`GetByServiceCode` finds a tenant by `app_code` or by the member `service_code`
of its metadata.  `Save` writes a whole row from the `Tenant` struct, which has
`app_code` and two members of the metadata.  `RegisterTenant` keeps the first
service code of its request; `UpdateTenant` and `DeleteTenant` read a tenant,
change it and save it.

Service codes keep their tenants, and updates the fields that they leave unset,
exactly if no call saves a tenant of which the struct carries only a part.
-/

namespace UssdKernel.TenantRegistry

open KeyedTables Runs

/-! ## `TenantRepository` -/

/-- A `map[string]string`, by its entries in the order of the keys. -/
structure Config where
  entries : List (String × String)
  sorted : (entries.map Prod.fst).Pairwise (· < ·)
  deriving DecidableEq

def Config.empty : Config :=
  ⟨[], List.Pairwise.nil⟩

/-- `encoding/json` on configurations; `unmarshal` is what stands in the map
after `json.Unmarshal`, whose error is ignored. -/
structure Json where
  marshal : Config → String
  unmarshal : String → Config
  unmarshal_marshal : ∀ config, unmarshal (marshal config) = config
  unmarshal_nothing : unmarshal "" = Config.empty
  unmarshal_braces : unmarshal "\x7b\x7d" = Config.empty

structure Tenant where
  id : Uuid
  name : String
  serviceCode : String
  endpoint : String
  active : Bool
  rateLimitRPS : Int32
  config : Config
  deriving DecidableEq

inductive AppStatus
  | pending
  | active
  | suspended
  | deprecated
  | archived
  deriving DecidableEq

/-- A row of `app.application_registry`.  `metadata` has the members of the
document that are not null, each with the text that `->>` makes of it. -/
structure Row where
  applicationId : Uuid
  appName : String
  appCode : String
  metadata : List (String × String)
  status : AppStatus
  statusReason : Option String
  maxTransactionsPerMinute : Int32
  deriving DecidableEq

abbrev Registry := Table Row.applicationId

inductive RepositoryError
  | notFound
  | database (message : String)
  deriving DecidableEq

/-- How the database meets a `Save`: whether it fails for a reason that lies
neither in the row nor in the table, and the text of its error. -/
structure SaveEnv where
  fails : Bool
  message : String

section Repository

variable (json : Json)

/-- The configuration of a row, from the text of `metadata->>'config'`. -/
def scanConfig (text : String) : Config :=
  if text ≠ "" ∧ text ≠ "\x7b\x7d" then json.unmarshal text else Config.empty

theorem scanConfig_eq (text : String) :
    scanConfig json text = json.unmarshal text := by
  rw [scanConfig]
  split
  · rfl
  · rename_i htext
    rcases not_and_or.mp htext with hnothing | hbraces
    · rw [not_not.mp hnothing, json.unmarshal_nothing]
    · rw [not_not.mp hbraces, json.unmarshal_braces]

def scanTenant (row : Row) : Tenant where
  id := row.applicationId
  name := row.appName
  serviceCode := row.appCode
  endpoint := (row.metadata.lookup "endpoint").getD ""
  active := row.status = .active
  rateLimitRPS := row.maxTransactionsPerMinute
  config := scanConfig json ((row.metadata.lookup "config").getD "\x7b\x7d")

/-- `QueryRowContext`, whose first row is scanned. -/
def queryRow (returned : List Row) : Except RepositoryError Tenant :=
  match returned with
  | [] => .error .notFound
  | row :: _ => .ok (scanTenant json row)

/-- `app_code = $1 OR metadata->>'service_code' = $1` -/
def Row.Answers (row : Row) (code : String) : Prop :=
  row.appCode = code ∨ row.metadata.lookup "service_code" = some code

instance (row : Row) (code : String) : Decidable (row.Answers code) :=
  inferInstanceAs (Decidable (_ ∨ _))

/-- `GetByServiceCode` finds the tenant, in whatever order the database returns
the rows: the statement has no `ORDER BY`. -/
def Resolves (registry : Registry) (code : String) (id : Uuid) : Prop :=
  ∀ returned,
    returned.Perm (registry.rows.filter fun row => row.Answers code) →
      ∃ tenant, queryRow json returned = .ok tenant ∧ tenant.id = id

def getByID (registry : Registry) (id : Uuid) :
    Except RepositoryError Tenant :=
  queryRow json (registry.lookup id).toList

section Saving

variable (tenant : Tenant)

/-- The metadata document that `Save` builds. -/
def savedMetadata : List (String × String) :=
  (if tenant.endpoint ≠ "" then [("endpoint", tenant.endpoint)] else []) ++
    if tenant.config ≠ Config.empty then
      [("config", json.marshal tenant.config)]
    else []

/-- The row that `Save` offers for insertion. -/
def proposedRow : Row where
  applicationId := tenant.id
  appName := tenant.name
  appCode := tenant.serviceCode
  metadata := savedMetadata json tenant
  status := if tenant.active then .active else .suspended
  statusReason := none
  maxTransactionsPerMinute := tenant.rateLimitRPS

/-- `DO UPDATE SET` of an old row. -/
def mergedRow (old : Row) : Row :=
  { proposedRow json tenant with
    applicationId := old.applicationId
    statusReason := old.statusReason }

theorem applicationId_mergedRow (old : Row) :
    (mergedRow json tenant old).applicationId = old.applicationId := rfl

/-- The registry after a `Save` that succeeds. -/
def saved (registry : Registry) : Registry :=
  registry.upsert (proposedRow json tenant) (mergedRow json tenant)
    (applicationId_mergedRow json tenant)

end Saving

variable (constraints : Row → Bool)

/-- The constraints of the table hold of the row that is offered and of the row
that is left, and no other row has its `app_code`. -/
def Accepted (registry : Registry) (tenant : Tenant) : Prop :=
  constraints (proposedRow json tenant) = true ∧
    (∀ old ∈ registry.lookup tenant.id,
      constraints (mergedRow json tenant old) = true) ∧
    ∀ other ∈ registry.rows, other.appCode = tenant.serviceCode →
      other.applicationId = tenant.id

instance (registry : Registry) (tenant : Tenant) :
    Decidable (Accepted json constraints registry tenant) :=
  inferInstanceAs (Decidable (_ ∧ _ ∧ _))

def save (env : SaveEnv) (tenant : Tenant) (registry : Registry) :
    Except RepositoryError Registry :=
  if env.fails = false ∧ Accepted json constraints registry tenant then
    .ok (saved json tenant registry)
  else .error (.database env.message)

end Repository

/-! ## The calls -/

structure RegisterTenantRequest where
  tenantId : String
  name : String
  endpoint : String
  rateLimitRps : Int32
  configuration : Config
  serviceCodes : List String

structure UpdateTenantRequest where
  tenantId : String
  name : Option String
  endpoint : Option String
  rateLimitRps : Option Int32
  active : Option Bool
  configuration : Option Config

inductive Code
  | invalidArgument
  | notFound
  | resourceExhausted
  | internal
  deriving DecidableEq

structure Status where
  code : Code
  message : String
  deriving DecidableEq

/-- `mapError`, on the errors of the repository. -/
def mapError : RepositoryError → Status
  | .notFound => ⟨.notFound, "not found"⟩
  | .database message =>
      if message = "rate limit exceeded" ∨
          message = "rate limit exceeded for phone number" ∨
          message = "rate limit exceeded for tenant" then
        ⟨.resourceExhausted, message⟩
      else ⟨.internal, message⟩

/-- The service code that `RegisterTenant` keeps. -/
def RegisterTenantRequest.serviceCode (request : RegisterTenantRequest) :
    String :=
  request.serviceCodes.head?.getD ""

/-- The tenant with the fields of the request that are set. -/
def UpdateTenantRequest.apply (request : UpdateTenantRequest)
    (tenant : Tenant) : Tenant :=
  { tenant with
    name := request.name.getD tenant.name
    endpoint := request.endpoint.getD tenant.endpoint
    rateLimitRPS := request.rateLimitRps.getD tenant.rateLimitRPS
    active := request.active.getD tenant.active
    config := request.configuration.getD tenant.config }

section Server

variable (json : Json) (constraints : Row → Bool) (parse : String → Option Uuid)

/-- The id of a new tenant; an id that does not parse is passed over. -/
def registeredId (newId : Uuid) (request : RegisterTenantRequest) : Uuid :=
  if request.tenantId ≠ "" then (parse request.tenantId).getD newId else newId

def registeredTenant (newId : Uuid) (request : RegisterTenantRequest) :
    Tenant where
  id := registeredId parse newId request
  name := request.name
  serviceCode := request.serviceCode
  endpoint := request.endpoint
  active := true
  rateLimitRPS := request.rateLimitRps
  config := request.configuration

def registerTenant (newId : Uuid) (env : SaveEnv)
    (request : RegisterTenantRequest) (registry : Registry) :
    Except Status String × Registry :=
  let tenant := registeredTenant parse newId request
  match save json constraints env tenant registry with
  | .ok after => (.ok (Text.uuid tenant.id), after)
  | .error error => (.error (mapError error), registry)

/-- `GetByID`, a change of the tenant, and `Save`. -/
def changeTenant (env : SaveEnv) (tenantId : String)
    (change : Tenant → Tenant) (registry : Registry) :
    Except Status Tenant × Registry :=
  match parse tenantId with
  | none => (.error ⟨.invalidArgument, "invalid tenant_id"⟩, registry)
  | some id =>
      match getByID json registry id with
      | .error error => (.error (mapError error), registry)
      | .ok tenant =>
          match save json constraints env (change tenant) registry with
          | .ok after => (.ok (change tenant), after)
          | .error error => (.error (mapError error), registry)

def updateTenant (env : SaveEnv) (request : UpdateTenantRequest) :
    Registry → Except Status Tenant × Registry :=
  changeTenant json constraints parse env request.tenantId request.apply

def Tenant.deactivated (tenant : Tenant) : Tenant :=
  { tenant with active := false }

/-- The soft delete: the tenant is marked inactive. -/
def deleteTenant (env : SaveEnv) (tenantId : String) (registry : Registry) :
    Except Status String × Registry :=
  let answer := changeTenant json constraints parse env tenantId
    Tenant.deactivated registry
  (answer.1.map fun _ => "tenant deactivated successfully", answer.2)

inductive Call
  | register (newId : Uuid) (env : SaveEnv) (request : RegisterTenantRequest)
  | update (env : SaveEnv) (request : UpdateTenantRequest)
  | delete (env : SaveEnv) (tenantId : String)

/-- The registry, and the service codes that a tenant has been promised: those
that resolved to it at the start and those it was registered with. -/
structure History where
  registry : Registry
  owed : List (String × Uuid)

def step (history : History) : Call → History
  | .register newId env request =>
      let answer := registerTenant json constraints parse newId env request
        history.registry
      { registry := answer.2
        owed :=
          match answer.1 with
          | .ok _ =>
              history.owed ++ request.serviceCodes.map fun code =>
                (code, registeredId parse newId request)
          | .error _ => history.owed }
  | .update env request =>
      { history with
        registry := (updateTenant json constraints parse env request
          history.registry).2 }
  | .delete env tenantId =>
      { history with
        registry := (deleteTenant json constraints parse env tenantId
          history.registry).2 }

def Row.codes (row : Row) : List String :=
  row.appCode :: (row.metadata.lookup "service_code").toList

/-- The codes that no other row answers to, each with its tenant. -/
def resolving (registry : Registry) : List (String × Uuid) :=
  registry.rows.flatMap fun row =>
    (row.codes.filter fun code => ∀ other ∈ registry.rows,
      other.Answers code → other.applicationId = row.applicationId).map
        (·, row.applicationId)

def History.start (registry : Registry) : History where
  registry := registry
  owed := resolving registry

/-- Every code that was promised to a tenant resolves to it. -/
def Sound (history : History) : Prop :=
  ∀ promise ∈ history.owed,
    Resolves json history.registry promise.1 promise.2

/-- The row that `GetByID` reads for the id of a request. -/
def found (tenantId : String) (registry : Registry) : Option Row :=
  (parse tenantId).bind registry.lookup

/-- What a request leaves unset is as it was. -/
structure UnsetKept (request : UpdateTenantRequest) (before after : Row) :
    Prop where
  name : request.name = none → after.appName = before.appName
  endpoint : request.endpoint = none →
    (scanTenant json after).endpoint = (scanTenant json before).endpoint
  rateLimit : request.rateLimitRps = none →
    after.maxTransactionsPerMinute = before.maxTransactionsPerMinute
  status : request.active = none → after.status = before.status
  config : request.configuration = none →
    (scanTenant json after).config = (scanTenant json before).config
  serviceCode : after.appCode = before.appCode
  statusReason : after.statusReason = before.statusReason
  metadata : ∀ key, key ≠ "endpoint" → key ≠ "config" →
    after.metadata.lookup key = before.metadata.lookup key

/-- An update changes no field that its request leaves unset. -/
def UpdateKeeps (history : History) : Call → Prop
  | .update env request =>
      ∀ before ∈ found parse request.tenantId history.registry,
        ∃ after ∈ (step json constraints parse history
          (.update env request)).registry.lookup before.applicationId,
          UnsetKept json request before after
  | _ => True

/-- After every call the promised codes resolve to their tenants, and every
update keeps what its request leaves unset. -/
def KeepsTenants (calls : List Call) (history : History) : Prop :=
  Throughout (step json constraints parse)
    (fun history call =>
      Sound json (step json constraints parse history call) ∧
        UpdateKeeps json constraints parse history call) calls history

/-- The codes that a tenant is registered with are used by no other tenant. -/
def UnusedCodes (history : History) : Call → Prop
  | .register newId _ request =>
      ∀ code ∈ request.serviceCodes, ∀ row ∈ history.registry.rows,
        row.Answers code → row.applicationId = registeredId parse newId request
  | _ => True

def Succeeds (env : SaveEnv) (tenant : Tenant) (registry : Registry) : Prop :=
  env.fails = false ∧ Accepted json constraints registry tenant

instance (env : SaveEnv) (tenant : Tenant) (registry : Registry) :
    Decidable (Succeeds json constraints env tenant registry) :=
  inferInstanceAs (Decidable (_ ∧ _))

/-- If the call saves a tenant, the struct carries all of it: the codes of a
registration are its first one, which is the code owed to the tenant and to no
other; the row of an update has no other metadata and no other status; the
codes owed to a deleted tenant are its `app_code`. -/
def CarriesAll (history : History) : Call → Prop
  | .register newId env request =>
      let tenant := registeredTenant parse newId request
      Succeeds json constraints env tenant history.registry →
        (∀ code ∈ request.serviceCodes, code = request.serviceCode) ∧
          ∀ promise ∈ history.owed,
            promise.2 = tenant.id ↔ promise.1 = request.serviceCode
  | .update env request =>
      ∀ row ∈ found parse request.tenantId history.registry,
        Succeeds json constraints env (request.apply (scanTenant json row))
            history.registry →
          (∀ member ∈ row.metadata,
            member.1 = "endpoint" ∨ member.1 = "config") ∧
            (request.active = none →
              row.status = .active ∨ row.status = .suspended)
  | .delete env tenantId =>
      ∀ row ∈ found parse tenantId history.registry,
        Succeeds json constraints env (scanTenant json row).deactivated
            history.registry →
          ∀ promise ∈ history.owed,
            promise.2 = row.applicationId → promise.1 = row.appCode

instance (history : History) :
    (call : Call) → Decidable (UnusedCodes parse history call)
  | .register newId _ request =>
      inferInstanceAs (Decidable (∀ code ∈ request.serviceCodes,
        ∀ row ∈ history.registry.rows, row.Answers code →
          row.applicationId = registeredId parse newId request))
  | .update _ _ => isTrue trivial
  | .delete _ _ => isTrue trivial

instance (history : History) :
    (call : Call) → Decidable (CarriesAll json constraints parse history call)
  | .register .. => inferInstanceAs (Decidable (_ → _ ∧ _))
  | .update .. => inferInstanceAs (Decidable (∀ row ∈ _, _ → _ ∧ _))
  | .delete .. => inferInstanceAs (Decidable (∀ row ∈ _, _ → ∀ promise ∈ _, _))

/-! ## Resolution -/

variable {registry : Registry} {code : String} {id : Uuid}

theorem resolves_iff :
    Resolves json registry code id ↔
      (∃ row ∈ registry.rows, row.applicationId = id ∧ row.Answers code) ∧
        ∀ row ∈ registry.rows, row.Answers code → row.applicationId = id := by
  have hmem : ∀ row, row ∈ registry.rows.filter (fun row => row.Answers code) ↔
      row ∈ registry.rows ∧ row.Answers code := by
    intro row
    rw [List.mem_filter, decide_eq_true_eq]
  constructor
  · intro hresolves
    -- any row that answers may be the one that is returned first
    have honly : ∀ row ∈ registry.rows, row.Answers code →
        row.applicationId = id := by
      intro row hrow hanswers
      have hfirst := List.perm_cons_erase ((hmem row).mpr ⟨hrow, hanswers⟩)
      obtain ⟨tenant, htenant, hid⟩ := hresolves _ hfirst.symm
      cases htenant
      exact hid
    refine ⟨?_, honly⟩
    obtain ⟨tenant, htenant, -⟩ := hresolves _ (List.Perm.refl _)
    cases hrows : registry.rows.filter (fun row => row.Answers code) with
    | nil =>
        rw [hrows] at htenant
        cases htenant
    | cons row rows =>
        have hrow := (hmem row).mp (hrows ▸ List.mem_cons_self)
        exact ⟨row, hrow.1, honly row hrow.1 hrow.2, hrow.2⟩
  · rintro ⟨⟨row, hrow, -, hanswers⟩, honly⟩ returned hreturned
    cases returned with
    | nil =>
        have hnone := hreturned.mem_iff.mpr ((hmem row).mpr ⟨hrow, hanswers⟩)
        cases hnone
    | cons first rest =>
        have hfirst := (hmem first).mp (hreturned.mem_iff.mp List.mem_cons_self)
        exact ⟨scanTenant json first, rfl, honly first hfirst.1 hfirst.2⟩

instance (registry : Registry) (code : String) (id : Uuid) :
    Decidable (Resolves json registry code id) :=
  decidable_of_iff _ (resolves_iff json).symm

theorem mem_resolving :
    (code, id) ∈ resolving registry ↔ Resolves json registry code id := by
  have hcodes : ∀ row : Row, code ∈ row.codes ↔ row.Answers code := by
    intro row
    rw [Row.codes, List.mem_cons, Option.mem_toList, Row.Answers, eq_comm]
  rw [resolves_iff, resolving, List.mem_flatMap]
  constructor
  · rintro ⟨row, hrow, hcode⟩
    obtain ⟨found, hfound, hpair⟩ := List.mem_map.mp hcode
    obtain ⟨rfl, rfl⟩ := Prod.mk.inj hpair
    obtain ⟨hanswers, honly⟩ := List.mem_filter.mp hfound
    exact ⟨⟨row, hrow, rfl, (hcodes row).mp hanswers⟩,
      of_decide_eq_true honly⟩
  · rintro ⟨⟨row, hrow, rfl, hanswers⟩, honly⟩
    exact ⟨row, hrow, List.mem_map_of_mem (List.mem_filter.mpr
      ⟨(hcodes row).mpr hanswers, decide_eq_true honly⟩)⟩

theorem sound_start (registry : Registry) :
    Sound json (History.start registry) :=
  fun _ hpromise => (mem_resolving json).mp hpromise

/-! ## What a save leaves -/

variable (tenant : Tenant) (registry : Registry)

theorem forall_lookup_eq_none_iff {metadata : List (String × String)} :
    (∀ key, key ≠ "endpoint" → key ≠ "config" → metadata.lookup key = none) ↔
      ∀ member ∈ metadata, member.1 = "endpoint" ∨ member.1 = "config" := by
  constructor
  · intro hnone member hmember
    by_contra hother
    obtain ⟨hendpoint, hconfig⟩ := not_or.mp hother
    have hmissing := List.lookup_eq_none_iff.mp
      (hnone member.1 hendpoint hconfig) member hmember
    simp at hmissing
  · intro hkeys key hendpoint hconfig
    rw [List.lookup_eq_none_iff]
    intro member hmember
    rcases hkeys member hmember with hkey | hkey
    · simpa [hkey] using hendpoint
    · simpa [hkey] using hconfig

theorem lookup_savedMetadata {key : String} (hendpoint : key ≠ "endpoint")
    (hconfig : key ≠ "config") :
    (savedMetadata json tenant).lookup key = none := by
  refine forall_lookup_eq_none_iff.mpr ?_ key hendpoint hconfig
  intro member hmember
  rcases List.mem_append.mp hmember with hmember | hmember
  · split at hmember
    · rw [List.mem_singleton.mp hmember]
      exact Or.inl rfl
    · cases hmember
  · split at hmember
    · rw [List.mem_singleton.mp hmember]
      exact Or.inr rfl
    · cases hmember

theorem endpoint_savedMetadata :
    ((savedMetadata json tenant).lookup "endpoint").getD "" =
      tenant.endpoint := by
  rw [savedMetadata]
  by_cases hendpoint : tenant.endpoint = "" <;>
    by_cases hconfig : tenant.config = Config.empty <;>
    simp [hendpoint, hconfig]

theorem config_savedMetadata :
    scanConfig json
      (((savedMetadata json tenant).lookup "config").getD "\x7b\x7d") =
        tenant.config := by
  rw [scanConfig_eq, savedMetadata]
  by_cases hendpoint : tenant.endpoint = "" <;>
    by_cases hconfig : tenant.config = Config.empty <;>
    simp [hendpoint, hconfig, List.lookup, json.unmarshal_braces,
      json.unmarshal_marshal]

/-- The row of the tenant after the save. -/
def savedRow : Row :=
  (registry.lookup tenant.id).elim (proposedRow json tenant)
    (mergedRow json tenant)

theorem lookup_saved (other : Uuid) :
    (saved json tenant registry).lookup other =
      if other = tenant.id then some (savedRow json tenant registry)
      else registry.lookup other := by
  rw [saved, Table.lookup_upsert]
  by_cases hother : other = tenant.id
  · subst hother
    rfl
  · rw [if_neg hother]
    exact if_neg hother

theorem appCode_savedRow :
    (savedRow json tenant registry).appCode = tenant.serviceCode := by
  rw [savedRow]
  cases registry.lookup tenant.id <;> rfl

theorem metadata_savedRow :
    (savedRow json tenant registry).metadata = savedMetadata json tenant := by
  rw [savedRow]
  cases registry.lookup tenant.id <;> rfl

variable {code : String}

theorem savedRow_answers :
    (savedRow json tenant registry).Answers code ↔
      code = tenant.serviceCode := by
  rw [Row.Answers, appCode_savedRow, metadata_savedRow,
    lookup_savedMetadata json tenant (by decide) (by decide)]
  simp [eq_comm]

/-- A code that no other tenant uses resolves to the saved tenant exactly if
it is the `app_code`. -/
theorem resolves_saved_self
    (honly : ∀ row ∈ registry.rows, row.Answers code →
      row.applicationId = tenant.id) :
    Resolves json (saved json tenant registry) code tenant.id ↔
      code = tenant.serviceCode := by
  have hsaved : savedRow json tenant registry ∈
      (saved json tenant registry).rows ∧
        (savedRow json tenant registry).applicationId = tenant.id := by
    rw [← Table.lookup_eq_some_iff, lookup_saved, if_pos rfl]
  rw [resolves_iff]
  constructor
  · rintro ⟨⟨row, hrow, hid, hanswers⟩, -⟩
    rw [(saved json tenant registry).eq_of_key_eq hrow hsaved.1
      (hid.trans hsaved.2.symm), savedRow_answers] at hanswers
    exact hanswers
  · intro hcode
    refine ⟨⟨_, hsaved.1, hsaved.2,
      (savedRow_answers json tenant registry).mpr hcode⟩, ?_⟩
    intro row hrow hanswers
    by_contra hid
    have hlookup := Table.lookup_key hrow
    rw [lookup_saved, if_neg hid] at hlookup
    exact hid (honly row (Table.lookup_eq_some_iff.mp hlookup).1 hanswers)

variable {id : Uuid}

theorem resolves_saved_other (hid : id ≠ tenant.id)
    (hbefore : Resolves json registry code id) :
    Resolves json (saved json tenant registry) code id ↔
      code ≠ tenant.serviceCode := by
  obtain ⟨⟨row, hrow, rfl, hanswers⟩, honly⟩ :=
    (resolves_iff json).mp hbefore
  rw [resolves_iff]
  constructor
  · rintro ⟨-, hafter⟩ hcode
    have hsaved := Table.lookup_eq_some_iff.mp
      ((lookup_saved json tenant registry tenant.id).trans (if_pos rfl))
    have howner := hafter _ hsaved.1
      ((savedRow_answers json tenant registry).mpr hcode)
    exact hid (howner.symm.trans hsaved.2)
  · intro hcode
    have hkept : (saved json tenant registry).lookup row.applicationId =
        some row := by
      rw [lookup_saved, if_neg hid, Table.lookup_key hrow]
    refine ⟨⟨row, (Table.lookup_eq_some_iff.mp hkept).1, rfl, hanswers⟩, ?_⟩
    intro other hother hother_answers
    have hlookup := Table.lookup_key hother
    rw [lookup_saved] at hlookup
    split at hlookup
    · cases hlookup
      exact absurd ((savedRow_answers json tenant registry).mp hother_answers)
        hcode
    · exact honly other (Table.lookup_eq_some_iff.mp hlookup).1 hother_answers

theorem resolves_saved_iff (hbefore : Resolves json registry code id) :
    Resolves json (saved json tenant registry) code id ↔
      (id = tenant.id ↔ code = tenant.serviceCode) := by
  by_cases hid : id = tenant.id
  · subst hid
    rw [resolves_saved_self json tenant registry
      ((resolves_iff json).mp hbefore).2]
    exact (iff_true_left rfl).symm
  · rw [resolves_saved_other json tenant registry hid hbefore]
    simp only [hid, false_iff, ne_eq]

/-- A tenant that was read keeps the codes that are its `app_code`. -/
theorem resolves_saved_read_iff {row : Row} (hrow : row ∈ registry.rows)
    (hid : tenant.id = row.applicationId)
    (hcode : tenant.serviceCode = row.appCode)
    (hbefore : Resolves json registry code id) :
    Resolves json (saved json tenant registry) code id ↔
      (id = row.applicationId → code = row.appCode) := by
  rw [resolves_saved_iff json tenant registry hbefore, hid, hcode]
  constructor
  · exact Iff.mp
  · intro hforward
    refine ⟨hforward, ?_⟩
    rintro rfl
    exact (((resolves_iff json).mp hbefore).2 row hrow (Or.inl rfl)).symm

/-! ## Steps -/

variable {tenantId : String} {row : Row}

theorem save_eq (env : SaveEnv) (tenant : Tenant) (registry : Registry) :
    save json constraints env tenant registry =
      if Succeeds json constraints env tenant registry then
        .ok (saved json tenant registry)
      else .error (.database env.message) := rfl

theorem step_register (history : History) (newId : Uuid) (env : SaveEnv)
    (request : RegisterTenantRequest) :
    step json constraints parse history (.register newId env request) =
      let tenant := registeredTenant parse newId request
      if Succeeds json constraints env tenant history.registry then
        { registry := saved json tenant history.registry
          owed := history.owed ++ request.serviceCodes.map (·, tenant.id) }
      else history := by
  dsimp only [step, registerTenant]
  rw [save_eq]
  by_cases hsucceeds : Succeeds json constraints env
      (registeredTenant parse newId request) history.registry
  · rw [if_pos hsucceeds, if_pos hsucceeds]
    rfl
  · rw [if_neg hsucceeds, if_neg hsucceeds]

theorem changeTenant_registry (env : SaveEnv) (tenantId : String)
    (change : Tenant → Tenant) (registry : Registry) :
    (changeTenant json constraints parse env tenantId change registry).2 =
      (found parse tenantId registry).elim registry fun row =>
        if Succeeds json constraints env (change (scanTenant json row))
            registry then
          saved json (change (scanTenant json row)) registry
        else registry := by
  rw [changeTenant, found]
  cases parse tenantId with
  | none => rfl
  | some id =>
      dsimp only [getByID, Option.bind_some]
      cases registry.lookup id with
      | none => rfl
      | some row =>
          dsimp only [Option.toList, queryRow, Option.elim]
          rw [save_eq]
          by_cases hsucceeds : Succeeds json constraints env
              (change (scanTenant json row)) registry
          · rw [if_pos hsucceeds, if_pos hsucceeds]
          · rw [if_neg hsucceeds, if_neg hsucceeds]

theorem mem_of_found {registry : Registry}
    (hfound : found parse tenantId registry = some row) :
    row ∈ registry.rows := by
  obtain ⟨id, -, hlookup⟩ := Option.bind_eq_some_iff.mp hfound
  exact (Table.lookup_eq_some_iff.mp hlookup).1

variable {json constraints parse}

variable {history : History} {env : SaveEnv}

theorem register_iff {newId : Uuid} {request : RegisterTenantRequest}
    (hsound : Sound json history)
    (hunused : UnusedCodes parse history (.register newId env request)) :
    Sound json (step json constraints parse history
        (.register newId env request)) ↔
      CarriesAll json constraints parse history
        (.register newId env request) := by
  rw [step_register, CarriesAll]
  by_cases hsucceeds : Succeeds json constraints env
      (registeredTenant parse newId request) history.registry
  · dsimp only
    rw [if_pos hsucceeds, forall_prop_of_true hsucceeds, Sound,
      List.forall_mem_append, List.forall_mem_map, and_comm]
    apply and_congr
    · apply forall₂_congr
      intro code hcode
      exact resolves_saved_self json _ _ (hunused code hcode)
    · apply forall₂_congr
      intro promise hpromise
      exact resolves_saved_iff json _ _ (hsound promise hpromise)
  · dsimp only
    rw [if_neg hsucceeds]
    exact iff_of_true hsound fun hsaves => absurd hsaves hsucceeds

theorem delete_iff (hsound : Sound json history) :
    Sound json (step json constraints parse history (.delete env tenantId)) ↔
      CarriesAll json constraints parse history (.delete env tenantId) := by
  dsimp only [step, deleteTenant, CarriesAll]
  rw [changeTenant_registry]
  cases hfound : found parse tenantId history.registry with
  | none =>
      exact iff_of_true hsound fun row hrow =>
        absurd hrow (Option.not_mem_none row)
  | some row =>
      dsimp only [Option.elim]
      by_cases hsucceeds : Succeeds json constraints env
          (scanTenant json row).deactivated history.registry
      · rw [if_pos hsucceeds]
        simp only [Option.mem_some_iff, forall_eq',
          forall_prop_of_true hsucceeds]
        apply forall₂_congr
        intro promise hpromise
        exact resolves_saved_read_iff json _ _ (mem_of_found parse hfound) rfl
          rfl (hsound promise hpromise)
      · rw [if_neg hsucceeds]
        simp only [Option.mem_some_iff, forall_eq']
        exact iff_of_true hsound fun hsaves => absurd hsaves hsucceeds

variable (request : UpdateTenantRequest)

/-- An update keeps what its request leaves unset exactly if the struct carries
all of the row. -/
theorem unsetKept_iff (row : Row) :
    UnsetKept json request row
        (mergedRow json (request.apply (scanTenant json row)) row) ↔
      (∀ member ∈ row.metadata,
        member.1 = "endpoint" ∨ member.1 = "config") ∧
        (request.active = none →
          row.status = .active ∨ row.status = .suspended) := by
  have hstatus : request.active = none →
      (mergedRow json (request.apply (scanTenant json row)) row).status =
        if row.status = .active then .active else .suspended := by
    intro hunset
    simp [mergedRow, proposedRow, UpdateTenantRequest.apply, hunset, scanTenant]
  rw [← forall_lookup_eq_none_iff]
  constructor
  · intro hkept
    refine ⟨fun key hendpoint hconfig => ?_, fun hunset => ?_⟩
    · rw [← hkept.metadata key hendpoint hconfig]
      exact lookup_savedMetadata json _ hendpoint hconfig
    · have hsame := hkept.status hunset
      rw [hstatus hunset] at hsame
      split at hsame
      · exact Or.inl hsame.symm
      · exact Or.inr hsame.symm
  · rintro ⟨hmetadata, hrow⟩
    exact
      { name := fun hunset => by
          simp [mergedRow, proposedRow, UpdateTenantRequest.apply, hunset,
            scanTenant]
        endpoint := fun hunset => by
          refine (endpoint_savedMetadata json _).trans ?_
          simp [UpdateTenantRequest.apply, hunset]
        rateLimit := fun hunset => by
          simp [mergedRow, proposedRow, UpdateTenantRequest.apply, hunset,
            scanTenant]
        status := fun hunset => by
          rw [hstatus hunset]
          rcases hrow hunset with hactive | hsuspended
          · rw [hactive, if_pos rfl]
          · rw [hsuspended, if_neg (by decide)]
        config := fun hunset => by
          refine (config_savedMetadata json _).trans ?_
          simp [UpdateTenantRequest.apply, hunset]
        serviceCode := rfl
        statusReason := rfl
        metadata := fun key hendpoint hconfig =>
          (lookup_savedMetadata json _ hendpoint hconfig).trans
            (hmetadata key hendpoint hconfig).symm }

theorem UnsetKept.refl (row : Row) :
    UnsetKept json request row row :=
  ⟨fun _ => rfl, fun _ => rfl, fun _ => rfl, fun _ => rfl, fun _ => rfl, rfl,
    rfl, fun _ _ _ => rfl⟩

/-- Of a row without other metadata the codes are its `app_code`. -/
theorem code_eq_appCode {code : String}
    (hmetadata : ∀ member ∈ row.metadata,
      member.1 = "endpoint" ∨ member.1 = "config") (hanswers : row.Answers code) :
    code = row.appCode := by
  have hnone := forall_lookup_eq_none_iff.mpr hmetadata "service_code"
    (by decide) (by decide)
  rcases hanswers with hcode | hcode
  · exact hcode.symm
  · rw [hnone] at hcode
    cases hcode

theorem update_iff {request : UpdateTenantRequest} (hsound : Sound json history)
    :
    (Sound json (step json constraints parse history (.update env request)) ∧
        UpdateKeeps json constraints parse history (.update env request)) ↔
      CarriesAll json constraints parse history (.update env request) := by
  dsimp only [step, updateTenant, UpdateKeeps, CarriesAll]
  rw [changeTenant_registry]
  cases hfound : found parse request.tenantId history.registry with
  | none =>
      exact iff_of_true ⟨hsound, fun row hrow =>
        absurd hrow (Option.not_mem_none row)⟩ fun row hrow =>
          absurd hrow (Option.not_mem_none row)
  | some row =>
      have hrow := mem_of_found parse hfound
      simp only [Option.mem_some_iff, forall_eq', Option.elim]
      by_cases hsucceeds : Succeeds json constraints env
          (request.apply (scanTenant json row)) history.registry
      · rw [if_pos hsucceeds, forall_prop_of_true hsucceeds, ← unsetKept_iff]
        have hlookup : (saved json (request.apply (scanTenant json row))
            history.registry).lookup row.applicationId =
              some (mergedRow json (request.apply (scanTenant json row))
                row) := by
          refine (lookup_saved json _ _ _).trans ((if_pos rfl).trans ?_)
          exact congrArg (fun old : Option Row => some (old.elim _ _))
            (Table.lookup_key hrow)
        rw [hlookup]
        simp only [Option.mem_some_iff, exists_eq_left']
        apply and_iff_right_of_imp
        intro hkept promise hpromise
        have hbefore := hsound promise hpromise
        rw [resolves_saved_read_iff json _ _ hrow rfl rfl hbefore]
        intro hid
        obtain ⟨⟨owner, howner, hownerId, hanswers⟩, -⟩ :=
          (resolves_iff json).mp hbefore
        rw [history.registry.eq_of_key_eq howner hrow
          (hownerId.trans hid)] at hanswers
        exact code_eq_appCode ((unsetKept_iff request row).mp hkept).1 hanswers
      · rw [if_neg hsucceeds]
        refine iff_of_true ⟨hsound, row, Table.lookup_key hrow,
          UnsetKept.refl request row⟩ fun hsaves => absurd hsaves hsucceeds

theorem step_iff {call : Call} (hsound : Sound json history)
    (hunused : UnusedCodes parse history call) :
    (Sound json (step json constraints parse history call) ∧
        UpdateKeeps json constraints parse history call) ↔
      CarriesAll json constraints parse history call := by
  cases call with
  | register newId env request =>
      exact (and_iff_left trivial).trans (register_iff hsound hunused)
  | update env request => exact update_iff hsound
  | delete env tenantId =>
      exact (and_iff_left trivial).trans (delete_iff hsound)

end Server

/-! ## The constraints of the schema -/

/-- `'^[A-Z][A-Z0-9_]{2,49}$'` -/
def appCodeFormat (code : String) : Bool :=
  match code.toList with
  | [] => false
  | first :: rest =>
      first.isUpper && 2 ≤ rest.length && rest.length ≤ 49 &&
        rest.all fun c => c.isUpper || c.isDigit || c == '_'

/-- The checks of `app.application_registry` on the columns that `Save`
writes.  It gives no `status_reason`, so that no inactive tenant is saved. -/
def registryChecks (row : Row) : Bool :=
  appCodeFormat row.appCode && row.appName.length ≤ 255 &&
    (row.status = .active || row.statusReason.isSome) &&
    0 < row.maxTransactionsPerMinute

/-! ## Runs -/

/-- In every run the promised service codes keep resolving to their tenants and
updates keep what their requests leave unset, exactly if every call that saves a
tenant carries all of it. -/
theorem keepsTenants_iff (json : Json) (constraints : Row → Bool)
    (parse : String → Option Uuid) (registry : Registry) (calls : List Call)
    (hunused : Throughout (step json constraints parse) (UnusedCodes parse)
      calls (History.start registry)) :
    KeepsTenants json constraints parse calls (History.start registry) ↔
      Throughout (step json constraints parse)
        (CarriesAll json constraints parse) calls (History.start registry) :=
  throughout_congr (fun _ _ => step_iff) (fun _ _ _ hafter => hafter.1)
    (sound_start json registry) hunused

namespace Sample

instance : Countable Config := by
  have hchar : Countable Char :=
    Function.Injective.countable fun _ _ hsame => Char.toNat_inj.mp hsame
  have hstring : Countable String :=
    Function.Injective.countable fun _ _ hsame => String.toList_inj.mp hsame
  have hentries : Function.Injective Config.entries := by
    rintro ⟨left, _⟩ ⟨right, _⟩ rfl
    rfl
  exact hentries.countable

noncomputable instance : Encodable Config :=
  Encodable.ofCountable Config

/-- A text for every configuration. -/
noncomputable def json : Json where
  marshal config :=
    String.ofList (List.replicate (Encodable.encode config + 3) 'a')
  unmarshal text :=
    if text.length < 3 then Config.empty
    else (Encodable.decode (text.length - 3)).getD Config.empty
  unmarshal_marshal config := by
    rw [String.length_ofList, List.length_replicate, if_neg (by omega),
      Nat.add_sub_cancel, Encodable.encodek, Option.getD_some]
  unmarshal_nothing := rfl
  unmarshal_braces := rfl

def row : Row where
  applicationId := 1
  appName := "Bank A"
  appCode := "BANK_A"
  metadata := [("service_code", "*123#"), ("endpoint", "bank-a:50051")]
  status := .active
  statusReason := none
  maxTransactionsPerMinute := 100

def registry : Registry :=
  ⟨[row], List.nodup_singleton _⟩

def rename : UpdateTenantRequest where
  tenantId := "00000000-0000-0000-0000-000000000001"
  name := some "Bank A Ltd"
  endpoint := none
  rateLimitRps := none
  active := none
  configuration := none

def newTenant (codes : List String) : RegisterTenantRequest where
  tenantId := ""
  name := "Bank B"
  endpoint := "bank-b:50051"
  rateLimitRps := 50
  configuration := Config.empty
  serviceCodes := codes

def env : SaveEnv := ⟨false, ""⟩

def parse : String → Option Uuid := fun _ => some 1

/-- The tenant by its `app_code` alone. -/
def plainRegistry : Registry :=
  ⟨[{ row with metadata := [("endpoint", "bank-a:50051")] }],
    List.nodup_singleton _⟩

def calls : List Call :=
  [.register 2 env (newTenant ["BANK_B"]), .update env rename]

theorem plain_tenants_kept :
    Throughout (step json registryChecks parse) (UnusedCodes parse) calls
        (History.start plainRegistry) ∧
      KeepsTenants json registryChecks parse calls
        (History.start plainRegistry) := by
  have hunused : Throughout (step json registryChecks parse)
      (UnusedCodes parse) calls (History.start plainRegistry) := by
    decide +kernel
  exact ⟨hunused, (keepsTenants_iff json registryChecks parse plainRegistry
    calls hunused).mpr (by decide +kernel)⟩

/-- After a change of its name the code in the metadata of the tenant is gone,
and of two codes that a tenant is registered with the second does not
resolve. -/
theorem lost_service_codes :
    Resolves json registry "*123#" 1 ∧
      (updateTenant json registryChecks parse env rename registry).1.isOk ∧
      ¬ Resolves json
        (updateTenant json registryChecks parse env rename registry).2
        "*123#" 1 ∧
      ¬ KeepsTenants json registryChecks parse [.update env rename]
        (History.start registry) ∧
      (registerTenant json registryChecks parse 2 env
        (newTenant ["BANK_B", "BANK_C"]) registry).1.isOk ∧
      ¬ Resolves json (registerTenant json registryChecks parse 2 env
        (newTenant ["BANK_B", "BANK_C"]) registry).2 "BANK_C" 2 := by
  have hlost : ¬ Resolves json
      (updateTenant json registryChecks parse env rename registry).2
      "*123#" 1 := by
    decide +kernel
  have howed : ("*123#", 1) ∈ (History.start registry).owed := by
    decide +kernel
  refine ⟨by decide +kernel, by decide +kernel, hlost, ?_, by decide +kernel,
    by decide +kernel⟩
  intro hkept
  exact hlost (hkept.1.1 _ howed)

end Sample

end UssdKernel.TenantRegistry
