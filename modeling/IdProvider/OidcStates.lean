/-
The states of the OIDC provider: one table under the adapters of all models,
and the map from model and id that it stands for.
-/
import IdProvider.AnsweringSystem
import IdProvider.JsonReading
import IdProvider.OAuthClients
import IdProvider.TableMaps

namespace IdProvider

open JsonText KeyedTable

/-! ## `PostgresOidcProviderAdapter` -/

/-- The fields that the adapter reads or sets, and the others. -/
structure AdapterPayload where
  grantId : Option String
  userCode : Option String
  uid : Option String
  consumed : Option Json
  others : List (String × Json)
  deriving DecidableEq

structure OidcProviderState where
  id : String
  model : String
  payload : AdapterPayload
  grantId : Option String
  userCode : Option String
  uid : Option String
  expiresAt : Instant
  consumedAt : Option Instant
  deriving DecidableEq

/-- Model and id are unique together. -/
instance : Keyed OidcProviderState (String × String) :=
  ⟨fun state => (state.model, state.id)⟩

/-- The integer part of a time value. -/
def timeClip (value : ℚ) : Instant := value.num.tdiv value.den

def consumedEpochSeconds (date : Instant) : Int := date / 1000

/-- The time value that the `Date` is made of. -/
def toExpiresAt (now : Instant) (expiresInSeconds : Number) : Instant :=
  timeClip (now + numberValue expiresInSeconds * 1000)

def toConsumedAt (payload : AdapterPayload) : Option Instant :=
  match payload.consumed with
  | some (.num consumed) => newDate (timeClip (numberValue consumed * 1000))
  | _ => none

def withConsumed (payload : AdapterPayload) (consumedAt : Option Instant) :
    AdapterPayload :=
  match consumedAt with
  | none => payload
  | some consumedAt =>
      { payload with
        consumed := some
          (.num (Number.ofInt (consumedEpochSeconds consumedAt))) }

/-- A call of one adapter, with its model, or of the job that deletes. -/
inductive OidcOperation where
  | upsert (model id : String) (payload : AdapterPayload) (expiresIn : Number)
  | find (model id : String)
  | findByUserCode (model userCode : String)
  | findByUid (model uid : String)
  | consume (model id : String)
  | destroy (model id : String)
  | revokeByGrantId (model grantId : String)
  | deleteExpired
  deriving DecidableEq

/-- An operation and the time at which it reads the clock. -/
structure TimedOperation where
  now : Instant
  operation : OidcOperation
  deriving DecidableEq

/-- A text in the columns, or in the `jsonb` of the payload, has a NUL. -/
def AdapterPayload.mentionsNul (payload : AdapterPayload) : Bool :=
  payload.grantId.any hasNul || payload.userCode.any hasNul ||
    payload.uid.any hasNul || payload.consumed.any IdProvider.mentionsNul ||
    mentionsNulFields payload.others

/-- The operation rejects: PostgreSQL takes no text with a NUL and no date that
it cannot read, and an Invalid Date has no text at all. -/
def TimedOperation.refused (call : TimedOperation) : Bool :=
  match call.operation with
  | .upsert model id payload expiresIn =>
      hasNul model || hasNul id || payload.mentionsNul ||
        (dateParameter (newDate (toExpiresAt call.now expiresIn))).isNone ||
        (toConsumedAt payload).any fun consumedAt =>
          (dateParameter (some consumedAt)).isNone
  | .find model id => hasNul model || hasNul id
  | .findByUserCode model userCode => hasNul model || hasNul userCode
  | .findByUid model uid => hasNul model || hasNul uid
  | .consume model id => hasNul model || hasNul id
  | .destroy model id => hasNul model || hasNul id
  | .revokeByGrantId _ grantId => hasNul grantId
  | .deleteExpired => false

inductive OidcAnswer where
  | refused
  | done
  | found (payload : Option AdapterPayload)
  | client (metadata : Option OidcClientMetadata)
  | deleted (rows : Nat)
  deriving DecidableEq

abbrev OidcProviderStates := Table OidcProviderState

namespace OidcProviderState

/-- The columns of an insert, which an upsert sets as well. -/
def ofPayload (now : Instant) (model id : String) (payload : AdapterPayload)
    (expiresIn : Number) : OidcProviderState where
  id := id
  model := model
  payload := payload
  grantId := payload.grantId
  userCode := payload.userCode
  uid := payload.uid
  expiresAt := toExpiresAt now expiresIn
  consumedAt := toConsumedAt payload

/-- What a lookup returns of a row. -/
def answer (state : OidcProviderState) : AdapterPayload :=
  withConsumed state.payload state.consumedAt

/-- The columns that are copied out of the payload, and what PostgreSQL keeps
of texts: none has a NUL. -/
structure ColumnsAgree (state : OidcProviderState) : Prop where
  plain : hasNul state.model = false ∧ hasNul state.id = false
  plainGrantId : state.grantId.any hasNul = false
  grantId : state.grantId = state.payload.grantId
  userCode : state.userCode = state.payload.userCode
  uid : state.uid = state.payload.uid

end OidcProviderState

namespace PostgresOidcProviderAdapter

def upsert (now : Instant) (model id : String) (payload : AdapterPayload)
    (expiresIn : Number) (states : OidcProviderStates) : OidcProviderStates :=
  let values := OidcProviderState.ofPayload now model id payload expiresIn
  states.upsert values
    (fun state => { values with model := state.model, id := state.id })
    (fun _ => rfl)

def findState (now : Instant) (model id : String)
    (states : OidcProviderStates) : Option AdapterPayload :=
  (states.first? fun state =>
    state.model == model && state.id == id &&
      decide (now < state.expiresAt)).map OidcProviderState.answer

def findByColumn (column : OidcProviderState → Option String) (now : Instant)
    (model value : String) (states : OidcProviderStates) :
    Option AdapterPayload :=
  (states.first? fun state =>
    state.model == model && column state == some value &&
      decide (now < state.expiresAt)).map OidcProviderState.answer

def consume (now : Instant) (model id : String)
    (states : OidcProviderStates) : OidcProviderStates :=
  states.update (fun state => state.model == model && state.id == id)
    (fun state => { state with consumedAt := some now }) (fun _ => rfl)

def destroy (model id : String) (states : OidcProviderStates) :
    OidcProviderStates :=
  states.delete fun state => state.model == model && state.id == id

def revokeByGrantId (grantId : String) (states : OidcProviderStates) :
    OidcProviderStates :=
  states.delete fun state => state.grantId == some grantId

def expired (now : Instant) (state : OidcProviderState) : Bool :=
  decide (state.expiresAt ≤ now)

/-- `clients` is the registry, where the model `Client` is looked up. -/
def execute (clients : OAuthClientDb) (states : OidcProviderStates)
    (call : TimedOperation) : OidcAnswer × OidcProviderStates :=
  match call.operation with
  | .upsert model id payload expiresIn =>
      (.done, upsert call.now model id payload expiresIn states)
  | .find model id =>
      if model = "Client" then
        (.client (findClient clients call.now id), states)
      else (.found (findState call.now model id states), states)
  | .findByUserCode model userCode =>
      (.found (findByColumn OidcProviderState.userCode call.now model userCode
        states), states)
  | .findByUid model uid =>
      (.found (findByColumn OidcProviderState.uid call.now model uid states),
        states)
  | .consume model id => (.done, consume call.now model id states)
  | .destroy model id => (.done, destroy model id states)
  | .revokeByGrantId _ grantId => (.done, revokeByGrantId grantId states)
  | .deleteExpired =>
      (.deleted (states.select (expired call.now)).length,
        states.delete (expired call.now))

/-- A refused statement changes nothing. -/
def perform (clients : OAuthClientDb) (states : OidcProviderStates)
    (call : TimedOperation) : OidcAnswer × OidcProviderStates :=
  if call.refused then (.refused, states) else execute clients states call

end PostgresOidcProviderAdapter

/-! ## The map -/

structure OidcEntry where
  payload : AdapterPayload
  expiresAt : Instant
  consumedAt : Option Instant
  deriving DecidableEq

def OidcEntry.answer (entry : OidcEntry) : AdapterPayload :=
  withConsumed entry.payload entry.consumedAt

theorem OidcEntry.answer_grantId (entry : OidcEntry) :
    entry.answer.grantId = entry.payload.grantId := by
  rw [OidcEntry.answer]
  cases entry.consumedAt with
  | none => rfl
  | some consumedAt => rfl

/-- From model and id to an entry. -/
abbrev OidcStore := String × String → Option OidcEntry

namespace OidcStore

/-- The entry is in the store and has not expired. -/
def Live (store : OidcStore) (now : Instant) (place : String × String)
    (entry : OidcEntry) : Prop :=
  store place = some entry ∧ now < entry.expiresAt

def find (store : OidcStore) (now : Instant) (place : String × String) :
    Option AdapterPayload :=
  ((store place).filter fun entry => decide (now < entry.expiresAt)).map
    OidcEntry.answer

open Classical in
/-- What the entry that is meant answers. -/
noncomputable def answerOf (meant : OidcEntry → Prop) :
    Option AdapterPayload :=
  if hmeant : ∃ entry, meant entry then some hmeant.choose.answer else none

/-- The live entry of the model with a value in its payload. -/
noncomputable def findBy (field : AdapterPayload → Option String)
    (store : OidcStore) (now : Instant) (model value : String) :
    Option AdapterPayload :=
  answerOf fun entry =>
    (∃ id, store.Live now (model, id) entry) ∧
      field entry.payload = some value

def consume (store : OidcStore) (now : Instant) (place : String × String) :
    OidcStore :=
  Function.update store place
    ((store place).map fun entry => { entry with consumedAt := some now })

def revoke (store : OidcStore) (grantId : String) : OidcStore := fun place =>
  (store place).filter fun entry => entry.payload.grantId ≠ some grantId

def cleanUp (store : OidcStore) (now : Instant) : OidcStore := fun place =>
  (store place).filter fun entry => decide (now < entry.expiresAt)

noncomputable def execute (store : OidcStore) (call : TimedOperation) :
    OidcAnswer × OidcStore :=
  match call.operation with
  | .upsert model id payload expiresIn =>
      (.done, Function.update store (model, id)
        (some ⟨payload, toExpiresAt call.now expiresIn,
          toConsumedAt payload⟩))
  | .find model id => (.found (store.find call.now (model, id)), store)
  | .findByUserCode model userCode =>
      (.found (findBy AdapterPayload.userCode store call.now model userCode),
        store)
  | .findByUid model uid =>
      (.found (findBy AdapterPayload.uid store call.now model uid), store)
  | .consume model id => (.done, store.consume call.now (model, id))
  | .destroy model id => (.done, Function.update store (model, id) none)
  | .revokeByGrantId _ grantId => (.done, store.revoke grantId)
  | .deleteExpired =>
      (.deleted {place | ∃ entry, store place = some entry ∧
        entry.expiresAt ≤ call.now}.ncard, store.cleanUp call.now)

noncomputable def perform (store : OidcStore) (call : TimedOperation) :
    OidcAnswer × OidcStore :=
  if call.refused then (.refused, store) else store.execute call

section Performed

variable {store : OidcStore} {call : TimedOperation}

theorem perform_of_refused (hrefused : call.refused = true) :
    store.perform call = (.refused, store) := if_pos hrefused

theorem perform_of_taken (htaken : call.refused = false) :
    store.perform call = store.execute call := by
  rw [perform, htaken]
  rfl

theorem perform_preserves {Inv : OidcStore → Prop} (hstore : Inv store)
    (hexecute : Inv (store.execute call).2) : Inv (store.perform call).2 := by
  rw [perform]
  split
  · exact hstore
  · exact hexecute

/-- What was answered was not refused. -/
theorem taken_of_answer {answer : OidcAnswer}
    (hanswer : (store.perform call).1 = answer) (hne : answer ≠ .refused) :
    call.refused = false := by
  rw [← Bool.not_eq_true]
  intro hrefused
  rw [perform_of_refused hrefused] at hanswer
  exact hne hanswer.symm

end Performed

section Stored

variable (store : OidcStore) (now : Instant) (model id : String)

theorem stored_upsert (payload : AdapterPayload) (expiresIn : Number) :
    (store.execute ⟨now, .upsert model id payload expiresIn⟩).2 =
      Function.update store (model, id)
        (some ⟨payload, toExpiresAt now expiresIn, toConsumedAt payload⟩) :=
  rfl

theorem stored_consume :
    (store.execute ⟨now, .consume model id⟩).2 =
      store.consume now (model, id) := rfl

theorem stored_destroy :
    (store.execute ⟨now, .destroy model id⟩).2 =
      Function.update store (model, id) none := rfl

theorem stored_revokeByGrantId (grantId : String) :
    (store.execute ⟨now, .revokeByGrantId model grantId⟩).2 =
      store.revoke grantId := rfl

theorem stored_deleteExpired :
    (store.execute ⟨now, .deleteExpired⟩).2 = store.cleanUp now := rfl

end Stored

/-- No two live entries of a model share a value of a field. -/
def UniqueField (field : AdapterPayload → Option String) (store : OidcStore)
    (now : Instant) : Prop :=
  ∀ model id id' entry entry' value,
    store.Live now (model, id) entry → store.Live now (model, id') entry' →
      field entry.payload = some value →
        field entry'.payload = some value → id = id'

/-- What the caller of the adapters sees to. -/
structure Proper (store : OidcStore) (call : TimedOperation) : Prop where
  uid : UniqueField AdapterPayload.uid store call.now
  userCode : UniqueField AdapterPayload.userCode store call.now

end OidcStore

/-! ## The table is the map -/

def OidcProviderState.entry (state : OidcProviderState) : OidcEntry :=
  ⟨state.payload, state.expiresAt, state.consumedAt⟩

/-- The map that the table stands for. -/
def oidcStore (states : OidcProviderStates) : OidcStore := fun place =>
  (states.lookup place).map OidcProviderState.entry

theorem oidcStore_apply (states : OidcProviderStates)
    (place : String × String) :
    oidcStore states place =
      (states.lookup place).map OidcProviderState.entry := rfl

/-- The `where` clause of one place. -/
theorem at_place {state : OidcProviderState} {model id : String} :
    (state.model == model && state.id == id) = true ↔
      key state = (model, id) := by
  rw [Bool.and_eq_true, beq_iff_eq, beq_iff_eq]
  exact Prod.mk_inj.symm

theorem at_lookup {states : OidcProviderStates} {place : String × String}
    {state : OidcProviderState} {model id : String}
    (hlookup : states.lookup place = some state) :
    (state.model == model && state.id == id) = true ↔ place = (model, id) := by
  rw [at_place, (Table.lookup_eq_some.mp hlookup).2]

theorem live_oidcStore {states : OidcProviderStates} {now : Instant}
    {model id : String} {entry : OidcEntry} :
    (oidcStore states).Live now (model, id) entry ↔
      ∃ state ∈ states, state.model = model ∧ state.id = id ∧
        now < state.expiresAt ∧ state.entry = entry := by
  rw [OidcStore.Live, oidcStore, Option.map_eq_some_iff]
  constructor
  · rintro ⟨⟨state, hlookup, rfl⟩, hlive⟩
    obtain ⟨hstate, hplace⟩ := Table.lookup_eq_some.mp hlookup
    obtain ⟨hmodel, hid⟩ := Prod.mk.inj hplace
    exact ⟨state, hstate, hmodel, hid, hlive, rfl⟩
  · rintro ⟨state, hstate, rfl, rfl, hlive, rfl⟩
    exact ⟨⟨state, Table.lookup_eq_some.mpr ⟨hstate, rfl⟩, rfl⟩, hlive⟩

def ColumnsKept (states : OidcProviderStates) : Prop :=
  ∀ state ∈ states, state.ColumnsAgree

/-- Equal on one table, the parts of a statement act alike. -/
theorem oidcStore_delete (states : OidcProviderStates)
    (where_ : OidcProviderState → Bool) (gone : OidcEntry → Bool)
    (hsame : ∀ state ∈ states, where_ state = gone state.entry) :
    oidcStore (states.delete where_) = fun place =>
      (oidcStore states place).filter fun entry => !gone entry := by
  funext place
  rw [oidcStore, Table.lookup_delete, oidcStore]
  cases hlookup : states.lookup place with
  | none => rfl
  | some state =>
      obtain ⟨hstate, -⟩ := Table.lookup_eq_some.mp hlookup
      rw [Option.map_some, Option.filter_some, Option.filter_some,
        hsame state hstate]
      cases gone state.entry with
      | false => rfl
      | true => rfl

section Statements

variable {states : OidcProviderStates} {now : Instant} {model id : String}

theorem oidcStore_upsert {payload : AdapterPayload} {expiresIn : Number} :
    oidcStore (PostgresOidcProviderAdapter.upsert now model id payload
      expiresIn states) =
      Function.update (oidcStore states) (model, id)
        (some ⟨payload, toExpiresAt now expiresIn, toConsumedAt payload⟩) := by
  have hlookup := Table.lookup_upsert states
    (OidcProviderState.ofPayload now model id payload expiresIn)
    (fun state =>
      { OidcProviderState.ofPayload now model id payload expiresIn with
        model := state.model, id := state.id }) (fun _ => rfl)
    (by
      intro old hold
      obtain ⟨hmodel, hid⟩ := Prod.mk.inj hold
      rw [hmodel, hid])
  funext place
  rw [oidcStore, PostgresOidcProviderAdapter.upsert, hlookup,
    Function.update_apply, Function.update_apply]
  have hplace : key (OidcProviderState.ofPayload now model id payload
      expiresIn) = (model, id) := rfl
  rw [hplace]
  by_cases hsame : place = (model, id)
  · rw [if_pos hsame, if_pos hsame]
    rfl
  · rw [if_neg hsame, if_neg hsame, oidcStore]

theorem oidcStore_consume :
    oidcStore (PostgresOidcProviderAdapter.consume now model id states) =
      (oidcStore states).consume now (model, id) := by
  funext place
  rw [oidcStore_apply, PostgresOidcProviderAdapter.consume,
    Table.lookup_update, OidcStore.consume, Function.update_apply]
  by_cases hsame : place = (model, id)
  · rw [if_pos hsame, ← hsame, oidcStore_apply]
    cases hlookup : states.lookup place with
    | none => rfl
    | some state =>
        rw [Option.map_some, if_pos ((at_lookup hlookup).mpr hsame)]
        rfl
  · rw [if_neg hsame, oidcStore_apply]
    cases hlookup : states.lookup place with
    | none => rfl
    | some state =>
        rw [Option.map_some, if_neg (mt (at_lookup hlookup).mp hsame)]

theorem oidcStore_destroy :
    oidcStore (PostgresOidcProviderAdapter.destroy model id states) =
      Function.update (oidcStore states) (model, id) none := by
  funext place
  rw [oidcStore_apply, PostgresOidcProviderAdapter.destroy,
    Table.lookup_delete, Function.update_apply]
  by_cases hsame : place = (model, id)
  · rw [if_pos hsame]
    cases hlookup : states.lookup place with
    | none => rfl
    | some state =>
        rw [Option.filter_some, (at_lookup hlookup).mpr hsame]
        rfl
  · rw [if_neg hsame, oidcStore_apply]
    cases hlookup : states.lookup place with
    | none => rfl
    | some state =>
        rw [Option.filter_some, Bool.eq_false_of_not_eq_true
          (mt (at_lookup hlookup).mp hsame)]
        rfl

theorem oidcStore_revokeByGrantId (hcolumns : ColumnsKept states)
    {grantId : String} :
    oidcStore (PostgresOidcProviderAdapter.revokeByGrantId grantId states) =
      (oidcStore states).revoke grantId := by
  have hdelete := oidcStore_delete states
    (fun state => state.grantId == some grantId)
    (fun entry => entry.payload.grantId == some grantId)
    (by
      intro state hstate
      rw [(hcolumns state hstate).grantId]
      rfl)
  rw [PostgresOidcProviderAdapter.revokeByGrantId, hdelete]
  funext place
  rw [OidcStore.revoke]
  apply congrArg (Option.filter · (oidcStore states place))
  funext entry
  by_cases hgrant : entry.payload.grantId = some grantId
  · simp [hgrant]
  · simp [hgrant]

theorem oidcStore_deleteExpired :
    oidcStore (states.delete (PostgresOidcProviderAdapter.expired now)) =
      (oidcStore states).cleanUp now := by
  have hdelete := oidcStore_delete states
    (PostgresOidcProviderAdapter.expired now)
    (fun entry => decide (entry.expiresAt ≤ now))
    (fun _ _ => rfl)
  rw [hdelete]
  funext place
  rw [OidcStore.cleanUp]
  apply congrArg (Option.filter · (oidcStore states place))
  funext entry
  rw [← decide_not]
  exact decide_eq_decide.mpr Int.not_le

theorem findState_eq :
    PostgresOidcProviderAdapter.findState now model id states =
      (oidcStore states).find now (model, id) := by
  have hfirst := Table.first?_at states
    (fun state => state.model == model && state.id == id &&
      decide (now < state.expiresAt))
    (fun state => decide (now < state.expiresAt)) (model, id)
    (by
      intro state
      rw [Bool.and_eq_true, at_place])
  rw [PostgresOidcProviderAdapter.findState, hfirst, OidcStore.find,
    oidcStore_apply]
  cases states.lookup (model, id) with
  | none => rfl
  | some state =>
      rw [Option.map_some, Option.filter_some, Option.filter_some]
      have hsame : state.entry.expiresAt = state.expiresAt := rfl
      rw [hsame]
      split
      · rfl
      · rfl

theorem OidcStore.findBy_of_live {field : AdapterPayload → Option String}
    {store : OidcStore} {value : String} {entry : OidcEntry}
    (hunique : UniqueField field store now)
    (hlive : store.Live now (model, id) entry)
    (hvalue : field entry.payload = some value) :
    findBy field store now model value = some entry.answer := by
  have hexists : ∃ entry, (∃ id, store.Live now (model, id) entry) ∧
      field entry.payload = some value := ⟨entry, ⟨id, hlive⟩, hvalue⟩
  obtain ⟨⟨id', hlive'⟩, hvalue'⟩ := hexists.choose_spec
  have hid := hunique model id' id _ _ value hlive' hlive hvalue' hvalue
  rw [hid] at hlive'
  have hentry := Option.some.inj (hlive'.1.symm.trans hlive.1)
  rw [findBy, answerOf, dif_pos hexists, hentry]

theorem findByColumn_eq {column : OidcProviderState → Option String}
    {field : AdapterPayload → Option String} {value : String}
    (hcolumn : ∀ state ∈ states, column state = field state.payload)
    (hunique : OidcStore.UniqueField field (oidcStore states) now) :
    PostgresOidcProviderAdapter.findByColumn column now model value states =
      OidcStore.findBy field (oidcStore states) now model value := by
  rw [PostgresOidcProviderAdapter.findByColumn]
  cases hfirst : states.first? (fun state => state.model == model &&
      column state == some value && decide (now < state.expiresAt)) with
  | some state =>
      obtain ⟨hstate, hmatch⟩ := Table.mem_of_first? hfirst
      simp only [Bool.and_eq_true, beq_iff_eq, decide_eq_true_eq] at hmatch
      obtain ⟨⟨hmodel, hvalue⟩, hlive⟩ := hmatch
      rw [hcolumn state hstate] at hvalue
      have hentry : (oidcStore states).Live now (model, state.id)
          state.entry :=
        live_oidcStore.mpr ⟨state, hstate, hmodel, rfl, hlive, rfl⟩
      rw [OidcStore.findBy_of_live hunique hentry hvalue]
      rfl
  | none =>
      rw [Table.first?_eq_none] at hfirst
      rw [Option.map_none, OidcStore.findBy, OidcStore.answerOf, dif_neg]
      rintro ⟨entry, ⟨id, hlive⟩, hvalue⟩
      obtain ⟨state, hstate, hmodel, -, hstays, rfl⟩ :=
        live_oidcStore.mp hlive
      have hmatch := hfirst state hstate
      rw [hcolumn state hstate] at hmatch
      have hvalue : field state.payload = some value := hvalue
      simp [hmodel, hvalue, hstays] at hmatch

theorem select_expired :
    (states.select (PostgresOidcProviderAdapter.expired now)).length =
      {place | ∃ entry, oidcStore states place = some entry ∧
        entry.expiresAt ≤ now}.ncard := by
  rw [Table.length_select]
  apply congrArg Set.ncard
  ext place
  rw [Set.mem_ofPred_eq, Set.mem_ofPred_eq, oidcStore_apply]
  constructor
  · rintro ⟨state, hlookup, hexpired⟩
    exact ⟨state.entry, by rw [hlookup]; rfl, of_decide_eq_true hexpired⟩
  · rintro ⟨entry, hentry, hexpired⟩
    obtain ⟨state, hlookup, rfl⟩ := Option.map_eq_some_iff.mp hentry
    exact ⟨state, hlookup, decide_eq_true hexpired⟩

end Statements

/-! ## One operation -/

theorem plain_of_upsert {now : Instant} {model id : String}
    {payload : AdapterPayload} {expiresIn : Number}
    (htaken : TimedOperation.refused
      ⟨now, .upsert model id payload expiresIn⟩ = false) :
    (hasNul model = false ∧ hasNul id = false) ∧
      payload.mentionsNul = false := by
  simp only [TimedOperation.refused, Bool.or_eq_false_iff] at htaken
  exact ⟨htaken.1.1.1, htaken.1.1.2⟩

theorem columnsAgree_ofPayload {now : Instant} {model id : String}
    {payload : AdapterPayload} {expiresIn : Number}
    (htaken : TimedOperation.refused
      ⟨now, .upsert model id payload expiresIn⟩ = false) :
    (OidcProviderState.ofPayload now model id payload
      expiresIn).ColumnsAgree := by
  obtain ⟨hplain, hpayload⟩ := plain_of_upsert htaken
  simp only [AdapterPayload.mentionsNul, Bool.or_eq_false_iff] at hpayload
  exact ⟨hplain, hpayload.1.1.1.1, rfl, rfl, rfl⟩

theorem columnsKept_execute {clients : OAuthClientDb}
    {states : OidcProviderStates} (hcolumns : ColumnsKept states)
    {call : TimedOperation} (htaken : call.refused = false) :
    ColumnsKept
      (PostgresOidcProviderAdapter.execute clients states call).2 := by
  obtain ⟨now, operation⟩ := call
  have hdelete : ∀ where_ : OidcProviderState → Bool,
      ColumnsKept (states.delete where_) := fun _ state hstate =>
    hcolumns state (Table.mem_delete.mp hstate).1
  cases operation with
  | upsert model id payload expiresIn =>
      have hnew := columnsAgree_ofPayload htaken
      intro state hstate
      rcases Table.mem_upsert hstate with hold | rfl | ⟨old, hold, rfl⟩
      · exact hcolumns state hold
      · exact hnew
      · exact ⟨(hcolumns old hold).plain, hnew.plainGrantId, rfl, rfl, rfl⟩
  | find model id =>
      have hsame : (PostgresOidcProviderAdapter.execute clients states
          ⟨now, .find model id⟩).2 = states := by
        dsimp only [PostgresOidcProviderAdapter.execute]
        split
        · rfl
        · rfl
      rw [hsame]
      exact hcolumns
  | findByUserCode model userCode => exact hcolumns
  | findByUid model uid => exact hcolumns
  | consume model id =>
      intro state hstate
      have hupdated : state ∈
          PostgresOidcProviderAdapter.consume now model id states := hstate
      rw [PostgresOidcProviderAdapter.consume, Table.mem_update] at hupdated
      obtain ⟨old, hold, rfl⟩ := hupdated
      have hagree := hcolumns old hold
      split
      · exact ⟨hagree.plain, hagree.plainGrantId, hagree.grantId,
          hagree.userCode, hagree.uid⟩
      · exact hagree
  | destroy model id => exact hdelete _
  | revokeByGrantId model grantId => exact hdelete _
  | deleteExpired => exact hdelete _

theorem columnsKept_perform {clients : OAuthClientDb}
    {states : OidcProviderStates} (hcolumns : ColumnsKept states)
    (call : TimedOperation) :
    ColumnsKept
      (PostgresOidcProviderAdapter.perform clients states call).2 := by
  rw [PostgresOidcProviderAdapter.perform]
  split
  case isTrue => exact hcolumns
  case isFalse htaken =>
    exact columnsKept_execute hcolumns (Bool.eq_false_of_not_eq_true htaken)

/-- The place of an entry is no reason to refuse. -/
theorem taken_of_entry {states : OidcProviderStates}
    (hcolumns : ColumnsKept states) {model id : String} {entry : OidcEntry}
    (hentry : oidcStore states (model, id) = some entry) :
    (hasNul model || hasNul id) = false := by
  obtain ⟨state, hlookup, -⟩ := Option.map_eq_some_iff.mp hentry
  obtain ⟨hstate, hplace⟩ := Table.lookup_eq_some.mp hlookup
  obtain ⟨hmodel, hid⟩ := Prod.mk.inj hplace
  have hplain := (hcolumns state hstate).plain
  rw [hmodel, hid] at hplain
  rw [hplain.1, hplain.2]
  rfl

def OidcOperation.model : OidcOperation → Option String
  | .upsert model _ _ _ => some model
  | .find model _ => some model
  | .findByUserCode model _ => some model
  | .findByUid model _ => some model
  | .consume model _ => some model
  | .destroy model _ => some model
  | .revokeByGrantId model _ => some model
  | .deleteExpired => none

/-- What the caller of the adapters sees to, at one operation. -/
structure ProperCall (store : OidcStore) (call : TimedOperation) : Prop where
  model : call.operation.model ≠ some "Client"
  proper : store.Proper call

theorem execute_refines {clients : OAuthClientDb}
    {states : OidcProviderStates} {call : TimedOperation}
    (hcolumns : ColumnsKept states)
    (hcall : ProperCall (oidcStore states) call) :
    (PostgresOidcProviderAdapter.execute clients states call).1 =
        ((oidcStore states).execute call).1 ∧
      oidcStore (PostgresOidcProviderAdapter.execute clients states call).2 =
        ((oidcStore states).execute call).2 := by
  obtain ⟨now, operation⟩ := call
  cases operation with
  | find model id =>
      have hmodel : model ≠ "Client" := fun heq =>
        hcall.model (congrArg some heq)
      simp only [PostgresOidcProviderAdapter.execute, OidcStore.execute,
        if_neg hmodel, findState_eq, and_self]
  | findByUserCode model userCode =>
      exact ⟨congrArg OidcAnswer.found (findByColumn_eq
        (fun state hstate => (hcolumns state hstate).userCode)
        hcall.proper.userCode), rfl⟩
  | findByUid model uid =>
      exact ⟨congrArg OidcAnswer.found (findByColumn_eq
        (fun state hstate => (hcolumns state hstate).uid)
        hcall.proper.uid), rfl⟩
  | upsert model id payload expiresIn => exact ⟨rfl, oidcStore_upsert⟩
  | consume model id => exact ⟨rfl, oidcStore_consume⟩
  | destroy model id => exact ⟨rfl, oidcStore_destroy⟩
  | revokeByGrantId model grantId =>
      exact ⟨rfl, oidcStore_revokeByGrantId hcolumns⟩
  | deleteExpired =>
      exact ⟨congrArg OidcAnswer.deleted select_expired,
        oidcStore_deleteExpired⟩

theorem perform_refines {clients : OAuthClientDb}
    {states : OidcProviderStates} {call : TimedOperation}
    (hcolumns : ColumnsKept states)
    (hcall : ProperCall (oidcStore states) call) :
    (PostgresOidcProviderAdapter.perform clients states call).1 =
        ((oidcStore states).perform call).1 ∧
      oidcStore (PostgresOidcProviderAdapter.perform clients states call).2 =
        ((oidcStore states).perform call).2 ∧
      ColumnsKept
        (PostgresOidcProviderAdapter.perform clients states call).2 := by
  refine and_assoc.mp ⟨?_, columnsKept_perform hcolumns call⟩
  rw [PostgresOidcProviderAdapter.perform, OidcStore.perform]
  split
  · exact ⟨rfl, rfl⟩
  · exact execute_refines hcolumns hcall

/-! ## What the map does -/

namespace OidcStore

/-- The operation may change the entry at a place, if it has the grant id. -/
def Touches (place : String × String) (grantId : Option String) :
    OidcOperation → Prop
  | .upsert model id _ _ => (model, id) = place
  | .consume model id => (model, id) = place
  | .destroy model id => (model, id) = place
  | .revokeByGrantId _ revoked => grantId = some revoked
  | _ => False

/-- The operation may end what a consumed entry is. -/
def Renews (place : String × String) : OidcOperation → Prop
  | .upsert model id _ _ => (model, id) = place
  | .destroy model id => (model, id) = place
  | _ => False

/-- The operation stores an entry of the grant. -/
def Grants (grantId : String) : OidcOperation → Prop
  | .upsert _ _ payload _ => payload.grantId = some grantId
  | _ => False

/-- The operation is seen by the entries of a model. -/
def concerns (model : String) (call : TimedOperation) : Bool :=
  match call.operation with
  | .revokeByGrantId _ _ => true
  | .deleteExpired => true
  | operation => decide (operation.model = some model)

/-- The entry at a place, gone only if it has expired by then. -/
def Holds (place : String × String) (entry : OidcEntry) (now : Instant)
    (store : OidcStore) : Prop :=
  store place = some entry ∨ store place = none ∧ entry.expiresAt ≤ now

variable {store : OidcStore} {place : String × String} {entry : OidcEntry}
  {now : Instant}

theorem Holds.find_eq (hholds : store.Holds place entry now) :
    store.find now place =
      if now < entry.expiresAt then some entry.answer else none := by
  rw [find]
  rcases hholds with hentry | ⟨hnone, hexpired⟩
  · rw [hentry, Option.filter_some]
    by_cases hlive : now < entry.expiresAt
    · rw [if_pos (decide_eq_true hlive), if_pos hlive, Option.map_some]
    · rw [if_neg (by simpa using hlive), if_neg hlive, Option.map_none]
  · rw [hnone, if_neg (Int.not_lt.mpr hexpired)]
    rfl

theorem update_of_ne {place' : String × String} {found : Option OidcEntry}
    (hplace : place' ≠ place) :
    Function.update store place' found place = store place :=
  Function.update_of_ne hplace.symm found store

/-- An operation that does not touch a place leaves its entry there. -/
theorem Holds.execute {call : TimedOperation}
    (hholds : store.Holds place entry now) (hnow : call.now ≤ now)
    (huntouched : ¬ Touches place entry.payload.grantId call.operation) :
    (store.execute call).2.Holds place entry now := by
  obtain ⟨called, operation⟩ := call
  cases operation with
  | upsert model id payload expiresIn =>
      rw [Holds, stored_upsert, update_of_ne huntouched]
      exact hholds
  | consume model id =>
      rw [Holds, stored_consume, consume, update_of_ne huntouched]
      exact hholds
  | destroy model id =>
      rw [Holds, stored_destroy, update_of_ne huntouched]
      exact hholds
  | revokeByGrantId model grantId =>
      rw [Holds, stored_revokeByGrantId, revoke]
      rcases hholds with hentry | ⟨hnone, hexpired⟩
      · left
        have hgrant : entry.payload.grantId ≠ some grantId := huntouched
        rw [hentry, Option.filter_some, if_pos (decide_eq_true hgrant)]
      · right
        rw [hnone]
        exact ⟨rfl, hexpired⟩
  | deleteExpired =>
      rw [Holds, stored_deleteExpired, cleanUp]
      rcases hholds with hentry | ⟨hnone, hexpired⟩
      · rw [hentry, Option.filter_some]
        by_cases hlive : called < entry.expiresAt
        · exact .inl (if_pos (decide_eq_true hlive))
        · refine .inr ⟨if_neg (by simpa using hlive), ?_⟩
          exact Int.le_trans (Int.not_lt.mp hlive) hnow
      · right
        rw [hnone]
        exact ⟨rfl, hexpired⟩
  | find | findByUserCode | findByUid => exact hholds

theorem Holds.perform {call : TimedOperation}
    (hholds : store.Holds place entry now) (hnow : call.now ≤ now)
    (huntouched : ¬ Touches place entry.payload.grantId call.operation) :
    (store.perform call).2.Holds place entry now :=
  perform_preserves hholds (hholds.execute hnow huntouched)

theorem Holds.after {calls : List TimedOperation}
    (hholds : store.Holds place entry now)
    (hcalls : ∀ call ∈ calls, call.now ≤ now ∧
      ¬ Touches place entry.payload.grantId call.operation) :
    (AnsweringSystem.after OidcStore.perform store calls).Holds place entry
      now :=
  AnsweringSystem.after_preserves OidcStore.perform (Holds place entry now)
    (fun _ _ hholds hcall => hholds.perform hcall.1 hcall.2) hholds hcalls

/-- The operation ends the entry at a place, if it has the grant id. -/
def Ends (place : String × String) (grantId : Option String)
    (operation : OidcOperation) : Prop :=
  Renews place operation ∨
    ∃ model revoked, operation = .revokeByGrantId model revoked ∧
      grantId = some revoked

/-- The entry at a place, consumed at some time, and gone only if it has
expired by then. -/
def HoldsConsumed (place : String × String) (entry : OidcEntry)
    (now : Instant) (store : OidcStore) : Prop :=
  ∃ consumedAt, store.Holds place { entry with consumedAt := some consumedAt }
    now

theorem HoldsConsumed.execute {call : TimedOperation}
    (hholds : store.HoldsConsumed place entry now) (hnow : call.now ≤ now)
    (hends : ¬ Ends place entry.payload.grantId call.operation) :
    (store.execute call).2.HoldsConsumed place entry now := by
  obtain ⟨consumedAt, hholds⟩ := hholds
  by_cases hconsume : ∃ model id, call.operation = .consume model id ∧
      (model, id) = place
  · obtain ⟨model, id, hoperation, hplace⟩ := hconsume
    obtain ⟨called, operation⟩ := call
    cases hoperation
    refine ⟨called, ?_⟩
    rw [Holds, stored_consume, consume, hplace, Function.update_self]
    rcases hholds with hentry | ⟨hnone, hexpired⟩
    · left
      rw [hentry, Option.map_some]
    · right
      rw [hnone]
      exact ⟨rfl, hexpired⟩
  · refine ⟨consumedAt, hholds.execute hnow ?_⟩
    intro htouches
    apply hends
    obtain ⟨called, operation⟩ := call
    cases operation with
    | upsert model id payload expiresIn => exact .inl htouches
    | destroy model id => exact .inl htouches
    | consume model id => exact absurd ⟨model, id, rfl, htouches⟩ hconsume
    | revokeByGrantId model revoked =>
        exact .inr ⟨model, revoked, rfl, htouches⟩
    | find | findByUserCode | findByUid | deleteExpired =>
        exact htouches.elim

theorem HoldsConsumed.perform {call : TimedOperation}
    (hholds : store.HoldsConsumed place entry now) (hnow : call.now ≤ now)
    (hends : ¬ Ends place entry.payload.grantId call.operation) :
    (store.perform call).2.HoldsConsumed place entry now :=
  perform_preserves hholds (hholds.execute hnow hends)

/-- Whatever is at the place is consumed. -/
def ConsumedAt (place : String × String) (store : OidcStore) : Prop :=
  ∀ entry, store place = some entry → entry.consumedAt.isSome = true

theorem ConsumedAt.execute {call : TimedOperation}
    (hconsumed : store.ConsumedAt place)
    (hkept : ¬ Renews place call.operation) :
    (store.execute call).2.ConsumedAt place := by
  obtain ⟨called, operation⟩ := call
  intro entry hentry
  cases operation with
  | upsert model id payload expiresIn =>
      rw [stored_upsert, update_of_ne hkept] at hentry
      exact hconsumed entry hentry
  | consume model id =>
      rw [stored_consume, consume, Function.update_apply] at hentry
      split at hentry
      · obtain ⟨old, -, rfl⟩ := Option.map_eq_some_iff.mp hentry
        rfl
      · exact hconsumed entry hentry
  | destroy model id =>
      rw [stored_destroy, update_of_ne hkept] at hentry
      exact hconsumed entry hentry
  | revokeByGrantId model grantId =>
      exact hconsumed entry (Option.filter_eq_some_iff.mp hentry).1
  | deleteExpired =>
      exact hconsumed entry (Option.filter_eq_some_iff.mp hentry).1
  | find | findByUserCode | findByUid => exact hconsumed entry hentry

theorem ConsumedAt.perform {call : TimedOperation}
    (hconsumed : store.ConsumedAt place)
    (hkept : ¬ Renews place call.operation) :
    (store.perform call).2.ConsumedAt place :=
  perform_preserves hconsumed (hconsumed.execute hkept)

theorem consumedAt_consume (store : OidcStore) (now : Instant)
    (model id : String) :
    (store.execute ⟨now, .consume model id⟩).2.ConsumedAt (model, id) := by
  intro entry hentry
  rw [stored_consume, consume, Function.update_self] at hentry
  obtain ⟨old, -, rfl⟩ := Option.map_eq_some_iff.mp hentry
  rfl

theorem ConsumedAt.reported {payload : AdapterPayload}
    (hconsumed : store.ConsumedAt place)
    (hfound : store.find now place = some payload) :
    ∃ seconds, payload.consumed = some (.num (Number.ofInt seconds)) := by
  obtain ⟨entry, hentry, rfl⟩ := Option.map_eq_some_iff.mp hfound
  obtain ⟨hstored, -⟩ := Option.filter_eq_some_iff.mp hentry
  obtain ⟨consumedAt, hconsumedAt⟩ :=
    Option.isSome_iff_exists.mp (hconsumed entry hstored)
  refine ⟨consumedEpochSeconds consumedAt, ?_⟩
  rw [OidcEntry.answer, hconsumedAt, withConsumed]

/-- No entry carries the grant id. -/
def WithoutGrant (grantId : String) (store : OidcStore) : Prop :=
  ∀ place entry, store place = some entry →
    entry.payload.grantId ≠ some grantId

theorem withoutGrant_revoke (store : OidcStore) (grantId : String) :
    (store.revoke grantId).WithoutGrant grantId := by
  intro place entry hentry
  exact of_decide_eq_true (Option.filter_eq_some_iff.mp hentry).2

theorem WithoutGrant.execute {grantId : String} {call : TimedOperation}
    (hwithout : store.WithoutGrant grantId)
    (hgrants : ¬ Grants grantId call.operation) :
    (store.execute call).2.WithoutGrant grantId := by
  obtain ⟨called, operation⟩ := call
  intro place entry hentry
  cases operation with
  | upsert model id payload expiresIn =>
      rw [stored_upsert, Function.update_apply] at hentry
      split at hentry
      · cases hentry
        exact hgrants
      · exact hwithout place entry hentry
  | consume model id =>
      rw [stored_consume, consume, Function.update_apply] at hentry
      split at hentry
      · obtain ⟨old, hold, rfl⟩ := Option.map_eq_some_iff.mp hentry
        exact hwithout _ old hold
      · exact hwithout place entry hentry
  | destroy model id =>
      rw [stored_destroy, Function.update_apply] at hentry
      split at hentry
      · cases hentry
      · exact hwithout place entry hentry
  | revokeByGrantId model revoked =>
      exact hwithout place entry (Option.filter_eq_some_iff.mp hentry).1
  | deleteExpired =>
      exact hwithout place entry (Option.filter_eq_some_iff.mp hentry).1
  | find | findByUserCode | findByUid => exact hwithout place entry hentry

theorem WithoutGrant.perform {grantId : String} {call : TimedOperation}
    (hwithout : store.WithoutGrant grantId)
    (hgrants : ¬ Grants grantId call.operation) :
    (store.perform call).2.WithoutGrant grantId :=
  perform_preserves hwithout (hwithout.execute hgrants)

/-- One model's entries are the same in two stores. -/
def SameModel (model : String) (store store' : OidcStore) : Prop :=
  ∀ id, store (model, id) = store' (model, id)

theorem SameModel.execute {model : String} {store' : OidcStore}
    {call : TimedOperation} (hsame : SameModel model store store') :
    SameModel model (store.execute call).2 (store'.execute call).2 := by
  obtain ⟨called, operation⟩ := call
  intro id
  cases operation with
  | upsert other otherId payload expiresIn =>
      rw [stored_upsert, stored_upsert, Function.update_apply,
        Function.update_apply, hsame id]
  | consume other otherId =>
      rw [stored_consume, stored_consume, consume, consume,
        Function.update_apply, Function.update_apply, hsame id]
      by_cases hplace : (model, id) = (other, otherId)
      · rw [if_pos hplace, if_pos hplace, ← hplace, hsame id]
      · rw [if_neg hplace, if_neg hplace]
  | destroy other otherId =>
      rw [stored_destroy, stored_destroy, Function.update_apply,
        Function.update_apply, hsame id]
  | revokeByGrantId other grantId =>
      exact congrArg (Option.filter _) (hsame id)
  | deleteExpired => exact congrArg (Option.filter _) (hsame id)
  | find | findByUserCode | findByUid => exact hsame id

theorem SameModel.perform {model : String} {store' : OidcStore}
    {call : TimedOperation} (hsame : SameModel model store store') :
    SameModel model (store.perform call).2 (store'.perform call).2 := by
  rw [OidcStore.perform, OidcStore.perform]
  split
  · exact hsame
  · exact hsame.execute

theorem sameModel_of_not_concerns (store : OidcStore) {model : String}
    {call : TimedOperation} (hother : concerns model call = false) :
    SameModel model (store.perform call).2 store := by
  rw [OidcStore.perform]
  split
  · exact fun _ => rfl
  obtain ⟨called, operation⟩ := call
  have hmodel : ∀ other : String, decide (some other = some model) = false →
      ∀ id otherId : String, (other, otherId) ≠ (model, id) := by
    intro other hne id otherId hplace
    rw [(Prod.mk.inj hplace).1] at hne
    simp at hne
  intro id
  cases operation with
  | upsert other otherId payload expiresIn =>
      exact update_of_ne (hmodel other hother id otherId)
  | consume other otherId =>
      exact update_of_ne (hmodel other hother id otherId)
  | destroy other otherId =>
      exact update_of_ne (hmodel other hother id otherId)
  | revokeByGrantId other grantId => cases hother
  | deleteExpired => cases hother
  | find | findByUserCode | findByUid => rfl

theorem SameModel.trans {model : String} {first second third : OidcStore}
    (hfirst : SameModel model first second)
    (hsecond : SameModel model second third) :
    SameModel model first third :=
  fun id => (hfirst id).trans (hsecond id)

/-- A model's entries come from the operations that concern it. -/
theorem SameModel.after {model : String} {store' : OidcStore}
    (hsame : SameModel model store store') (calls : List TimedOperation) :
    SameModel model (AnsweringSystem.after OidcStore.perform store calls)
      (AnsweringSystem.after OidcStore.perform store'
        (calls.filter (concerns model))) := by
  induction calls generalizing store store' with
  | nil => exact hsame
  | cons call calls ih =>
      rw [List.filter_cons]
      split
      case isTrue => exact ih hsame.perform
      case isFalse hother =>
          have hkept := sameModel_of_not_concerns store
            (Bool.eq_false_of_not_eq_true hother)
          exact ih (hkept.trans hsame)

/-- The answers to a model are made of its entries. -/
theorem SameModel.answer {model : String} {store' : OidcStore}
    {call : TimedOperation} (hsame : SameModel model store store')
    (hmodel : call.operation.model = some model) :
    (store.perform call).1 = (store'.perform call).1 := by
  rw [OidcStore.perform, OidcStore.perform]
  split
  · rfl
  obtain ⟨called, operation⟩ := call
  have hby : ∀ field value, findBy field store called model value =
      findBy field store' called model value := by
    intro field value
    apply congrArg answerOf
    funext entry
    simp only [Live, hsame _]
  cases operation with
  | find other id =>
      obtain rfl := Option.some.inj hmodel
      apply congrArg OidcAnswer.found
      rw [find, find, hsame id]
  | findByUserCode other userCode =>
      obtain rfl := Option.some.inj hmodel
      exact congrArg OidcAnswer.found (hby _ userCode)
  | findByUid other uid =>
      obtain rfl := Option.some.inj hmodel
      exact congrArg OidcAnswer.found (hby _ uid)
  | deleteExpired => cases hmodel
  | upsert | consume | destroy | revokeByGrantId => rfl

/-- What is found is live and of the model. -/
theorem live_of_found {call : TimedOperation} {payload : AdapterPayload}
    (hfound : (store.perform call).1 = .found (some payload)) :
    ∃ model id entry, call.operation.model = some model ∧
      store.Live call.now (model, id) entry ∧ payload = entry.answer := by
  have htaken := taken_of_answer hfound (fun hrefused => by cases hrefused)
  rw [perform_of_taken htaken] at hfound
  obtain ⟨called, operation⟩ := call
  have hby : ∀ field model value,
      findBy field store called model value = some payload →
      ∃ id entry, store.Live called (model, id) entry ∧
        payload = entry.answer := by
    intro field model value hfound
    rw [findBy, answerOf] at hfound
    split at hfound
    case isTrue hexists =>
        obtain ⟨⟨id, hlive⟩, -⟩ := hexists.choose_spec
        exact ⟨id, _, hlive, (Option.some.inj hfound).symm⟩
    case isFalse => cases hfound
  cases operation with
  | find model id =>
      obtain ⟨entry, hentry, hanswer⟩ :=
        Option.map_eq_some_iff.mp (OidcAnswer.found.inj hfound)
      obtain ⟨hstored, hlive⟩ := Option.filter_eq_some_iff.mp hentry
      exact ⟨model, id, entry, rfl, ⟨hstored, of_decide_eq_true hlive⟩,
        hanswer.symm⟩
  | findByUserCode model userCode =>
      obtain ⟨id, entry, hlive, hanswer⟩ :=
        hby _ model userCode (OidcAnswer.found.inj hfound)
      exact ⟨model, id, entry, rfl, hlive, hanswer⟩
  | findByUid model uid =>
      obtain ⟨id, entry, hlive, hanswer⟩ :=
        hby _ model uid (OidcAnswer.found.inj hfound)
      exact ⟨model, id, entry, rfl, hlive, hanswer⟩
  | upsert => cases hfound
  | consume => cases hfound
  | destroy => cases hfound
  | revokeByGrantId => cases hfound
  | deleteExpired => cases hfound

end OidcStore

/-! ## Every run -/

section Runs

variable (clients : OAuthClientDb) (states : OidcProviderStates)

/-- The table after some calls of the adapters. -/
def statesAfter (calls : List TimedOperation) : OidcProviderStates :=
  AnsweringSystem.after (PostgresOidcProviderAdapter.perform clients) states
    calls

/-- What the adapters answer to a call after some others. -/
def answerAfter (before : List TimedOperation) (call : TimedOperation) :
    OidcAnswer :=
  (PostgresOidcProviderAdapter.perform clients
    (statesAfter clients states before) call).1

/-- The map after the same calls. -/
noncomputable def storeAfter (calls : List TimedOperation) : OidcStore :=
  AnsweringSystem.after OidcStore.perform (oidcStore states) calls

/-- What the adapters of a run have in common with the map. -/
structure ActsAsMap (calls : List TimedOperation) : Prop where
  answers : AnsweringSystem.answers
      (PostgresOidcProviderAdapter.perform clients) states calls =
    AnsweringSystem.answers OidcStore.perform (oidcStore states) calls
  isolated : ∀ before call rest model, calls = before ++ call :: rest →
    call.operation.model = some model →
      answerAfter clients states before call =
        ((storeAfter states (before.filter
          (OidcStore.concerns model))).perform call).1
  live : ∀ before call rest payload, calls = before ++ call :: rest →
    answerAfter clients states before call = .found (some payload) →
      ∃ model id entry, call.operation.model = some model ∧
        (oidcStore (statesAfter clients states before)).Live call.now
          (model, id) entry ∧
        payload = entry.answer
  replaced : ∀ before now model id payload expiresIn between now' rest,
    calls = (before ++ ⟨now, .upsert model id payload expiresIn⟩ ::
      between) ++ ⟨now', .find model id⟩ :: rest →
    answerAfter clients states before
      ⟨now, .upsert model id payload expiresIn⟩ = .done →
    (∀ call ∈ between,
      ¬ OidcStore.Touches (model, id) payload.grantId call.operation) →
      answerAfter clients states
          (before ++ ⟨now, .upsert model id payload expiresIn⟩ :: between)
          ⟨now', .find model id⟩ =
        .found (if now' < toExpiresAt now expiresIn then
          some (withConsumed payload (toConsumedAt payload)) else none)
  consumed : ∀ before now model id between now' rest payload,
    calls = (before ++ ⟨now, .consume model id⟩ :: between) ++
      ⟨now', .find model id⟩ :: rest →
    (∀ call ∈ between, ¬ OidcStore.Renews (model, id) call.operation) →
      answerAfter clients states
          (before ++ ⟨now, .consume model id⟩ :: between)
          ⟨now', .find model id⟩ = .found (some payload) →
        ∃ seconds, payload.consumed = some (.num (Number.ofInt seconds))
  staysConsumed : ∀ before now model id between now' rest entry,
    calls = (before ++ ⟨now, .consume model id⟩ :: between) ++
      ⟨now', .find model id⟩ :: rest →
    oidcStore (statesAfter clients states before) (model, id) = some entry →
    (∀ call ∈ between,
      ¬ OidcStore.Ends (model, id) entry.payload.grantId call.operation) →
      ∃ consumedAt,
        answerAfter clients states
            (before ++ ⟨now, .consume model id⟩ :: between)
            ⟨now', .find model id⟩ =
          .found (if now' < entry.expiresAt then
            some (withConsumed entry.payload (some consumedAt)) else none)
  revoked : ∀ before now model grantId between call rest payload,
    calls = (before ++ ⟨now, .revokeByGrantId model grantId⟩ :: between) ++
      call :: rest →
    (∀ call ∈ between, ¬ OidcStore.Grants grantId call.operation) →
      answerAfter clients states
          (before ++ ⟨now, .revokeByGrantId model grantId⟩ :: between)
          call = .found (some payload) →
        payload.grantId ≠ some grantId

end Runs

section Refinement

variable (clients : OAuthClientDb) {states : OidcProviderStates}
  {calls : List TimedOperation}

theorem columnsKept_after (hcolumns : ColumnsKept states)
    (calls : List TimedOperation) :
    ColumnsKept (statesAfter clients states calls) := by
  rw [statesAfter]
  exact AnsweringSystem.after_preserves _ ColumnsKept
    (fun _ call hcolumns (_ : True) => columnsKept_perform hcolumns call)
    hcolumns (fun _ _ => trivial)

theorem run_refines (hcolumns : ColumnsKept states)
    (hproper : AnsweringSystem.Along OidcStore.perform ProperCall
      (oidcStore states) calls) :
    AnsweringSystem.answers (PostgresOidcProviderAdapter.perform clients)
        states calls =
      AnsweringSystem.answers OidcStore.perform (oidcStore states) calls ∧
      oidcStore (statesAfter clients states calls) =
        storeAfter states calls :=
  AnsweringSystem.answers_eq (PostgresOidcProviderAdapter.perform clients)
    OidcStore.perform oidcStore
    (fun _ _ hcolumns hcall => perform_refines hcolumns hcall) hcolumns
    hproper

/-- In the middle of a run, the map answers and holds what the table does. -/
theorem answerAfter_eq (hcolumns : ColumnsKept states)
    (hproper : AnsweringSystem.Along OidcStore.perform ProperCall
      (oidcStore states) calls)
    {before rest : List TimedOperation} {call : TimedOperation}
    (hcalls : calls = before ++ call :: rest) :
    oidcStore (statesAfter clients states before) =
        storeAfter states before ∧
      answerAfter clients states before call =
        ((storeAfter states before).perform call).1 := by
  rw [hcalls, AnsweringSystem.along_append] at hproper
  obtain ⟨hbefore, hcall, -⟩ := hproper
  obtain ⟨-, hstore⟩ := run_refines clients hcolumns hbefore
  have hkept := columnsKept_after clients hcolumns before
  have hproper : ProperCall (oidcStore (statesAfter clients states before))
      call := by
    rw [hstore]
    exact hcall
  refine ⟨hstore, ?_⟩
  rw [answerAfter, (perform_refines hkept hproper).1, hstore]

/-- The calls before a find came no later. -/
theorem now_le_of_clock {before between rest : List TimedOperation}
    {first last : TimedOperation}
    (hclock : (calls.map TimedOperation.now).Pairwise (· ≤ ·))
    (hcalls : calls = (before ++ first :: between) ++ last :: rest) :
    ∀ call ∈ first :: between, call.now ≤ last.now := by
  intro call hcall
  rw [hcalls, List.map_append, List.pairwise_append] at hclock
  apply hclock.2.2
  · exact List.mem_map_of_mem (List.mem_append_right before hcall)
  · exact List.mem_map_of_mem List.mem_cons_self

theorem storeAfter_split (before between : List TimedOperation)
    (call : TimedOperation) :
    storeAfter states (before ++ call :: between) =
      AnsweringSystem.after OidcStore.perform
        ((storeAfter states before).perform call).2 between := by
  rw [storeAfter, AnsweringSystem.after_append]
  rfl

theorem split_first {before between rest : List TimedOperation}
    {first last : TimedOperation}
    (hcalls : calls = (before ++ first :: between) ++ last :: rest) :
    calls = before ++ first :: (between ++ last :: rest) := by
  rw [hcalls, List.append_assoc, List.cons_append]

theorem OidcStore.perform_find {store : OidcStore} {model id : String}
    (htaken : (hasNul model || hasNul id) = false) (now : Instant) :
    (store.perform ⟨now, .find model id⟩).1 =
      .found (store.find now (model, id)) := by
  have hfind : TimedOperation.refused ⟨now, .find model id⟩ = false := htaken
  rw [OidcStore.perform_of_taken hfind]
  rfl

/-- A column holds no NUL, so no entry has a grant id with one. -/
theorem withoutGrant_of_nul (hcolumns : ColumnsKept states) {grantId : String}
    (hnul : hasNul grantId = true) :
    (oidcStore states).WithoutGrant grantId := by
  intro place entry hentry hgrantId
  obtain ⟨state, hlookup, rfl⟩ := Option.map_eq_some_iff.mp hentry
  have hagree := hcolumns state (Table.lookup_eq_some.mp hlookup).1
  have hcolumn : state.grantId = some grantId := hagree.grantId.trans hgrantId
  have hplain := hagree.plainGrantId
  rw [hcolumn, Option.any_some, hnul] at hplain
  cases hplain

section Clauses

variable {before between rest : List TimedOperation}
  {now now' : Instant} {model id : String} (hcolumns : ColumnsKept states)
  (hproper : AnsweringSystem.Along OidcStore.perform ProperCall
    (oidcStore states) calls)
include hcolumns hproper

/-- An upsert that was carried out decides what is found, until its entry
expires. -/
theorem answer_replaced {payload : AdapterPayload} {expiresIn : Number}
    (hclock : (calls.map TimedOperation.now).Pairwise (· ≤ ·))
    (hcalls : calls =
      (before ++ ⟨now, .upsert model id payload expiresIn⟩ :: between) ++
        ⟨now', .find model id⟩ :: rest)
    (hdone : answerAfter clients states before
      ⟨now, .upsert model id payload expiresIn⟩ = .done)
    (huntouched : ∀ call ∈ between,
      ¬ OidcStore.Touches (model, id) payload.grantId call.operation) :
    answerAfter clients states
        (before ++ ⟨now, .upsert model id payload expiresIn⟩ :: between)
        ⟨now', .find model id⟩ =
      .found (if now' < toExpiresAt now expiresIn then
        some (withConsumed payload (toConsumedAt payload)) else none) := by
  rw [(answerAfter_eq clients hcolumns hproper (split_first hcalls)).2]
    at hdone
  have htaken := OidcStore.taken_of_answer hdone
    (fun hrefused => by cases hrefused)
  obtain ⟨⟨hmodel, hid⟩, -⟩ := plain_of_upsert htaken
  have hfind : (hasNul model || hasNul id) = false := by
    rw [hmodel, hid]
    rfl
  rw [(answerAfter_eq clients hcolumns hproper hcalls).2, storeAfter_split,
    OidcStore.perform_of_taken htaken, OidcStore.stored_upsert,
    OidcStore.perform_find hfind]
  have hnow := now_le_of_clock hclock hcalls
  rw [List.forall_mem_cons] at hnow
  have hentry : OidcStore.Holds (model, id)
      ⟨payload, toExpiresAt now expiresIn, toConsumedAt payload⟩ now'
      (Function.update (storeAfter states before) (model, id)
        (some ⟨payload, toExpiresAt now expiresIn,
          toConsumedAt payload⟩)) :=
    .inl (Function.update_self _ _ _)
  have hholds := hentry.after fun call hcall =>
    ⟨hnow.2 call hcall, huntouched call hcall⟩
  exact congrArg OidcAnswer.found hholds.find_eq

theorem answer_consumed {payload : AdapterPayload}
    (hcalls : calls = (before ++ ⟨now, .consume model id⟩ :: between) ++
      ⟨now', .find model id⟩ :: rest)
    (hkept : ∀ call ∈ between,
      ¬ OidcStore.Renews (model, id) call.operation)
    (hfound : answerAfter clients states
        (before ++ ⟨now, .consume model id⟩ :: between)
        ⟨now', .find model id⟩ = .found (some payload)) :
    ∃ seconds, payload.consumed = some (.num (Number.ofInt seconds)) := by
  rw [(answerAfter_eq clients hcolumns hproper hcalls).2, storeAfter_split]
    at hfound
  -- the same texts are in both statements
  have htaken : (hasNul model || hasNul id) = false :=
    OidcStore.taken_of_answer hfound (fun hrefused => by cases hrefused)
  have hconsume : TimedOperation.refused ⟨now, .consume model id⟩ = false :=
    htaken
  rw [OidcStore.perform_of_taken hconsume, OidcStore.perform_find htaken]
    at hfound
  have hconsumed := AnsweringSystem.after_preserves OidcStore.perform
    (OidcStore.ConsumedAt (model, id))
    (fun _ _ hconsumed hcall => hconsumed.perform hcall)
    (OidcStore.consumedAt_consume (storeAfter states before) now model id)
    hkept
  exact hconsumed.reported (OidcAnswer.found.inj hfound)

/-- A consumed entry is found as such until something ends it. -/
theorem answer_staysConsumed {entry : OidcEntry}
    (hclock : (calls.map TimedOperation.now).Pairwise (· ≤ ·))
    (hcalls : calls = (before ++ ⟨now, .consume model id⟩ :: between) ++
      ⟨now', .find model id⟩ :: rest)
    (hentry : oidcStore (statesAfter clients states before) (model, id) =
      some entry)
    (hends : ∀ call ∈ between,
      ¬ OidcStore.Ends (model, id) entry.payload.grantId call.operation) :
    ∃ consumedAt, answerAfter clients states
        (before ++ ⟨now, .consume model id⟩ :: between)
        ⟨now', .find model id⟩ =
      .found (if now' < entry.expiresAt then
        some (withConsumed entry.payload (some consumedAt)) else none) := by
  obtain ⟨-, hanswer⟩ := answerAfter_eq clients hcolumns hproper hcalls
  have htaken := taken_of_entry (columnsKept_after clients hcolumns before)
    hentry
  have hconsume : TimedOperation.refused ⟨now, .consume model id⟩ = false :=
    htaken
  rw [(answerAfter_eq clients hcolumns hproper (split_first hcalls)).1]
    at hentry
  have hnow := now_le_of_clock hclock hcalls
  rw [List.forall_mem_cons] at hnow
  have hheld : OidcStore.HoldsConsumed (model, id) entry now'
      ((storeAfter states before).perform ⟨now, .consume model id⟩).2 := by
    refine ⟨now, .inl ?_⟩
    rw [OidcStore.perform_of_taken hconsume, OidcStore.stored_consume,
      OidcStore.consume, Function.update_self, hentry, Option.map_some]
  obtain ⟨consumedAt, hholds⟩ :=
    AnsweringSystem.after_preserves OidcStore.perform
      (OidcStore.HoldsConsumed (model, id) entry now')
      (fun _ _ hholds hcall => hholds.perform hcall.1 hcall.2) hheld
      (fun call hcall => And.intro (hnow.2 call hcall) (hends call hcall))
  refine ⟨consumedAt, ?_⟩
  rw [hanswer, storeAfter_split, OidcStore.perform_find htaken]
  exact congrArg OidcAnswer.found hholds.find_eq

/-- A revocation that was refused had no entry to remove. -/
theorem answer_revoked {grantId : String} {call : TimedOperation}
    {payload : AdapterPayload}
    (hcalls : calls =
      (before ++ ⟨now, .revokeByGrantId model grantId⟩ :: between) ++
        call :: rest)
    (hgrants : ∀ call ∈ between, ¬ OidcStore.Grants grantId call.operation)
    (hfound : answerAfter clients states
        (before ++ ⟨now, .revokeByGrantId model grantId⟩ :: between) call =
      .found (some payload)) : payload.grantId ≠ some grantId := by
  obtain ⟨hstore, -⟩ :=
    answerAfter_eq clients hcolumns hproper (split_first hcalls)
  rw [(answerAfter_eq clients hcolumns hproper hcalls).2, storeAfter_split]
    at hfound
  have hrevoked : ((storeAfter states before).perform
      ⟨now, .revokeByGrantId model grantId⟩).2.WithoutGrant grantId := by
    rw [OidcStore.perform]
    split
    case isTrue hrefused =>
      rw [← hstore]
      exact withoutGrant_of_nul
        (columnsKept_after clients hcolumns before) hrefused
    case isFalse =>
      exact OidcStore.withoutGrant_revoke (storeAfter states before) grantId
  have hwithout := AnsweringSystem.after_preserves OidcStore.perform
    (OidcStore.WithoutGrant grantId)
    (fun _ _ hwithout hcall => hwithout.perform hcall) hrevoked hgrants
  obtain ⟨other, id, entry, -, hlive, rfl⟩ := OidcStore.live_of_found hfound
  rw [OidcEntry.answer_grantId]
  exact hwithout _ entry hlive.1

end Clauses

/-- The adapters of all models over the one table act as a map would. -/
theorem adapters_actAsMap (hcolumns : ColumnsKept states)
    (hproper : AnsweringSystem.Along OidcStore.perform ProperCall
      (oidcStore states) calls)
    (hclock : (calls.map TimedOperation.now).Pairwise (· ≤ ·)) :
    ActsAsMap clients states calls where
  answers := (run_refines clients hcolumns hproper).1
  isolated := by
    intro before call rest model hcalls hmodel
    rw [(answerAfter_eq clients hcolumns hproper hcalls).2]
    have hsame : OidcStore.SameModel model (oidcStore states)
        (oidcStore states) := fun _ => rfl
    exact (hsame.after before).answer hmodel
  live := by
    intro before call rest payload hcalls hfound
    obtain ⟨hstore, hanswer⟩ :=
      answerAfter_eq clients hcolumns hproper hcalls
    rw [hanswer] at hfound
    rw [hstore]
    exact OidcStore.live_of_found hfound
  replaced _ _ _ _ _ _ _ _ _ hcalls hdone huntouched :=
    answer_replaced clients hcolumns hproper hclock hcalls hdone huntouched
  consumed _ _ _ _ _ _ _ _ hcalls hkept hfound :=
    answer_consumed clients hcolumns hproper hcalls hkept hfound
  staysConsumed _ _ _ _ _ _ _ _ hcalls hentry hends :=
    answer_staysConsumed clients hcolumns hproper hclock hcalls hentry hends
  revoked _ _ _ _ _ _ _ _ hcalls hgrants hfound :=
    answer_revoked clients hcolumns hproper hcalls hgrants hfound

end Refinement

/-! ## A run over two models -/

namespace AdapterWitness

def token : AdapterPayload where
  grantId := some "grant-1"
  userCode := none
  uid := none
  consumed := none
  others := [("accountId", .str "user-1")]

def interaction : AdapterPayload where
  grantId := some "grant-1"
  userCode := none
  uid := some "interaction-1"
  consumed := none
  others := []

def calls : List TimedOperation :=
  [⟨1000, .upsert "RefreshToken" "token-1" token (Number.ofInt 60)⟩,
    ⟨2000, .upsert "Interaction" "interaction-1" interaction
      (Number.ofInt 5)⟩,
    ⟨3000, .find "RefreshToken" "token-1"⟩,
    ⟨4000, .consume "RefreshToken" "token-1"⟩,
    ⟨5000, .findByUid "Interaction" "interaction-1"⟩,
    ⟨6000, .find "RefreshToken" "token-1"⟩,
    ⟨8000, .deleteExpired⟩,
    ⟨9000, .revokeByGrantId "Grant" "grant-1"⟩,
    ⟨9500, .find "RefreshToken" "token-1"⟩]

/-- The entries of the run are at these two places. -/
def Within (store : OidcStore) : Prop :=
  ∀ place entry, store place = some entry →
    place = ("RefreshToken", "token-1") ∨
      place = ("Interaction", "interaction-1")

def Expected (call : TimedOperation) : Prop :=
  call.operation.model ≠ some "Client" ∧
    ∀ model id payload expiresIn,
      call.operation = .upsert model id payload expiresIn →
        (model, id) = ("RefreshToken", "token-1") ∨
          (model, id) = ("Interaction", "interaction-1")

theorem within_perform {store : OidcStore} {call : TimedOperation}
    (hwithin : Within store) (hexpected : Expected call) :
    Within (store.perform call).2 := by
  refine OidcStore.perform_preserves hwithin ?_
  obtain ⟨now, operation⟩ := call
  intro place entry hentry
  cases operation with
  | upsert model id payload expiresIn =>
      rw [OidcStore.stored_upsert, Function.update_apply] at hentry
      split at hentry
      case isTrue hplace =>
          rw [hplace]
          exact hexpected.2 model id payload expiresIn rfl
      case isFalse => exact hwithin place entry hentry
  | consume model id =>
      rw [OidcStore.stored_consume, OidcStore.consume,
        Function.update_apply] at hentry
      split at hentry
      case isTrue hplace =>
          obtain ⟨old, hold, -⟩ := Option.map_eq_some_iff.mp hentry
          rw [hplace]
          exact hwithin _ old hold
      case isFalse => exact hwithin place entry hentry
  | destroy model id =>
      rw [OidcStore.stored_destroy, Function.update_apply] at hentry
      split at hentry
      case isTrue => cases hentry
      case isFalse => exact hwithin place entry hentry
  | revokeByGrantId model grantId =>
      exact hwithin place entry (Option.filter_eq_some_iff.mp hentry).1
  | deleteExpired =>
      exact hwithin place entry (Option.filter_eq_some_iff.mp hentry).1
  | find | findByUserCode | findByUid => exact hwithin place entry hentry

theorem proper_of_within {store : OidcStore} {call : TimedOperation}
    (hwithin : Within store) (hexpected : Expected call) :
    ProperCall store call := by
  have hunique : ∀ field, OidcStore.UniqueField field store call.now := by
    intro field model id id' entry entry' value hlive hlive' _ _
    rcases hwithin _ entry hlive.1 with hplace | hplace
    · rcases hwithin _ entry' hlive'.1 with hplace' | hplace'
      · simp_all
      · simp_all
    · rcases hwithin _ entry' hlive'.1 with hplace' | hplace'
      · simp_all
      · simp_all
  exact ⟨hexpected.1, hunique _, hunique _⟩

def clients : OAuthClientDb where
  oauthClients := Table.empty
  oauthClientSecrets := Table.empty
  oauthClientRedirectUris := Table.empty
  oauthClientScopes := Table.empty
  clientIds := List.nodup_nil

theorem expected_calls : ∀ call ∈ calls, Expected call := by
  intro call hcall
  simp only [calls, List.mem_cons, List.not_mem_nil, or_false] at hcall
  rcases hcall with rfl | rfl | rfl | rfl | rfl | rfl | rfl | rfl | rfl
  · exact ⟨by decide, fun _ _ _ _ hupsert => by cases hupsert; simp⟩
  · exact ⟨by decide, fun _ _ _ _ hupsert => by cases hupsert; simp⟩
  all_goals exact ⟨by decide, fun _ _ _ _ hupsert => by cases hupsert⟩

theorem actsAsMap : ActsAsMap clients Table.empty calls := by
  have hwithin : Within (oidcStore Table.empty) := by
    intro place entry hentry
    cases hentry
  apply adapters_actAsMap clients
  · intro state hstate
    exact absurd hstate (Table.not_mem_empty state)
  · exact AnsweringSystem.along_of_invariant OidcStore.perform Within
      (fun _ call hwithin (hexpected : Expected call) =>
        proper_of_within hwithin hexpected)
      (fun _ _ hwithin hexpected => within_perform hwithin hexpected)
      hwithin expected_calls
  · decide

end AdapterWitness

end IdProvider
