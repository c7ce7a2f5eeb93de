/-
The listings of audit logs and security events, page by page, with the cursors
that the admin routes hand out.
-/
import IdProvider.AuditChain
import IdProvider.AuthCore
import IdProvider.Base64
import IdProvider.JsDateText
import IdProvider.JsText
import IdProvider.JsonReading
import IdProvider.JsonRoundTrip
import IdProvider.KeysetPages
import IdProvider.Utf8
import IdProvider.Uuids
import Mathlib.Algebra.Order.Floor.Ring
import Mathlib.Data.Rat.Floor

namespace IdProvider

open JsonText KeyedTable KeysetPages

def maxPageSize : Int := 200

def toPageLimit (value : JsNumber) : Nat :=
  match value with
  | .finite value => (min (max ⌊numberValue value⌋ 1) maxPageSize).toNat
  | .nan => 50
  | .infinite _ => 50

def buildCursorFilter (createdAt : Timestamp) (id : String)
    (cursor : Option AuditCursor) : Bool :=
  cursor.all (isBefore createdAt id)

/-- `if (wanted) eq(column, wanted)`. -/
def equals (column wanted : Option String) : Bool :=
  (orNull wanted).all fun wanted => column == some wanted

/-- The same on a `uuid` column.  A text that PostgreSQL does not read as a
`uuid` is that of no row: the statement is refused. -/
def equalsId (column wanted : Option String) : Bool :=
  match uuidFilter wanted with
  | none => false
  | some filter => filter.all fun wanted => column == some wanted

section Listing

variable {Row : Type} (createdAt : Row → Timestamp) (id : Row → String)

/-- The sort key of a listing. -/
def listingRank (row : Row) : Int ×ₗ String := rowRank (createdAt row) (id row)

def toCursor (row : Row) : AuditCursor := ⟨(createdAt row).toInstant, id row⟩

/-- What both listings do with their rows. -/
def listRows (matching : Row → Bool) (limit : JsNumber)
    (cursor : Option AuditCursor) (rows : List Row) : Page Row AuditCursor :=
  let selected := rows.filter fun row =>
    matching row && buildCursorFilter (createdAt row) (id row) cursor
  pageOf (toCursor createdAt id) (toPageLimit limit)
    ((RowOrder.descending (listingRank createdAt id) selected).take
      (toPageLimit limit + 1))

end Listing

structure ListAuditLogsInput where
  from_ : Option Instant
  to_ : Option Instant
  actorUserId : Option String
  action : Option String
  resourceType : Option String
  resourceId : Option String
  limit : JsNumber

def ListAuditLogsInput.matching (input : ListAuditLogsInput) (row : AuditLog) :
    Bool :=
  inRange input.from_ input.to_ row &&
    equalsId row.actorUserId input.actorUserId &&
    equals (some row.action) input.action &&
    equals (some row.resourceType) input.resourceType &&
    equals row.resourceId input.resourceId

def listAuditLogs (table : Table AuditLog) (input : ListAuditLogsInput)
    (cursor : Option AuditCursor) : Page AuditLog AuditCursor :=
  listRows AuditLog.createdAt AuditLog.id input.matching input.limit cursor
    table.rows

structure ListSecurityEventsInput where
  from_ : Option Instant
  to_ : Option Instant
  userId : Option String
  eventType : Option String
  limit : JsNumber

def ListSecurityEventsInput.matching (input : ListSecurityEventsInput)
    (row : SecurityEvent) : Bool :=
  input.from_.all (fun from_ =>
      decide ((Timestamp.ofInstant from_).micros ≤ row.createdAt.micros)) &&
    input.to_.all (fun to_ =>
      decide (row.createdAt.micros ≤ (Timestamp.ofInstant to_).micros)) &&
    equalsId row.userId input.userId &&
    equals (some row.eventType) input.eventType

def listSecurityEvents (table : Table SecurityEvent)
    (input : ListSecurityEventsInput) (cursor : Option AuditCursor) :
    Page SecurityEvent AuditCursor :=
  listRows SecurityEvent.createdAt SecurityEvent.id input.matching input.limit
    cursor table.rows

/-! ## Cursors as texts -/

/-- `new Date(value)`: beyond the format of `toISOString` it is up to the
runtime. -/
structure DateRuntime where
  newDate : Option Json → Option Instant
  newDate_undefined : newDate none = none
  newDate_iso : ∀ instant,
    newDate (some (.str (toISOString instant))) = some instant

/-- A runtime that reads that format only. -/
def DateRuntime.iso : DateRuntime where
  newDate value :=
    match value with
    | some (.str text) => parseISOString text
    | _ => none
  newDate_undefined := rfl
  newDate_iso := parseISOString_toISOString

def encodeCursor (value : AuditCursor) : String :=
  let json := Json.obj
    [("createdAt", .str (toISOString value.createdAt)), ("id", .str value.id)]
  String.ofList (Base64.url (Utf8.encode json.render))

def invalidCursor : ApiError := ⟨400, "validation_error", "Invalid cursor"⟩

def decodeCursor (runtime : DateRuntime) (value : Option String) :
    Except ApiError (Option AuditCursor) :=
  match orNull value with
  | none => .ok none
  | some value =>
      match parse (Utf8.decode (Base64.decode value.toList)) with
      | none => .error invalidCursor
      | some decoded =>
          match runtime.newDate (decoded.get? "createdAt"),
              decoded.get? "id" with
          | some createdAt, some (.str id) => .ok (some ⟨createdAt, id⟩)
          | _, _ => .error invalidCursor

/-- A request with the cursor of a page before; `none` when it is refused. -/
def requestPage {Row : Type} (runtime : DateRuntime)
    (list : Option AuditCursor → Page Row AuditCursor)
    (cursor : Option String) : Option (Page Row String) :=
  match decodeCursor runtime cursor with
  | .error _ => none
  | .ok cursor => some ((list cursor).encoded encodeCursor)

/-- Requests from the first page on end, and give every matching row once,
the latest first. -/
def PagesLossless {Row : Type} (runtime : DateRuntime)
    (createdAt : Row → Timestamp) (id : Row → String)
    (list : Option AuditCursor → Page Row AuditCursor) (matching : List Row) :
    Prop :=
  ∃ fuel items, follow (requestPage runtime list) fuel none = some items ∧
    items.Perm matching ∧
    items.Pairwise fun left right =>
      listingRank createdAt id right < listingRank createdAt id left

/-- After each full page of the matching rows, latest first, comes a row from
before the millisecond of the page's last row, or from the start of that
millisecond and with a smaller id. -/
def NextRowsAdmitted {Row : Type} (createdAt : Row → Timestamp)
    (id : Row → String) (limit : JsNumber) (matching : List Row) : Prop :=
  BoundariesAdmit (listingRank createdAt id) AuditCursor.rank
    (toCursor createdAt id) (toPageLimit limit)
    (RowOrder.descending (listingRank createdAt id) matching)

/-! ## Limits and cursors -/

theorem toPageLimit_pos (value : JsNumber) : 0 < toPageLimit value := by
  cases value with
  | finite value =>
      have hfloor : 1 ≤ max ⌊numberValue value⌋ 1 := le_max_right _ _
      have hone : 1 ≤ min (max ⌊numberValue value⌋ 1) maxPageSize :=
        le_min hfloor (by decide)
      exact Int.lt_toNat.mpr hone
  | nan => exact Nat.succ_pos 49
  | infinite negative => exact Nat.succ_pos 49

theorem decode_encodeCursor (cursor : AuditCursor) :
    parse (Utf8.decode (Base64.decode (encodeCursor cursor).toList)) =
      some (.obj [("createdAt", .str (toISOString cursor.createdAt)),
        ("id", .str cursor.id)]) := by
  rw [encodeCursor, String.toList_ofList, Base64.decode_url,
    Utf8.decode_encode, parse_render]

theorem encodeCursor_ne (cursor : AuditCursor) : encodeCursor cursor ≠ "" := by
  intro hempty
  have hread := decode_encodeCursor cursor
  rw [hempty] at hread
  cases hread

theorem decodeCursor_encodeCursor (runtime : DateRuntime)
    (cursor : Option AuditCursor) :
    decodeCursor runtime (cursor.map encodeCursor) = .ok cursor := by
  cases cursor with
  | none => rfl
  | some cursor =>
      have hgiven : orNull (some (encodeCursor cursor)) =
          some (encodeCursor cursor) := by
        simp [orNull, encodeCursor_ne]
      let decoded := Json.obj
        [("createdAt", .str (toISOString cursor.createdAt)),
          ("id", .str cursor.id)]
      have hcreatedAt : decoded.get? "createdAt" =
          some (.str (toISOString cursor.createdAt)) := rfl
      have hid : decoded.get? "id" = some (.str cursor.id) := rfl
      rw [Option.map_some, decodeCursor, hgiven]
      dsimp only
      rw [decode_encodeCursor]
      dsimp only
      rw [hcreatedAt, hid, runtime.newDate_iso]

/-- Following the requests is following the cursors. -/
theorem follow_requestPage {Row : Type} (runtime : DateRuntime)
    (list : Option AuditCursor → Page Row AuditCursor) (fuel : Nat) :
    follow (requestPage runtime list) fuel none =
      follow (fun cursor => some (list cursor)) fuel none := by
  let decode := fun token => match decodeCursor runtime token with
    | .error _ => none
    | .ok cursor => some cursor
  have hround : ∀ cursor : Option AuditCursor,
      decode (cursor.map encodeCursor) = some cursor := by
    intro cursor
    simp only [decode, decodeCursor_encodeCursor]
  have hrequest : requestPage runtime list = fun token =>
      (decode token).map fun cursor => (list cursor).encoded encodeCursor := by
    funext token
    simp only [requestPage, decode]
    cases decodeCursor runtime token with
    | error error => rfl
    | ok cursor => rfl
  rw [hrequest]
  exact follow_encoded encodeCursor hround list fuel none

section Listing

variable {Row : Type} {createdAt : Row → Timestamp} {id : Row → String}
  {rows : List Row}

theorem listingRank_injOn (hids : (rows.map id).Nodup) :
    ∀ left ∈ rows, ∀ right ∈ rows,
      listingRank createdAt id left = listingRank createdAt id right →
        left = right := by
  intro left hleft right hright hrank
  exact List.inj_on_of_nodup_map hids hleft hright
    (congrArg (fun rank => (ofLex rank).2) hrank)

theorem listRows_eq (hids : (rows.map id).Nodup) (matching : Row → Bool)
    (limit : JsNumber) (cursor : Option AuditCursor) :
    listRows createdAt id matching limit cursor rows =
      fetchPage (listingRank createdAt id) AuditCursor.rank
        (toCursor createdAt id) (toPageLimit limit)
        (RowOrder.descending (listingRank createdAt id)
          (rows.filter matching)) cursor := by
  have hbefore : (fun row => buildCursorFilter (createdAt row) (id row)
      cursor) = fun row => cursor.all fun cursor =>
        decide (listingRank createdAt id row < cursor.rank) := by
    funext row
    cases cursor with
    | none => rfl
    | some cursor => exact isBefore_eq _ _ cursor
  have hselected : (rows.filter fun row =>
      matching row && buildCursorFilter (createdAt row) (id row) cursor) =
      (rows.filter matching).filter fun row =>
        buildCursorFilter (createdAt row) (id row) cursor := by
    rw [List.filter_filter]
    exact List.filter_congr fun row _ => Bool.and_comm _ _
  have hrank := @listingRank_injOn Row createdAt id (rows.filter matching)
    ((List.filter_sublist (p := matching).map id).nodup hids)
  rw [listRows, hselected, RowOrder.descending_filter _ hrank, hbefore,
    fetchPage, below]

theorem pagesLossless_listRows (runtime : DateRuntime)
    (hids : (rows.map id).Nodup) (matching : Row → Bool) (limit : JsNumber) :
    PagesLossless runtime createdAt id
        (fun cursor => listRows createdAt id matching limit cursor rows)
        (rows.filter matching) ↔
      NextRowsAdmitted createdAt id limit (rows.filter matching) := by
  have hmatching : ((rows.filter matching).map id).Nodup :=
    (List.filter_sublist.map id).nodup hids
  have hrank := @listingRank_injOn Row createdAt id (rows.filter matching)
    hmatching
  have hsorted := RowOrder.pairwise_descending_lt
    (listingRank createdAt id) (List.Nodup.of_map id hmatching) hrank
  have hperm := RowOrder.descending_perm (listingRank createdAt id)
    (rows.filter matching)
  have hbound : ∀ row, (toCursor createdAt id row).rank ≤
      listingRank createdAt id row := fun row => AuditCursor.rank_le _ _
  obtain ⟨items, hitems, hsublist, hadmits⟩ :=
    follow_all (toPageLimit_pos limit) hbound hsorted (Nat.lt_succ_self _)
  have hlist : (fun cursor : Option AuditCursor =>
      some (listRows createdAt id matching limit cursor rows)) =
      fun cursor => some (fetchPage (listingRank createdAt id)
        AuditCursor.rank (toCursor createdAt id) (toPageLimit limit)
        (RowOrder.descending (listingRank createdAt id)
          (rows.filter matching)) cursor) :=
    funext fun cursor => congrArg some (listRows_eq hids matching limit cursor)
  rw [NextRowsAdmitted, ← hadmits]
  constructor
  · rintro ⟨fuel, found, hfound, hall, hfoundSorted⟩
    rw [follow_requestPage, hlist] at hfound
    have hsame := (follow_mono (Nat.le_max_left _ _) hfound).symm.trans
      (follow_mono (Nat.le_max_right _ _) hitems)
    rw [Option.some.injEq] at hsame
    exact hsublist.eq_of_length_le (by rw [← hsame, hall.length_eq,
      hperm.length_eq])
  · rintro rfl
    refine ⟨(RowOrder.descending (listingRank createdAt id)
      (rows.filter matching)).length.succ, _, ?_, hperm, hsorted⟩
    rw [follow_requestPage, hlist]
    exact hitems

end Listing

namespace AuditPagesWitness

def event (id : String) (micros : Int) : SecurityEvent where
  id := id
  userId := none
  eventType := "login.success"
  payload := .obj []
  createdAt := ⟨micros⟩

def early : SecurityEvent :=
  event "2b90d7e1-0f6c-4e02-8a44-91c35d6e7f12" 1777204800000200

/-- In the same millisecond. -/
def late : SecurityEvent :=
  event "c1f4a6de-52b0-4c33-9d3f-6a7be0a1d501" 1777204800000500

def events : Table SecurityEvent := ⟨[early, late], by decide⟩

def input : ListSecurityEventsInput where
  from_ := none
  to_ := none
  userId := none
  eventType := none
  limit := .finite (.ofInt 1)

theorem descending_events :
    RowOrder.descending (listingRank SecurityEvent.createdAt SecurityEvent.id)
      (events.rows.filter input.matching) = [late, early] := by
  decide +kernel

end AuditPagesWitness

end IdProvider
