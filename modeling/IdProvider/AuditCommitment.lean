/-
What the last entry hash of a chain that verifies says about all of its rows.
-/
import IdProvider.AuditCompleteness
import IdProvider.JsDateText
import Mathlib.Data.List.Perm.Basic

namespace IdProvider

open JsonText KeyedTable

/-! ## Objects up to the order of their keys -/

mutual

/-- The same value, but for the order of the keys of its objects. -/
def SameUpToKeyOrder : Json → Json → Prop
  | .null, other => other = .null
  | .bool value, other => other = .bool value
  | .num value, other => other = .num value
  | .str value, other => other = .str value
  | .arr items, other => ∃ others, other = .arr others ∧ SameItems items others
  | .obj fields, other => ∃ others reordered, other = .obj others ∧
      reordered.Perm others ∧ SameFields fields reordered

def SameItems : List Json → List Json → Prop
  | [], others => others = []
  | item :: items, others => ∃ other rest, others = other :: rest ∧
      SameUpToKeyOrder item other ∧ SameItems items rest

def SameFields : List (String × Json) → List (String × Json) → Prop
  | [], others => others = []
  | (name, value) :: fields, others => ∃ other rest,
      others = (name, other) :: rest ∧ SameUpToKeyOrder value other ∧
        SameFields fields rest

end

/-! ## Canonical texts are JSON texts -/

section Canonical

variable (collation : Collation)

mutual

/-- The value that a canonical text prints. -/
def canonicalJson : JsValue → Json
  | .null => .null
  | .str value => .str value
  | .number value => value.toJson
  | .bool value => .bool value
  | .date value => .str (toISOString value)
  | .arr items => .arr (canonicalJsonItems items)
  | .obj fields => .obj (sortEntries collation (canonicalJsonFields fields))
  | .absent text => .str text

def canonicalJsonItems : List JsValue → List Json
  | [] => []
  | item :: items => canonicalJson item :: canonicalJsonItems items

def canonicalJsonFields : List (String × JsValue) → List (String × Json)
  | [] => []
  | (name, value) :: fields =>
      (name, canonicalJson value) :: canonicalJsonFields fields

end

theorem joinComma_cons {close : Char} {Item : Type} (text : Item → List Char)
    (item : Item) (items : List Item) :
    joinComma ((item :: items).map text) ++ [close] =
      text item ++ (items.flatMap (fun item => ',' :: text item) ++
        [close]) := by
  induction items generalizing item with
  | nil => rfl
  | cons next items ih =>
      have hrest := ih next
      change text item ++ ',' :: joinComma ((next :: items).map text) ++
        [close] = _
      rw [List.append_assoc, List.cons_append, hrest, List.flatMap_cons]
      simp only [List.cons_append, List.append_assoc]

theorem renderItems_eq (items : List Json) :
    Json.renderItems items =
      items.flatMap (fun item => ',' :: item.render) ++ [']'] := by
  induction items with
  | nil => rfl
  | cons item items ih =>
      rw [Json.renderItems, ih, List.flatMap_cons]
      simp only [List.cons_append, List.append_assoc]

theorem renderFields_eq (fields : List (String × Json)) :
    Json.renderFields fields =
      fields.flatMap (fun field =>
        ',' :: (quote field.1 ++ ':' :: field.2.render)) ++ ['}'] := by
  induction fields with
  | nil => rfl
  | cons field fields ih =>
      rw [Json.renderFields, ih, List.flatMap_cons]
      simp only [List.cons_append, List.append_assoc]

theorem joinComma_render (items : List Json) :
    '[' :: (joinComma (items.map Json.render) ++ [']']) =
      (Json.arr items).render := by
  cases items with
  | nil => rfl
  | cons item items =>
      rw [joinComma_cons, Json.render, renderItems_eq]

theorem joinComma_renderFields (fields : List (String × Json)) :
    '{' :: (joinComma (fields.map fun field =>
      quote field.1 ++ ':' :: field.2.render) ++ ['}']) =
      (Json.obj fields).render := by
  cases fields with
  | nil => rfl
  | cons field fields =>
      rw [joinComma_cons, Json.render, renderFields_eq]
      simp only [List.cons_append, List.append_assoc]

theorem sortEntries_map {Source Target : Type} (read : Source → Target)
    (entries : List (String × Source)) :
    sortEntries collation (entries.map fun entry => (entry.1, read entry.2)) =
      (sortEntries collation entries).map fun entry =>
        (entry.1, read entry.2) := by
  apply Eq.symm
  apply List.map_insertionSort
  intro left _ right _
  rfl

mutual

theorem canonicalize_eq : ∀ value : JsValue,
    canonicalize collation value = (canonicalJson collation value).render
  | .null => rfl
  | .str _ => rfl
  | .number value => by
      rw [canonicalize, canonicalJson]
      cases value with
      | finite => rfl
      | nan => rfl
      | infinite => rfl
  | .bool _ => rfl
  | .date _ => rfl
  | .arr items => by
      rw [canonicalize, canonicalizeItems_eq items, joinComma_render,
        canonicalJson]
  | .obj fields => by
      rw [canonicalize, canonicalizeFields_eq fields, sortEntries_map,
        List.map_map, canonicalJson, ← joinComma_renderFields]
      rfl
  | .absent _ => rfl

theorem canonicalizeItems_eq : ∀ items : List JsValue,
    canonicalizeItems collation items =
      (canonicalJsonItems collation items).map Json.render
  | [] => rfl
  | item :: items => by
      rw [canonicalizeItems, canonicalize_eq item, canonicalizeItems_eq items]
      rfl

theorem canonicalizeFields_eq : ∀ fields : List (String × JsValue),
    canonicalizeFields collation fields =
      (canonicalJsonFields collation fields).map fun field =>
        (field.1, field.2.render)
  | [] => rfl
  | (name, value) :: fields => by
      rw [canonicalizeFields, canonicalize_eq value,
        canonicalizeFields_eq fields]
      rfl

end

/-! ## Sorting the keys of all objects -/

mutual

def sortKeys : Json → Json
  | .null => .null
  | .bool value => .bool value
  | .num value => .num value
  | .str value => .str value
  | .arr items => .arr (sortKeysItems items)
  | .obj fields => .obj (sortEntries collation (sortKeysFields fields))

def sortKeysItems : List Json → List Json
  | [] => []
  | item :: items => sortKeys item :: sortKeysItems items

def sortKeysFields : List (String × Json) → List (String × Json)
  | [] => []
  | (name, value) :: fields => (name, sortKeys value) :: sortKeysFields fields

end

theorem sortKeysFields_eq_map (fields : List (String × Json)) :
    sortKeysFields collation fields =
      fields.map fun field => (field.1, sortKeys collation field.2) := by
  induction fields with
  | nil => rfl
  | cons field fields ih => rw [sortKeysFields, ih, List.map_cons]

theorem canonicalJsonFields_eq_map (fields : List (String × JsValue)) :
    canonicalJsonFields collation fields =
      fields.map fun field => (field.1, canonicalJson collation field.2) := by
  induction fields with
  | nil => rfl
  | cons field fields ih => rw [canonicalJsonFields, ih, List.map_cons]

mutual

/-- Of a value that was read, the canonical text prints what was printed again,
with its keys sorted. -/
theorem canonicalJson_readJson (numbers : NumberRuntime) : ∀ json : Json,
    canonicalJson collation (readJson numbers json) =
      sortKeys collation (reprint numbers json)
  | .null => rfl
  | .bool _ => rfl
  | .num value => by
      rw [readJson, canonicalJson, reprint]
      cases numbers.read value with
      | finite => rfl
      | nan => rfl
      | infinite => rfl
  | .str _ => rfl
  | .arr items => by
      rw [readJson, canonicalJson, reprint, sortKeys,
        canonicalJsonItems_readItems numbers items]
  | .obj fields => by
      have hfields : ∀ field ∈ enumerated fields,
          (field.1, canonicalJson collation (readJson numbers field.2)) =
            (field.1, sortKeys collation (reprint numbers field.2)) :=
        fun field hfield => congrArg (Prod.mk field.1)
          (canonicalJson_of_mem numbers fields field (mem_enumerated.mp hfield))
      rw [readJson, canonicalJson, reprint, sortKeys,
        canonicalJsonFields_eq_map, sortKeysFields_eq_map,
        readFields_eq_map, reprintFields_eq_map, enumerated_map,
        enumerated_map, List.map_map, List.map_map]
      exact congrArg (fun fields => Json.obj (sortEntries collation fields))
        (List.map_congr_left hfields)

theorem canonicalJsonItems_readItems (numbers : NumberRuntime) :
    ∀ items : List Json,
      canonicalJsonItems collation (readItems numbers items) =
        sortKeysItems collation (reprintItems numbers items)
  | [] => rfl
  | item :: items => by
      rw [readItems, canonicalJsonItems, canonicalJson_readJson numbers item,
        canonicalJsonItems_readItems numbers items, reprintItems,
        sortKeysItems]

theorem canonicalJson_of_mem (numbers : NumberRuntime) :
    ∀ (fields : List (String × Json)) (field), field ∈ fields →
      canonicalJson collation (readJson numbers field.2) =
        sortKeys collation (reprint numbers field.2)
  | (_, value) :: fields, field, hfield => by
      rcases List.mem_cons.mp hfield with rfl | hrest
      · exact canonicalJson_readJson numbers value
      · exact canonicalJson_of_mem numbers fields field hrest

end

mutual

theorem sameUpToKeyOrder_of_sortKeys : ∀ left right : Json,
    sortKeys collation left = sortKeys collation right →
      SameUpToKeyOrder left right
  | .null, right => by
      intro heq
      cases right with
      | null => rfl
      | bool | num | str | arr | obj => cases heq
  | .bool value, right => by
      intro heq
      cases right with
      | bool => exact heq.symm
      | null | num | str | arr | obj => cases heq
  | .num value, right => by
      intro heq
      cases right with
      | num => exact heq.symm
      | null | bool | str | arr | obj => cases heq
  | .str value, right => by
      intro heq
      cases right with
      | str => exact heq.symm
      | null | bool | num | arr | obj => cases heq
  | .arr items, right => by
      intro heq
      cases right with
      | arr others =>
          rw [sortKeys, sortKeys, Json.arr.injEq] at heq
          exact ⟨others, rfl, sameItems_of_sortKeys items others heq⟩
      | null | bool | num | str | obj => cases heq
  | .obj fields, right => by
      intro heq
      cases right with
      | obj others =>
          rw [sortKeys, sortKeys, Json.obj.injEq] at heq
          have hperm : (sortKeysFields collation fields).Perm
              (sortKeysFields collation others) := by
            have hleft := List.perm_insertionSort
              (fun left right : String × Json => collation.le left.1 right.1)
              (sortKeysFields collation fields)
            have hright := List.perm_insertionSort
              (fun left right : String × Json => collation.le left.1 right.1)
              (sortKeysFields collation others)
            rw [sortEntries, sortEntries] at heq
            rw [heq] at hleft
            exact hleft.symm.trans hright
          rw [sortKeysFields_eq_map collation others] at hperm
          obtain ⟨reordered, hmap, hreordered⟩ :=
            (congrFun (congrFun (List.eq_map_comp_perm _) _) _).mpr hperm
          rw [← sortKeysFields_eq_map] at hmap
          exact ⟨others, reordered, rfl, hreordered,
            sameFields_of_sortKeys fields reordered hmap⟩
      | null | bool | num | str | arr => cases heq

theorem sameItems_of_sortKeys : ∀ lefts rights : List Json,
    sortKeysItems collation lefts = sortKeysItems collation rights →
      SameItems lefts rights
  | [], rights => by
      intro heq
      cases rights with
      | nil => rfl
      | cons => cases heq
  | left :: lefts, rights => by
      intro heq
      cases rights with
      | nil => cases heq
      | cons right rights =>
          rw [sortKeysItems, sortKeysItems, List.cons.injEq] at heq
          exact ⟨right, rights, rfl,
            sameUpToKeyOrder_of_sortKeys left right heq.1,
            sameItems_of_sortKeys lefts rights heq.2⟩

theorem sameFields_of_sortKeys : ∀ lefts rights : List (String × Json),
    sortKeysFields collation lefts = sortKeysFields collation rights →
      SameFields lefts rights
  | [], rights => by
      intro heq
      cases rights with
      | nil => rfl
      | cons => cases heq
  | (name, left) :: lefts, rights => by
      intro heq
      cases rights with
      | nil => cases heq
      | cons field rights =>
          rw [sortKeysFields, sortKeysFields, List.cons.injEq,
            Prod.mk.injEq] at heq
          obtain ⟨⟨rfl, hvalue⟩, hfields⟩ := heq
          exact ⟨field.2, rights, rfl,
            sameUpToKeyOrder_of_sortKeys left field.2 hvalue,
            sameFields_of_sortKeys lefts rights hfields⟩

end

end Canonical

/-! ## Entries -/

/-- The text that the entry hash of a row hashes. -/
def entryText (env : AuditEnv) (row : AuditLog) : String :=
  String.ofList (canonicalize env.collation (row.hashInput env).toJsValue)

theorem digest_eq (env : AuditEnv) (row : AuditLog) :
    (chainFormat env).digest row = env.sha256Hex (entryText env row) := rfl

/-- No two of these rows have one hash for two texts. -/
def CollisionFree (env : AuditEnv) (left right : List AuditLog) : Prop :=
  ∀ row ∈ left, ∀ other ∈ right,
    env.sha256Hex (entryText env row) = env.sha256Hex (entryText env other) →
      entryText env row = entryText env other

/-- The hashed fields but the payload. -/
structure SameFixedFields (row other : AuditLog) : Prop where
  id : row.id = other.id
  createdAt : row.createdAt.toInstant = other.createdAt.toInstant
  actorUserId : row.actorUserId = other.actorUserId
  action : row.action = other.action
  resourceType : row.resourceType = other.resourceType
  resourceId : row.resourceId = other.resourceId
  prevHash : row.prevHash = other.prevHash

/-- The payloads as they are stored, up to the order of keys. -/
structure SameStoredEntry (row other : AuditLog) : Prop extends
    SameFixedFields row other where
  payload : SameUpToKeyOrder row.payload other.payload

/-- The payloads as they are read and printed again, up to the order of
keys. -/
structure SameReadEntry (env : AuditEnv) (row other : AuditLog) : Prop extends
    SameFixedFields row other where
  payload : SameUpToKeyOrder (reprint env.numbers row.payload)
    (reprint env.numbers other.payload)

/-- Where the names are distinct, sorted entries determine the fields. -/
theorem eq_of_sortEntries {collation : Collation}
    {fields others : List (String × Json)}
    (hsorted : sortEntries collation fields = sortEntries collation others)
    (hnames : (others.map Prod.fst).Nodup) {name : String} {value other : Json}
    (hvalue : (name, value) ∈ fields) (hother : (name, other) ∈ others) :
    value = other := by
  have hmem : (name, value) ∈ sortEntries collation others := by
    rw [← hsorted]
    exact (List.perm_insertionSort _ _).mem_iff.mpr hvalue
  have hmem' := (List.perm_insertionSort _ _).mem_iff.mp hmem
  exact congrArg Prod.snd
    (List.inj_on_of_nodup_map hnames hmem' hother rfl)

theorem nullable_injective {collation : Collation}
    {left right : Option String}
    (heq : canonicalJson collation (nullable left) =
      canonicalJson collation (nullable right)) : left = right := by
  cases left with
  | none =>
      cases right with
      | none => rfl
      | some => cases heq
  | some left =>
      cases right with
      | none => cases heq
      | some right =>
          cases heq
          rfl

/-- The fields that a canonical entry prints, before they are sorted. -/
def hashedFields (env : AuditEnv) (row : AuditLog) : List (String × Json) :=
  [("id", .str row.id),
    ("createdAt", .str (toISOString row.createdAt.toInstant)),
    ("actorUserId", canonicalJson env.collation (nullable row.actorUserId)),
    ("action", .str row.action),
    ("resourceType", .str row.resourceType),
    ("resourceId", canonicalJson env.collation (nullable row.resourceId)),
    ("payload", sortKeys env.collation (reprint env.numbers row.payload)),
    ("prevHash", canonicalJson env.collation (nullable row.prevHash))]

theorem entryText_eq (env : AuditEnv) (row : AuditLog) :
    entryText env row = String.ofList
      (Json.obj (sortEntries env.collation (hashedFields env row))).render := by
  rw [hashedFields, ← canonicalJson_readJson, entryText, canonicalize_eq]
  rfl

/-- The hashed text determines the entry. -/
theorem sameReadEntry_of_entryText {env : AuditEnv} {row other : AuditLog}
    (htext : entryText env row = entryText env other) :
    SameReadEntry env row other := by
  rw [entryText_eq, entryText_eq] at htext
  have hjson := render_injective (String.ofList_injective htext)
  rw [Json.obj.injEq] at hjson
  have hnames : ((hashedFields env other).map Prod.fst).Nodup := by
    simp [hashedFields]
  have hfield : ∀ name value found, (name, value) ∈ hashedFields env row →
      (name, found) ∈ hashedFields env other → value = found :=
    fun _ _ _ => eq_of_sortEntries hjson hnames
  have hid := hfield "id" (.str row.id) (.str other.id)
    (by simp [hashedFields]) (by simp [hashedFields])
  have hcreatedAt := hfield "createdAt"
    (.str (toISOString row.createdAt.toInstant))
    (.str (toISOString other.createdAt.toInstant))
    (by simp [hashedFields]) (by simp [hashedFields])
  have hactor := hfield "actorUserId"
    (canonicalJson env.collation (nullable row.actorUserId))
    (canonicalJson env.collation (nullable other.actorUserId))
    (by simp [hashedFields]) (by simp [hashedFields])
  have haction := hfield "action" (.str row.action) (.str other.action)
    (by simp [hashedFields]) (by simp [hashedFields])
  have htype := hfield "resourceType" (.str row.resourceType)
    (.str other.resourceType) (by simp [hashedFields]) (by simp [hashedFields])
  have hresource := hfield "resourceId"
    (canonicalJson env.collation (nullable row.resourceId))
    (canonicalJson env.collation (nullable other.resourceId))
    (by simp [hashedFields]) (by simp [hashedFields])
  have hpayload := hfield "payload"
    (sortKeys env.collation (reprint env.numbers row.payload))
    (sortKeys env.collation (reprint env.numbers other.payload))
    (by simp [hashedFields]) (by simp [hashedFields])
  have hprev := hfield "prevHash"
    (canonicalJson env.collation (nullable row.prevHash))
    (canonicalJson env.collation (nullable other.prevHash))
    (by simp [hashedFields]) (by simp [hashedFields])
  rw [Json.str.injEq] at hid hcreatedAt haction htype
  exact
    { id := hid
      createdAt := toISOString_injective hcreatedAt
      actorUserId := nullable_injective hactor
      action := haction
      resourceType := htype
      resourceId := nullable_injective hresource
      prevHash := nullable_injective hprev
      payload := sameUpToKeyOrder_of_sortKeys env.collation _ _ hpayload }

/-! ## Chains -/

/-- The last entry hash commits to the whole chain, payloads as they are read.
So a table that keeps the hash but not the entries does not verify. -/
theorem lastHash_commits (env : AuditEnv) (left right : Table AuditLog)
    (hcollision : CollisionFree env (chainRows left) (chainRows right))
    (hleft : (verifyIntegrityRange env none none left).ok = true)
    (hlast : latestEntryHash left = latestEntryHash right) :
    ((verifyIntegrityRange env none none right).ok = true →
      List.Forall₂ (SameReadEntry env) (chainRows left) (chainRows right)) ∧
    (¬ List.Forall₂ (SameReadEntry env) (chainRows left) (chainRows right) →
      (verifyIntegrityRange env none none right).ok = false) := by
  have hcommits : (verifyIntegrityRange env none none right).ok = true →
      List.Forall₂ (SameReadEntry env) (chainRows left) (chainRows right) := by
    intro hright
    rw [verifyIntegrityRange_ok] at hleft hright
    rw [latestEntryHash_eq_tip env, latestEntryHash_eq_tip env] at hlast
    refine hleft.forall₂ _ (fun row hrow other hother hdigest => ?_) hright
      hlast
    have hsame := sameReadEntry_of_entryText
      (hcollision row hrow other hother hdigest)
    exact ⟨hsame, hsame.prevHash⟩
  refine ⟨hcommits, fun hdiffer => ?_⟩
  rw [Bool.eq_false_iff]
  exact fun hright => hdiffer (hcommits hright)

namespace CommitmentWitness

/-- The text of the first entry. -/
def text : String :=
  "\x7b\"action\":\"admin.audit.export.create\",\"actorUserId\":null," ++
    "\"createdAt\":\"2026-04-26T12:00:00.000Z\"," ++
    "\"id\":\"c1f4a6de-52b0-4c33-9d3f-6a7be0a1d501\"," ++
    "\"payload\":\x7b\"limit\":null\x7d,\"prevHash\":null," ++
    "\"resourceId\":null,\"resourceType\":\"audit_export\"\x7d"

def hash : String :=
  "ff7b088b78ed2d81a29eef5aea12325bf423fa3c322b3204d862a62b453b1abf"

/-- The text of the entry after it. -/
def nextText : String :=
  "\x7b\"action\":\"admin.audit.export.create\",\"actorUserId\":null," ++
    "\"createdAt\":\"2026-04-26T12:00:01.000Z\"," ++
    "\"id\":\"2b90d7e1-7f64-4a18-8c55-0e3d9b6f4a02\"," ++
    "\"payload\":\x7b\"limit\":null\x7d,\"prevHash\":\"" ++ hash ++ "\"," ++
    "\"resourceId\":null,\"resourceType\":\"audit_export\"\x7d"

def nextHash : String :=
  "935404c61b5d070d4b4f52f623752affcd0b2d705c181ea9e130770071757e34"

/-- What no double reaches is infinite. -/
def numbers : NumberRuntime where
  read text :=
    if 2 ^ 1024 ≤ numberValue text then .infinite false
    else if numberValue text ≤ -2 ^ 1024 then .infinite true
    else .finite text
  read_read text value hread := by
    split at hread
    case isTrue => cases hread
    case isFalse hbelow =>
      split at hread
      case isTrue => cases hread
      case isFalse habove =>
        cases hread
        rw [if_neg hbelow, if_neg habove]

/-- SHA-256 on these texts. -/
def env : AuditEnv where
  collation := .codePoint
  numbers := numbers
  sha256Hex source :=
    if source = text then hash else if source = nextText then nextHash else ""

def row (micros : Int) (limit : Json) : AuditLog where
  id := "c1f4a6de-52b0-4c33-9d3f-6a7be0a1d501"
  actorUserId := none
  action := "admin.audit.export.create"
  resourceType := "audit_export"
  resourceId := none
  payload := .obj [("limit", limit)]
  prevHash := none
  entryHash := some hash
  integrityVersion := integrityVersionChained
  createdAt := ⟨micros⟩

def next : AuditLog :=
  { row 1777204801000000 .null with
    id := "2b90d7e1-7f64-4a18-8c55-0e3d9b6f4a02"
    prevHash := some hash
    entryHash := some nextHash }

def table (row : AuditLog) : Table AuditLog := ⟨[row], by simp⟩

/-- An entry of that instant, and the one after it. -/
def chain (micros : Int) : Table AuditLog :=
  ⟨[row micros .null, next], by simp [Keyed.key, row, next]⟩

theorem entryText_row {micros : Int} {limit : Json}
    (hmicros : (Timestamp.mk micros).toInstant = 1777204800000)
    (hlimit : reprint numbers limit = .null) :
    entryText env (row micros limit) = text := by
  have hfields : hashedFields env (row micros limit) =
      hashedFields env (row 1777204800000000 .null) := by
    have hfirst : (Timestamp.mk 1777204800000000).toInstant = 1777204800000 :=
      by decide
    simp only [hashedFields, row, env, hmicros, hfirst, reprint, enumerated,
      reprintFields, hlimit]
  rw [entryText_eq, hfields, ← entryText_eq]
  decide +kernel

theorem sha256Hex_text : env.sha256Hex text = hash := by
  simp only [env, ↓reduceIte]

theorem chainRows_table (micros : Int) (limit : Json) :
    chainRows (table (row micros limit)) = [row micros limit] := rfl

theorem verifies {micros : Int} {limit : Json}
    (hmicros : (Timestamp.mk micros).toInstant = 1777204800000)
    (hlimit : reprint numbers limit = .null) :
    (verifyIntegrityRange env none none (table (row micros limit))).ok =
      true := by
  rw [verifyIntegrityRange_ok, chainRows_table]
  apply HashChain.Linked.cons
  · rfl
  · rw [digest_eq, entryText_row hmicros hlimit, sha256Hex_text]
    rfl
  · exact .nil _

theorem collisionFree {micros : Int} {limit : Json}
    (hmicros : (Timestamp.mk micros).toInstant = 1777204800000)
    (hlimit : reprint numbers limit = .null) :
    CollisionFree env (chainRows (table (row 1777204800000000 .null)))
      (chainRows (table (row micros limit))) := by
  intro left hleft right hright _
  cases List.mem_singleton.mp hleft
  cases List.mem_singleton.mp hright
  rw [entryText_row hmicros hlimit, entryText_row (by decide) rfl]

theorem entryText_next : entryText env next = nextText := by
  rw [entryText_eq]
  decide +kernel

theorem sha256Hex_nextText : env.sha256Hex nextText = nextHash := by
  have hne : nextText ≠ text := by decide
  simp only [env, if_neg hne, ↓reduceIte]

theorem sha256Hex_inj {source other : String}
    (hsource : source = text ∨ source = nextText)
    (hother : other = text ∨ other = nextText)
    (hhash : env.sha256Hex source = env.sha256Hex other) : source = other := by
  have hne : hash ≠ nextHash := by decide
  rcases hsource with rfl | rfl
  · rcases hother with rfl | rfl
    · rfl
    · rw [sha256Hex_text, sha256Hex_nextText] at hhash
      exact absurd hhash hne
  · rcases hother with rfl | rfl
    · rw [sha256Hex_text, sha256Hex_nextText] at hhash
      exact absurd hhash.symm hne
    · rfl

theorem chainRows_first :
    chainRows (chain 1777204800000000) =
      [row 1777204800000000 .null, next] := rfl

theorem chainRows_younger :
    chainRows (chain 1777204800000500) =
      [row 1777204800000500 .null, next] := rfl

theorem entryText_chain {micros : Int}
    (hmicros : (Timestamp.mk micros).toInstant = 1777204800000)
    {entry : AuditLog} (hentry : entry ∈ [row micros .null, next]) :
    entryText env entry = text ∨ entryText env entry = nextText := by
  rcases List.mem_cons.mp hentry with rfl | hlast
  · exact .inl (entryText_row hmicros rfl)
  · rw [List.mem_singleton.mp hlast]
    exact .inr entryText_next

/-- The first row of the other chain is half a millisecond younger, which no
text shows. -/
theorem lastHash_commits_visit :
    ((verifyIntegrityRange env none none (chain 1777204800000500)).ok = true →
      List.Forall₂ (SameReadEntry env) (chainRows (chain 1777204800000000))
        (chainRows (chain 1777204800000500))) ∧
    (¬ List.Forall₂ (SameReadEntry env) (chainRows (chain 1777204800000000))
        (chainRows (chain 1777204800000500)) →
      (verifyIntegrityRange env none none (chain 1777204800000500)).ok =
        false) := by
  apply lastHash_commits
  · rw [chainRows_first, chainRows_younger]
    intro left hleft right hright hhash
    exact sha256Hex_inj (entryText_chain (by decide) hleft)
      (entryText_chain (by decide) hright) hhash
  · rw [verifyIntegrityRange_ok, chainRows_first]
    apply HashChain.Linked.cons
    · rfl
    · rw [digest_eq, entryText_row (by decide) rfl, sha256Hex_text]
      rfl
    · apply HashChain.Linked.cons
      · rfl
      · rw [digest_eq, entryText_next, sha256Hex_nextText]
        rfl
      · exact .nil _
  · rfl

/-- A number that no double reaches hashes as `null` does. -/
theorem not_lastHash_commits_stored :
    ¬ ∀ (env : AuditEnv) (left right : Table AuditLog),
      CollisionFree env (chainRows left) (chainRows right) →
      (verifyIntegrityRange env none none left).ok = true →
      (verifyIntegrityRange env none none right).ok = true →
      latestEntryHash left = latestEntryHash right →
      List.Forall₂ SameStoredEntry (chainRows left) (chainRows right) := by
  intro hcommits
  have hrows := hcommits env (table (row 1777204800000000 .null))
    (table (row 1777204800000000 (.num ⟨false, 1, [], some 400⟩)))
    (collisionFree (by decide) (by decide +kernel)) (verifies (by decide) rfl)
    (verifies (by decide) (by decide +kernel)) rfl
  cases hrows with
  | cons hsame _ =>
      obtain ⟨others, reordered, hothers, hperm, hfields⟩ := hsame.payload
      cases hothers
      obtain ⟨other, rest, rfl, hvalue, hrest⟩ := hfields
      cases hrest
      have hother := List.perm_singleton.mp hperm
      cases hother
      cases hvalue

end CommitmentWitness

end IdProvider
