/-
The entry hash that a call writes, and the one that its row is checked against.
-/
import IdProvider.CanonicalForms

namespace IdProvider

open JsonText KeyedTable

/-- What the entry hash of a call hashes. -/
def CreateAuditLogInput.hashInput (input : CreateAuditLogInput) (now : Instant)
    (id : String) (prevHash : Option String) : EntryHashInput where
  id := id
  createdAt := now
  actorUserId := input.actorUserId
  action := input.action
  resourceType := input.resourceType
  resourceId := input.resourceId
  payload := .obj input.payload
  prevHash := prevHash

def sourceText (env : AuditEnv) (input : EntryHashInput) : String :=
  String.ofList (canonicalize env.collation input.toJsValue)

theorem buildEntryHash_eq (env : AuditEnv) (input : EntryHashInput) :
    buildEntryHash env input = env.sha256Hex (sourceText env input) := rfl

/-- What the verifier makes of the row that a call writes. -/
theorem createAuditLog_row {env : AuditEnv} {now : Instant} {id : String}
    {input : CreateAuditLogInput} {table after : Table AuditLog}
    (hcreate : createAuditLog env now id input table = some after)
    (haction : shouldUseHashChain input.action = true) :
    ∃ (row : AuditLog) (stored : Json),
      after.rows = table.rows ++ [row] ∧
      storeRecord input.payload = some stored ∧ row.id = id ∧
      row.entryHash = some (buildEntryHash env
        (input.hashInput now id (latestEntryHash table))) ∧
      row.hashInput env =
        { input.hashInput now id (latestEntryHash table) with
          payload := readJson env.numbers stored } := by
  simp only [createAuditLog, haction, if_true, Option.bind_eq_bind,
    Option.bind_eq_some_iff] at hcreate
  obtain ⟨stored, hstored, hinsert⟩ := hcreate
  refine ⟨_, stored, insertAuditLog_rows hinsert, hstored, rfl, rfl, ?_⟩
  simp only [AuditLog.hashInput, Timestamp.toInstant_ofInstant]
  rfl

/-- The fields that the hashed text prints, before they are sorted. -/
def sourceFields (collation : Collation) (input : EntryHashInput) :
    List (String × Json) :=
  [("id", .str input.id),
    ("createdAt", .str (toISOString input.createdAt)),
    ("actorUserId", canonicalJson collation (nullable input.actorUserId)),
    ("action", .str input.action),
    ("resourceType", .str input.resourceType),
    ("resourceId", canonicalJson collation (nullable input.resourceId)),
    ("payload", canonicalJson collation input.payload),
    ("prevHash", canonicalJson collation (nullable input.prevHash))]

theorem canonicalJson_toJsValue (collation : Collation)
    (input : EntryHashInput) :
    canonicalJson collation input.toJsValue =
      .obj (sortEntries collation (sourceFields collation input)) := rfl

theorem payload_mem (collation : Collation) (input : EntryHashInput) :
    ("payload", canonicalJson collation input.payload) ∈
      sourceFields collation input := by
  simp [sourceFields]

theorem nodup_sourceFields (collation : Collation) (input : EntryHashInput) :
    ((sourceFields collation input).map Prod.fst).Nodup := by
  simp [sourceFields]

/-- The hashed text shows the payload through its canonical form. -/
theorem sourceText_eq_iff (env : AuditEnv) (input : EntryHashInput)
    (payload : JsValue) :
    sourceText env { input with payload := payload } = sourceText env input ↔
      canonicalJson env.collation payload =
        canonicalJson env.collation input.payload := by
  have htext : sourceText env { input with payload := payload } =
        sourceText env input ↔
      canonicalJson env.collation
          { input with payload := payload }.toJsValue =
        canonicalJson env.collation input.toJsValue := by
    rw [sourceText, sourceText, canonicalize_eq, canonicalize_eq]
    constructor
    · exact fun hsame => render_injective (String.ofList_injective hsame)
    · intro hsame
      rw [hsame]
  rw [htext]
  constructor
  · intro hsame
    rw [canonicalJson_toJsValue, canonicalJson_toJsValue, Json.obj.injEq]
      at hsame
    exact eq_of_sortEntries hsame (nodup_sourceFields _ _)
      (payload_mem _ { input with payload := payload }) (payload_mem _ input)
  · intro hsame
    rw [canonicalJson_toJsValue, canonicalJson_toJsValue, sourceFields,
      sourceFields, hsame]

/-- The row that a call wrote bears the hash that the verifier computes. -/
def EntryHashKept (env : AuditEnv) (id : String) (after : Table AuditLog) :
    Prop :=
  ∀ row ∈ after, row.id = id →
    row.entryHash = some (buildEntryHash env (row.hashInput env))

/-- The hash does not take the row for what was hashed, unless it is. -/
def SeparatesRow (env : AuditEnv) (id : String) (written : EntryHashInput)
    (after : Table AuditLog) : Prop :=
  ∀ row ∈ after, row.id = id →
    buildEntryHash env written = buildEntryHash env (row.hashInput env) →
      sourceText env written = sourceText env (row.hashInput env)

/-- The values with the canonical form of this one are those that are equal up
to the order of keys. -/
def FormDecides (env : AuditEnv) (left : Json) : Prop :=
  ∀ right, DistinctNames right →
    (canonicalize env.collation (readJson env.numbers left) =
        canonicalize env.collation (readJson env.numbers right) ↔
      SameUpToKeyOrder (reprint env.numbers left)
        (reprint env.numbers right))

/-- Every payload hashes the same once it is stored, and canonical forms tell
values apart up to the order of keys. -/
def HashStable (env : AuditEnv) : Prop :=
  (∀ now id input table after,
    createAuditLog env now id input table = some after →
      shouldUseHashChain input.action = true →
        JsValue.Proper env.numbers (.obj input.payload) →
          EntryHashKept env id after) ∧
  ∀ left, DistinctNames left → FormDecides env left

/-- The row of a call and what was hashed show one text exactly when the payload
was stored as written. -/
theorem sourceText_row_iff {env : AuditEnv} {now : Instant} {id : String}
    {input : CreateAuditLogInput} {table after : Table AuditLog}
    (hcreate : createAuditLog env now id input table = some after)
    (haction : shouldUseHashChain input.action = true)
    (hproper : JsValue.Proper env.numbers (.obj input.payload)) :
    ∃ row ∈ after, (∀ other ∈ after, other.id = id ↔ other = row) ∧
      row.entryHash = some (buildEntryHash env
        (input.hashInput now id (latestEntryHash table))) ∧
      (sourceText env (row.hashInput env) = sourceText env
          (input.hashInput now id (latestEntryHash table)) ↔
        StoredAsWritten env.collation (.obj input.payload)) := by
  obtain ⟨row, stored, hrows, hstored, hid, hentry, hhash⟩ :=
    createAuditLog_row hcreate haction
  have hrow : row ∈ after := by
    rw [← mem_rows, hrows]
    exact List.mem_append_right _ (List.mem_singleton.mpr rfl)
  have hjson : stored = toJsonb (.obj (JsValue.toJsonFields input.payload)) := by
    simp only [storeRecord] at hstored
    split at hstored
    case isTrue => cases hstored
    case isFalse => exact (Option.some.inj hstored).symm
  refine ⟨row, hrow, fun other hother => ⟨fun hsame => ?_, ?_⟩, hentry, ?_⟩
  · exact after.eq_of_key_eq hother hrow (hsame.trans hid.symm)
  · rintro rfl
    exact hid
  · rw [hhash, sourceText_eq_iff, hjson]
    exact restoredForm_iff env.collation env.numbers (.obj input.payload)
      hproper _ rfl

theorem entryHashKept_iff {env : AuditEnv} {now : Instant} {id : String}
    {input : CreateAuditLogInput} {table after : Table AuditLog}
    (hcreate : createAuditLog env now id input table = some after)
    (haction : shouldUseHashChain input.action = true)
    (hproper : JsValue.Proper env.numbers (.obj input.payload))
    (hseparates : SeparatesRow env id
      (input.hashInput now id (latestEntryHash table)) after) :
    EntryHashKept env id after ↔
      StoredAsWritten env.collation (.obj input.payload) := by
  obtain ⟨row, hrow, honly, hentry, htext⟩ :=
    sourceText_row_iff hcreate haction hproper
  have hid : row.id = id := (honly row hrow).mpr rfl
  rw [← htext]
  constructor
  · intro hkept
    have hhash := Option.some.inj (hentry.symm.trans (hkept row hrow hid))
    exact (hseparates row hrow hid hhash).symm
  · intro hsame other hother hother'
    rw [(honly other hother).mp hother', hentry, buildEntryHash_eq,
      buildEntryHash_eq, hsame]

theorem formDecides_iff {env : AuditEnv} {left : Json}
    (hnames : DistinctNames left) :
    FormDecides env left ↔ Untied env.collation left := by
  constructor
  · intro hdecides
    have hmirror := (hdecides (mirrored left)
      (distinctNames_mirrored left hnames)).mpr
        (same_mirrored env.numbers left)
    exact untied_of_mirrored env.collation env.numbers left hnames
      ((canonicalize_eq_iff _ _ _ _).mp hmirror)
  · intro hties right hright
    rw [canonicalize_eq_iff]
    constructor
    · exact sameUpToKeyOrder_of_sortKeys env.collation _ _
    · exact readForm_of_same env.collation env.numbers left hnames hties right
        hright

namespace HashStabilityWitness

/-- A limit that was left out. -/
def limitCall : AuditCall where
  now := 0
  id := "c1f4a6de-52b0-4c33-9d3f-6a7be0a1d501"
  input :=
    { actorUserId := none
      action := "admin.audit.export.create"
      resourceType := "audit_export"
      resourceId := none
      payload := [("limit", .undefined)] }

/-- SHA-256 on the texts of the two calls below and of their rows. -/
def env : AuditEnv where
  collation := .codePoint
  numbers := .ofTexts
  sha256Hex source :=
    if source.length < 220 then
      "eabb5dc69d38046a46a491827ac29fa741afd7bdffdba983e4ba6478482e6d75"
    else if source.length < 250 then
      "fc0f1e78964968158c067038728c4ba9348c2fba567dc9929d3fd75d95bd0a71"
    else
      "d828323a87b23cd9e7cf03d5522ca9fca851970f432380592c6b2b51457f2d34"

theorem sha256Hex_ofList (source : List Char) :
    env.sha256Hex (String.ofList source) =
      if source.length < 220 then
        "eabb5dc69d38046a46a491827ac29fa741afd7bdffdba983e4ba6478482e6d75"
      else if source.length < 250 then
        "fc0f1e78964968158c067038728c4ba9348c2fba567dc9929d3fd75d95bd0a71"
      else
        "d828323a87b23cd9e7cf03d5522ca9fca851970f432380592c6b2b51457f2d34" := by
  simp only [env, String.length_ofList]

theorem proper_limit :
    JsValue.Proper env.numbers (.obj limitCall.input.payload) :=
  ⟨by decide, rfl, trivial, trivial⟩

theorem not_entryHashKept (after : Table AuditLog)
    (hcreate : createAuditLog env limitCall.now limitCall.id limitCall.input
      .empty = some after) :
    ¬ EntryHashKept env limitCall.id after := by
  obtain ⟨row, stored, hrows, hstored, hid, hentry, hhash⟩ :=
    createAuditLog_row hcreate (by decide)
  have hempty : stored = .obj [] := by
    have hstore : storeRecord limitCall.input.payload = some (.obj []) := rfl
    exact Option.some.inj (hstored.symm.trans hstore)
  intro hkept
  have hrow : row ∈ after := by
    rw [← mem_rows, hrows]
    exact List.mem_append_right _ (List.mem_singleton.mpr rfl)
  have hsame := Option.some.inj (hentry.symm.trans (hkept row hrow hid))
  rw [hhash, hempty, buildEntryHash_eq, buildEntryHash_eq, sourceText,
    sourceText, sha256Hex_ofList, sha256Hex_ofList] at hsame
  exact absurd hsame (by decide +kernel)

/-- A nested payload without ties, beside two names that are none. -/
def rangeCall : AuditCall where
  now := 0
  id := "c1f4a6de-52b0-4c33-9d3f-6a7be0a1d501"
  input :=
    { actorUserId := none
      action := "admin.audit.export.create"
      resourceType := "audit_export"
      resourceId := none
      payload := [("kind", .str "all"),
        ("range", .arr [.obj [("to", .null), ("from", .date 0)]])] }

def left : Json := .obj [("to", .null), ("from", .bool true)]

theorem proper_range :
    JsValue.Proper env.numbers (.obj rangeCall.input.payload) :=
  ⟨by decide, rfl, trivial, ⟨⟨by decide, rfl, trivial, trivial, trivial⟩,
    trivial⟩, trivial⟩

theorem storedAsWritten_range :
    StoredAsWritten env.collation (.obj rangeCall.input.payload) :=
  ⟨by unfold TiesStored; decide, trivial,
    ⟨⟨by unfold TiesStored; decide, trivial, trivial, trivial⟩, trivial⟩,
    trivial⟩

theorem separatesRow_range {after : Table AuditLog}
    (hcreate : createAuditLog env rangeCall.now rangeCall.id rangeCall.input
      .empty = some after) :
    SeparatesRow env rangeCall.id (rangeCall.input.hashInput rangeCall.now
      rangeCall.id (latestEntryHash .empty)) after := by
  obtain ⟨row, -, honly, -, htext⟩ :=
    sourceText_row_iff hcreate (by decide) proper_range
  intro other hother hid _
  rw [(honly other hother).mp hid, htext.mpr storedAsWritten_range]

end HashStabilityWitness

end IdProvider
