/-
Recovery codes and client credentials, as they are shown or sent and as they
are read back.
-/
import IdProvider.ClientAuth
import IdProvider.RecoverySingleUse
import IdProvider.RequestSchemas
import IdProvider.TextChunks
import Mathlib.Data.Bool.AllAny

namespace IdProvider

open TextChunks

/-! ## Trimmed texts -/

theorem trim_sublist (text : String) :
    (trim text).toList.Sublist text.toList := by
  rw [trim, String.toList_ofList]
  have hback := (List.dropWhile_sublist isWhitespace
    (l := (text.toList.dropWhile isWhitespace).reverse)).reverse
  rw [List.reverse_reverse] at hback
  exact hback.trans (List.dropWhile_sublist isWhitespace)

theorem filter_dropWhile {keeps : Char → Bool}
    (hspace : ∀ c, isWhitespace c = true → keeps c = false)
    (text : List Char) :
    (text.dropWhile isWhitespace).filter keeps = text.filter keeps := by
  induction text with
  | nil => rfl
  | cons c text ih =>
      rw [List.dropWhile_cons]
      split
      case isTrue hc =>
        rw [ih, List.filter_cons_of_neg]
        rw [hspace c hc]
        exact Bool.false_ne_true
      case isFalse => rfl

/-- Trimming takes away nothing else. -/
theorem filter_trim {keeps : Char → Bool}
    (hspace : ∀ c, isWhitespace c = true → keeps c = false)
    (text : String) :
    (trim text).toList.filter keeps = text.toList.filter keeps := by
  rw [trim, String.toList_ofList, List.filter_reverse,
    filter_dropWhile hspace, ← List.filter_reverse, List.reverse_reverse,
    filter_dropWhile hspace]

/-! ## Recovery codes -/

/-- What may be typed of a text that is shown: letters in either case, and for
a separator itself, a space or nothing. -/
inductive Respelled : List Char → List Char → Prop
  | nil : Respelled [] []
  | character {c typed : Char} {shown text : List Char} :
      c ≠ '-' → typed = c ∨ typed = c.toLower → Respelled shown text →
        Respelled (c :: shown) (typed :: text)
  | separator {typed shown text : List Char} :
      typed ∈ [['-'], [' '], []] → Respelled shown text →
        Respelled ('-' :: shown) (typed ++ text)

theorem Respelled.refl (shown : List Char) : Respelled shown shown := by
  induction shown with
  | nil => exact .nil
  | cons c shown ih =>
      by_cases hc : c = '-'
      · subst hc
        exact .separator List.mem_cons_self ih
      · exact .character hc (Or.inl rfl) ih

/-- What `normalizeCode` leaves of a text. -/
def keepsCode (c : Char) : Bool := !(isWhitespace c || c == '-')

/-- A character of the alphabet, as it may be typed. -/
structure CodeCharacter (c typed : Char) : Prop where
  kept : keepsCode typed = true
  upper : typed.toUpper = c
  allowed : isRecoveryCodeChar typed = true
  ascii : typed.toNat < 128

theorem codeCharacter_of_mem : ∀ c ∈ recoveryAlphabet,
    CodeCharacter c c ∧ CodeCharacter c c.toLower := by
  have hall : ∀ c ∈ recoveryAlphabet, ∀ typed ∈ [c, c.toLower],
      keepsCode typed = true ∧ typed.toUpper = c ∧
        isRecoveryCodeChar typed = true ∧ typed.toNat < 128 := by
    simp only [← List.all_iff_forall_prop]
    decide
  intro c hc
  constructor
  · obtain ⟨hkept, hupper, hallowed, hascii⟩ :=
      hall c hc c List.mem_cons_self
    exact ⟨hkept, hupper, hallowed, hascii⟩
  · obtain ⟨hkept, hupper, hallowed, hascii⟩ :=
      hall c hc c.toLower (List.mem_cons_of_mem c List.mem_cons_self)
    exact ⟨hkept, hupper, hallowed, hascii⟩

/-- What was typed of a code normalizes to its characters. -/
structure TypedCode (shown text : List Char) : Prop where
  normalized :
    (text.filter keepsCode).map Char.toUpper = shown.filter keepsCode
  length : text.length ≤ shown.length
  allowed : ∀ c ∈ text, isRecoveryCodeChar c = true
  ascii : ∀ c ∈ text, c.toNat < 128

theorem Respelled.typedCode {shown text : List Char}
    (hrespelled : Respelled shown text)
    (hshown : ∀ c ∈ shown, c = '-' ∨ c ∈ recoveryAlphabet) :
    TypedCode shown text := by
  induction hrespelled with
  | nil => exact ⟨rfl, Nat.le_refl 0, nofun, nofun⟩
  | @character c typed shown text hc htyped _ ih =>
      rw [List.forall_mem_cons] at hshown
      obtain ⟨hshownC, hcs⟩ := hshown
      have halphabet := hshownC.resolve_left hc
      obtain ⟨hself, hlower⟩ := codeCharacter_of_mem c halphabet
      have hcode : CodeCharacter c typed := by
        rcases htyped with rfl | rfl
        · exact hself
        · exact hlower
      have hrest := ih hcs
      constructor
      · rw [List.filter_cons_of_pos hcode.kept,
          List.filter_cons_of_pos hself.kept, List.map_cons, hcode.upper,
          hrest.normalized]
      · exact Nat.succ_le_succ hrest.length
      · exact List.forall_mem_cons.mpr ⟨hcode.allowed, hrest.allowed⟩
      · exact List.forall_mem_cons.mpr ⟨hcode.ascii, hrest.ascii⟩
  | @separator typed shown text htyped _ ih =>
      rw [List.forall_mem_cons] at hshown
      have hrest := ih hshown.2
      have hpieces : ∀ piece ∈ [['-'], [' '], []],
          piece.filter keepsCode = [] ∧ piece.length ≤ 1 ∧
            ∀ c ∈ piece, isRecoveryCodeChar c = true ∧ c.toNat < 128 := by
        simp only [← List.all_iff_forall_prop]
        decide
      obtain ⟨hdropped, hshort, hpiece⟩ := hpieces typed htyped
      constructor
      · rw [List.filter_append, hdropped, List.nil_append,
          List.filter_cons_of_neg (by decide), hrest.normalized]
      · rw [List.length_append, List.length_cons]
        have hle := hrest.length
        omega
      · intro c hc
        rcases List.mem_append.mp hc with hc | hc
        · exact (hpiece c hc).1
        · exact hrest.allowed c hc
      · intro c hc
        rcases List.mem_append.mp hc with hc | hc
        · exact (hpiece c hc).2
        · exact hrest.ascii c hc

theorem drawCharacters_eq_some {length : Nat} {bytes : List UInt8}
    {raw : List Char} (hdraw : drawCharacters length bytes = some raw) :
    raw.length = length ∧ ∀ c ∈ raw, c ∈ recoveryAlphabet := by
  induction length, bytes using drawCharacters.induct generalizing raw with
  | case1 bytes =>
      rw [drawCharacters, Option.some.injEq] at hdraw
      subst hdraw
      exact ⟨rfl, nofun⟩
  | case2 length => cases hdraw
  | case3 length byte bytes hskip ih =>
      rw [drawCharacters, if_pos hskip] at hdraw
      exact ih hdraw
  | case4 length byte bytes hkeep ih =>
      rw [drawCharacters, if_neg hkeep, Option.map_eq_some_iff] at hdraw
      obtain ⟨rest, hrest, rfl⟩ := hdraw
      obtain ⟨hlength, hmem⟩ := ih hrest
      have hindex : byte.toNat % recoveryAlphabet.length <
          recoveryAlphabet.length := Nat.mod_lt _ (by decide)
      constructor
      · rw [List.length_cons, hlength]
      · rw [List.forall_mem_cons]
        refine ⟨?_, hmem⟩
        rw [List.getD_eq_getElem?_getD, List.getElem?_eq_getElem hindex,
          Option.getD_some]
        exact List.getElem_mem hindex

theorem toList_groupCharacters (raw : List Char) :
    (groupCharacters raw).toList = ['-'].intercalate (raw.toChunks 5) := by
  rw [groupCharacters, String.toList_intercalate, List.map_map]
  congr 1
  exact List.map_id'' (fun group => String.toList_ofList) _

theorem mem_groupCharacters {raw : List Char}
    (hraw : ∀ c ∈ raw, c ∈ recoveryAlphabet) :
    ∀ c ∈ (groupCharacters raw).toList, c = '-' ∨ c ∈ recoveryAlphabet := by
  intro c hc
  rw [toList_groupCharacters] at hc
  have hmem := mem_intercalate hc
  rw [flatten_toChunks (by decide)] at hmem
  exact hmem.imp_right (hraw c)

/-- One separator between any two groups of five. -/
theorem length_groupCharacters {raw : List Char} (hraw : raw ≠ []) :
    (groupCharacters raw).toList.length + 1 =
      raw.length + (raw.length + 4) / 5 := by
  have hchunks : raw.toChunks 5 ≠ [] := by
    rw [toChunks_of_ne_nil (by decide) hraw]
    exact List.cons_ne_nil _ _
  rw [toList_groupCharacters, length_intercalate hchunks,
    flatten_toChunks (by decide), length_toChunks (by decide)]

theorem filter_groupCharacters {raw : List Char}
    (hraw : ∀ c ∈ raw, c ∈ recoveryAlphabet) :
    (groupCharacters raw).toList.filter keepsCode = raw := by
  rw [toList_groupCharacters, filter_intercalate (by decide),
    flatten_toChunks (by decide), List.filter_eq_self]
  exact fun c hc => (codeCharacter_of_mem c (hraw c hc)).1.kept

section Display

variable (env : RecoveryEnv) (raw : List Char) (code : PlainCode)

/-- Whatever is typed for the code passes the request schema and normalizes to
the characters that were hashed. -/
structure SurvivesDisplay : Prop where
  typed : ∀ text, Respelled code.text.toList text →
    ∃ value, mfaRecoveryCodeSchema.parse (String.ofList text) = some value ∧
      env.normalizeCode value = String.ofList raw
  stored : ∀ batch id, (env.newRow batch code id).codeHash =
    env.argon2Hash (String.ofList raw) code.salt

variable {env raw code}

theorem normalizeCode_eq
    (hupper : ∀ text : String, (∀ c ∈ text.toList, c.toNat < 128) →
      env.toUpperCase text = String.ofList (text.toList.map Char.toUpper))
    {text : String} (hascii : ∀ c ∈ text.toList, c.toNat < 128) :
    env.normalizeCode text =
      String.ofList ((text.toList.filter keepsCode).map Char.toUpper) := by
  have hkept : ∀ c ∈ (String.ofList (text.toList.filter keepsCode)).toList,
      c.toNat < 128 := by
    intro c hc
    rw [String.toList_ofList] at hc
    exact hascii c (List.mem_of_mem_filter hc)
  have hnormal : env.normalizeCode text =
      env.toUpperCase (String.ofList (text.toList.filter keepsCode)) := rfl
  rw [hnormal, hupper _ hkept, String.toList_ofList]

theorem keepsCode_of_isWhitespace (c : Char) (hspace : isWhitespace c = true) :
    keepsCode c = false := by
  rw [keepsCode, hspace]
  rfl

/-- A typed code passes the schema if it is no longer than 32 characters. -/
theorem TypedCode.parse {shown text : List Char}
    (htyped : TypedCode shown text)
    (hshort : 20 ≤ (shown.filter keepsCode).length)
    (hlong : shown.length ≤ 32) :
    mfaRecoveryCodeSchema.parse (String.ofList text) =
      some (trim (String.ofList text)) := by
  have hsublist := trim_sublist (String.ofList text)
  rw [String.toList_ofList] at hsublist
  have hascii : ∀ c ∈ (trim (String.ofList text)).toList, c.toNat < 128 :=
    fun c hc => htyped.ascii c (hsublist.subset hc)
  have hfilter := filter_trim keepsCode_of_isWhitespace (String.ofList text)
  rw [String.toList_ofList] at hfilter
  have hkept : (shown.filter keepsCode).length ≤
      (trim (String.ofList text)).toList.length := by
    rw [← htyped.normalized, List.length_map, ← hfilter]
    exact List.length_filter_le keepsCode _
  have htext := htyped.length
  have hlength := hsublist.length_le
  rw [TextSchema.parse_eq_some, utf16Length_of_ascii hascii]
  refine ⟨rfl, Nat.le_trans hshort hkept, ?_, ?_⟩
  · rintro _ ⟨⟩
    omega
  · rintro _ ⟨⟩ c hc
    exact htyped.allowed c (hsublist.subset hc)

/-- Codes survive their display format up to a length of 27. -/
theorem survivesDisplay_iff
    (hupper : ∀ text : String, (∀ c ∈ text.toList, c.toNat < 128) →
      env.toUpperCase text = String.ofList (text.toList.map Char.toUpper))
    {draw : CodeDraw}
    (hraw : drawCharacters env.mfaRecoveryCodeLength draw.bytes = some raw)
    (hcode : env.generatePlainCode draw = some code) :
    SurvivesDisplay env raw code ↔ env.mfaRecoveryCodeLength ≤ 27 := by
  obtain ⟨hlength, hmem⟩ := drawCharacters_eq_some hraw
  have hmin := env.length_min
  rw [RecoveryEnv.generatePlainCode, hraw, Option.map_some,
    Option.some.injEq] at hcode
  subst hcode
  have hgroups := mem_groupCharacters hmem
  have hne : raw ≠ [] := by
    rintro rfl
    rw [List.length_nil] at hlength
    omega
  have hshown := length_groupCharacters hne
  have hself := (Respelled.refl (groupCharacters raw).toList).typedCode hgroups
  constructor
  · intro hsurvives
    by_contra hlong
    have hspace : ∀ c ∈ (groupCharacters raw).toList,
        isWhitespace c = false := by
      intro c hc
      rcases hgroups c hc with rfl | halphabet
      · rfl
      · have hkept := (codeCharacter_of_mem c halphabet).1.kept
        rw [keepsCode, Bool.not_eq_true', Bool.or_eq_false_iff] at hkept
        exact hkept.1
    obtain ⟨value, hparse, -⟩ := hsurvives.typed _ (Respelled.refl _)
    rw [TextSchema.parse_eq_some] at hparse
    obtain ⟨rfl, -, hlongest, -⟩ := hparse
    have htext := hlongest 32 rfl
    rw [if_pos (show mfaRecoveryCodeSchema.trims = true from rfl),
      trim_ofList hspace, String.ofList_toList,
      utf16Length_of_ascii hself.ascii] at htext
    omega
  · intro hshort
    have hfilter := filter_groupCharacters hmem
    constructor
    · intro text hrespelled
      have htyped := hrespelled.typedCode hgroups
      have hsublist := trim_sublist (String.ofList text)
      rw [String.toList_ofList] at hsublist
      refine ⟨_, htyped.parse ?_ ?_, ?_⟩
      · rw [hfilter]
        omega
      · dsimp only
        omega
      · rw [normalizeCode_eq hupper fun c hc =>
            htyped.ascii c (hsublist.subset hc),
          filter_trim keepsCode_of_isWhitespace, String.toList_ofList,
          htyped.normalized]
        exact congrArg String.ofList hfilter
    · intro batch id
      rw [RecoveryEnv.newRow]
      dsimp only
      rw [normalizeCode_eq hupper hself.ascii, hself.normalized, hfilter]

end Display

/-! ## Client credentials -/

/-- The header of a text carries what comes before its first colon as the
id. -/
theorem parseOAuthClientBasicAuth_split {clientId clientSecret : String}
    {first rest : List Char} (hne : first ≠ []) (hcolon : ':' ∉ first)
    (htext : (clientId ++ ":" ++ clientSecret).toList = first ++ ':' :: rest) :
    parseOAuthClientBasicAuth (some (basicAuthorization clientId clientSecret)) =
      .ok ⟨String.ofList first, String.ofList rest⟩ := by
  have hpresentable : PresentableId (String.ofList first) := by
    rw [PresentableId, Ne, ← String.toList_eq_nil_iff, String.toList_ofList]
    exact ⟨hne, hcolon⟩
  have hsame : clientId ++ ":" ++ clientSecret =
      String.ofList first ++ ":" ++ String.ofList rest := by
    rw [← String.toList_inj, htext, String.toList_append, String.toList_append,
      String.toList_ofList, List.append_assoc]
    congr 2
    exact String.toList_ofList.symm
  rw [basicAuthorization, hsame]
  exact parseOAuthClientBasicAuth_basicAuthorization hpresentable

/-- Without anything before the colon it is refused. -/
theorem parseOAuthClientBasicAuth_colon {clientId clientSecret : String}
    {rest : List Char}
    (htext : (clientId ++ ":" ++ clientSecret).toList = ':' :: rest) :
    parseOAuthClientBasicAuth (some (basicAuthorization clientId clientSecret)) =
      .error (invalidClient "Invalid client credentials format") := by
  rw [parseOAuthClientBasicAuth]
  dsimp only
  rw [basicAuthorization, if_pos (startsWith_append _ _), String.toList_append,
    ← String.length_toList, List.drop_left, String.ofList_toList,
    trim_ofList (isWhitespace_standard _), String.toList_ofList,
    Base64.decode_standard, Utf8.decode_encode, htext, List.findIdx?_cons,
    beq_self_eq_true, if_pos rfl]

/-- The service reads back exactly the ids that the header can carry. -/
theorem parseOAuthClientBasicAuth_iff (clientId clientSecret : String) :
    parseOAuthClientBasicAuth
        (some (basicAuthorization clientId clientSecret)) =
      .ok ⟨clientId, clientSecret⟩ ↔ PresentableId clientId := by
  constructor
  · intro hparse
    have hcolon : ':' ∈ (clientId ++ ":" ++ clientSecret).toList := by
      simp
    obtain ⟨first, rest, htext, hfirst⟩ := List.eq_append_cons_of_mem hcolon
    by_cases hne : first = []
    · subst hne
      rw [parseOAuthClientBasicAuth_colon htext] at hparse
      cases hparse
    · rw [parseOAuthClientBasicAuth_split hne hfirst htext, Except.ok.injEq,
        OAuthClientCredentials.mk.injEq] at hparse
      rw [← hparse.1, PresentableId, Ne, ← String.toList_eq_nil_iff,
        String.toList_ofList]
      exact ⟨hne, hfirst⟩
  · exact parseOAuthClientBasicAuth_basicAuthorization

/-- Of the ids that can be registered, those without a colon round trip. -/
theorem credentials_roundTrip_iff {text clientId : String}
    (haccepted : oauthClientIdSchema.parse text = some clientId)
    (clientSecret : String) :
    parseOAuthClientBasicAuth
        (some (basicAuthorization clientId clientSecret)) =
      .ok ⟨clientId, clientSecret⟩ ↔ ':' ∉ clientId.toList := by
  rw [parseOAuthClientBasicAuth_iff]
  apply and_iff_right
  rintro rfl
  obtain ⟨-, hlength, -⟩ := TextSchema.parse_eq_some.mp haccepted
  exact absurd hlength (by decide)

namespace CredentialFormatWitness

def env (length : Nat) (hlength : 20 ≤ length) : RecoveryEnv :=
  { RecoveryWitness.env with
    mfaRecoveryCodeLength := length
    length_min := hlength }

/-- Every byte draws the first letter. -/
def draw (length : Nat) : CodeDraw := ⟨List.replicate length 0, []⟩

def raw (length : Nat) : List Char := List.replicate length 'A'

def code (length : Nat) : PlainCode := ⟨groupCharacters (raw length), []⟩

theorem survivesDisplay_shortest :
    SurvivesDisplay (env 20 (by decide)) (raw 20) (code 20) :=
  (survivesDisplay_iff (fun _ _ => rfl) (show drawCharacters 20 (draw 20).bytes =
    some (raw 20) by decide) rfl).mpr (by decide)

/-- Six groups of 28 characters make a text of 33. -/
theorem not_survivesDisplay :
    ¬ ∀ (env : RecoveryEnv) draw raw code,
      (∀ text : String, (∀ c ∈ text.toList, c.toNat < 128) →
        env.toUpperCase text = String.ofList (text.toList.map Char.toUpper)) →
      drawCharacters env.mfaRecoveryCodeLength draw.bytes = some raw →
      env.generatePlainCode draw = some code → SurvivesDisplay env raw code := by
  intro hclaim
  have hsurvives := hclaim (env 28 (by decide)) (draw 28) (raw 28) (code 28)
    (fun _ _ => rfl) (by decide) (by decide)
  obtain ⟨value, hparse, -⟩ := hsurvives.typed _ (Respelled.refl _)
  have hnone : mfaRecoveryCodeSchema.parse
      (String.ofList (code 28).text.toList) = none := by decide +kernel
  rw [hnone] at hparse
  cases hparse

theorem credentials_roundTrip_app :
    parseOAuthClientBasicAuth (some (basicAuthorization "app-1" "s3cr:et")) =
      .ok ⟨"app-1", "s3cr:et"⟩ :=
  (credentials_roundTrip_iff
    (show oauthClientIdSchema.parse " app-1 " = some "app-1" by
      decide +kernel) _).mpr (by decide)

/-- The id `app:1` is split at its colon. -/
theorem not_credentials_roundTrip :
    ¬ ∀ text clientId clientSecret,
      oauthClientIdSchema.parse text = some clientId →
        parseOAuthClientBasicAuth
            (some (basicAuthorization clientId clientSecret)) =
          .ok ⟨clientId, clientSecret⟩ := by
  intro hclaim
  have hparse := hclaim "app:1" "app:1" "secret" (by decide +kernel)
  rw [parseOAuthClientBasicAuth_iff] at hparse
  exact hparse.2 (by decide)

end CredentialFormatWitness

end IdProvider
