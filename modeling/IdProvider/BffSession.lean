/-
The cookies of the example backend: their sealed values, and the cookie header
that a client sends back.
-/
import IdProvider.Base64
import IdProvider.JsText
import IdProvider.NumberConversion
import IdProvider.Utf8

namespace IdProvider

open JsonText

/-- The HMAC-SHA-256 under the session secret, the numbers of the runtime and
the lifetime of a session. -/
structure BffEnv where
  hmacSha256 : List UInt8 → List UInt8
  digest_length : ∀ message, (hmacSha256 message).length = 32
  numbers : NumberRuntime
  sessionTtlSeconds : Int

namespace BffSession

def oauthStateCookieName : List Char := "example_bff_oidc".toList

def sessionCookieName : List Char := "example_bff_session".toList

/-! ## Base64 -/

def replaceAll (old new : Char) (text : List Char) : List Char :=
  text.map fun c => if c = old then new else c

def base64Url (input : List UInt8) : List Char :=
  (replaceAll '/' '_' (replaceAll '+' '-' (Base64.standard input))).filter
    (· ≠ '=')

def base64UrlToBuffer (value : List Char) : List UInt8 :=
  let normalized := replaceAll '_' '/' (replaceAll '-' '+' value)
  Base64.decode
    (normalized ++ List.replicate ((4 - normalized.length % 4) % 4) '=')

/-! ## Sealing -/

section Sealing

variable (env : BffEnv)

def sign (payload : List Char) : List Char :=
  base64Url (env.hmacSha256 (Utf8.encode payload))

def sealPayload (value : Json) : List Char :=
  base64Url (Utf8.encode value.render)

def sealValue (value : Json) : List Char :=
  sealPayload value ++ '.' :: sign env (sealPayload value)

/-- `none` when it throws.  Parts after the second one are ignored. -/
def unsealValue (sealed : Option (List Char)) : Option Json :=
  match sealed with
  | none => none
  | some sealed =>
      match sealed.splitOn '.' with
      | payload :: signature :: _ =>
          if payload = [] ∨ signature = [] then none
          else if Utf8.encode signature = Utf8.encode (sign env payload) then
            parse (Utf8.decode (base64UrlToBuffer payload))
          else none
      | _ => none

end Sealing

/-! ## The cookie header -/

/-- The characters of a text, with the bytes that `%` escapes stand for. -/
def uriUnits : List Char → Option (List (Char ⊕ UInt8))
  | [] => some []
  | '%' :: high :: low :: rest =>
      match hexValue? high, hexValue? low with
      | some high, some low =>
          (uriUnits rest).map fun units => .inr (.ofNat (high * 16 + low)) :: units
      | _, _ => none
  | '%' :: _ => none
  | c :: rest => (uriUnits rest).map fun units => .inl c :: units

/-- The one character of the bytes. -/
def strictChar? (bytes : List UInt8) : Option Char :=
  match Utf8.decode bytes with
  | [c] => if Utf8.encodeChar c = bytes then some c else none
  | _ => none

/-- The characters, after the bytes of one that is not complete. -/
def joinUnits : List UInt8 → List (Char ⊕ UInt8) → Option (List Char)
  | [], [] => some []
  | _ :: _, [] => none
  | [], .inl c :: units => (joinUnits [] units).map fun text => c :: text
  | _ :: _, .inl _ :: _ => none
  | begun, .inr byte :: units =>
      match strictChar? (begun ++ [byte]) with
      | some c => (joinUnits [] units).map fun text => c :: text
      | none =>
          if begun.length < 3 then joinUnits (begun ++ [byte]) units else none

/-- `none` when it throws. -/
def decodeURIComponent (text : List Char) : Option (List Char) :=
  (uriUnits text).bind (joinUnits [])

def trimChars (text : List Char) : List Char :=
  ((text.dropWhile isWhitespace).reverse.dropWhile isWhitespace).reverse

/-- A cookie of the header; a value that does not decode stays as it is. -/
def parseCookie (item : List Char) : Option (List Char × List Char) :=
  match (trimChars item).splitOn '=' with
  | [] => none
  | rawName :: rawValue =>
      if rawName = [] then none
      else
        let value := ['='].intercalate rawValue
        some (rawName, (decodeURIComponent value).getD value)

/-- The cookies in the order of the header. -/
def parseCookies (cookieHeader : Option (List Char)) :
    List (List Char × List Char) :=
  match cookieHeader with
  | none => []
  | some header => (header.splitOn ';').filterMap parseCookie

/-- A property of the record; a later cookie replaces an earlier one. -/
def cookie (cookies : List (List Char × List Char)) (name : List Char) :
    Option (List Char) :=
  (cookies.reverse.find? fun entry => entry.1 = name).map Prod.snd

/-! ## Round trip -/

def urlOfStandard (c : Char) : Char :=
  let c := if c = '+' then '-' else c
  if c = '/' then '_' else c

def standardOfUrl (c : Char) : Char :=
  let c := if c = '-' then '+' else c
  if c = '_' then '/' else c

theorem urlOfStandard_digit : ∀ value : Base64.Sextet,
    urlOfStandard (Base64.standardDigit value) = Base64.urlDigit value := by
  decide +kernel

theorem standardOfUrl_digit : ∀ value : Base64.Sextet,
    standardOfUrl (Base64.urlDigit value) = Base64.standardDigit value := by
  decide +kernel

theorem urlDigit_ne : ∀ value : Base64.Sextet,
    Base64.urlDigit value ≠ '=' ∧ Base64.urlDigit value ≠ '.' := by
  decide +kernel

theorem base64Url_eq (bytes : List UInt8) :
    base64Url bytes = Base64.url bytes := by
  have hreplaced : replaceAll '/' '_' (replaceAll '+' '-'
      (Base64.standard bytes)) =
      Base64.url bytes ++ Base64.padding bytes := by
    rw [replaceAll, replaceAll, List.map_map]
    change (Base64.standard bytes).map urlOfStandard = _
    have hpad : urlOfStandard '=' = '=' := by decide
    rw [Base64.standard, Base64.padding, List.map_append, List.map_map,
      List.map_replicate, hpad]
    congr 1
    exact List.map_congr_left fun value _ => urlOfStandard_digit value
  have hkept : ∀ c ∈ Base64.url bytes, decide (c ≠ '=') = true := by
    intro c hc
    obtain ⟨value, -, rfl⟩ := List.mem_map.mp hc
    exact decide_eq_true (urlDigit_ne value).1
  rw [base64Url, hreplaced, List.filter_append,
    List.filter_eq_self.mpr hkept, Base64.padding, List.filter_replicate,
    if_neg (by decide), List.append_nil]

theorem base64UrlToBuffer_base64Url (bytes : List UInt8) :
    base64UrlToBuffer (base64Url bytes) = bytes := by
  have hnormalized : replaceAll '_' '/' (replaceAll '-' '+'
      (Base64.url bytes)) =
      (Base64.sextets bytes).map Base64.standardDigit := by
    rw [replaceAll, replaceAll, List.map_map]
    change (Base64.url bytes).map standardOfUrl = _
    rw [Base64.url, List.map_map]
    exact List.map_congr_left fun value _ => standardOfUrl_digit value
  rw [base64Url_eq, base64UrlToBuffer, hnormalized]
  exact Base64.decode_padded Base64.sextet?_standardDigit bytes _

/-- Sealed parts hold no separator. -/
theorem dot_not_mem_base64Url (bytes : List UInt8) :
    '.' ∉ base64Url bytes := by
  rw [base64Url_eq]
  intro hdot
  obtain ⟨value, -, heq⟩ := List.mem_map.mp hdot
  exact (urlDigit_ne value).2 heq

/-- The value itself, or with more parts after it. -/
def Extends (value base : List Char) : Prop :=
  value = base ∨ ∃ suffix, value = base ++ '.' :: suffix

theorem splitOn_dot {first second : List Char} (hfirst : '.' ∉ first)
    (hsecond : '.' ∉ second) :
    (first ++ '.' :: second).splitOn '.' = [first, second] := by
  rw [List.splitOn_append_cons_self_of_not_mem hfirst,
    List.splitOn_eq_singleton hsecond]

theorem splitOn_dot_suffix {first second : List Char} (hfirst : '.' ∉ first)
    (hsecond : '.' ∉ second) (suffix : List Char) :
    ((first ++ '.' :: second) ++ '.' :: suffix).splitOn '.' =
      first :: second :: suffix.splitOn '.' := by
  rw [List.append_assoc, List.cons_append,
    List.splitOn_append_cons_self_of_not_mem hfirst,
    List.splitOn_append_cons_self_of_not_mem hsecond]

theorem splitOn_of_extends {first second value : List Char}
    (hfirst : '.' ∉ first) (hsecond : '.' ∉ second)
    (hextends : Extends value (first ++ '.' :: second)) :
    ∃ rest, value.splitOn '.' = first :: second :: rest := by
  rcases hextends with rfl | ⟨suffix, rfl⟩
  · exact ⟨[], splitOn_dot hfirst hsecond⟩
  · exact ⟨_, splitOn_dot_suffix hfirst hsecond suffix⟩

theorem extends_of_splitOn {first second value : List Char}
    {rest : List (List Char)}
    (hsplit : value.splitOn '.' = first :: second :: rest) :
    Extends value (first ++ '.' :: second) := by
  have hjoin : ['.'].intercalate (value.splitOn '.') = value :=
    List.intercalate_splitOn '.'
  rw [hsplit, List.intercalate_cons_cons] at hjoin
  cases rest with
  | nil =>
      left
      rw [← hjoin, List.intercalate_singleton, List.append_assoc]
      rfl
  | cons third rest =>
      right
      refine ⟨['.'].intercalate (third :: rest), ?_⟩
      rw [← hjoin, List.intercalate_cons_cons]
      simp

section Sealed

variable (env : BffEnv)

theorem dot_not_mem_sign (payload : List Char) : '.' ∉ sign env payload :=
  dot_not_mem_base64Url _

theorem dot_not_mem_sealPayload (value : Json) : '.' ∉ sealPayload value :=
  dot_not_mem_base64Url _

theorem base64Url_ne_nil {bytes : List UInt8} (hbytes : bytes ≠ []) :
    base64Url bytes ≠ [] := by
  intro hnil
  have hread := base64UrlToBuffer_base64Url bytes
  rw [hnil] at hread
  exact hbytes hread.symm

theorem sign_ne_nil (payload : List Char) : sign env payload ≠ [] := by
  apply base64Url_ne_nil
  intro hnil
  have hlength := env.digest_length (Utf8.encode payload)
  rw [hnil] at hlength
  cases hlength

theorem sealPayload_ne_nil (value : Json) : sealPayload value ≠ [] := by
  apply base64Url_ne_nil
  intro hnil
  have htext := Utf8.decode_encode value.render
  obtain ⟨c, cs, hrender, -⟩ := Json.render_cons value
  rw [hnil, hrender] at htext
  cases htext

theorem readPayload (value : Json) :
    parse (Utf8.decode (base64UrlToBuffer (sealPayload value))) =
      some value := by
  rw [sealPayload, base64UrlToBuffer_base64Url, Utf8.decode_encode,
    parse_render]

/-- A sealed value is opened, whatever follows it. -/
theorem unsealValue_of_extends {value : List Char} {json : Json}
    (hextends : Extends value (sealValue env json)) :
    unsealValue env (some value) = some json := by
  obtain ⟨rest, hsplit⟩ := splitOn_of_extends (dot_not_mem_sealPayload json)
    (dot_not_mem_sign env _) hextends
  have hparts : ¬ (sealPayload json = [] ∨
      sign env (sealPayload json) = []) := by
    rintro (hnil | hnil)
    · exact sealPayload_ne_nil json hnil
    · exact sign_ne_nil env _ hnil
  simp only [unsealValue, hsplit]
  rw [if_neg hparts, if_pos trivial, readPayload]

/-- What is opened carries the signature of its payload. -/
theorem extends_of_unsealValue {value : List Char} {json : Json}
    (hunseal : unsealValue env (some value) = some json) :
    ∃ payload rest, value.splitOn '.' = payload :: sign env payload :: rest ∧
      parse (Utf8.decode (base64UrlToBuffer payload)) = some json := by
  unfold unsealValue at hunseal
  dsimp only at hunseal
  split at hunseal
  case h_2 => cases hunseal
  case h_1 payload signature rest hsplit =>
    split at hunseal
    case isTrue => cases hunseal
    case isFalse =>
      split at hunseal
      case isFalse => cases hunseal
      case isTrue hsame =>
        have hsignature := Utf8.encode_injective hsame
        rw [hsignature] at hsplit
        exact ⟨payload, rest, hsplit, hunseal⟩

end Sealed

end BffSession

end IdProvider
